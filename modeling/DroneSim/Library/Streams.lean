/-
  File:      DroneSim/Library/Streams.lean
  Subject:   Streams of stamped elements, and dictionaries that hold the rest of one.

  A stream is a list whose stamps rise (`Increasing f`). `stamped f l t` is its element of stamp
  `t`, `received f l` the last stamp. An element that comes later than all before changes the
  answer of `stamped` at its own stamp only (`stamped_snoc`), so what was answered stays. A
  dictionary that answers like the rest of a stream has the head's stamp as its least key
  (`min_keys`). A dictionary `Keeps` of a stream the values whose stamps pass a test. A stream is its
  part before a stamp and its part from there on (`Increasing.parts`).
-/
import DroneSim.Library.Dict
import Mathlib.Data.List.Induction

namespace DroneSim.Library

variable {α : Type} {f : α → ℕ} {l l' : List α} {a b : α} {t : ℕ}

/-- The stamps of the list rise. -/
def Increasing (f : α → ℕ) (l : List α) : Prop := l.Pairwise fun a b => f a < f b

/-- The element of stamp `t`. -/
def stamped (f : α → ℕ) (l : List α) (t : ℕ) : Option α := l.find? fun a => f a = t

/-- The last stamp. -/
def received (f : α → ℕ) (l : List α) : Option ℕ := l.getLast?.map f

/-! ## 1. Rising stamps -/

theorem Increasing.le_received (h : Increasing f l) (ha : a ∈ l) :
    ∃ t, received f l = some t ∧ f a ≤ t := by
  induction l using List.reverseRecOn with
  | nil => exact absurd ha List.not_mem_nil
  | append_singleton l b _ =>
    refine ⟨f b, by simp [received], ?_⟩
    have hlt := (List.pairwise_append.mp h).2.2
    rcases List.mem_append.mp ha with ha | ha
    · exact Nat.le_of_lt (hlt a ha b (by simp))
    · exact Nat.le_of_eq (congrArg f (List.mem_singleton.mp ha))

/-- The last stamp is one of the list. -/
theorem mem_of_received (h : received f l = some t) : ∃ a ∈ l, f a = t := by
  obtain ⟨a, ha, e⟩ := Option.map_eq_some_iff.mp h
  exact ⟨a, List.mem_of_getLast? ha, e⟩

/-- What comes after the last stamp comes after every stamp. -/
theorem Increasing.lt_of_received (h : Increasing f l)
    (hb : ∀ t, received f l = some t → t < f b) : ∀ a ∈ l, f a < f b := by
  intro a ha
  obtain ⟨t, ht, hle⟩ := h.le_received ha
  have hlt := hb t ht
  omega

/-- A later element keeps the stamps rising. -/
theorem Increasing.snoc (h : Increasing f l) (hb : ∀ a ∈ l, f a < f b) :
    Increasing f (l ++ [b]) := by
  refine List.pairwise_append.mpr ⟨h, List.pairwise_singleton _ _, fun a ha x hx => ?_⟩
  rw [List.mem_singleton.mp hx]
  exact hb a ha

theorem Increasing.right (h : Increasing f (l ++ l')) : Increasing f l' :=
  (List.pairwise_append.mp h).2.1

theorem Increasing.across (h : Increasing f (l ++ l')) (ha : a ∈ l) (hb : b ∈ l') :
    f a < f b :=
  (List.pairwise_append.mp h).2.2 a ha b hb

/-- Elements of one stamp are one element. -/
theorem Increasing.eq_of_stamp (h : Increasing f l) (ha : a ∈ l) (hb : b ∈ l)
    (hab : f a = f b) : a = b := by
  obtain ⟨j, hj, rfl⟩ := List.mem_iff_getElem.mp ha
  obtain ⟨k, hk, rfl⟩ := List.mem_iff_getElem.mp hb
  have hlt := List.pairwise_iff_getElem.mp h
  rcases Nat.lt_trichotomy j k with hjk | rfl | hjk
  · have hf := hlt j k hj hk hjk
    omega
  · rfl
  · have hf := hlt k j hk hj hjk
    omega

/-! ## 2. The element of a stamp -/

theorem stamped_spec (h : stamped f l t = some a) : a ∈ l ∧ f a = t :=
  ⟨List.mem_of_find?_eq_some h, by simpa using List.find?_some h⟩

theorem stamped_eq_none : stamped f l t = none ↔ ∀ a ∈ l, f a ≠ t := by
  simp [stamped]

theorem stamped_append :
    stamped f (l ++ l') t = (stamped f l t).or (stamped f l' t) := List.find?_append

theorem stamped_cons : stamped f (a :: l) t = if f a = t then some a else stamped f l t := by
  unfold stamped
  by_cases h : f a = t
  · rw [List.find?_cons_of_pos (by simpa using h), if_pos h]
  · rw [List.find?_cons_of_neg (by simpa using h), if_neg h]

/-- **A later element answers at its own stamp**, and nowhere else. -/
theorem stamped_snoc (hb : ∀ a ∈ l, f a < f b) :
    stamped f (l ++ [b]) t = if t = f b then some b else stamped f l t := by
  rw [stamped_append, stamped_cons]
  by_cases ht : t = f b
  · have hnone : stamped f l t = none := by
      refine stamped_eq_none.mpr fun a ha e => ?_
      have hlt := hb a ha
      omega
    rw [hnone, if_pos ht.symm, if_pos ht]
    rfl
  · rw [if_neg fun e => ht e.symm, if_neg ht]
    exact Option.or_none

/-- What was answered stays. -/
theorem stamped_of_some (h : stamped f l t = some a) : stamped f (l ++ l') t = some a := by
  rw [stamped_append, h]
  rfl

theorem received_snoc : received f (l ++ [b]) = some (f b) := by
  simp [received]

/-! ## 3. Dictionaries that hold the rest of a stream -/

/-- **The least key is the stamp of the head.** -/
theorem min_keys {d : Dict ℕ α} (h : Increasing f l) (hd : ∀ t, d.get t = stamped f l t) :
    d.keys.min? = l.head?.map f := by
  have hmem : ∀ t, t ∈ d.keys ↔ ∃ a ∈ l, f a = t := by
    intro t
    rw [Dict.mem_keys, hd, stamped, List.find?_isSome]
    simp
  cases l with
  | nil =>
    have hnil : d.keys = [] := List.eq_nil_iff_forall_not_mem.mpr fun t ht => by
      obtain ⟨a, ha, _⟩ := (hmem t).mp ht
      exact List.not_mem_nil ha
    rw [hnil]
    rfl
  | cons a l =>
    refine List.min?_eq_some_iff.mpr ⟨(hmem _).mpr ⟨a, by simp, rfl⟩, fun t ht => ?_⟩
    obtain ⟨b, hb, rfl⟩ := (hmem t).mp ht
    rcases List.mem_cons.mp hb with rfl | hb
    · exact Nat.le_refl _
    · exact Nat.le_of_lt ((List.pairwise_cons.mp h).1 b hb)

/-- The head leaves the dictionary. -/
theorem get_erase_head {d : Dict ℕ α} (h : Increasing f (a :: l))
    (hd : ∀ t, d.get t = stamped f (a :: l) t) (t : ℕ) :
    (d.erase (f a)).get t = stamped f l t := by
  rw [Dict.get_erase, hd, stamped_cons]
  by_cases ht : t = f a
  · rw [if_pos ht]
    refine (stamped_eq_none.mpr fun b hb e => ?_).symm
    have hlt := (List.pairwise_cons.mp h).1 b hb
    omega
  · rw [if_neg ht, if_neg fun e => ht e.symm]

/-! ## 4. Dictionaries that keep a part of a stream -/

section Keeps

variable {β : Type} {d : Dict ℕ β} {l : List (ℕ × β)} {p q : ℕ → Bool} {b : ℕ × β} {t : ℕ}

/-- The dictionary has the values whose stamps pass the test. -/
def Keeps (d : Dict ℕ β) (l : List (ℕ × β)) (p : ℕ → Bool) : Prop :=
  ∀ t, d.get t = if p t then (stamped Prod.fst l t).map Prod.snd else none

theorem Keeps.empty : Keeps (.empty : Dict ℕ β) [] p := by
  intro t
  split
  · rfl
  · rfl

/-- A later value is kept. -/
theorem Keeps.set (h : Keeps d l p) (hafter : ∀ a ∈ l, a.1 < b.1) (hb : p b.1 = true) :
    Keeps (d.set b.1 b.2) (l ++ [b]) p := by
  intro t
  rw [Dict.get_set, stamped_snoc hafter]
  split
  · rename_i ht
    rw [ht, if_pos hb]
    rfl
  · exact h t

/-- Tests that agree on the stamps of the stream. -/
theorem Keeps.congr (h : Keeps d l p) (hpq : ∀ a ∈ l, p a.1 = q a.1) : Keeps d l q := by
  intro t
  rw [h t]
  cases hs : stamped Prod.fst l t with
  | none => simp
  | some a =>
    obtain ⟨ha, rfl⟩ := stamped_spec hs
    rw [hpq a ha]

theorem Keeps.erase (h : Keeps d l p) (t : ℕ) : Keeps (d.erase t) l fun u => p u && u != t := by
  intro u
  rw [Dict.get_erase]
  by_cases hu : u = t
  · simp [hu]
  · simp [hu, h u]

theorem Keeps.filterKeys (h : Keeps d l p) (q : ℕ → Bool) :
    Keeps (d.filterKeys q) l fun t => p t && q t := by
  intro t
  rw [Dict.get_filterKeys]
  cases hq : q t with
  | true => simp [h t, hq]
  | false => simp [hq]

theorem Keeps.get_eq_some (h : Keeps d l p) (hl : Increasing Prod.fst l) {v : β} :
    d.get t = some v ↔ p t = true ∧ (t, v) ∈ l := by
  rw [h t]
  constructor
  · intro hv
    split at hv
    · rename_i hp
      obtain ⟨a, ha, rfl⟩ := Option.map_eq_some_iff.mp hv
      obtain ⟨hmem, rfl⟩ := stamped_spec ha
      exact ⟨hp, hmem⟩
    · cases hv
  · rintro ⟨hp, hmem⟩
    rw [if_pos hp]
    cases hs : stamped Prod.fst l t with
    | none => exact absurd rfl (stamped_eq_none.mp hs _ hmem)
    | some a =>
      obtain ⟨ha, heq⟩ := stamped_spec hs
      rw [hl.eq_of_stamp ha hmem heq]
      rfl

theorem Keeps.mem_keys (h : Keeps d l p) (hl : Increasing Prod.fst l) :
    t ∈ d.keys ↔ p t = true ∧ ∃ v, (t, v) ∈ l := by
  rw [Dict.mem_keys, Option.isSome_iff_exists]
  simp only [h.get_eq_some hl]
  constructor
  · rintro ⟨v, hp, hv⟩
    exact ⟨hp, v, hv⟩
  · rintro ⟨hp, v, hv⟩
    exact ⟨v, hp, hv⟩

end Keeps

/-! ## 5. Parts of a stream -/

section Parts

variable {p q : α → Bool}

/-- A filter that demands more makes another one before it idle. -/
theorem filter_trim (hpq : ∀ a, p a = true → q a = true) : (l.filter q).filter p = l.filter p := by
  rw [List.filter_filter]
  refine List.filter_congr fun a _ => ?_
  cases hp : p a with
  | false => rw [Bool.false_and]
  | true => rw [hpq a hp, Bool.and_self]

theorem find?_trim (hpq : ∀ a, p a = true → q a = true) : (l.filter q).find? p = l.find? p := by
  rw [List.find?_filter]
  congr 1
  funext a
  cases hp : p a with
  | false => simp
  | true => simp [hpq a hp]

theorem all_trim (hpq : ∀ a, p a = false → q a = true) : (l.filter q).all p = l.all p := by
  rw [Bool.eq_iff_iff, List.all_eq_true, List.all_eq_true]
  constructor
  · intro h a ha
    by_contra hp
    rw [Bool.not_eq_true] at hp
    have hq := h a (List.mem_filter.mpr ⟨ha, hpq a hp⟩)
    rw [hp] at hq
    cases hq
  · exact fun h a ha => h a (List.mem_filter.mp ha).1

/-- A rising stream is its older part and its later part. -/
theorem Increasing.parts (hl : Increasing f l) (s : ℕ) :
    l = (l.filter fun a => f a < s) ++ l.filter fun a => s ≤ f a := by
  induction l with
  | nil => rfl
  | cons a l ih =>
    obtain ⟨ha, htail⟩ := List.pairwise_cons.mp hl
    by_cases hlt : f a < s
    · rw [List.filter_cons_of_pos (by simpa using hlt),
        List.filter_cons_of_neg (by simpa using hlt), List.cons_append, ← ih htail]
    · have hle : s ≤ f a := Nat.not_lt.mp hlt
      have hlate : ∀ b ∈ l, s ≤ f b := fun b hb => Nat.le_trans hle (Nat.le_of_lt (ha b hb))
      rw [List.filter_cons_of_neg (by simpa using hlt),
        List.filter_cons_of_pos (by simpa using hle),
        List.filter_eq_nil_iff.mpr fun b hb => by simpa using hlate b hb,
        List.filter_eq_self.mpr fun b hb => by simpa using hlate b hb, List.nil_append]

end Parts

end DroneSim.Library
