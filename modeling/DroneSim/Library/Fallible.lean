/-
  File:      DroneSim/Library/Fallible.lean
  Subject:   Computations that may fail, taken apart.

  A successful `>>=` or `map` names its intermediate result (`bind_ok`, `map_ok`), a successful
  `mapM` the result of each item (`mapM_ok`). A successful `foldlM` is a run of its step function: it comes apart at the end of the list (`foldlM_snoc`)
  and anywhere in it (`foldlM_append`), and `foldlM_keeps` is its invariant rule. A guard that
  compares an optional value and was passed leaves a bound (`lt_of_any_false`).
-/
import Mathlib.Data.List.Basic
import Mathlib.Data.List.Forall2

namespace DroneSim.Library

variable {ε α β σ ι : Type} {f : α → Except ε β} {x : Except ε α}

theorem bind_ok {b : β} (h : (x >>= f) = .ok b) : ∃ a, x = .ok a ∧ f a = .ok b := by
  cases x with
  | error e => cases h
  | ok a => exact ⟨a, rfl, h⟩

theorem map_ok {f : α → β} {b : β} (h : x.map f = .ok b) : ∃ a, x = .ok a ∧ f a = b := by
  cases x with
  | error e => cases h
  | ok a => exact ⟨a, rfl, Except.ok.inj h⟩

theorem ok_bind (a : α) (f : α → Except ε β) : (Except.ok a >>= f) = f a := rfl

/-- A check in front of a computation. -/
theorem seq_ok {x : Except ε Unit} {y : Except ε β} {b : β} :
    (x >>= fun _ => y) = .ok b ↔ x = .ok () ∧ y = .ok b := by
  cases x with
  | error e => exact ⟨fun h => (by cases h), fun h => (by cases h.1)⟩
  | ok a => exact ⟨fun h => ⟨rfl, h⟩, fun h => h.2⟩

theorem isOk_of_eq {a : α} (h : x = .ok a) : x.isOk = true := by
  rw [h]
  rfl

theorem exists_of_isOk (h : x.isOk = true) : ∃ a, x = .ok a := by
  cases x with
  | error e => cases h
  | ok a => exact ⟨a, rfl⟩

/-- **`mapM` succeeds item by item.** -/
theorem mapM_ok {as : List α} {bs : List β} :
    as.mapM f = .ok bs ↔ List.Forall₂ (fun a b => f a = .ok b) as bs := by
  induction as generalizing bs with
  | nil =>
    rw [List.mapM_nil, List.forall₂_nil_left_iff]
    exact ⟨fun h => (Except.ok.inj h).symm, fun h => by rw [h]; rfl⟩
  | cons a as ih =>
    rw [List.mapM_cons, List.forall₂_cons_left_iff]
    constructor
    · intro h
      obtain ⟨b, hb, h⟩ := bind_ok h
      obtain ⟨rest, hrest, h⟩ := bind_ok h
      exact ⟨b, rest, hb, ih.mp hrest, (Except.ok.inj h).symm⟩
    · rintro ⟨b, rest, hb, hrest, rfl⟩
      rw [hb, ih.mpr hrest]
      rfl

/-- What a successful `mapM` returns it returned for some item. -/
theorem mem_mapM {as : List α} {bs : List β} (h : as.mapM f = .ok bs) {b : β} (hb : b ∈ bs) :
    ∃ a ∈ as, f a = .ok b := by
  rw [mapM_ok] at h
  induction h with
  | nil => cases hb
  | cons hhead _ ih =>
    rcases List.mem_cons.mp hb with rfl | hb
    · exact ⟨_, List.mem_cons_self, hhead⟩
    · obtain ⟨a, ha, hab⟩ := ih hb
      exact ⟨a, List.mem_cons_of_mem _ ha, hab⟩

/-- **When `mapM` succeeds.** -/
theorem mapM_returns {as : List α} : (∃ bs, as.mapM f = .ok bs) ↔ ∀ a ∈ as, ∃ b, f a = .ok b := by
  simp only [mapM_ok]
  induction as with
  | nil => simp
  | cons a as ih =>
    rw [List.forall_mem_cons, ← ih]
    constructor
    · rintro ⟨bs, hbs⟩
      obtain ⟨b, rest, hb, hrest, rfl⟩ := List.forall₂_cons_left_iff.mp hbs
      exact ⟨⟨b, hb⟩, rest, hrest⟩
    · rintro ⟨⟨b, hb⟩, rest, hrest⟩
      exact ⟨b :: rest, .cons hb hrest⟩

/-- **A fold over a longer list passes through the fold over its first part.** -/
theorem foldlM_append {f : σ → ι → Except ε σ} {is js : List ι} {s u : σ} :
    (is ++ js).foldlM f s = .ok u ↔ ∃ t, is.foldlM f s = .ok t ∧ js.foldlM f t = .ok u := by
  rw [List.foldlM_append]
  constructor
  · intro h
    exact bind_ok h
  · intro ⟨t, ht, hu⟩
    rw [ht]
    exact hu

theorem foldlM_snoc {f : σ → ι → Except ε σ} {is : List ι} {i : ι} {s u : σ} :
    (is ++ [i]).foldlM f s = .ok u ↔ ∃ t, is.foldlM f s = .ok t ∧ f t i = .ok u := by
  rw [foldlM_append]
  simp only [List.foldlM_cons, List.foldlM_nil]
  constructor
  · intro ⟨t, ht, hu⟩
    obtain ⟨v, hv, e⟩ := bind_ok hu
    cases e
    exact ⟨t, ht, hv⟩
  · intro ⟨t, ht, hu⟩
    exact ⟨t, ht, by rw [hu]; rfl⟩

/-- **The invariant rule of a fold.** -/
theorem foldlM_keeps {f : σ → ι → Except ε σ} {P : σ → Prop} {is : List ι} {s t : σ}
    (h : is.foldlM f s = .ok t) (h0 : P s)
    (hstep : ∀ s i t, i ∈ is → P s → f s i = .ok t → P t) : P t := by
  induction is generalizing s with
  | nil =>
    cases h
    exact h0
  | cons i is ih =>
    rw [List.foldlM_cons] at h
    obtain ⟨u, hu, h⟩ := bind_ok h
    exact ih h (hstep s i u (by simp) h0 hu) fun s i t hi => hstep s i t (by simp [hi])

/-- A test that a computed result passes. -/
theorem exists_ok {p : α → Bool} (h : (match x with | .ok a => p a | .error _ => false) = true) :
    ∃ a, x = .ok a ∧ p a = true := by
  cases x with
  | error e => cases h
  | ok a => exact ⟨a, rfl, h⟩

/-- Where the test `n ≤ f a` fails on an optional value, the value lies below `n`. -/
theorem lt_of_any_false {o : Option α} {f : α → ℕ} {n : ℕ}
    (h : ¬ (o.any fun a => decide (n ≤ f a)) = true) : ∀ a, o = some a → f a < n := by
  intro a ha
  rw [ha] at h
  simpa using h

end DroneSim.Library
