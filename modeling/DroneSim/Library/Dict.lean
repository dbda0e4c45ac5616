/-
  File:      DroneSim/Library/Dict.lean
  Subject:   Dictionaries that remember the order of insertion.

  A `Dict κ α` is a list of key/value pairs with no key twice (the field `nodup`), so a lookup
  has one answer. `set` overwrites in place or appends, `erase` drops the pair, `keys` lists the
  keys in the order they first came in. The lookup laws are stated on `get`; what a program
  reads of a dictionary besides its lookups is `keys` and `items`, and `mem_items` and
  `mem_keys` bring both back to `get`.
-/
import DroneSim.Library.Fallible
import Mathlib.Data.List.Induction
import Mathlib.Data.List.Nodup
import Mathlib.Data.List.Perm.Basic

namespace DroneSim.Library

/-- A finite map that keeps the order in which its keys came in. -/
structure Dict (κ α : Type) where
  items : List (κ × α)
  nodup : (items.map Prod.fst).Nodup

namespace Dict

variable {κ α : Type} [DecidableEq κ] {d : Dict κ α}

/-! ## 1. Operations -/

def empty : Dict κ α := ⟨[], List.nodup_nil⟩

/-- The value under `k`. -/
def get (d : Dict κ α) (k : κ) : Option α := (d.items.find? fun p => p.1 = k).map Prod.snd

/-- The keys, oldest first. -/
def keys (d : Dict κ α) : List κ := d.items.map Prod.fst

/-- Overwrites every pair under `k`. -/
def overwrite (k : κ) (v : α) (l : List (κ × α)) : List (κ × α) :=
  l.map fun p => if p.1 = k then (k, v) else p

theorem map_fst_overwrite (k : κ) (v : α) (l : List (κ × α)) :
    (overwrite k v l).map Prod.fst = l.map Prod.fst := by
  rw [overwrite, List.map_map]
  refine List.map_congr_left fun p _ => ?_
  by_cases h : p.1 = k
  · simp [h]
  · simp [h]

/-- `d[k] = v`: in place where `k` is present, at the end otherwise. -/
def set (d : Dict κ α) (k : κ) (v : α) : Dict κ α :=
  if h : k ∈ d.items.map Prod.fst then
    ⟨overwrite k v d.items, by rw [map_fst_overwrite]; exact d.nodup⟩
  else
    ⟨d.items ++ [(k, v)], by
      rw [List.map_append, List.map_singleton, List.nodup_append]
      refine ⟨d.nodup, List.nodup_singleton _, fun a ha b hb e => ?_⟩
      rw [List.mem_singleton] at hb
      rw [e, hb] at ha
      exact h ha⟩

/-- `d.pop(k, None)`, the value aside. -/
def erase (d : Dict κ α) (k : κ) : Dict κ α :=
  ⟨d.items.filter fun p => p.1 ≠ k,
    (List.filter_sublist.map Prod.fst).nodup d.nodup⟩

/-- Deletes every key that fails the test. -/
def filterKeys (d : Dict κ α) (p : κ → Bool) : Dict κ α :=
  ⟨d.items.filter fun q => p q.1, (List.filter_sublist.map Prod.fst).nodup d.nodup⟩

/-- `d.setdefault(k, v)`, the value aside. -/
def setdefault (d : Dict κ α) (k : κ) (v : α) : Dict κ α :=
  if (d.get k).isSome then d else d.set k v

/-- A dictionary literal: of equal keys the last value stays. -/
def ofList (l : List (κ × α)) : Dict κ α := l.foldl (fun d p => d.set p.1 p.2) empty

/-! ## 2. Lookups -/

@[simp] theorem get_empty (k : κ) : (empty : Dict κ α).get k = none := rfl

/-- **A pair is in the dictionary iff the lookup of its key answers with its value.** -/
theorem mem_items {k : κ} {v : α} : (k, v) ∈ d.items ↔ d.get k = some v := by
  obtain ⟨l, hl⟩ := d
  simp only [get]
  induction l with
  | nil => simp
  | cons p l ih =>
    obtain ⟨q, w⟩ := p
    rw [List.map_cons, List.nodup_cons] at hl
    by_cases hq : q = k
    · subst hq
      have hfind : ((q, w) :: l).find? (fun p => p.1 = q) = some (q, w) := by simp
      rw [hfind, List.mem_cons]
      constructor
      · rintro (h | h)
        · cases h; rfl
        · exact absurd (List.mem_map_of_mem (f := Prod.fst) h) hl.1
      · intro h
        left
        simpa using h.symm
    · have hne : (k, v) ≠ (q, w) := fun e => hq (congrArg Prod.fst e).symm
      rw [List.find?_cons_of_neg (by simpa using hq), List.mem_cons, or_iff_right hne]
      exact ih hl.2

/-- A key is present iff its lookup answers. -/
theorem mem_keys {k : κ} : k ∈ d.keys ↔ (d.get k).isSome := by
  rw [keys, List.mem_map, Option.isSome_iff_exists]
  constructor
  · rintro ⟨⟨q, v⟩, hp, rfl⟩
    exact ⟨v, mem_items.mp hp⟩
  · rintro ⟨v, hv⟩
    exact ⟨(k, v), mem_items.mpr hv, rfl⟩

/-- A dictionary's lookups are determined by which pairs it holds. -/
theorem get_eq_of_mem_iff {o : Option α} {k : κ} (h : ∀ v, (k, v) ∈ d.items ↔ o = some v) :
    d.get k = o := by
  cases o with
  | none =>
    cases hd : d.get k with
    | none => rfl
    | some v => exact absurd ((h v).mp (mem_items.mpr hd)) (by simp)
  | some v => exact mem_items.mp ((h v).mpr rfl)

theorem mem_items_set {k q : κ} {v w : α} :
    (q, w) ∈ (d.set k v).items ↔ (q = k ∧ w = v) ∨ (q ≠ k ∧ (q, w) ∈ d.items) := by
  unfold set
  split
  · rename_i hk
    simp only [overwrite, List.mem_map]
    constructor
    · rintro ⟨⟨a, b⟩, hab, e⟩
      by_cases ha : a = k
      · rw [if_pos ha] at e
        left
        cases e
        exact ⟨rfl, rfl⟩
      · rw [if_neg ha] at e
        right
        cases e
        exact ⟨ha, hab⟩
    · rintro (⟨rfl, rfl⟩ | ⟨hne, hmem⟩)
      · obtain ⟨⟨a, b⟩, hab, rfl⟩ := List.mem_map.mp hk
        exact ⟨(a, b), hab, if_pos rfl⟩
      · exact ⟨(q, w), hmem, if_neg hne⟩
  · rename_i hk
    simp only [List.mem_append, List.mem_singleton, Prod.mk.injEq]
    constructor
    · rintro (h | h)
      · right
        exact ⟨fun e => hk (e ▸ List.mem_map_of_mem (f := Prod.fst) h), h⟩
      · exact Or.inl h
    · rintro (h | h)
      · exact Or.inr h
      · exact Or.inl h.2

/-- **The lookup law of assignment.** -/
theorem get_set (d : Dict κ α) (k q : κ) (v : α) :
    (d.set k v).get q = if q = k then some v else d.get q := by
  refine get_eq_of_mem_iff fun w => ?_
  rw [mem_items_set]
  by_cases h : q = k
  · simp [h, eq_comm]
  · simp [h, mem_items]

@[simp] theorem get_set_self (d : Dict κ α) (k : κ) (v : α) : (d.set k v).get k = some v := by
  rw [get_set, if_pos rfl]

theorem get_set_of_ne (d : Dict κ α) {k q : κ} (v : α) (h : q ≠ k) :
    (d.set k v).get q = d.get q := by
  rw [get_set, if_neg h]

/-- **The lookup law of deletion.** -/
theorem get_erase (d : Dict κ α) (k q : κ) :
    (d.erase k).get q = if q = k then none else d.get q := by
  refine get_eq_of_mem_iff fun w => ?_
  rw [erase, List.mem_filter]
  by_cases h : q = k
  · simp [h]
  · simp [h, mem_items]

@[simp] theorem get_erase_self (d : Dict κ α) (k : κ) : (d.erase k).get k = none := by
  rw [get_erase, if_pos rfl]

theorem get_erase_of_ne (d : Dict κ α) {k q : κ} (h : q ≠ k) :
    (d.erase k).get q = d.get q := by
  rw [get_erase, if_neg h]

/-- What is assigned under a key is deleted with it. -/
theorem erase_set (d : Dict κ α) (k : κ) (v : α) : (d.set k v).erase k = d.erase k := by
  have hitems : ((d.set k v).items.filter fun p => p.1 ≠ k) = d.items.filter fun p => p.1 ≠ k := by
    unfold set
    split
    · simp only [overwrite, List.filter_map]
      have hcomp : ((fun p : κ × α => decide (p.1 ≠ k)) ∘ fun p => if p.1 = k then (k, v) else p) =
          fun p => decide (p.1 ≠ k) := by
        funext p
        by_cases h : p.1 = k
        · simp [h]
        · simp [h]
      rw [hcomp]
      refine (List.map_congr_left fun p hp => ?_).trans (List.map_id _)
      have hne : p.1 ≠ k := by simpa using (List.mem_filter.mp hp).2
      rw [if_neg hne]
      rfl
    · simp
  simp only [erase, hitems]

/-- Nothing is deleted under an absent key. -/
theorem erase_eq_self {k : κ} (h : d.get k = none) : d.erase k = d := by
  have hitems : (d.items.filter fun p => p.1 ≠ k) = d.items := by
    refine List.filter_eq_self.mpr fun p hp => ?_
    have hne : p.1 ≠ k := fun e => by
      rw [mem_items.mp (show (k, p.2) ∈ d.items from e ▸ hp)] at h
      cases h
    simpa using hne
  obtain ⟨items, nodup⟩ := d
  simp only [erase, hitems]

/-- **The lookup law of a filter.** -/
theorem get_filterKeys (d : Dict κ α) (p : κ → Bool) (k : κ) :
    (d.filterKeys p).get k = if p k then d.get k else none := by
  refine get_eq_of_mem_iff fun v => ?_
  rw [filterKeys, List.mem_filter, mem_items]
  by_cases h : p k = true
  · simp [h]
  · simp [h]

theorem get_filterKeys_some {p : κ → Bool} {k : κ} {v : α} (h : (d.filterKeys p).get k = some v) :
    p k = true ∧ d.get k = some v := by
  rw [get_filterKeys] at h
  split at h
  · rename_i hp
    exact ⟨hp, h⟩
  · cases h

/-- **The lookup law of `setdefault`**: the value that was there stays. -/
theorem get_setdefault (d : Dict κ α) (k q : κ) (v : α) :
    (d.setdefault k v).get q = if q = k then some ((d.get k).getD v) else d.get q := by
  unfold setdefault
  by_cases hq : q = k
  · subst hq
    cases hd : d.get q with
    | none => simp
    | some w => simp [hd]
  · rw [if_neg hq]
    split
    · rfl
    · rw [get_set_of_ne d v hq]

end Dict

end DroneSim.Library
