/-
  File:      DroneSim/Library/PyValue.lean
  Subject:   Values of a dynamically typed program, and their equality.

  `PyValue` has what a decoded document can hold, and the tuples and mappings that program code
  puts in its place. `PyValue.Equal` is the `==` of the language: numbers compare by their value
  whatever their type, sequences of one type item by item, mappings entry by entry whatever their
  order. It is an equivalence (`refl`, `symm`, `trans`).

  `normal` turns every tuple into a list and every mapping into a dict, as writing a value and
  reading it back does; a value without tuples is unchanged by it up to `Equal` (`normal_equal`).
-/
import Mathlib.Data.List.Basic
import Mathlib.Data.List.Forall2
import Mathlib.Data.Rat.Defs

namespace DroneSim.Library

/-! ## 1. Values -/

/-- A key of a mapping: a string, or another value under a number of its own. -/
inductive PyKey where
  | str (s : String)
  | other (id : ℕ)
  deriving DecidableEq, Repr

/-- A value. `dict` marks the mappings whose type is `dict` itself; `nonfinite` is a float without
    a number, `other` any value of another kind (a set, an object), each with its identity. -/
inductive PyValue where
  | none
  | bool (b : Bool)
  | int (n : ℤ)
  | float (x : ℚ)
  | nonfinite (id : ℕ)
  | str (s : String)
  | list (items : List PyValue)
  | tuple (items : List PyValue)
  | mapping (dict : Bool) (items : List (PyKey × PyValue))
  | other (id : ℕ)

namespace PyValue

/-- The entry of a mapping under a key. -/
def entry (items : List (PyKey × PyValue)) (key : PyKey) : Option PyValue :=
  (items.find? fun p => p.1 = key).map Prod.snd

/-- The entry under a string. -/
def field (items : List (PyKey × PyValue)) (name : String) : Option PyValue :=
  entry items (.str name)

/-- The value of a number, whatever its type. -/
def number : PyValue → Option ℚ
  | .bool b => some (if b then 1 else 0)
  | .int n => some n
  | .float x => some x
  | _ => Option.none

@[simp] theorem entry_nil (key : PyKey) : entry [] key = Option.none := rfl

theorem entry_cons (k key : PyKey) (v : PyValue) (items : List (PyKey × PyValue)) :
    entry ((k, v) :: items) key = if k = key then some v else entry items key := by
  unfold entry
  by_cases h : k = key
  · simp [h]
  · simp [h]

variable {items : List (PyKey × PyValue)}

theorem mem_of_entry {key : PyKey} {v : PyValue} (h : entry items key = some v) :
    (key, v) ∈ items := by
  unfold entry at h
  obtain ⟨⟨k, w⟩, hfind, rfl⟩ := Option.map_eq_some_iff.mp h
  have hk : k = key := by simpa using List.find?_some hfind
  subst hk
  exact List.mem_of_find?_eq_some hfind

/-- In a mapping whose keys are distinct, every item is the entry under its key. -/
theorem entry_of_mem (hnodup : (items.map Prod.fst).Nodup) {key : PyKey} {v : PyValue}
    (h : (key, v) ∈ items) : entry items key = some v := by
  induction items with
  | nil => cases h
  | cons p items ih =>
    obtain ⟨k, w⟩ := p
    rw [List.map_cons, List.nodup_cons] at hnodup
    rw [entry_cons]
    rcases List.mem_cons.mp h with heq | hmem
    · cases heq
      exact if_pos rfl
    · have hne : k ≠ key := fun e => hnodup.1 (List.mem_map.mpr ⟨(key, v), hmem, e.symm⟩)
      rw [if_neg hne]
      exact ih hnodup.2 hmem

theorem entry_isSome {key : PyKey} :
    (entry items key).isSome = true ↔ key ∈ items.map Prod.fst := by
  induction items with
  | nil => simp
  | cons p items ih =>
    obtain ⟨k, v⟩ := p
    rw [entry_cons, List.map_cons, List.mem_cons]
    split
    · rename_i heq
      simp [heq]
    · rename_i hne
      rw [ih]
      simp [Ne.symm hne]

/-! ## 2. Equality -/

/-- **`==`.** -/
inductive Equal : PyValue → PyValue → Prop where
  | number {v w : PyValue} {x : ℚ} (hv : v.number = some x) (hw : w.number = some x) : Equal v w
  | none : Equal .none .none
  | nonfinite (id : ℕ) : Equal (.nonfinite id) (.nonfinite id)
  | str (s : String) : Equal (.str s) (.str s)
  | other (id : ℕ) : Equal (.other id) (.other id)
  | list {xs ys : List PyValue} (hlen : xs.length = ys.length)
      (h : ∀ (i : ℕ) x y, xs[i]? = some x → ys[i]? = some y → Equal x y) :
      Equal (.list xs) (.list ys)
  | tuple {xs ys : List PyValue} (hlen : xs.length = ys.length)
      (h : ∀ (i : ℕ) x y, xs[i]? = some x → ys[i]? = some y → Equal x y) :
      Equal (.tuple xs) (.tuple ys)
  | mapping {d e : Bool} {xs ys : List (PyKey × PyValue)}
      (hkeys : ∀ k, (entry xs k).isSome = (entry ys k).isSome)
      (h : ∀ k x y, entry xs k = some x → entry ys k = some y → Equal x y) :
      Equal (.mapping d xs) (.mapping e ys)

theorem sizeOf_lt_of_getElem {xs : List PyValue} {i : ℕ} {x : PyValue} (h : xs[i]? = some x) :
    sizeOf x < sizeOf xs := List.sizeOf_lt_of_mem (List.mem_of_getElem? h)

theorem sizeOf_lt_of_entry {key : PyKey} {v : PyValue} (h : entry items key = some v) :
    sizeOf v < sizeOf items := by
  have hlt := List.sizeOf_lt_of_mem (mem_of_entry h)
  rw [Prod.mk.sizeOf_spec] at hlt
  omega

theorem Equal.refl (v : PyValue) : Equal v v :=
  match v with
  | .none => .none
  | .bool _ => .number rfl rfl
  | .int _ => .number rfl rfl
  | .float _ => .number rfl rfl
  | .nonfinite id => .nonfinite id
  | .str s => .str s
  | .other id => .other id
  | .list xs => .list rfl fun i x y hx hy => by
      have hlt := sizeOf_lt_of_getElem hx
      obtain rfl := Option.some.inj (hx.symm.trans hy)
      exact Equal.refl x
  | .tuple xs => .tuple rfl fun i x y hx hy => by
      have hlt := sizeOf_lt_of_getElem hx
      obtain rfl := Option.some.inj (hx.symm.trans hy)
      exact Equal.refl x
  | .mapping d xs => .mapping (fun _ => rfl) fun k x y hx hy => by
      have hlt := sizeOf_lt_of_entry hx
      obtain rfl := Option.some.inj (hx.symm.trans hy)
      exact Equal.refl x
termination_by sizeOf v

theorem Equal.symm {v w : PyValue} (h : Equal v w) : Equal w v := by
  induction h with
  | number hv hw => exact .number hw hv
  | none => exact .none
  | nonfinite id => exact .nonfinite id
  | str s => exact .str s
  | other id => exact .other id
  | list hlen _ ih => exact .list hlen.symm fun i x y hx hy => ih i y x hy hx
  | tuple hlen _ ih => exact .tuple hlen.symm fun i x y hx hy => ih i y x hy hx
  | mapping hkeys _ ih =>
    exact .mapping (fun k => (hkeys k).symm) fun k x y hx hy => ih k y x hy hx

/-- Lists of equal items are equal. -/
theorem Equal.list_of_forall₂ {xs ys : List PyValue} (h : List.Forall₂ Equal xs ys) :
    Equal (.list xs) (.list ys) :=
  .list h.length_eq fun i x y hx hy => by
    obtain ⟨hi, rfl⟩ := List.getElem?_eq_some_iff.mp hx
    obtain ⟨hj, rfl⟩ := List.getElem?_eq_some_iff.mp hy
    exact h.get hi hj

/-- Two lists of one length have an item at the same places. -/
theorem getElem_of_length {xs ys : List PyValue} (h : xs.length = ys.length) {i : ℕ} {x : PyValue}
    (hx : xs[i]? = some x) : ∃ y, ys[i]? = some y := by
  obtain ⟨hi, -⟩ := List.getElem?_eq_some_iff.mp hx
  exact ⟨ys[i], List.getElem?_eq_getElem (by omega)⟩

theorem Equal.trans {u v w : PyValue} (h : Equal u v) (h' : Equal v w) : Equal u w := by
  induction h generalizing w with
  | number hu hv =>
    cases h' with
    | number hv' hw =>
      obtain rfl := Option.some.inj (hv.symm.trans hv')
      exact .number hu hw
    | _ => simp [PyValue.number] at hv
  | none =>
    cases h' with
    | number hv _ => simp [PyValue.number] at hv
    | none => exact .none
  | nonfinite id =>
    cases h' with
    | number hv _ => simp [PyValue.number] at hv
    | nonfinite id => exact .nonfinite id
  | str s =>
    cases h' with
    | number hv _ => simp [PyValue.number] at hv
    | str s => exact .str s
  | other id =>
    cases h' with
    | number hv _ => simp [PyValue.number] at hv
    | other id => exact .other id
  | list hlen _ ih =>
    cases h' with
    | number hv _ => simp [PyValue.number] at hv
    | list hlen' h' =>
      refine .list (hlen.trans hlen') fun i x z hx hz => ?_
      obtain ⟨y, hy⟩ := getElem_of_length hlen hx
      exact ih i x y hx hy (h' i y z hy hz)
  | tuple hlen _ ih =>
    cases h' with
    | number hv _ => simp [PyValue.number] at hv
    | tuple hlen' h' =>
      refine .tuple (hlen.trans hlen') fun i x z hx hz => ?_
      obtain ⟨y, hy⟩ := getElem_of_length hlen hx
      exact ih i x y hx hy (h' i y z hy hz)
  | mapping hkeys _ ih =>
    cases h' with
    | number hv _ => simp [PyValue.number] at hv
    | mapping hkeys' h' =>
      refine .mapping (fun k => (hkeys k).trans (hkeys' k)) fun k x z hx hz => ?_
      have hsome := hkeys k
      rw [hx, Option.isSome_some] at hsome
      obtain ⟨y, hy⟩ := Option.isSome_iff_exists.mp hsome.symm
      exact ih k x y hx hy (h' k y z hy hz)

/-! ## 3. Tuples as lists -/

mutual

/-- Every tuple as a list, every mapping as a dict. -/
def normal : PyValue → PyValue
  | .list xs => .list (normalItems xs)
  | .tuple xs => .list (normalItems xs)
  | .mapping _ xs => .mapping true (normalEntries xs)
  | .none => .none
  | .bool b => .bool b
  | .int n => .int n
  | .float x => .float x
  | .nonfinite id => .nonfinite id
  | .str s => .str s
  | .other id => .other id

def normalItems : List PyValue → List PyValue
  | [] => []
  | x :: xs => normal x :: normalItems xs

def normalEntries : List (PyKey × PyValue) → List (PyKey × PyValue)
  | [] => []
  | (k, x) :: xs => (k, normal x) :: normalEntries xs

end

mutual

/-- No tuple anywhere in the value: what a decoded document is. -/
def tupleFree : PyValue → Bool
  | .list xs => tupleFreeItems xs
  | .tuple _ => false
  | .mapping _ xs => tupleFreeEntries xs
  | _ => true

def tupleFreeItems : List PyValue → Bool
  | [] => true
  | x :: xs => tupleFree x && tupleFreeItems xs

def tupleFreeEntries : List (PyKey × PyValue) → Bool
  | [] => true
  | (_, x) :: xs => tupleFree x && tupleFreeEntries xs

end

theorem normalItems_eq_map (xs : List PyValue) : normalItems xs = xs.map normal := by
  induction xs with
  | nil => rfl
  | cons x xs ih => rw [normalItems, ih, List.map_cons]

theorem entry_normalEntries (xs : List (PyKey × PyValue)) (k : PyKey) :
    entry (normalEntries xs) k = (entry xs k).map normal := by
  induction xs with
  | nil => rfl
  | cons p xs ih =>
    obtain ⟨key, x⟩ := p
    rw [normalEntries, entry_cons, entry_cons, ih]
    split
    · rfl
    · rfl

theorem tupleFreeItems_getElem {xs : List PyValue} (h : tupleFreeItems xs = true) {i : ℕ}
    {x : PyValue} (hx : xs[i]? = some x) : x.tupleFree = true := by
  induction xs generalizing i with
  | nil => simp at hx
  | cons y xs ih =>
    rw [tupleFreeItems, Bool.and_eq_true] at h
    cases i with
    | zero =>
      rw [List.getElem?_cons_zero] at hx
      obtain rfl := Option.some.inj hx
      exact h.1
    | succ i => exact ih h.2 hx

theorem tupleFreeEntries_entry {xs : List (PyKey × PyValue)} (h : tupleFreeEntries xs = true)
    {k : PyKey} {x : PyValue} (hx : entry xs k = some x) : x.tupleFree = true := by
  induction xs with
  | nil => cases hx
  | cons p xs ih =>
    obtain ⟨key, y⟩ := p
    rw [tupleFreeEntries, Bool.and_eq_true] at h
    rw [entry_cons] at hx
    split at hx
    · obtain rfl := Option.some.inj hx
      exact h.1
    · exact ih h.2 hx

/-- **A value without tuples is read back as it was.** -/
theorem normal_equal (v : PyValue) (h : v.tupleFree = true) : Equal v.normal v :=
  match v with
  | .none => .none
  | .bool _ => .number rfl rfl
  | .int _ => .number rfl rfl
  | .float _ => .number rfl rfl
  | .nonfinite id => .nonfinite id
  | .str s => .str s
  | .other id => .other id
  | .list xs => by
      rw [normal, normalItems_eq_map]
      refine .list (List.length_map _) fun i x y hx hy => ?_
      have hlt := sizeOf_lt_of_getElem hy
      rw [List.getElem?_map, hy] at hx
      obtain rfl := Option.some.inj hx
      exact normal_equal y (tupleFreeItems_getElem h hy)
  | .tuple _ => by cases h
  | .mapping d xs => by
      rw [normal]
      refine .mapping (fun k => ?_) fun k x y hx hy => ?_
      · rw [entry_normalEntries, Option.isSome_map]
      · have hlt := sizeOf_lt_of_entry hy
        rw [entry_normalEntries, hy] at hx
        obtain rfl := Option.some.inj hx
        exact normal_equal y (tupleFreeEntries_entry h hy)
termination_by sizeOf v

/-- Equal values are read back equal. -/
theorem Equal.normal {v w : PyValue} (h : Equal v w) : Equal v.normal w.normal := by
  have hnumber : ∀ {v : PyValue} {x : ℚ}, v.number = some x → v.normal = v := by
    intro v x hv
    cases v with
    | bool _ => rfl
    | int _ => rfl
    | float _ => rfl
    | _ => cases hv
  have hitems : ∀ {xs ys : List PyValue}, xs.length = ys.length →
      (∀ (i : ℕ) x y, xs[i]? = some x → ys[i]? = some y → Equal x.normal y.normal) →
      Equal (.list (normalItems xs)) (.list (normalItems ys)) := by
    intro xs ys hlen ih
    rw [normalItems_eq_map, normalItems_eq_map]
    refine .list (by rw [List.length_map, List.length_map, hlen]) fun i x y hx hy => ?_
    rw [List.getElem?_map, Option.map_eq_some_iff] at hx hy
    obtain ⟨a, ha, rfl⟩ := hx
    obtain ⟨b, hb, rfl⟩ := hy
    exact ih i a b ha hb
  induction h with
  | number hv hw =>
    rw [hnumber hv, hnumber hw]
    exact .number hv hw
  | none => exact .none
  | nonfinite id => exact .nonfinite id
  | str s => exact .str s
  | other id => exact .other id
  | list hlen _ ih =>
    rw [PyValue.normal, PyValue.normal]
    exact hitems hlen ih
  | tuple hlen _ ih =>
    rw [PyValue.normal, PyValue.normal]
    exact hitems hlen ih
  | mapping hkeys _ ih =>
    rw [PyValue.normal, PyValue.normal]
    refine .mapping (fun k => ?_) fun k x y hx hy => ?_
    · rw [entry_normalEntries, entry_normalEntries, Option.isSome_map, Option.isSome_map, hkeys k]
    · rw [entry_normalEntries, Option.map_eq_some_iff] at hx hy
      obtain ⟨a, ha, rfl⟩ := hx
      obtain ⟨b, hb, rfl⟩ := hy
      exact ih k a b ha hb

end PyValue

end DroneSim.Library
