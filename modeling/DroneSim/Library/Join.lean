/-
  File:      DroneSim/Library/Join.lean
  Subject:   Joins of streams that put out one value after another, as each becomes ready.

  What a join has received decides which values are ready (`ready k`) and what the `k`-th value
  may be (`value k`). Its output is `Joined` when its values are ready and right ones, and it is
  done when the next value is not ready. Two joins of the same facts that are done have put out
  the same (`Joined.unique`); and outputs of fewer facts, in whatever order they came, are
  prefixes of one another (`Joined.comparable`), when more facts only make more values ready
  (`Joined.mono`).

  A `Paced` stream has the stamps `i`, `2i`, `3i` and so on.
-/
import DroneSim.Library.Streams
import Mathlib.Tactic.Ring

namespace DroneSim.Library

/-! ## 1. Outputs of a join -/

section Joins

variable {ο : Type} {ready ready' : ℕ → Prop} {value value' : ℕ → ο → Prop} {os ps : List ο}

/-- **The output so far**: as many values as were ready, each a right one. -/
structure Joined (ready : ℕ → Prop) (value : ℕ → ο → Prop) (os : List ο) : Prop where
  ready : ∀ k < os.length, ready k
  value : ∀ k o, os[k]? = some o → value k o

theorem Joined.start : Joined ready value [] := ⟨by simp, by simp⟩

/-- The next values come out. -/
theorem Joined.append (h : Joined ready value os) (hready : ∀ k < os.length + ps.length, ready k)
    (hvalue : ∀ k o, ps[k]? = some o → value (os.length + k) o) :
    Joined ready value (os ++ ps) where
  ready := by
    rw [List.length_append]
    exact hready
  value := by
    intro k o hk
    by_cases hlt : k < os.length
    · rw [List.getElem?_append_left hlt] at hk
      exact h.value k o hk
    · rw [List.getElem?_append_right (by omega)] at hk
      have ho := hvalue _ o hk
      rwa [Nat.add_sub_cancel' (by omega)] at ho

/-- **More facts** leave what was ready ready and what was right right. -/
theorem Joined.mono (h : Joined ready value os) (hready : ∀ k, ready k → ready' k)
    (hvalue : ∀ k o, k < os.length → value k o → value' k o) : Joined ready' value' os where
  ready := fun k hk => hready k (h.ready k hk)
  value := fun k o ho => hvalue k o (List.getElem?_eq_some_iff.mp ho).1 (h.value k o ho)

/-- **Two outputs of the same facts are prefixes of one another.** -/
theorem Joined.comparable (h : Joined ready value os) (h' : Joined ready value ps)
    (hle : os.length ≤ ps.length)
    (hfun : ∀ k o p, value k o → value k p → o = p) : os <+: ps := by
  rw [List.prefix_iff_getElem?]
  intro k hk
  have hlt : k < ps.length := Nat.lt_of_lt_of_le hk hle
  have hp : ps[k]? = some ps[k] := List.getElem?_eq_getElem hlt
  have ho : os[k]? = some os[k] := List.getElem?_eq_getElem hk
  rw [hp, hfun k _ _ (h.value k _ ho) (h'.value k _ hp)]

/-- **Two joins of the same facts that are done have put out the same.** -/
theorem Joined.unique (h : Joined ready value os) (h' : Joined ready value ps)
    (hdone : ¬ ready os.length) (hdone' : ¬ ready ps.length)
    (hfun : ∀ k o p, value k o → value k p → o = p) : os = ps := by
  have hlength : os.length = ps.length := by
    rcases Nat.lt_trichotomy os.length ps.length with hlt | heq | hlt
    · exact absurd (h'.ready _ hlt) hdone
    · exact heq
    · exact absurd (h.ready _ hlt) hdone'
  exact (h.comparable h' (Nat.le_of_eq hlength) hfun).eq_of_length hlength

end Joins

/-! ## 2. Paced streams -/

section Paced

variable {α : Type} {f : α → ℕ} {l : List α} {a b : α} {i t : ℕ}

/-- **The stamps are `i`, `2i`, `3i`, ...** -/
def Paced (f : α → ℕ) (i : ℕ) (l : List α) : Prop :=
  l.map f = (List.range l.length).map fun k => (k + 1) * i

theorem Paced.nil : Paced f i [] := rfl

theorem Paced.snoc (h : Paced f i l) (hb : f b = (l.length + 1) * i) : Paced f i (l ++ [b]) := by
  rw [Paced, List.map_append, h, List.length_append, List.length_singleton, List.range_succ,
    List.map_append, List.map_singleton, List.map_singleton, hb]

theorem Paced.stamp (h : Paced f i l) {k : ℕ} (ha : l[k]? = some a) : f a = (k + 1) * i := by
  have hk : k < l.length := (List.getElem?_eq_some_iff.mp ha).1
  have hmap := congrArg (fun l => l[k]?) h
  simp only [List.getElem?_map, ha, Option.map_some, List.getElem?_range hk] at hmap
  exact Option.some.inj hmap

/-- Every stamp up to the last one is there. -/
theorem Paced.exists_stamp (h : Paced f i l) {k : ℕ} (hk : k < l.length) :
    ∃ a ∈ l, f a = (k + 1) * i :=
  ⟨l[k], List.getElem_mem hk, h.stamp (List.getElem?_eq_getElem hk)⟩

/-- And nothing else is. -/
theorem Paced.exists_index (h : Paced f i l) (ha : a ∈ l) :
    ∃ k < l.length, f a = (k + 1) * i := by
  obtain ⟨k, hk, rfl⟩ := List.mem_iff_getElem.mp ha
  exact ⟨k, hk, h.stamp (List.getElem?_eq_getElem hk)⟩

theorem Paced.increasing (h : Paced f i l) (hi : 0 < i) : Increasing f l := by
  have hrange : ((List.range l.length).map fun k => (k + 1) * i).Pairwise (· < ·) := by
    rw [List.pairwise_map]
    refine List.pairwise_lt_range.imp fun hlt => ?_
    exact Nat.mul_lt_mul_of_pos_right (Nat.succ_lt_succ hlt) hi
  rw [← h, List.pairwise_map] at hrange
  exact hrange

/-- The last stamp counts the stream. -/
theorem Paced.received_eq (h : Paced f i l) (ht : received f l = some t) : t = l.length * i := by
  induction l using List.reverseRecOn with
  | nil => cases ht
  | append_singleton l b _ =>
    rw [received_snoc] at ht
    rw [← Option.some.inj ht, h.stamp (k := l.length) (List.getElem?_concat_length ..),
      List.length_append, List.length_singleton]

theorem received_eq_none : received f l = none ↔ l = [] := by
  rw [received, Option.map_eq_none_iff, List.getLast?_eq_none_iff]

/-- **The next stamp of a paced stream**: the first one is `i`, another one is `i` after the last. -/
theorem Paced.next (h : Paced f i l) (hfirst : received f l = none → f b = i)
    (hnext : ∀ t, received f l = some t → f b = t + i) : Paced f i (l ++ [b]) := by
  refine h.snoc ?_
  cases hr : received f l with
  | none => rw [hfirst hr, received_eq_none.mp hr, List.length_nil, Nat.zero_add, one_mul]
  | some t => rw [hnext t hr, h.received_eq hr, Nat.succ_mul]

end Paced

end DroneSim.Library
