/-
  File:      DroneSim/Library/StableSort.lean
  Subject:   A sorted list taken apart by a key and sorted again.

  Records of several streams are often kept stream by stream and merged by a stable sort when
  they are read. `insertionSort_streams` says when the merge gives back the list the streams were
  taken from: it was in order, and two entries the order does not tell apart come from the same
  stream. `takeWhile_append_cases` and `dropWhile_spec` cut a list in order at a bound.
-/
import Mathlib.Data.List.Sort
import Mathlib.Data.List.TakeWhile

namespace DroneSim.Library

variable {α κ : Type}

section Streams

variable {r : α → α → Prop} [DecidableRel r]

/-- **An entry in front of all others is put in front**, past those it precedes strictly. -/
theorem insertionSort_least {a : α} {xs ys : List α} (hxs : ∀ x ∈ xs, r a x ∧ ¬ r x a)
    (hys : ∀ y ∈ ys, r a y) :
    (xs ++ a :: ys).insertionSort r = a :: (xs ++ ys).insertionSort r := by
  induction xs with
  | nil => exact List.insertionSort_cons_of_forall_rel r hys
  | cons x xs ih =>
    have hx := (hxs x List.mem_cons_self).2
    rw [List.cons_append, List.insertionSort_cons, ih fun x' hx' => hxs x' (List.mem_cons_of_mem x hx'),
      List.orderedInsert_of_not_le r _ hx]
    rfl

variable [DecidableEq κ]

/-- The entries of the streams `ks`, one stream after another. -/
def streams (key : α → κ) (ks : List κ) (l : List α) : List α :=
  ks.flatMap fun k => l.filter fun x => key x = k

theorem mem_streams {key : α → κ} {ks : List κ} {l : List α} {x : α} (h : x ∈ streams key ks l) :
    x ∈ l ∧ key x ∈ ks := by
  obtain ⟨k, hk, hx⟩ := List.mem_flatMap.mp h
  obtain ⟨hx, he⟩ := List.mem_filter.mp hx
  exact ⟨hx, of_decide_eq_true he ▸ hk⟩

/-- An entry stands in front of its own stream; the other streams are those of the rest. -/
theorem streams_cons {key : α → κ} {ks₁ ks₂ : List κ} {a : α} (l : List α) (h₁ : key a ∉ ks₁)
    (h₂ : key a ∉ ks₂) :
    streams key (ks₁ ++ key a :: ks₂) (a :: l) =
      streams key ks₁ l ++ a :: streams key (key a :: ks₂) l := by
  have hother : ∀ ks : List κ, key a ∉ ks → streams key ks (a :: l) = streams key ks l := by
    intro ks hks
    refine List.flatMap_congr fun k hk => List.filter_cons_of_neg ?_
    rw [decide_eq_true_eq]
    rintro rfl
    exact hks hk
  have e₁ := hother ks₁ h₁
  have e₂ := hother ks₂ h₂
  unfold streams at *
  rw [List.flatMap_append, List.flatMap_cons, e₁, e₂,
    List.filter_cons_of_pos (by rw [decide_eq_true_eq]), List.flatMap_cons]
  rfl

/-- **Sorting the streams of a list in order gives back the list.** -/
theorem insertionSort_streams {key : α → κ} {ks : List κ} (hks : ks.Nodup)
    (hkey : ∀ x y, r x y → r y x → key x = key y) :
    ∀ {l : List α}, l.Pairwise r → (∀ x ∈ l, key x ∈ ks) →
      (streams key ks l).insertionSort r = l
  | [], _, _ => by
    have hnil : streams key ks [] = [] := List.flatMap_eq_nil_iff.mpr fun _ _ => rfl
    rw [hnil]
    rfl
  | a :: l, hl, hin => by
    obtain ⟨ha, hl⟩ := List.pairwise_cons.mp hl
    obtain ⟨ks₁, ks₂, rfl⟩ := List.append_of_mem (hin a List.mem_cons_self)
    obtain ⟨_, hks₂, hdisjoint⟩ := List.nodup_append.mp hks
    have h₁ : key a ∉ ks₁ := fun h => hdisjoint _ h _ List.mem_cons_self rfl
    have h₂ : key a ∉ ks₂ := (List.nodup_cons.mp hks₂).1
    rw [streams_cons l h₁ h₂, insertionSort_least]
    · have happend : streams key ks₁ l ++ streams key (key a :: ks₂) l =
          streams key (ks₁ ++ key a :: ks₂) l := List.flatMap_append.symm
      rw [happend, insertionSort_streams hks hkey hl fun x hx => hin x (List.mem_cons_of_mem a hx)]
    · intro x hx
      obtain ⟨hx, hk⟩ := mem_streams hx
      refine ⟨ha x hx, fun h => h₁ ?_⟩
      rw [hkey a x (ha x hx) h]
      exact hk
    · exact fun y hy => ha y (mem_streams hy).1

end Streams

/-! ## Cuts of a list in order -/

/-- What is taken of two lists ends in the second one, or is taken of the first. -/
theorem takeWhile_append_cases (p : α → Bool) (xs ys : List α) :
    (∀ x ∈ xs, p x = true) ∧ (xs ++ ys).takeWhile p = xs ++ ys.takeWhile p ∨
      (xs ++ ys).takeWhile p = xs.takeWhile p := by
  by_cases h : ∀ x ∈ xs, p x = true
  · exact Or.inl ⟨h, List.takeWhile_append_of_pos h⟩
  · refine Or.inr ?_
    rw [List.takeWhile_append, if_neg]
    intro hlength
    exact h (List.takeWhile_eq_self_iff.mp ((List.takeWhile_prefix p).eq_of_length hlength))

/-- **Past the cut no entry passes the test**, where an entry that passes it has only such ones
    in front. -/
theorem dropWhile_spec {r : α → α → Prop} {p : α → Bool} (hp : ∀ x y, r x y → p y = true → p x = true) :
    ∀ {l : List α}, l.Pairwise r → ∀ x ∈ l.dropWhile p, p x = false
  | [], _, x, hx => absurd hx List.not_mem_nil
  | a :: l, hl, x, hx => by
    obtain ⟨ha, hl⟩ := List.pairwise_cons.mp hl
    rw [List.dropWhile_cons] at hx
    split at hx
    · exact dropWhile_spec hp hl x hx
    · rename_i hpa
      rcases List.mem_cons.mp hx with rfl | hx
      · exact Bool.not_eq_true _ ▸ hpa
      · rw [Bool.eq_false_iff]
        exact fun h => hpa (hp a x (ha x hx) h)

end DroneSim.Library
