/-
  File:      DroneSim/Library/History.lean
  Subject:   What a history of notes says at its end.

  * `latest f log` -- what `f` reads of the last note that it reads at all;
  * `since p log` -- the notes after the last one that `p` holds of;
  * `snoc_split` -- where a note can stand in a history with one note more; `split_at` -- a history
    apart at a place.
-/
import Mathlib.Data.List.Induction

namespace DroneSim.Library

variable {ο α : Type} {f : ο → Option α} {p : ο → Bool} {log new : List ο} {n : ο}

/-! ## 1. The last of a kind -/

/-- What `f` reads of the last note that it reads. -/
def latest (f : ο → Option α) (log : List ο) : Option α := (log.filterMap f).getLast?

/-- **A new note is the last one, if it is read.** -/
@[simp] theorem latest_snoc : latest f (log ++ [n]) = (f n).or (latest f log) := by
  unfold latest
  cases h : f n with
  | none => simp [h]
  | some a => simp [h]

/-- **Where the last one stands.** -/
theorem latest_some {a : α} (h : latest f log = some a) :
    ∃ before n after, log = before ++ n :: after ∧ f n = some a ∧ ∀ m ∈ after, f m = none := by
  induction log using List.reverseRecOn with
  | nil => cases h
  | append_singleton log m ih =>
    rw [latest_snoc] at h
    cases hm : f m with
    | some b =>
      rw [hm, Option.some_or] at h
      exact ⟨log, m, [], rfl, hm.trans h, fun _ hmem => by cases hmem⟩
    | none =>
      rw [hm, Option.none_or] at h
      obtain ⟨before, n, after, rfl, hn, hafter⟩ := ih h
      refine ⟨before, n, after ++ [m], by simp, hn, fun m' hm' => ?_⟩
      rcases List.mem_append.mp hm' with hmem | hmem
      · exact hafter m' hmem
      · rw [List.mem_singleton.mp hmem]
        exact hm

theorem latest_mem {a : α} (h : latest f log = some a) : ∃ n ∈ log, f n = some a := by
  obtain ⟨before, n, after, rfl, hn, -⟩ := latest_some h
  exact ⟨n, List.mem_append_right _ List.mem_cons_self, hn⟩

/-! ## 2. Since the last of a kind -/

/-- The notes after the last one that `p` holds of. -/
def since (p : ο → Bool) (log : List ο) : List ο := (log.reverse.takeWhile fun n => !p n).reverse

/-- **A new note begins the stretch again, or it is part of it.** -/
@[simp] theorem since_snoc : since p (log ++ [n]) = if p n then [] else since p log ++ [n] := by
  unfold since
  rw [List.reverse_append, List.reverse_singleton, List.singleton_append, List.takeWhile_cons]
  cases h : p n with
  | true => simp
  | false => simp

/-! ## 3. Where a note stands -/

/-- **A note of a longer history** is the new one, or one of those before. -/
theorem snoc_split {before after : List ο} {m : ο} :
    log ++ [n] = before ++ m :: after ↔
      (after = [] ∧ before = log ∧ m = n) ∨ ∃ rest, after = rest ++ [n] ∧ log = before ++ m :: rest := by
  constructor
  · intro h
    rcases List.eq_nil_or_concat after with rfl | ⟨rest, k, rfl⟩
    · obtain ⟨hlog, hn⟩ := List.append_inj' h rfl
      obtain ⟨rfl, -⟩ := List.cons.inj hn
      exact Or.inl ⟨rfl, hlog.symm, rfl⟩
    · rw [List.concat_eq_append] at h ⊢
      have h' : log ++ [n] = (before ++ m :: rest) ++ [k] := by simpa using h
      obtain ⟨hlog, hn⟩ := List.append_inj' h' rfl
      obtain ⟨rfl, -⟩ := List.cons.inj hn
      exact Or.inr ⟨rest, rfl, hlog⟩
  · rintro (⟨rfl, rfl, rfl⟩ | ⟨rest, rfl, rfl⟩)
    · rfl
    · simp

/-- The history apart at a place. -/
theorem split_at {k : ℕ} (h : log[k]? = some n) : log = log.take k ++ n :: log.drop (k + 1) := by
  obtain ⟨hk, rfl⟩ := List.getElem?_eq_some_iff.mp h
  rw [List.getElem_cons_drop, List.take_append_drop]

end DroneSim.Library
