/-
  File:      DroneSim/Library/Held.lean
  Subject:   Since when a test has held without a break.

  `heldSince p f l` walks a list of stamped elements and keeps the stamp at which the present run
  of elements that pass `p` began. On a list with rising stamps it needs no walk to say what it
  answers: the least stamp of an element from which on every element passes
  (`HeldFrom`, `heldSince_spec`, `heldSince_least`). So a bound on the length of the run is a
  statement about the elements alone (`held_iff`).
-/
import DroneSim.Library.Streams
import Mathlib.Data.Int.Notation

namespace DroneSim.Library

variable {α : Type} {p q : α → Bool} {f : α → ℕ} {l : List α} {a b : α} {t : ℕ}

/-- One more element: the run goes on, begins or ends. -/
def holdOn (p : α → Bool) (f : α → ℕ) (r : Option ℕ) (a : α) : Option ℕ :=
  if p a then some (r.getD (f a)) else none

/-- The stamp at which the run of elements that pass `p`, up to the last, began. -/
def heldSince (p : α → Bool) (f : α → ℕ) (l : List α) : Option ℕ := l.foldl (holdOn p f) none

/-- An element has stamp `t`, and from it on every element passes `p`. -/
def HeldFrom (p : α → Bool) (f : α → ℕ) (l : List α) (t : ℕ) : Prop :=
  (∃ a ∈ l, f a = t) ∧ ∀ a ∈ l, t ≤ f a → p a = true

theorem heldSince_snoc :
    heldSince p f (l ++ [a]) = holdOn p f (heldSince p f l) a := List.foldl_concat ..

/-- **The run began at an element, and from it on every element passes.** -/
theorem heldSince_spec (h : Increasing f l) (ht : heldSince p f l = some t) :
    HeldFrom p f l t := by
  induction l using List.reverseRecOn with
  | nil => cases ht
  | append_singleton l a ih =>
    have hl : Increasing f l := (List.pairwise_append.mp h).1
    rw [heldSince_snoc, holdOn] at ht
    split at ht
    · rename_i hp
      have ht := Option.some.inj ht
      cases hold : heldSince p f l with
      | some u =>
        rw [hold, Option.getD_some] at ht
        subst ht
        obtain ⟨⟨x, hx, hxu⟩, hall⟩ := ih hl hold
        refine ⟨⟨x, List.mem_append_left _ hx, hxu⟩, fun y hy hle => ?_⟩
        rcases List.mem_append.mp hy with hy | hy
        · exact hall y hy hle
        · rw [List.mem_singleton.mp hy]
          exact hp
      | none =>
        rw [hold, Option.getD_none] at ht
        refine ⟨⟨a, by simp, ht⟩, fun y hy hle => ?_⟩
        rcases List.mem_append.mp hy with hy | hy
        · have hlt := h.across hy (List.mem_singleton_self a)
          omega
        · rw [List.mem_singleton.mp hy]
          exact hp
    · cases ht

/-- **The run began no later than any stamp from which on every element passes.** -/
theorem heldSince_least (h : Increasing f l) (ht : HeldFrom p f l t) :
    ∃ u, heldSince p f l = some u ∧ u ≤ t := by
  induction l using List.reverseRecOn with
  | nil =>
    obtain ⟨⟨x, hx, _⟩, _⟩ := ht
    exact absurd hx List.not_mem_nil
  | append_singleton l a ih =>
    have hl : Increasing f l := (List.pairwise_append.mp h).1
    obtain ⟨⟨x, hx, hxt⟩, hall⟩ := ht
    have hxa : f x ≤ f a := by
      rcases List.mem_append.mp hx with hx | hx
      · exact Nat.le_of_lt (h.across hx (List.mem_singleton_self a))
      · exact Nat.le_of_eq (congrArg f (List.mem_singleton.mp hx))
    have hp : p a = true := hall a (by simp) (by omega)
    rw [heldSince_snoc, holdOn, if_pos hp]
    refine ⟨_, rfl, ?_⟩
    cases hold : heldSince p f l with
    | some u =>
      rw [Option.getD_some]
      rcases List.mem_append.mp hx with hx | hx
      · have hbefore : HeldFrom p f l t :=
          ⟨⟨x, hx, hxt⟩, fun y hy hle => hall y (List.mem_append_left _ hy) hle⟩
        obtain ⟨v, hv, hle⟩ := ih hl hbefore
        rw [hold] at hv
        rw [Option.some.inj hv]
        exact hle
      · obtain ⟨⟨y, hy, hyu⟩, _⟩ := heldSince_spec hl hold
        have hlt := h.across hy (List.mem_singleton_self a)
        rw [List.mem_singleton.mp hx] at hxt
        omega
    | none =>
      rw [Option.getD_none]
      rcases List.mem_append.mp hx with hx | hx
      · have hbefore : HeldFrom p f l t :=
          ⟨⟨x, hx, hxt⟩, fun y hy hle => hall y (List.mem_append_left _ hy) hle⟩
        obtain ⟨v, hv, _⟩ := ih hl hbefore
        rw [hold] at hv
        cases hv
      · rw [List.mem_singleton.mp hx] at hxt
        omega

/-- **The run is at least `d` long at stamp `n`** where the elements say so. -/
theorem held_iff (h : Increasing f l) (n d : ℤ) :
    (∃ u, heldSince p f l = some u ∧ d ≤ n - u) ↔
      ∃ t, HeldFrom p f l t ∧ d ≤ n - t := by
  constructor
  · rintro ⟨u, hu, hle⟩
    exact ⟨u, heldSince_spec h hu, hle⟩
  · rintro ⟨t, ht, hle⟩
    obtain ⟨u, hu, hut⟩ := heldSince_least h ht
    exact ⟨u, hu, by omega⟩

/-- A weaker test has held at least as long. -/
theorem HeldFrom.mono (h : HeldFrom p f l t) (hpq : ∀ a ∈ l, p a = true → q a = true) :
    HeldFrom q f l t :=
  ⟨h.1, fun a ha hle => hpq a ha (h.2 a ha hle)⟩

end DroneSim.Library
