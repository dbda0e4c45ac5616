/-
  File:      DroneSim/Library/Noting.lean
  Subject:   Pre- and postconditions on what a computation notes.

  `Noting A x Q E` says that the action `x`, begun where `A` holds of the notes, ends where `Q` holds
  of them or, when it raises, where `E` does; it leaves the state alone, and notes only grow.

  * one rule for each way to build an action;
  * `Noting.frame` -- what no further note takes back is carried along.
-/
import DroneSim.Library.Acting

namespace DroneSim.Library.Acting

open Attempt

variable {σ ο ε α β : Type}

/-- The state is as before, and nothing noted is gone. -/
structure Grows (r t : Acting σ ο) : Prop where
  state : t.state = r.state
  notes : ∃ new, t.log = r.log ++ new

theorem Grows.refl (r : Acting σ ο) : Grows r r := ⟨rfl, [], (List.append_nil _).symm⟩

theorem Grows.trans {r t u : Acting σ ο} (h : Grows r t) (h' : Grows t u) : Grows r u := by
  obtain ⟨new, hnew⟩ := h.notes
  obtain ⟨new', hnew'⟩ := h'.notes
  refine ⟨h'.state.trans h.state, new ++ new', ?_⟩
  rw [hnew', hnew, List.append_assoc]

/-- **Pre- and postconditions on the notes.** -/
def Noting (A : List ο → Prop) (x : Action σ ο ε α) (Q : α → List ο → Prop)
    (E : ε → List ο → Prop) : Prop :=
  ∀ r, A r.log → wp x (fun a t => Grows r t ∧ Q a t.log) (fun e t => Grows r t ∧ E e t.log) r

namespace Noting

variable {A B : List ο → Prop} {Q Q' : α → List ο → Prop} {P : β → List ο → Prop}
  {E E' : ε → List ο → Prop} {x y : Action σ ο ε α}

theorem weaken (h : Noting A x Q E) (hA : ∀ os, B os → A os) (hQ : ∀ a os, Q a os → Q' a os)
    (hE : ∀ e os, E e os → E' e os) : Noting B x Q' E' :=
  fun r hr => (h r (hA _ hr)).mono (fun a _ ht => ⟨ht.1, hQ a _ ht.2⟩)
    fun e _ ht => ⟨ht.1, hE e _ ht.2⟩

theorem pure {a : α} (h : ∀ os, A os → Q a os) : Noting A (pure a : Action σ ο ε α) Q E :=
  fun r hr => ⟨Grows.refl r, h _ hr⟩

theorem throw {e : ε} (h : ∀ os, A os → E e os) : Noting A (throw e : Action σ ο ε α) Q E :=
  fun r hr => ⟨Grows.refl r, h _ hr⟩

theorem perform {a : ο} {Q : Unit → List ο → Prop} (h : ∀ os, A os → Q () (os ++ [a])) :
    Noting A (perform a : Action σ ο ε Unit) Q E :=
  fun _ hr => ⟨⟨rfl, [a], rfl⟩, h _ hr⟩

/-- **In sequence.** -/
theorem bind {f : α → Action σ ο ε β} (hx : Noting A x Q E)
    (hf : ∀ a, Noting (Q a) (f a) P E) : Noting A (x >>= f) P E := by
  intro r hr
  rw [wp_bind]
  refine (hx r hr).mono (fun a t ht => ?_) fun _ _ ht => ht
  exact (hf a t ht.2).mono (fun _ _ hu => ⟨ht.1.trans hu.1, hu.2⟩)
    fun _ _ hu => ⟨ht.1.trans hu.1, hu.2⟩

/-- **Under a handler.** -/
theorem tryCatch {h : ε → Action σ ο ε α} (hx : Noting A x Q E)
    (hh : ∀ e, Noting (E e) (h e) Q E') : Noting A (tryCatch x h) Q E' := by
  intro r hr
  rw [wp_tryCatch]
  refine (hx r hr).mono (fun _ _ ht => ht) fun e t ht => ?_
  exact (hh e t ht.2).mono (fun _ _ hu => ⟨ht.1.trans hu.1, hu.2⟩)
    fun _ _ hu => ⟨ht.1.trans hu.1, hu.2⟩

theorem ite {b : Prop} [Decidable b] (hx : b → Noting A x Q E) (hy : ¬ b → Noting A y Q E) :
    Noting A (if b then x else y) Q E := by
  split
  · rename_i h
    exact hx h
  · rename_i h
    exact hy h

/-- **What no further note takes back.** -/
theorem frame {S : List ο → Prop} (hS : ∀ os new, S os → S (os ++ new)) (h : Noting A x Q E) :
    Noting (fun os => A os ∧ S os) x (fun a os => Q a os ∧ S os) E := by
  intro r hr
  refine (h r hr.1).mono (fun a t ht => ⟨ht.1, ht.2, ?_⟩) fun _ _ ht => ht
  obtain ⟨new, hnew⟩ := ht.1.notes
  rw [hnew]
  exact hS _ _ hr.2

end Noting

end DroneSim.Library.Acting
