/-
  File:      DroneSim/Library/Asking.lean
  Subject:   Computations that ask their surroundings.

  What a program meets is a function for each kind of question, from the number of questions asked so
  far to the answer, which may be an exception: every behaviour of the surroundings is such a family.
  `Tells x Q E log` says that `x`, begun with the notes `log`, ends where `Q` holds of what it returns
  and of the notes or, when it raises, where `E` does, whatever the number of the next question.
-/
import DroneSim.Library.Acting

namespace DroneSim.Library.Acting

open Attempt

variable {ο ε α β : Type}

/-- A computation that notes what it does and counts the questions it asks. -/
abbrev Asking (ο ε : Type) : Type → Type := Action ℕ ο ε

/-- One question. -/
def ask (answer : ℕ → Except ε α) : Asking ο ε α := do
  let asked ← current
  update (· + 1)
  ofExcept (answer asked)

/-- A question notes nothing. -/
theorem keeps_ask {A : List ο → Prop} (answer : ℕ → Except ε α) :
    Keeps (fun r => A r.log) (ask answer : Asking ο ε α) := by
  intro r hr
  unfold ask
  rw [wp_bind, wp_current, wp_bind, wp_update, wp_ofExcept]
  exact ⟨fun _ _ => hr, fun _ _ => hr⟩

/-- **What comes back and what is noted by then.** -/
def Tells (x : Asking ο ε α) (Q : α → List ο → Prop) (E : ε → List ο → Prop) (log : List ο) :
    Prop :=
  ∀ asked, wp x (fun a r => Q a r.log) (fun e r => E e r.log) ⟨asked, log⟩

namespace Tells

variable {Q Q' : α → List ο → Prop} {P : β → List ο → Prop} {E E' : ε → List ο → Prop}
  {log : List ο} {x : Asking ο ε α}

theorem mono (h : Tells x Q E log) (hQ : ∀ a os, Q a os → Q' a os) (hE : ∀ e os, E e os → E' e os) :
    Tells x Q' E' log :=
  fun asked => (h asked).mono (fun a r => hQ a r.log) fun e r => hE e r.log

theorem pure {a : α} (h : Q a log) : Tells (pure a : Asking ο ε α) Q E log := fun _ => h

theorem throw {e : ε} (h : E e log) : Tells (throw e : Asking ο ε α) Q E log := fun _ => h

/-- **In sequence.** -/
theorem bind {f : α → Asking ο ε β} (h : Tells x (fun a os => Tells (f a) P E os) E log) :
    Tells (x >>= f) P E log := by
  intro asked
  rw [wp_bind]
  exact (h asked).mono (fun a r ha => ha r.state) fun _ _ he => he

theorem perform {a : ο} {Q : Unit → List ο → Prop} (h : Q () (log ++ [a])) :
    Tells (perform a : Asking ο ε Unit) Q E log := fun _ => h

/-- **A question**: any answer may come. -/
theorem ask {answer : ℕ → Except ε α} (h : ∀ a, Q a log) (h' : ∀ e, E e log) :
    Tells (ask answer : Asking ο ε α) Q E log := by
  intro asked
  unfold Acting.ask
  rw [wp_bind, wp_current, wp_bind, wp_update, wp_ofExcept]
  exact ⟨fun a _ => h a, fun e _ => h' e⟩

/-- A question that is always answered. -/
theorem asked {answer : ℕ → α} (h : ∀ a, Q a log) :
    Tells (Acting.ask (fun n => .ok (answer n)) : Asking ο ε α) Q E log := by
  intro asked
  unfold Acting.ask
  rw [wp_bind, wp_current, wp_bind, wp_update, wp_ofExcept]
  exact ⟨fun a _ => h a, fun _ he => by cases he⟩

theorem tryCatch {handler : ε → Asking ο ε α}
    (h : Tells x Q (fun e os => Tells (handler e) Q E os) log) :
    Tells (tryCatch x handler) Q E log := by
  intro asked
  rw [wp_tryCatch]
  exact (h asked).mono (fun _ _ ha => ha) fun e r he => he r.state

theorem ite {c : Prop} [Decidable c] {x y : Asking ο ε α} (hx : c → Tells x Q E log)
    (hy : ¬ c → Tells y Q E log) : Tells (if c then x else y) Q E log := by
  split
  · rename_i h
    exact hx h
  · rename_i h
    exact hy h

/-- The answer of a pure computation. -/
theorem ofExcept {x : Except ε α} (h : ∀ a, x = .ok a → Q a log)
    (h' : ∀ e, x = .error e → E e log) : Tells (ofExcept x : Asking ο ε α) Q E log := by
  intro asked
  rw [wp_ofExcept]
  exact ⟨h, h'⟩

/-- What holds of the notes before and after. -/
theorem keeps {A : List ο → Prop} (h : Keeps (fun r => A r.log) x) (hlog : A log) :
    Tells x (fun _ => A) (fun _ => A) log := fun asked => h ⟨asked, log⟩ hlog

/-- **The notes of a call.** -/
theorem call {P : Except ε α → List ο → Prop}
    (h : Tells x (fun a => P (.ok a)) (fun e => P (.error e)) []) (asked : ℕ) :
    P (call x asked).1 (call x asked).2.2 :=
  @call_spec _ _ _ _ x asked (fun outcome r => P outcome r.log) (h asked)

end Tells

end DroneSim.Library.Acting
