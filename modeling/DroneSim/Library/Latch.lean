/-
  File:      DroneSim/Library/Latch.lean
  Subject:   Machines that latch their first fault.

  A call of such a machine returns a list of outputs or raises, and it moves the state either way.
  The first fault stays (`Latching`): every later call raises it again and changes nothing. Fed a
  list of inputs (`feed`), the machine therefore takes a prefix of them, on which it is an ordinary
  run, and what it puts out is what that run puts out (`Latching.run`). Any machine of this kind
  runs through all its calls, raising or not (`feed_run`).
-/
import DroneSim.Library.Run

namespace DroneSim.Library

variable {σ ι ο ε : Type}

/-- What a call puts out: a call that raises puts out nothing. -/
def published : Except ε (List ο) → List ο
  | .ok os => os
  | .error _ => []

/-- Calls one after another, whether they raise or not. -/
def feed (accept : σ → ι → σ × Except ε (List ο)) : σ → List ι → σ × List ο
  | s, [] => (s, [])
  | s, i :: is =>
    let rest := feed accept (accept s i).1 is
    (rest.1, published (accept s i).2 ++ rest.2)

/-- Fed one list after another. -/
theorem feed_append (accept : σ → ι → σ × Except ε (List ο)) (s : σ) (is js : List ι) :
    feed accept s (is ++ js) = ((feed accept (feed accept s is).1 js).1,
      (feed accept s is).2 ++ (feed accept (feed accept s is).1 js).2) := by
  induction is generalizing s with
  | nil => rfl
  | cons i is ih =>
    rw [List.cons_append, feed, ih, feed]
    dsimp only
    rw [List.append_assoc]

/-- The calls of the machine, with what each puts out. -/
def Calls (accept : σ → ι → σ × Except ε (List ο)) : σ → ι → List ο → σ → Prop :=
  fun s i os t => (accept s i).1 = t ∧ published (accept s i).2 = os

/-- **Feeding is a run of calls.** -/
theorem feed_run (accept : σ → ι → σ × Except ε (List ο)) (s : σ) (is : List ι) :
    Run (Calls accept) s is (feed accept s is).2 (feed accept s is).1 := by
  induction is generalizing s with
  | nil => exact .start
  | cons i is ih =>
    have hfirst : Run (Calls accept) s [i] (published (accept s i).2) (accept s i).1 :=
      .single ⟨rfl, rfl⟩
    exact hfirst.append (ih _)

/-- The calls that return. -/
def Returns (accept : σ → ι → σ × Except ε (List ο)) : σ → ι → List ο → σ → Prop :=
  fun s i os t => accept s i = (t, .ok os)

/-- **The first fault stays.** -/
structure Latching (accept : σ → ι → σ × Except ε (List ο)) (fault : σ → Option ε) : Prop where
  raises : ∀ s i e, fault s = some e → accept s i = (s, .error e)
  returns : ∀ s i t os, accept s i = (t, .ok os) → fault t = none
  latches : ∀ s i t e, accept s i = (t, .error e) → fault t = some e

variable {accept : σ → ι → σ × Except ε (List ο)} {fault : σ → Option ε} {s : σ} {e : ε}

/-- A machine with a fault puts out nothing more. -/
theorem Latching.faulted (h : Latching accept fault) (hs : fault s = some e) (is : List ι) :
    feed accept s is = (s, []) := by
  induction is with
  | nil => rfl
  | cons i is ih => rw [feed, h.raises s i e hs, ih]; rfl

/-- **What a latching machine takes is a run over a prefix**, the whole if it ends without a
    fault. -/
theorem Latching.run (h : Latching accept fault) (is : List ι) :
    ∃ js t, js <+: is ∧ Run (Returns accept) s js (feed accept s is).2 t ∧
      (fault (feed accept s is).1 = none → js = is ∧ (feed accept s is).1 = t) := by
  induction is generalizing s with
  | nil => exact ⟨[], s, List.prefix_rfl, .start, fun _ => ⟨rfl, rfl⟩⟩
  | cons i is ih =>
    rcases hr : accept s i with ⟨t, r⟩
    cases r with
    | error e =>
      have hfed : feed accept s (i :: is) = (t, []) := by
        rw [feed, hr, h.faulted (h.latches s i t e hr)]
        rfl
      rw [hfed]
      refine ⟨[], s, List.nil_prefix, .start, fun hnone => ?_⟩
      rw [h.latches s i t e hr] at hnone
      cases hnone
    | ok os =>
      have hfed : feed accept s (i :: is) =
          ((feed accept t is).1, os ++ (feed accept t is).2) := by
        rw [feed, hr]
        rfl
      rw [hfed]
      obtain ⟨js, u, hprefix, hrun, hend⟩ := ih (s := t)
      have hfirst : Run (Returns accept) s [i] os t := .single hr
      refine ⟨i :: js, u, List.cons_prefix_cons.mpr ⟨rfl, hprefix⟩, hfirst.append hrun,
        fun hnone => ?_⟩
      obtain ⟨rfl, hu⟩ := hend hnone
      exact ⟨rfl, hu⟩

end DroneSim.Library
