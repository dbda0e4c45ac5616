/-
  File:      DroneSim/Library/Acting.lean
  Subject:   Computations on a state that note what they do.

  An `Action σ ο ε` is an attempt on a state of type `σ` that writes down, in order, what it does
  (a list over `ο`); what it did before it raised stays done and stays written down.

  * `Moved M s r` -- what was done so far is a run of the moves `M` from `s`;
  * `Moves M x` -- the computation `x` does nothing but moves of `M`;
  * `Calling`, `run_of_moves` -- calls one after another, and the run of moves they come to;
  * `calls`, `calls_meeting` -- the calls computed, and the run of those that meet a condition;
  * `Stable M P`, `Within M A x B` -- `P` is kept by every move, and the computation `x`, begun where
    `A` holds, keeps all such `P` and returns where `B` holds.
-/
import DroneSim.Library.Attempt
import DroneSim.Library.Run

namespace DroneSim.Library

/-- A computation under way: the state, and what was done so far. -/
structure Acting (σ ο : Type) where
  state : σ
  log : List ο

/-- A computation that notes what it does. -/
abbrev Action (σ ο ε : Type) : Type → Type := Attempt (Acting σ ο) ε

namespace Acting

open Attempt

variable {σ ι ο ε α β : Type} {x : Action σ ο ε α}

/-- Notes one thing done. -/
def perform (a : ο) : Action σ ο ε Unit := modify fun r => { r with log := r.log ++ [a] }

/-- Changes the state. -/
def update (f : σ → σ) : Action σ ο ε Unit := modify fun r => { r with state := f r.state }

/-- The state as it is. -/
def current : Action σ ο ε σ := do
  let r ← get
  return r.state

/-- The outcome of a computation from `s`, the state after it and what it did. -/
def call (x : Action σ ο ε α) (s : σ) : Except ε α × σ × List ο :=
  ((x.exec ⟨s, []⟩).1, (x.exec ⟨s, []⟩).2.state, (x.exec ⟨s, []⟩).2.log)

section Rules

variable {Q : α → Acting σ ο → Prop} {E : ε → Acting σ ο → Prop} {r : Acting σ ο}

@[simp] theorem wp_perform {Q : Unit → Acting σ ο → Prop} (a : ο) :
    wp (perform a : Action σ ο ε Unit) Q E r ↔ Q () ⟨r.state, r.log ++ [a]⟩ := Iff.rfl

@[simp] theorem wp_update {Q : Unit → Acting σ ο → Prop} (f : σ → σ) :
    wp (update f : Action σ ο ε Unit) Q E r ↔ Q () ⟨f r.state, r.log⟩ := Iff.rfl

@[simp] theorem wp_current {Q : σ → Acting σ ο → Prop} :
    wp (current : Action σ ο ε σ) Q E r ↔ Q r.state r := Iff.rfl

end Rules

/-- **What holds at either end of a computation** holds of what its call leaves. -/
theorem call_spec {s : σ} {P : Except ε α → Acting σ ο → Prop}
    (h : wp x (fun a => P (.ok a)) (fun e => P (.error e)) ⟨s, []⟩) :
    P (call x s).1 ⟨(call x s).2.1, (call x s).2.2⟩ := by
  unfold wp at h
  unfold call
  generalize x.exec ⟨s, []⟩ = e at h ⊢
  rcases e with ⟨e | a, r⟩
  · exact h
  · exact h

/-- The same where the outcome does not matter. -/
theorem call_state {s : σ} {P : Acting σ ο → Prop} (h : wp x (fun _ => P) (fun _ => P) ⟨s, []⟩) :
    P ⟨(call x s).2.1, (call x s).2.2⟩ :=
  call_spec (P := fun _ => P) h

/-! ## 1. Moves -/

/-- The moves as the steps of a machine without input. -/
def Free (M : σ → List ο → σ → Prop) : σ → Unit → List ο → σ → Prop := fun s _ o t => M s o t

/-- What was done so far is a run of moves. -/
def Moved (M : σ → List ο → σ → Prop) (s : σ) (r : Acting σ ο) : Prop :=
  ∃ is, Run (Free M) s is r.log r.state

variable {M : σ → List ο → σ → Prop} {s : σ} {r : Acting σ ο}

theorem Moved.start : Moved M s ⟨s, []⟩ := ⟨[], .start⟩

/-- One more move. -/
theorem Moved.move (h : Moved M s r) {o : List ο} {t : σ} (hmove : M r.state o t) :
    Moved M s ⟨t, r.log ++ o⟩ := by
  obtain ⟨is, hrun⟩ := h
  exact ⟨is ++ [()], .step hrun hmove⟩

/-- One more move that puts nothing out. -/
theorem Moved.silent (h : Moved M s r) {t : σ} (hmove : M r.state [] t) :
    Moved M s ⟨t, r.log⟩ := by
  have hmoved := h.move hmove
  rwa [List.append_nil] at hmoved

/-- The computation does nothing but moves. -/
def Moves (M : σ → List ο → σ → Prop) (x : Action σ ο ε α) : Prop := ∀ s, Keeps (Moved M s) x

theorem Moves.pure (a : α) : Moves M (pure a : Action σ ο ε α) := fun _ => .pure a

theorem Moves.throw (e : ε) : Moves M (throw e : Action σ ο ε α) := fun _ => .throw e

theorem Moves.ofExcept (x : Except ε α) : Moves M (ofExcept x : Action σ ο ε α) :=
  fun _ => .ofExcept x

theorem Moves.bind {f : α → Action σ ο ε β} (hx : Moves M x) (hf : ∀ a, Moves M (f a)) :
    Moves M (x >>= f) := fun s => .bind (hx s) fun a => hf a s

theorem Moves.ite {c : Prop} [Decidable c] {x y : Action σ ο ε α} (hx : Moves M x)
    (hy : Moves M y) : Moves M (if c then x else y) := fun s => .ite (hx s) (hy s)

theorem Moves.update {f : σ → σ} (h : ∀ s, M s [] (f s)) :
    Moves M (update f : Action σ ο ε Unit) := fun _ r hr => hr.silent (h r.state)

theorem Moves.perform {a : ο} (h : ∀ s, M s [a] s) : Moves M (perform a : Action σ ο ε Unit) :=
  fun _ r hr => hr.move (h r.state)

/-- What follows a look at the state may lean on what it saw. -/
theorem Moves.current {f : σ → Action σ ο ε β}
    (h : ∀ s r, Moved M s r → wp (f r.state) (fun _ => Moved M s) (fun _ => Moved M s) r) :
    Moves M (current >>= f) := by
  intro s r hr
  rw [wp_bind, wp_current]
  exact h s r hr

/-- **What a call does is a run of moves.** -/
theorem Moves.call (h : Moves M x) (s : σ) : Moved M s ⟨(call x s).2.1, (call x s).2.2⟩ :=
  call_state (h s ⟨s, []⟩ .start)

/-! ## 2. Calls -/

/-- The calls of `f` as the steps of a machine, whatever comes back. -/
def Calling (f : ι → Action σ ο ε α) : σ → ι → List ο → σ → Prop :=
  fun s i o t => (call (f i) s).2 = (t, o)

/-- **Calls that do nothing but moves come to a run of moves.** -/
theorem run_of_moves {f : ι → Action σ ο ε α} (h : ∀ i, Moves M (f i)) {is : List ι}
    {os : List ο} {t : σ} (hrun : Run (Calling f) s is os t) : Moved M s ⟨t, os⟩ := by
  induction hrun with
  | start => exact .start
  | @step is os t i o u _ hs ih =>
    obtain ⟨js, hbefore⟩ := ih
    obtain ⟨ks, hnow⟩ := (h i).call t
    unfold Calling at hs
    rw [hs] at hnow
    exact ⟨js ++ ks, hbefore.append hnow⟩

/-- The calls one after another. -/
def calls (f : ι → Action σ ο ε α) : σ → List ι → σ × List ο
  | s, [] => (s, [])
  | s, i :: is =>
    ((calls f (call (f i) s).2.1 is).1, (call (f i) s).2.2 ++ (calls f (call (f i) s).2.1 is).2)

theorem calls_run (f : ι → Action σ ο ε α) (is : List ι) (s : σ) :
    Run (Calling f) s is (calls f s is).2 (calls f s is).1 := by
  induction is generalizing s with
  | nil => exact .start
  | cons i is ih =>
    have hfirst : Run (Calling f) s [i] (call (f i) s).2.2 (call (f i) s).2.1 := .single rfl
    exact hfirst.append (ih (call (f i) s).2.1)

/-- Every call meets `C` in the state that it is made in. -/
def Throughout (f : ι → Action σ ο ε α) (C : σ → ι → Prop) : σ → List ι → Prop
  | _, [] => True
  | s, i :: is => C s i ∧ Throughout f C (call (f i) s).2.1 is

instance decidableThroughout (f : ι → Action σ ο ε α) (C : σ → ι → Prop)
    [∀ s i, Decidable (C s i)] : (s : σ) → (is : List ι) → Decidable (Throughout f C s is)
  | _, [] => isTrue trivial
  | s, i :: is =>
    have := decidableThroughout f C (call (f i) s).2.1 is
    inferInstanceAs (Decidable (C s i ∧ Throughout f C (call (f i) s).2.1 is))

/-- **The run of calls that meet a condition.** -/
theorem calls_meeting {f : ι → Action σ ο ε α} {C : σ → ι → Prop} {is : List ι} {s : σ}
    (h : Throughout f C s is) :
    Run (Meeting (Calling f) C) s is (calls f s is).2 (calls f s is).1 := by
  induction is generalizing s with
  | nil => exact .start
  | cons i is ih =>
    obtain ⟨hmeets, hrest⟩ := h
    have hfirst : Run (Meeting (Calling f) C) s [i] (call (f i) s).2.2 (call (f i) s).2.1 :=
      .single ⟨rfl, hmeets⟩
    exact hfirst.append (ih hrest)

/-! ## 3. Moves under conditions -/

/-- Kept by every move, of the state and what was done so far. -/
def Stable (M : σ → List ο → σ → Prop) (P : Acting σ ο → Prop) : Prop :=
  ∀ r o t, P r → M r.state o t → P ⟨t, r.log ++ o⟩

/-- **Pre- and postconditions of computations made of moves**: begun where `A` holds, the
    computation keeps what every move keeps, and where it returns `B` holds. -/
def Within (M : σ → List ο → σ → Prop) (A : σ → Prop) (x : Action σ ο ε α) (B : α → σ → Prop) :
    Prop :=
  ∀ P, Stable M P → ∀ r, P r → A r.state → wp x (fun a t => P t ∧ B a t.state) (fun _ => P) r

namespace Within

variable {N : σ → List ο → σ → Prop} {A A' : σ → Prop} {B B' : α → σ → Prop}
  {C : β → σ → Prop}

theorem pure {a : α} (h : ∀ s, A s → B a s) : Within M A (pure a : Action σ ο ε α) B :=
  fun _ _ r hr hA => ⟨hr, h r.state hA⟩

theorem throw (e : ε) : Within M A (throw e : Action σ ο ε α) B := fun _ _ _ hr _ => hr

theorem bind {f : α → Action σ ο ε β} (hx : Within M A x B) (hf : ∀ a, Within M (B a) (f a) C) :
    Within M A (x >>= f) C := by
  intro P hP r hr hA
  rw [wp_bind]
  exact (hx P hP r hr hA).mono (fun a t ht => hf a P hP t ht.1 ht.2) fun _ _ ht => ht

theorem tryCatch {h : ε → Action σ ο ε α} (hx : Within M A x B)
    (hh : ∀ e, Within M (fun _ => True) (h e) B) : Within M A (tryCatch x h) B := by
  intro P hP r hr hA
  rw [wp_tryCatch]
  exact (hx P hP r hr hA).mono (fun _ _ ht => ht) fun e t ht => hh e P hP t ht trivial

theorem weaken (h : Within M A' x B') (hA : ∀ s, A s → A' s) (hB : ∀ a s, B' a s → B a s) :
    Within M A x B :=
  fun P hP r hr hs => (h P hP r hr (hA _ hs)).mono (fun _ _ ht => ⟨ht.1, hB _ _ ht.2⟩)
    fun _ _ ht => ht

theorem perform {a : ο} {B : Unit → σ → Prop} (h : ∀ s, A s → M s [a] s)
    (hB : ∀ s, A s → B () s) : Within M A (perform a : Action σ ο ε Unit) B :=
  fun _ hP r hr hA => ⟨hP r [a] r.state hr (h r.state hA), hB r.state hA⟩

theorem update {f : σ → σ} {B : Unit → σ → Prop} (h : ∀ s, A s → M s [] (f s))
    (hB : ∀ s, A s → B () (f s)) : Within M A (update f : Action σ ο ε Unit) B := by
  intro P hP r hr hA
  have hmoved := hP r [] (f r.state) hr (h r.state hA)
  rw [List.append_nil] at hmoved
  exact ⟨hmoved, hB r.state hA⟩

/-- **After a look at the state** the state is the one that was seen. -/
theorem current {f : σ → Action σ ο ε β}
    (h : ∀ s, A s → Within M (fun t => t = s) (f s) C) : Within M A (current >>= f) C := by
  intro P hP r hr hA
  rw [wp_bind, wp_current]
  exact h r.state hA P hP r hr rfl

theorem ofExcept {x : Except ε α} (h : ∀ a s, A s → x = .ok a → B a s) :
    Within M A (ofExcept x : Action σ ο ε α) B := by
  intro P hP r hr hA
  exact (wp_ofExcept x).mpr ⟨fun a ha => ⟨hr, h a r.state hA ha⟩, fun _ _ => hr⟩

theorem ite {c : Prop} [Decidable c] {x y : Action σ ο ε α} (hx : c → Within M A x B)
    (hy : ¬ c → Within M A y B) : Within M A (if c then x else y) B := by
  split
  · rename_i h
    exact hx h
  · rename_i h
    exact hy h

end Within

end Acting

end DroneSim.Library
