/-
  File:      DroneSim/Library/Attempt.lean
  Subject:   Computations on a state that may raise, and their weakest preconditions.

  An `Attempt σ ε α` works on a state of type `σ` and ends with a value or with an exception; what
  it did to the state before it raised stays done. `wp x Q E s` says that `x`, begun in `s`, ends
  in a state where `Q` holds of the value, or in one where `E` holds of the exception.

  * one equation for each way to build a computation (`wp_pure`, `wp_bind`, `wp_tryCatch`, ..);
  * `wp.mono`, `wp.and` -- a specification is weakened, and two are taken together;
  * `wp_all` -- a conjunction of computed tests that stops at the first that fails;
  * `Keeps`, `Returns` -- what holds before a computation and after it, however it ends, or where it
    cannot raise; `Raises` -- it never returns.
-/
import Mathlib.Data.List.Basic

namespace DroneSim.Library

/-! ## 1. Computations -/

/-- A computation on a state that returns a value or raises. -/
abbrev Attempt (σ ε : Type) : Type → Type := ExceptT ε (StateM σ)

namespace Attempt

variable {σ ε α β : Type} {x : Attempt σ ε α} {f : α → Attempt σ ε β}

/-- How the computation ends when it begins in `s`. -/
def exec (x : Attempt σ ε α) (s : σ) : Except ε α × σ := x s

/-- What holds at an end of either kind. -/
def Ended (Q : α → σ → Prop) (E : ε → σ → Prop) : Except ε α × σ → Prop
  | (.ok a, t) => Q a t
  | (.error e, t) => E e t

/-- **The weakest precondition.** -/
def wp (x : Attempt σ ε α) (Q : α → σ → Prop) (E : ε → σ → Prop) (s : σ) : Prop :=
  Ended Q E (x.exec s)

section Rules

variable {Q R : α → σ → Prop} {E F : ε → σ → Prop} {s : σ}

@[simp] theorem wp_pure (a : α) : wp (pure a : Attempt σ ε α) Q E s ↔ Q a s := Iff.rfl

@[simp] theorem wp_throw (e : ε) : wp (throw e : Attempt σ ε α) Q E s ↔ E e s := Iff.rfl

@[simp] theorem wp_get {Q : σ → σ → Prop} : wp (get : Attempt σ ε σ) Q E s ↔ Q s s := Iff.rfl

@[simp] theorem wp_ok (a : α) :
    wp (ofExcept (.ok a : Except ε α) : Attempt σ ε α) Q E s ↔ Q a s := Iff.rfl

@[simp] theorem wp_error (e : ε) :
    wp (ofExcept (.error e : Except ε α) : Attempt σ ε α) Q E s ↔ E e s := Iff.rfl

/-- The answer of a boundary that returns or raises. -/
theorem wp_ofExcept (x : Except ε α) : wp (ofExcept x : Attempt σ ε α) Q E s ↔
    (∀ a, x = .ok a → Q a s) ∧ ∀ e, x = .error e → E e s := by
  cases x with
  | error e => simp
  | ok a => simp

/-- **In sequence.** -/
@[simp] theorem wp_bind {Q : β → σ → Prop} (x : Attempt σ ε α) (f : α → Attempt σ ε β) :
    wp (x >>= f) Q E s ↔ wp x (fun a t => wp (f a) Q E t) E s := by
  show Ended Q E (ExceptT.bindCont f (x s).1 (x s).2) ↔
    Ended (fun a t => wp (f a) Q E t) E (x s)
  generalize x s = r
  rcases r with ⟨e | a, t⟩
  · rfl
  · rfl

/-- An end, the exceptions handled. -/
def handled (h : ε → Attempt σ ε α) : Except ε α × σ → Except ε α × σ
  | (.ok a, t) => (.ok a, t)
  | (.error e, t) => (h e).exec t

theorem exec_tryCatch (x : Attempt σ ε α) (h : ε → Attempt σ ε α) :
    (tryCatch x h : Attempt σ ε α).exec s = handled h (x.exec s) := by
  show (ExceptT.tryCatch x h : Attempt σ ε α) s = handled h (x s)
  unfold ExceptT.tryCatch ExceptT.mk
  show (StateT.bind x _) s = handled h (x s)
  unfold StateT.bind
  rcases x s with ⟨e | a, t⟩
  · rfl
  · rfl

/-- **Under a handler.** -/
@[simp] theorem wp_tryCatch (x : Attempt σ ε α) (h : ε → Attempt σ ε α) :
    wp (tryCatch x h) Q E s ↔ wp x Q (fun e t => wp (h e) Q E t) s := by
  unfold wp
  rw [exec_tryCatch]
  generalize x.exec s = r
  rcases r with ⟨e | a, t⟩
  · rfl
  · rfl

/-- A weaker specification. -/
theorem wp.mono (h : wp x Q E s) (hQ : ∀ a t, Q a t → R a t) (hE : ∀ e t, E e t → F e t) :
    wp x R F s := by
  unfold wp at h ⊢
  generalize x.exec s = r at h ⊢
  rcases r with ⟨e | a, t⟩
  · exact hE e t h
  · exact hQ a t h

/-- Two specifications at once. -/
theorem wp.and (h : wp x Q E s) (h' : wp x R F s) :
    wp x (fun a t => Q a t ∧ R a t) (fun e t => E e t ∧ F e t) s := by
  unfold wp at h h' ⊢
  generalize x.exec s = r at h h' ⊢
  rcases r with ⟨e | a, t⟩
  · exact ⟨h, h'⟩
  · exact ⟨h, h'⟩

end Rules

/-! ## 2. What stays -/

/-- What holds before the computation holds after it, whether it returned or raised. -/
def Keeps (P : σ → Prop) (x : Attempt σ ε α) : Prop :=
  ∀ s, P s → wp x (fun _ => P) (fun _ => P) s

section Keeps

variable {P : σ → Prop}

theorem Keeps.pure (a : α) : Keeps P (pure a : Attempt σ ε α) := fun _ h => h

theorem Keeps.throw (e : ε) : Keeps P (throw e : Attempt σ ε α) := fun _ h => h

theorem Keeps.ofExcept (x : Except ε α) : Keeps P (ofExcept x : Attempt σ ε α) :=
  fun _ h => (wp_ofExcept x).mpr ⟨fun _ _ => h, fun _ _ => h⟩

theorem Keeps.modify {f : σ → σ} (h : ∀ s, P s → P (f s)) :
    Keeps P (modify f : Attempt σ ε Unit) := h

theorem Keeps.bind (hx : Keeps P x) (hf : ∀ a, Keeps P (f a)) : Keeps P (x >>= f) :=
  fun s h => (wp_bind x f).mpr ((hx s h).mono (fun a t ht => hf a t ht) fun _ _ ht => ht)

theorem Keeps.tryCatch {h : ε → Attempt σ ε α} (hx : Keeps P x) (hh : ∀ e, Keeps P (h e)) :
    Keeps P (tryCatch x h) :=
  fun s hs => (wp_tryCatch x h).mpr ((hx s hs).mono (fun _ _ ht => ht) fun e t ht => hh e t ht)

theorem Keeps.ite {c : Prop} [Decidable c] {x y : Attempt σ ε α} (hx : Keeps P x)
    (hy : Keeps P y) : Keeps P (if c then x else y) := by
  split
  · exact hx
  · exact hy

/-- It keeps `P` and does not raise. -/
def Returns (P : σ → Prop) (x : Attempt σ ε α) : Prop :=
  ∀ s, P s → wp x (fun _ => P) (fun _ _ => False) s

theorem Returns.keeps (h : Returns P x) : Keeps P x :=
  fun s hs => (h s hs).mono (fun _ _ ht => ht) fun _ _ ht => ht.elim

theorem Returns.pure (a : α) : Returns P (pure a : Attempt σ ε α) := fun _ h => h

theorem Returns.modify {f : σ → σ} (h : ∀ s, P s → P (f s)) :
    Returns P (modify f : Attempt σ ε Unit) := h

theorem Returns.bind (hx : Returns P x) (hf : ∀ a, Returns P (f a)) : Returns P (x >>= f) :=
  fun s h => (wp_bind x f).mpr ((hx s h).mono (fun a t ht => hf a t ht) fun _ _ ht => ht)

theorem Returns.ite {c : Prop} [Decidable c] {x y : Attempt σ ε α} (hx : Returns P x)
    (hy : Returns P y) : Returns P (if c then x else y) := by
  split
  · exact hx
  · exact hy

end Keeps

/-- It never returns. -/
def Raises (x : Attempt σ ε α) : Prop := ∀ s, wp x (fun _ _ => False) (fun _ _ => True) s

theorem Raises.throw (e : ε) : Raises (throw e : Attempt σ ε α) := fun _ => trivial

/-- What a computation does before it raises does not matter. -/
theorem Raises.after (x : Attempt σ ε α) (h : ∀ a, Raises (f a)) : Raises (x >>= f) := by
  intro s
  rw [wp_bind]
  unfold wp
  generalize x.exec s = r
  rcases r with ⟨e | a, t⟩
  · exact trivial
  · exact h a t

theorem Raises.ite {c : Prop} [Decidable c] {x y : Attempt σ ε α} (hx : Raises x)
    (hy : Raises y) : Raises (if c then x else y) := by
  split
  · exact hx
  · exact hy

/-! ## 3. Tests in a row -/

/-- Runs the test on one item after another and stops at the first that fails. -/
def all (test : α → Attempt σ ε Bool) : List α → Attempt σ ε Bool
  | [] => pure true
  | a :: as => do
    let passed ← test a
    if passed then all test as else pure false

theorem Keeps.all {P : σ → Prop} {test : α → Attempt σ ε Bool} (h : ∀ a, Keeps P (test a))
    (as : List α) : Keeps P (all test as) := by
  induction as with
  | nil => exact .pure true
  | cons a as ih => exact .bind (h a) fun passed => .ite ih (.pure false)

/-- **Where all tests pass**, what each passed test adds holds of every item. `G a` is what the
    test of `a` shows when it passes, and later tests do not take it back. -/
theorem wp_all {P : σ → Prop} {G : α → σ → Prop} {test : α → Attempt σ ε Bool}
    (htest : ∀ a s, P s → wp (test a) (fun b t => P t ∧ (b = true → G a t)) (fun _ => P) s)
    (hstay : ∀ a b, Keeps (G a) (test b)) (as : List α) {s : σ} (h : P s) :
    wp (all test as) (fun b t => P t ∧ (b = true → ∀ a ∈ as, G a t)) (fun _ => P) s := by
  induction as generalizing s with
  | nil => exact ⟨h, fun _ a ha => absurd ha List.not_mem_nil⟩
  | cons a as ih =>
    unfold all
    rw [wp_bind]
    refine (htest a s h).mono (fun passed t ht => ?_) fun _ _ ht => ht
    obtain ⟨hP, hG⟩ := ht
    cases passed with
    | false => exact ⟨hP, fun hfalse => by cases hfalse⟩
    | true =>
      have hrest := (ih hP).and (Keeps.all (hstay a) as t (hG rfl))
      refine hrest.mono (fun b u hu => ⟨hu.1.1, fun hb c hc => ?_⟩) fun _ _ hu => hu.1
      rcases List.mem_cons.mp hc with rfl | hmem
      · exact hu.2
      · exact hu.1.2 hb c hmem

end Attempt

end DroneSim.Library
