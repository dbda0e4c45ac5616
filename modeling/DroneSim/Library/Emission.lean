/-
  File:      DroneSim/Library/Emission.lean
  Subject:   What a machine puts out over a run, judged by flags of its state.

  A flag is a test of the state that stays on once it is on. Three rules turn what one step does
  with a flag into what the whole output looks like:

  * `SingleShot` -- an output that is put out only while the flag is off, and turns it on, is put
    out at most once;
  * `Needs` -- an output that needs the flag comes after one of the outputs that turn it on;
  * `Closes` -- after an output that turns the flag on, none that needs it off comes.

  `Alternates` is the rule of an output that sets a switch to the value it does not have;
  `Grounded` says that every output stands on what was put out before it.
-/
import DroneSim.Library.Run
import Mathlib.Data.List.Induction

namespace DroneSim.Library

variable {σ ι ο : Type} {R : σ → ι → List ο → σ → Prop} {p q : ο → Bool} {flag : σ → Bool}
  {s t : σ} {is : List ι} {os : List ο}

/-- Once on, the flag stays on. -/
def Stays (R : σ → ι → List ο → σ → Prop) (flag : σ → Bool) : Prop :=
  ∀ s i o t, R s i o t → flag s = true → flag t = true

theorem Stays.run (h : Stays R flag) (hrun : Run R s is os t) (hs : flag s = true) :
    flag t = true :=
  hrun.invariant hs fun s i o t hs hstep => h s i o t hstep hs

/-! ## 1. At most once -/

/-- The outputs `p` are put out one by one, each turning the flag on. -/
structure SingleShot (R : σ → ι → List ο → σ → Prop) (p : ο → Bool) (flag : σ → Bool) : Prop where
  stays : Stays R flag
  single : ∀ s i o t, R s i o t → o.countP p ≤ 1
  turns : ∀ s i o t, R s i o t → 0 < o.countP p → flag s = false ∧ flag t = true

/-- **At most once**, and then the flag is on. -/
theorem SingleShot.run (h : SingleShot R p flag) (hrun : Run R s is os t) :
    os.countP p ≤ 1 ∧ (0 < os.countP p → flag t = true) := by
  induction hrun with
  | start => simp
  | @step is os t i o u _ hs ih =>
    obtain ⟨hle, hon⟩ := ih
    rw [List.countP_append]
    have hsingle := h.single _ _ _ _ hs
    rcases Nat.eq_zero_or_pos (os.countP p) with hzero | hpos
    · refine ⟨by omega, fun hnew => ?_⟩
      exact (h.turns _ _ _ _ hs (by omega)).2
    · have hflag := hon hpos
      have hnone : o.countP p = 0 := by
        rcases Nat.eq_zero_or_pos (o.countP p) with hzero | hnew
        · exact hzero
        · rw [(h.turns _ _ _ _ hs hnew).1] at hflag
          cases hflag
      exact ⟨by omega, fun _ => h.stays _ _ _ _ hs hflag⟩

/-! ## 2. Not before -/

/-- The outputs `q` need the flag, and only the outputs `p` turn it on. -/
structure Needs (R : σ → ι → List ο → σ → Prop) (p q : ο → Bool) (flag : σ → Bool) : Prop where
  turned : ∀ s i o t, R s i o t → flag t = true → flag s = true ∨ o.any p = true
  needs : ∀ s i a x b t, R s i (a ++ x :: b) t → q x = true → flag s = true ∨ a.any p = true

/-- **Not before**: an output that needs the flag comes after one that turns it on. -/
theorem Needs.run (h : Needs R p q flag) (hs : flag s = false) {a b : List ο} {x : ο}
    (hrun : Run R s is (a ++ x :: b) t) (hx : q x = true) : a.any p = true := by
  have hturned : ∀ {js ps u}, Run R s js ps u → flag u = true → ps.any p = true := by
    intro js ps u hprefix
    induction hprefix with
    | start => intro hu; rw [hs] at hu; cases hu
    | step _ hstep ih =>
      intro hu
      rw [List.any_append, Bool.or_eq_true]
      rcases h.turned _ _ _ _ hstep hu with hbefore | hnow
      · exact Or.inl (ih hbefore)
      · exact Or.inr hnow
  obtain ⟨js, -, ps, u, i, c, d, v, -, hprefix, hstep, rfl⟩ := hrun.emitted
  rw [List.any_append, Bool.or_eq_true]
  rcases h.needs _ _ _ _ _ _ hstep hx with hflag | hnow
  · exact Or.inl (hturned hprefix hflag)
  · exact Or.inr hnow

/-! ## 3. Not after -/

/-- The outputs `p` turn the flag on, and the outputs `q` need it off. -/
structure Closes (R : σ → ι → List ο → σ → Prop) (p q : ο → Bool) (flag : σ → Bool) : Prop where
  stays : Stays R flag
  turns : ∀ s i a x b t, R s i (a ++ x :: b) t → p x = true → flag t = true ∧ b.any q = false
  needs : ∀ s i o t, R s i o t → flag s = true → o.any q = false

/-- With the flag on, no more of the outputs that need it off. -/
theorem Closes.closed (h : Closes R p q flag) (hrun : Run R s is os t) (hs : flag s = true) :
    os.any q = false := by
  induction hrun with
  | start => rfl
  | step hprefix hstep ih =>
    rw [List.any_append, ih, h.needs _ _ _ _ hstep (h.stays.run hprefix hs)]
    rfl

/-- One of the outputs that turn the flag on is enough. -/
theorem Closes.turned (h : Closes R p q flag) (hrun : Run R s is os t) (hp : os.any p = true) :
    flag t = true := by
  induction hrun with
  | start => cases hp
  | @step is os t i o u _ hstep ih =>
    rw [List.any_append, Bool.or_eq_true] at hp
    rcases hp with hbefore | hnow
    · exact h.stays _ _ _ _ hstep (ih hbefore)
    · obtain ⟨x, hmem, hx⟩ := List.any_eq_true.mp hnow
      obtain ⟨a, b, rfl⟩ := List.append_of_mem hmem
      exact (h.turns _ _ _ _ _ _ hstep hx).1

/-- **Not after.** -/
theorem Closes.run (h : Closes R p q flag) {a b : List ο} {x : ο}
    (hrun : Run R s is (a ++ x :: b) t) (hx : p x = true) : b.any q = false := by
  generalize hlog : a ++ x :: b = log at hrun
  induction hrun generalizing b with
  | start => simp at hlog
  | @step is os t i o u hprefix hstep ih =>
    rcases List.append_eq_append_iff.mp hlog with ⟨c, hos, ho⟩ | ⟨c, hos, ho⟩
    · cases c with
      | nil =>
        rw [List.nil_append] at ho
        subst ho
        exact (h.turns _ _ [] x b _ hstep hx).2
      | cons y c =>
        rw [List.cons_append] at ho
        obtain ⟨rfl, rfl⟩ := List.cons.inj ho
        have hturned : flag t = true := by
          refine h.turned hprefix ?_
          rw [hos, List.any_append, List.any_cons, hx, Bool.true_or, Bool.or_true]
        rw [List.any_append, ih hos.symm, h.needs _ _ _ _ hstep hturned]
        rfl
    · subst ho
      exact (h.turns _ _ c x b _ hstep hx).2

/-! ## 4. In turn -/

/-- Each value is the opposite of the one before it, the first the opposite of `v`. -/
def Alternates : Bool → List Bool → Prop
  | _, [] => True
  | v, w :: ws => w = !v ∧ Alternates w ws

/-- The value after the switches. -/
def lastOf (v : Bool) (ws : List Bool) : Bool := ws.getLast?.getD v

theorem lastOf_cons (v w : Bool) (ws : List Bool) : lastOf v (w :: ws) = lastOf w ws := by
  cases ws with
  | nil => rfl
  | cons u ws => simp [lastOf, List.getLast?_cons]

theorem Alternates.append {v : Bool} {ws us : List Bool} (h : Alternates v ws)
    (h' : Alternates (lastOf v ws) us) :
    Alternates v (ws ++ us) ∧ lastOf v (ws ++ us) = lastOf (lastOf v ws) us := by
  induction ws generalizing v with
  | nil => exact ⟨h', rfl⟩
  | cons w ws ih =>
    rw [lastOf_cons] at h'
    obtain ⟨hall, hlast⟩ := ih h.2 h'
    rw [List.cons_append, lastOf_cons, lastOf_cons]
    exact ⟨⟨h.1, hall⟩, hlast⟩

/-- The outputs that `value` reads set the switch to the value it does not have. -/
def Switches (R : σ → ι → List ο → σ → Prop) (value : ο → Option Bool) (flag : σ → Bool) : Prop :=
  ∀ s i o t, R s i o t → Alternates (flag s) (o.filterMap value) ∧
    lastOf (flag s) (o.filterMap value) = flag t

/-- **In turn.** -/
theorem Switches.run {value : ο → Option Bool} (h : Switches R value flag)
    (hrun : Run R s is os t) : Alternates (flag s) (os.filterMap value) ∧
      lastOf (flag s) (os.filterMap value) = flag t := by
  induction hrun with
  | start => exact ⟨trivial, rfl⟩
  | @step is os t i o u _ hstep ih =>
    obtain ⟨hall, hlast⟩ := ih
    obtain ⟨hnew, hend⟩ := h _ _ _ _ hstep
    rw [List.filterMap_append]
    rw [← hlast] at hnew hend
    obtain ⟨happend, hboth⟩ := hall.append hnew
    exact ⟨happend, hboth.trans hend⟩

/-! ## 5. Each on its grounds -/

/-- Every output stands on what was put out before it. -/
def Grounded (J : List ο → ο → Prop) (os : List ο) : Prop :=
  ∀ a x b, os = a ++ x :: b → J a x

namespace Grounded

variable {J : List ο → ο → Prop} {ps : List ο} {x : ο}

theorem nil : Grounded J [] := by
  intro a x b h
  simp at h

/-- The grounds of the new outputs are what was put out before and the new outputs before them. -/
theorem append (h : Grounded J os) (hnew : ∀ a x b, ps = a ++ x :: b → J (os ++ a) x) :
    Grounded J (os ++ ps) := by
  intro a x b hlog
  rcases List.append_eq_append_iff.mp hlog with ⟨c, rfl, hps⟩ | ⟨c, hos, hps⟩
  · exact hnew c x b hps
  · cases c with
    | nil =>
      rw [List.append_nil] at hos
      subst hos
      have hfirst := hnew [] x b hps.symm
      rwa [List.append_nil] at hfirst
    | cons y c =>
      obtain ⟨rfl, -⟩ := List.cons.inj hps
      exact h a x c hos

theorem snoc (h : Grounded J os) (hx : J os x) : Grounded J (os ++ [x]) := by
  refine h.append fun a y b hy => ?_
  cases a with
  | nil =>
    obtain ⟨rfl, -⟩ := List.cons.inj hy
    rwa [List.append_nil]
  | cons z a => simp at hy

/-- An output whose grounds exclude another of its kind is put out at most once. -/
theorem single (h : Grounded J os) (hJ : ∀ a x, J a x → p x = true → a.countP p = 0) :
    os.countP p ≤ 1 := by
  induction os using List.reverseRecOn with
  | nil => simp
  | append_singleton os x ih =>
    have hbefore : Grounded J os := by
      intro a y b hlog
      refine h a y (b ++ [x]) ?_
      rw [hlog, List.append_assoc, List.cons_append]
    have hle := ih hbefore
    rw [List.countP_append, List.countP_singleton]
    split
    · rename_i hx
      have hnone := hJ os x (h os x [] rfl) hx
      omega
    · omega

end Grounded

end DroneSim.Library
