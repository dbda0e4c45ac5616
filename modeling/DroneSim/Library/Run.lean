/-
  File:      DroneSim/Library/Run.lean
  Subject:   Runs of a machine that may refuse its input.

  A machine is a relation `R s i os t`: in state `s` it accepts the input `i`, puts out the list
  `os` and goes to `t`. `Run R s is os t` is the run over the inputs `is` from `s`; it grows at
  its end, so a proof by induction has the whole history before the last step in hand.

  * `Run.invariant`, `Run.outputs` -- the two rules: what every step keeps holds at the end, and
    what every step's outputs satisfy all outputs satisfy;
  * `Run.append`, `Run.split` -- runs compose and come apart at any point;
  * `Run.mono` -- a machine with more steps has more runs;
  * `Meeting R C` -- the machine `R` restricted to the steps that meet `C`;
  * `run_unique` -- a machine given by a function has one run over its inputs;
  * `exec`, `exec_run`, `exists_run` -- for a machine given by a fallible function a run is
    computed, and a test of its end is a fact about runs.
-/
import Mathlib.Data.List.Basic

namespace DroneSim.Library

variable {σ ι ο ε : Type}

/-- **A run**: the inputs accepted so far, the outputs so far, the state reached. -/
inductive Run (R : σ → ι → List ο → σ → Prop) (s : σ) : List ι → List ο → σ → Prop where
  | start : Run R s [] [] s
  | step {is : List ι} {os : List ο} {t : σ} {i : ι} {o : List ο} {u : σ}
      (h : Run R s is os t) (hs : R t i o u) : Run R s (is ++ [i]) (os ++ o) u

/-- The steps of `R` that meet the condition `C` on the state before the step and its input. -/
def Meeting (R : σ → ι → List ο → σ → Prop) (C : σ → ι → Prop) : σ → ι → List ο → σ → Prop :=
  fun s i os t => R s i os t ∧ C s i

namespace Run

variable {R S : σ → ι → List ο → σ → Prop} {s t u : σ} {is js : List ι} {os ps : List ο}

/-- **The invariant rule.** -/
theorem invariant {P : σ → Prop} (h : Run R s is os t) (h0 : P s)
    (hstep : ∀ s i o t, P s → R s i o t → P t) : P t := by
  induction h with
  | start => exact h0
  | step _ hs ih => exact hstep _ _ _ _ ih hs

/-- **The output rule**: under an invariant, what holds of each step's outputs holds of all. -/
theorem outputs {P : σ → Prop} {Q : ο → Prop} (h : Run R s is os t) (h0 : P s)
    (hstep : ∀ s i o t, P s → R s i o t → P t)
    (hout : ∀ s i o t, P s → R s i o t → ∀ x ∈ o, Q x) : ∀ x ∈ os, Q x := by
  induction h with
  | start => exact fun x hx => absurd hx List.not_mem_nil
  | step h hs ih =>
      intro x hx
      rcases List.mem_append.mp hx with hx | hx
      · exact ih x hx
      · exact hout _ _ _ _ (h.invariant h0 hstep) hs x hx

theorem mono (h : Run R s is os t) (hRS : ∀ s i o t, R s i o t → S s i o t) :
    Run S s is os t := by
  induction h with
  | start => exact .start
  | step _ hs ih => exact .step ih (hRS _ _ _ _ hs)

theorem of_meeting {C : σ → ι → Prop} (h : Run (Meeting R C) s is os t) : Run R s is os t :=
  h.mono fun _ _ _ _ hs => hs.1

theorem append (h : Run R s is os t) (h' : Run R t js ps u) :
    Run R s (is ++ js) (os ++ ps) u := by
  induction h' with
  | start => simpa using h
  | step _ hs ih =>
      rw [← List.append_assoc, ← List.append_assoc]
      exact .step ih hs

/-- One step as a run. -/
theorem single {i : ι} (h : R s i os t) : Run R s [i] os t := .step .start h

/-- **A run comes apart at any point of its input.** -/
theorem split (h : Run R s (is ++ js) os u) :
    ∃ t os₁ os₂, os = os₁ ++ os₂ ∧ Run R s is os₁ t ∧ Run R t js os₂ u := by
  generalize hks : is ++ js = ks at h
  induction h generalizing js with
  | start =>
      obtain ⟨rfl, rfl⟩ := List.append_eq_nil_iff.mp hks
      exact ⟨s, [], [], rfl, .start, .start⟩
  | @step ks os t i o u h hs ih =>
      rcases List.eq_nil_or_concat js with rfl | ⟨js', j, rfl⟩
      · rw [List.append_nil] at hks
        subst hks
        exact ⟨u, os ++ o, [], (List.append_nil _).symm, .step h hs, .start⟩
      · rw [List.concat_eq_append, ← List.append_assoc] at hks
        obtain ⟨rfl, hj⟩ := List.append_inj' hks rfl
        obtain rfl := List.singleton_inj.mp hj
        obtain ⟨t', os₁, os₂, rfl, h₁, h₂⟩ := ih rfl
        rw [List.concat_eq_append]
        exact ⟨t', os₁, os₂ ++ o, List.append_assoc _ _ _, h₁, .step h₂ hs⟩

/-- The last step of a nonempty run. -/
theorem last {i : ι} (h : Run R s (is ++ [i]) os u) :
    ∃ t os₁ o, os = os₁ ++ o ∧ Run R s is os₁ t ∧ R t i o u := by
  obtain ⟨t, os₁, os₂, rfl, h₁, h₂⟩ := h.split
  generalize hi : [i] = ks at h₂
  cases h₂ with
  | start => cases hi
  | @step ks os' t' i' o u' h' hs =>
      have hi2 : [] ++ [i] = ks ++ [i'] := hi
      obtain ⟨rfl, hi'⟩ := List.append_inj' hi2 rfl
      obtain rfl := List.singleton_inj.mp hi'
      generalize hk : ([] : List ι) = ks at h'
      cases h' with
      | start => exact ⟨t, os₁, o, by simp, h₁, hs⟩
      | step => simp at hk

/-- A run over no input. -/
theorem of_nil (h : Run R s [] os t) : os = [] ∧ t = s := by
  generalize hk : ([] : List ι) = ks at h
  cases h with
  | start => exact ⟨rfl, rfl⟩
  | step => simp at hk

/-- The first step of a nonempty run. -/
theorem first {i : ι} (h : Run R s (i :: is) os u) :
    ∃ t o os', os = o ++ os' ∧ R s i o t ∧ Run R t is os' u := by
  have happend : Run R s ([i] ++ is) os u := h
  obtain ⟨t, o, os', rfl, hfirst, hrest⟩ := happend.split
  have hlast : Run R s ([] ++ [i]) o t := hfirst
  obtain ⟨v, p, q, rfl, hnil, hs⟩ := hlast.last
  obtain ⟨rfl, rfl⟩ := hnil.of_nil
  exact ⟨t, q, os', rfl, hs, hrest⟩

/-- **An output belongs to one step**: the run before it, and the step with what it puts out
    before the output. -/
theorem emitted {x : ο} {before after : List ο} (h : Run R s is (before ++ x :: after) u) :
    ∃ js ks ps t i p q v, is = js ++ i :: ks ∧ Run R s js ps t ∧ R t i (p ++ x :: q) v ∧
      before = ps ++ p := by
  generalize hlog : before ++ x :: after = log at h
  induction h generalizing after with
  | start => simp at hlog
  | @step is os t i o v h hs ih =>
      rcases List.append_eq_append_iff.mp hlog with ⟨p, hos, ho⟩ | ⟨p, hos, ho⟩
      · cases p with
        | nil =>
          rw [List.append_nil] at hos
          rw [List.nil_append] at ho
          subst hos ho
          exact ⟨is, [], _, t, i, [], after, v, rfl, h, hs, (List.append_nil _).symm⟩
        | cons y p =>
          obtain ⟨rfl, -⟩ := List.cons.inj ho
          obtain ⟨js, ks, ps, t', j, p', q, v', rfl, hrest⟩ := ih hos.symm
          exact ⟨js, ks ++ [i], ps, t', j, p', q, v', by simp, hrest⟩
      · subst hos ho
        exact ⟨is, [], os, t, i, p, after, v, rfl, h, hs, rfl⟩

end Run

/-- In a list with one item that passes a test, a split at a passing item is the split there. -/
theorem split_unique {p : ο → Bool} {a b c d : List ο} {x y : ο} (h : a ++ x :: b = c ++ y :: d)
    (hc : ∀ z ∈ c, p z = false) (hd : ∀ z ∈ d, p z = false) (hx : p x = true) :
    a = c ∧ x = y := by
  rcases List.append_eq_append_iff.mp h with ⟨e, rfl, he⟩ | ⟨e, rfl, he⟩
  · cases e with
    | nil => exact ⟨(List.append_nil a).symm, (List.cons.inj he).1⟩
    | cons z e =>
      obtain ⟨rfl, -⟩ := List.cons.inj he
      rw [hc x (by simp)] at hx
      cases hx
  · cases e with
    | nil => exact ⟨List.append_nil c, (List.cons.inj he).1.symm⟩
    | cons z e =>
      obtain ⟨-, rfl⟩ := List.cons.inj he
      rw [hd x (by simp)] at hx
      cases hx

/-- **A split of an appended list** is at an item of its first part, or of its second. -/
theorem split_append {a b c d : List ο} {x : ο} (h : a ++ b = c ++ x :: d) :
    (∃ e, a = c ++ x :: e ∧ d = e ++ b) ∨ ∃ e, c = a ++ e ∧ b = e ++ x :: d := by
  rcases List.append_eq_append_iff.mp h with ⟨e, hc, hb⟩ | ⟨e, ha, hx⟩
  · exact Or.inr ⟨e, hc, hb⟩
  · cases e with
    | nil => exact Or.inr ⟨[], by rw [ha, List.append_nil, List.append_nil], hx.symm⟩
    | cons y e =>
      obtain ⟨rfl, hd⟩ := List.cons.inj hx
      exact Or.inl ⟨e, ha, hd⟩

/-! ## Machines given by a function -/

/-- The steps of a fallible step function. -/
def Steps (f : σ → ι → Except ε (σ × List ο)) : σ → ι → List ο → σ → Prop :=
  fun s i os t => f s i = .ok (t, os)

/-- **A machine given by a function has one run over its inputs.** -/
theorem run_unique {f : σ → ι → Except ε (σ × List ο)} {s t u : σ} {is : List ι} {os ps : List ο}
    (h : Run (Steps f) s is os t) (h' : Run (Steps f) s is ps u) : os = ps ∧ t = u := by
  induction h generalizing ps u with
  | start =>
      generalize hi : ([] : List ι) = ks at h'
      cases h' with
      | start => exact ⟨rfl, rfl⟩
      | step => simp at hi
  | @step ks os t i o v h hs ih =>
      obtain ⟨t', ps₁, o', rfl, h₁, hs'⟩ := h'.last
      obtain ⟨rfl, rfl⟩ := ih h₁
      have e : Except.ok (v, o) = Except.ok (u, o') := hs.symm.trans hs'
      cases e
      exact ⟨rfl, rfl⟩

/-- Feeds the inputs one after another while each is accepted and meets `C`. -/
def exec (f : σ → ι → Except ε (σ × List ο)) (C : σ → ι → Bool) :
    σ → List ι → Option (σ × List ο)
  | s, [] => some (s, [])
  | s, i :: is =>
    if C s i then
      match f s i with
      | .error _ => none
      | .ok (t, o) => (exec f C t is).map fun r => (r.1, o ++ r.2)
    else none

/-- **What `exec` computes is a run.** -/
theorem exec_run (f : σ → ι → Except ε (σ × List ο)) (C : σ → ι → Bool) :
    ∀ {is : List ι} {s t : σ} {os : List ο}, exec f C s is = some (t, os) →
      Run (Meeting (Steps f) fun s i => C s i = true) s is os t
  | [], s, t, os, h => by
      simp only [exec, Option.some.injEq, Prod.mk.injEq] at h
      obtain ⟨rfl, rfl⟩ := h
      exact .start
  | i :: is, s, t, os, h => by
      unfold exec at h
      split at h
      · rename_i hC
        split at h
        · cases h
        · rename_i t' o hf
          obtain ⟨r, hr, e⟩ := Option.map_eq_some_iff.mp h
          cases e
          have h1 : Run (Meeting (Steps f) fun s i => C s i = true) s [i] o t' :=
            .single ⟨hf, hC⟩
          exact h1.append (exec_run f C hr)
      · cases h

/-- A test that the end of a computed run passes, as a run. -/
theorem exists_run {f : σ → ι → Except ε (σ × List ο)} {C : σ → ι → Bool} {s : σ} {l : List ι}
    {p : σ → List ο → Bool} (h : (exec f C s l).any (fun r => p r.1 r.2) = true) :
    ∃ t os, Run (Meeting (Steps f) fun s i => C s i = true) s l os t ∧ p t os = true := by
  rw [Option.any_eq_true] at h
  obtain ⟨r, hr, hp⟩ := h
  exact ⟨r.1, r.2, exec_run f C hr, hp⟩

/-- The next input is accepted, meets `C`, and the step passes the test `p`. -/
def passes (f : σ → ι → Except ε (σ × List ο)) (C : σ → ι → Bool) (i : ι)
    (p : σ → List ο → σ → Bool) (t : σ) : Bool :=
  C t i && match f t i with
    | .ok (u, o) => p t o u
    | .error _ => false

/-- A test that one more step after a computed run passes. -/
theorem exists_run_step {f : σ → ι → Except ε (σ × List ο)} {C : σ → ι → Bool} {s : σ}
    {is : List ι} {i : ι} {p : σ → List ο → σ → Bool}
    (h : (exec f C s is).any (fun r => passes f C i p r.1) = true) :
    ∃ t os o u, Run (Meeting (Steps f) fun s i => C s i = true) s is os t ∧
      Meeting (Steps f) (fun s i => C s i = true) t i o u ∧ p t o u = true := by
  obtain ⟨t, os, hrun, hp⟩ := exists_run (p := fun t _ => passes f C i p t) h
  unfold passes at hp
  rw [Bool.and_eq_true] at hp
  obtain ⟨hC, hp⟩ := hp
  split at hp
  · rename_i u o hf
    exact ⟨t, os, o, u, hrun, ⟨hf, hC⟩, hp⟩
  · cases hp

end DroneSim.Library
