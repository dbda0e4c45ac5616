/-
  File:      DroneSim/Companion/AttemptFailure.lean
  Subject:   The outcome of a hosted attempt (comp2026_host.py, AttemptFailureCoordinator;
             runtime_node.py, write_runtime_failure; lifecycle.py, observe_terminal).

  A failure is recorded under the coordinator's lock; its side effects, and a recovery, follow
  outside the lock, between steps of the other threads. The success is written under the lock.

  * `Stage.step` -- the two side effects of a failure and the recovery pass through one thread each;
  * `one_outcome` -- **one failure, one recovery; and one outcome exactly while nothing fails after
    the success has been written**;
  * `both_outcomes` -- a late failure.
-/
import DroneSim.Library.Run
import Mathlib.Logic.Function.Basic

namespace DroneSim

open Library

/-! ## 1. The host -/

/-- What a thread still has to do outside the lock; `answer` is what its call returns then. -/
inductive AttemptCall where
  /-- `_complete_failure`, before `stop_attempt`. -/
  | stopping (reason : String) (answer : Bool)
  /-- Before `write_failure`. -/
  | writing (reason : String) (answer : Bool)
  /-- Before `recover`. -/
  | recovering
  deriving DecidableEq, Repr

/-- The coordinator's fields, the lifecycle's and the run's status files. -/
structure AttemptHost where
  failureReason : Option String
  recoveryClaimed : Bool
  /-- `CompanionLifecycle._terminal`. -/
  terminal : Bool
  /-- `runtime_failure_written`. -/
  runtimeFailureWritten : Bool
  /-- The `MissionFinished` status is in its file. -/
  missionFinished : Bool
  calls : ℕ → Option AttemptCall

/-- How a write and the log event behind it end; `none` where they return. -/
structure StatusAnswer where
  write : Option String
  emit : Option String
  deriving DecidableEq, Repr

/-- The operation of a `finish_success`. -/
inductive SuccessOperation where
  /-- `observe_terminal` of a landed mission. -/
  | landed (answer : StatusAnswer)
  /-- Another one, with what it raises. -/
  | other (error : Option String)
  deriving DecidableEq, Repr

/-- One step of some thread. -/
inductive AttemptStep where
  /-- `guard_input`, with what its operation raises. -/
  | guardInput (thread : ℕ) (name : String) (error : Option String)
  /-- `fail`. -/
  | fail (thread : ℕ) (reason : String)
  /-- `stop_attempt`. -/
  | stopAttempt (thread : ℕ)
  /-- `write_failure`. -/
  | writeFailure (thread : ℕ) (answer : StatusAnswer)
  /-- `finish_success`. -/
  | finishSuccess (thread : ℕ) (operation : SuccessOperation)
  /-- `recover_once`, up to the claim. -/
  | recoverOnce (thread : ℕ)
  /-- The recovery that was claimed. -/
  | recover (thread : ℕ)
  deriving DecidableEq, Repr

/-- What happens in a step. -/
inductive AttemptNote where
  | recorded (reason : String)
  | stopAttempt (reason : String)
  | writeFailure (reason : String)
  /-- The `RuntimeFailure` status is in its file. -/
  | runtimeFailure (reason : String)
  | missionFinished
  | recovered
  /-- A call returned this. -/
  | returned (value : Bool)
  | raised (detail : String)
  deriving DecidableEq, Repr

namespace AttemptHost

variable (h : AttemptHost) (thread : ℕ)

def fresh : AttemptHost := ⟨none, false, false, false, false, fun _ => none⟩

def setCall (call : Option AttemptCall) : AttemptHost :=
  { h with calls := Function.update h.calls thread call }

/-- Under the lock: the first failure, of a call that answers so. -/
def claim (reason : String) (answer : Bool) : AttemptHost × List AttemptNote :=
  ({ h with failureReason := some reason }.setCall thread (some (.stopping reason answer)),
    [.recorded reason])

/-- `guard_input`. -/
def guardInput (name : String) (error : Option String) : AttemptHost × List AttemptNote :=
  match h.failureReason, error with
  | some _, _ => (h, [.returned false])
  | none, none => (h, [.returned true])
  | none, some error => h.claim thread s!"competition {name} input failed: {error}" false

/-- `fail`. -/
def fail (reason : String) : AttemptHost × List AttemptNote :=
  match h.failureReason with
  | some _ => (h, [.returned false])
  | none => h.claim thread reason true

/-- `stop_attempt`. -/
def stopAttempt (h : AttemptHost) (thread : ℕ) : Except String (AttemptHost × List AttemptNote) :=
  match h.calls thread with
  | some (.stopping reason value) =>
    .ok (h.setCall thread (some (.writing reason value)), [AttemptNote.stopAttempt reason])
  | _ => .error "the thread does not stop the attempt"

/-- `record_attempt_failure`, the status under the lock of `write_runtime_failure`. -/
def writeFailure (h : AttemptHost) (thread : ℕ) (answer : StatusAnswer) :
    Except String (AttemptHost × List AttemptNote) :=
  match h.calls thread with
  | some (.writing reason value) =>
    let done := h.setCall thread none
    match answer.emit with
    | some error => .ok (done, [.writeFailure reason, .raised error])
    | none =>
      if h.runtimeFailureWritten then .ok (done, [.writeFailure reason, .returned value])
      else match answer.write with
        | some error => .ok (done, [.writeFailure reason, .raised error])
        | none => .ok ({ done with runtimeFailureWritten := true },
            [.writeFailure reason, .runtimeFailure reason, .returned value])
  | _ => .error "the thread does not write a failure"

/-- `observe_terminal` of a landed mission. -/
def observeLanded (answer : StatusAnswer) : AttemptHost × List AttemptNote :=
  if h.terminal then (h, [.returned true])
  else match answer.write with
    | some error => (h, [.raised error])
    | none => match answer.emit with
      | some error => ({ h with missionFinished := true }, [.missionFinished, .raised error])
      | none => ({ h with missionFinished := true, terminal := true },
          [.missionFinished, .returned true])

/-- `finish_success`. -/
def finishSuccess (operation : SuccessOperation) : AttemptHost × List AttemptNote :=
  match h.failureReason, operation with
  | some _, _ => (h, [.returned false])
  | none, .landed answer => h.observeLanded answer
  | none, .other (some error) => (h, [.raised error])
  | none, .other none => (h, [.returned true])

/-- `recover_once`, up to the claim. -/
def recoverOnce : AttemptHost × List AttemptNote :=
  if h.failureReason.isNone || h.recoveryClaimed then (h, [.returned false])
  else ({ h with recoveryClaimed := true }.setCall thread (some .recovering), [])

/-- The recovery; it catches what its actions raise. -/
def recover : Except String (AttemptHost × List AttemptNote) :=
  match h.calls thread with
  | some .recovering => .ok (h.setCall thread none, [.recovered, .returned true])
  | _ => .error "the thread has claimed no recovery"

/-- A call begins in a thread that is in none. -/
def begins (r : AttemptHost × List AttemptNote) : Except String (AttemptHost × List AttemptNote) :=
  match h.calls thread with
  | none => .ok r
  | some _ => .error "the thread is inside a call"

/-- One step. -/
def step : AttemptStep → Except String (AttemptHost × List AttemptNote)
  | .guardInput thread name error => h.begins thread (h.guardInput thread name error)
  | .fail thread reason => h.begins thread (h.fail thread reason)
  | .stopAttempt thread => h.stopAttempt thread
  | .writeFailure thread answer => h.writeFailure thread answer
  | .finishSuccess thread operation => h.begins thread (h.finishSuccess operation)
  | .recoverOnce thread => h.begins thread (h.recoverOnce thread)
  | .recover thread => h.recover thread

/-- A call that records a failure if none is recorded. -/
def fails : AttemptStep → Bool
  | .guardInput _ _ error => error.isSome
  | .fail _ _ => true
  | _ => false

/-- Nothing fails that has succeeded: a failing call comes before the success is written. -/
def InTime (i : AttemptStep) : Prop := h.missionFinished = true → fails i = false

/-! ## 2. What a step does -/

/-- A note without an effect. -/
def quiet (o : AttemptNote) : Bool :=
  match o with
  | .returned _ => true
  | .raised _ => true
  | _ => false

variable {h t : AttemptHost} {i : AttemptStep} {os o : List AttemptNote}

/-- **The steps by their effects.** -/
inductive Effect (h : AttemptHost) (i : AttemptStep) : AttemptHost → List AttemptNote → Prop where
  | nothing {o : List AttemptNote} (hno : fails i = true → h.failureReason.isSome = true)
      (ho : ∀ x ∈ o, quiet x = true) : Effect h i h o
  | record {thread : ℕ} {reason : String} {value : Bool} (hi : fails i = true)
      (hnone : h.failureReason = none) (hfree : h.calls thread = none) :
      Effect h i (h.claim thread reason value).1 [.recorded reason]
  | stop {thread : ℕ} {reason : String} {value : Bool} (hi : fails i = false)
      (hcall : h.calls thread = some (.stopping reason value)) :
      Effect h i (h.setCall thread (some (.writing reason value))) [AttemptNote.stopAttempt reason]
  | write {thread : ℕ} {reason : String} {value written : Bool} {o : List AttemptNote}
      (hi : fails i = false) (hcall : h.calls thread = some (.writing reason value))
      (ho : ∀ x ∈ o, quiet x = true ∨ x = .runtimeFailure reason) :
      Effect h i { h.setCall thread none with runtimeFailureWritten := written }
        (.writeFailure reason :: o)
  | finish {terminal : Bool} {o : List AttemptNote} (hi : fails i = false)
      (hnone : h.failureReason = none) (ho : ∀ x ∈ o, quiet x = true) :
      Effect h i { h with missionFinished := true, terminal := terminal } (.missionFinished :: o)
  | claim {thread : ℕ} (hi : fails i = false) (hsome : h.failureReason.isSome = true)
      (hnot : h.recoveryClaimed = false) (hfree : h.calls thread = none) :
      Effect h i ({ h with recoveryClaimed := true }.setCall thread (some .recovering)) []
  | recover {thread : ℕ} (hi : fails i = false) (hcall : h.calls thread = some .recovering) :
      Effect h i (h.setCall thread none) [.recovered, .returned true]

theorem begins_ok {thread : ℕ} {r : AttemptHost × List AttemptNote}
    (hstep : h.begins thread r = .ok (t, o)) : h.calls thread = none ∧ r = (t, o) := by
  unfold begins at hstep
  split at hstep
  · cases hstep
    exact ⟨by assumption, rfl⟩
  · cases hstep

theorem observeLanded_effect (hnone : h.failureReason = none) {answer : StatusAnswer}
    (hi : fails i = false) (hr : h.observeLanded answer = (t, o)) : Effect h i t o := by
  unfold observeLanded at hr
  split at hr
  · cases hr
    exact .nothing (fun hf => by rw [hi] at hf; cases hf) (by simp [quiet])
  · split at hr
    · cases hr
      exact .nothing (fun hf => by rw [hi] at hf; cases hf) (by simp [quiet])
    · split at hr
      · cases hr
        exact @Effect.finish h i h.terminal _ hi hnone (by simp [quiet])
      · cases hr
        exact .finish hi hnone (by simp [quiet])

/-- **Every step has one of these effects.** -/
theorem step_effect (hstep : h.step i = .ok (t, o)) : Effect h i t o := by
  cases i with
  | guardInput thread name error =>
    obtain ⟨hfree, hr⟩ := begins_ok hstep
    unfold guardInput at hr
    split at hr
    · rename_i reason hreason
      cases hr
      exact .nothing (fun _ => by rw [hreason]; rfl) (by simp [quiet])
    · cases hr
      exact .nothing (fun hf => by cases hf) (by simp [quiet])
    · rename_i hnone
      cases hr
      exact .record rfl hnone hfree
  | fail thread reason =>
    obtain ⟨hfree, hr⟩ := begins_ok hstep
    unfold AttemptHost.fail at hr
    split at hr
    · rename_i reason' hreason
      cases hr
      exact .nothing (fun _ => by rw [hreason]; rfl) (by simp [quiet])
    · rename_i hnone
      cases hr
      exact .record rfl hnone hfree
  | stopAttempt thread =>
    change h.stopAttempt thread = _ at hstep
    unfold stopAttempt at hstep
    split at hstep
    · rename_i reason value hcall
      cases hstep
      exact .stop rfl hcall
    · cases hstep
  | writeFailure thread answer =>
    change h.writeFailure thread answer = _ at hstep
    unfold writeFailure at hstep
    split at hstep
    · rename_i reason value hcall
      dsimp only at hstep
      split at hstep
      · cases hstep
        exact @Effect.write h _ thread reason value h.runtimeFailureWritten _ rfl hcall (by simp [quiet])
      · split at hstep
        · cases hstep
          exact @Effect.write h _ thread reason value h.runtimeFailureWritten _ rfl hcall
            (by simp [quiet])
        · split at hstep
          · cases hstep
            exact @Effect.write h _ thread reason value h.runtimeFailureWritten _ rfl hcall
              (by simp [quiet])
          · cases hstep
            exact .write rfl hcall (by simp [quiet])
    · cases hstep
  | finishSuccess thread operation =>
    obtain ⟨-, hr⟩ := begins_ok hstep
    unfold finishSuccess at hr
    split at hr
    · cases hr
      exact .nothing (fun hf => by cases hf) (by simp [quiet])
    · rename_i hnone
      exact observeLanded_effect hnone rfl hr
    · cases hr
      exact .nothing (fun hf => by cases hf) (by simp [quiet])
    · cases hr
      exact .nothing (fun hf => by cases hf) (by simp [quiet])
  | recoverOnce thread =>
    obtain ⟨hfree, hr⟩ := begins_ok hstep
    unfold recoverOnce at hr
    split at hr
    · cases hr
      exact .nothing (fun hf => by cases hf) (by simp [quiet])
    · rename_i hopen
      cases hr
      rw [Bool.or_eq_true, not_or, Bool.not_eq_true, Bool.not_eq_true] at hopen
      exact .claim rfl (Option.isNone_eq_false_iff.mp hopen.1) hopen.2 hfree
  | recover thread =>
    change h.recover thread = _ at hstep
    unfold AttemptHost.recover at hstep
    split at hstep
    · rename_i hcall
      cases hstep
      exact .recover rfl hcall
    · cases hstep

/-! ## 3. What a run has done -/

def recordedOf (os : List AttemptNote) : List String :=
  os.filterMap fun o => match o with
    | .recorded reason => some reason
    | _ => none

def stopsOf (os : List AttemptNote) : List String :=
  os.filterMap fun o => match o with
    | .stopAttempt reason => some reason
    | _ => none

def writesOf (os : List AttemptNote) : List String :=
  os.filterMap fun o => match o with
    | .writeFailure reason => some reason
    | _ => none

def recoveries (os : List AttemptNote) : ℕ := os.count .recovered

theorem recordedOf_append (os o : List AttemptNote) :
    recordedOf (os ++ o) = recordedOf os ++ recordedOf o := List.filterMap_append

theorem stopsOf_append (os o : List AttemptNote) :
    stopsOf (os ++ o) = stopsOf os ++ stopsOf o := List.filterMap_append

theorem writesOf_append (os o : List AttemptNote) :
    writesOf (os ++ o) = writesOf os ++ writesOf o := List.filterMap_append

theorem recoveries_append (os o : List AttemptNote) :
    recoveries (os ++ o) = recoveries os + recoveries o := List.count_append

theorem quiet_cases {x : AttemptNote} (h : quiet x = true) :
    (∃ value, x = .returned value) ∨ ∃ detail, x = .raised detail := by
  cases x with
  | returned value => exact Or.inl ⟨value, rfl⟩
  | raised detail => exact Or.inr ⟨detail, rfl⟩
  | recorded _ => cases h
  | stopAttempt _ => cases h
  | writeFailure _ => cases h
  | runtimeFailure _ => cases h
  | missionFinished => cases h
  | recovered => cases h

/-- Notes without an effect, and a status file, count for nothing. -/
theorem projections_quiet (h : ∀ x ∈ o, quiet x = true ∨ ∃ reason, x = .runtimeFailure reason) :
    recordedOf o = [] ∧ stopsOf o = [] ∧ writesOf o = [] ∧ recoveries o = 0 ∧
      .missionFinished ∉ o := by
  have hcases : ∀ x ∈ o, (∃ value, x = .returned value) ∨ (∃ detail, x = .raised detail) ∨
      ∃ reason, x = .runtimeFailure reason := fun x hx =>
    (h x hx).elim (fun hq => (quiet_cases hq).imp_right Or.inl) fun hr => Or.inr (Or.inr hr)
  refine ⟨List.filterMap_eq_nil_iff.mpr fun x hx => ?_,
    List.filterMap_eq_nil_iff.mpr fun x hx => ?_,
    List.filterMap_eq_nil_iff.mpr fun x hx => ?_, List.count_eq_zero.mpr fun hx => ?_, fun hx => ?_⟩
  · rcases hcases x hx with ⟨_, rfl⟩ | ⟨_, rfl⟩ | ⟨_, rfl⟩ <;> rfl
  · rcases hcases x hx with ⟨_, rfl⟩ | ⟨_, rfl⟩ | ⟨_, rfl⟩ <;> rfl
  · rcases hcases x hx with ⟨_, rfl⟩ | ⟨_, rfl⟩ | ⟨_, rfl⟩ <;> rfl
  · rcases hcases _ hx with ⟨_, he⟩ | ⟨_, he⟩ | ⟨_, he⟩ <;> cases he
  · rcases hcases _ hx with ⟨_, he⟩ | ⟨_, he⟩ | ⟨_, he⟩ <;> cases he

/-- The thread has a side effect of a failure before it. -/
def Completing (call : Option AttemptCall) : Prop :=
  ∃ reason value, call = some (.stopping reason value) ∨ call = some (.writing reason value)

/-- Where the side effects of a recorded failure are. -/
inductive Passing (calls : ℕ → Option AttemptCall) (os : List AttemptNote) (reason : String) :
    Prop where
  | stopping (thread : ℕ) {value : Bool} (hcall : calls thread = some (.stopping reason value))
      (hothers : ∀ u, u ≠ thread → ¬ Completing (calls u)) (hstops : stopsOf os = [])
      (hwrites : writesOf os = [])
  | writing (thread : ℕ) {value : Bool} (hcall : calls thread = some (.writing reason value))
      (hothers : ∀ u, u ≠ thread → ¬ Completing (calls u)) (hstops : stopsOf os = [reason])
      (hwrites : writesOf os = [])
  | done (hothers : ∀ u, ¬ Completing (calls u)) (hstops : stopsOf os = [reason])
      (hwrites : writesOf os = [reason])

/-- **The failure and its side effects**, behind a run with these notes. -/
structure Stage (h : AttemptHost) (os : List AttemptNote) : Prop where
  recorded : recordedOf os = h.failureReason.toList
  clear : h.failureReason = none → stopsOf os = [] ∧ writesOf os = [] ∧
    ∀ u, ¬ Completing (h.calls u)
  passing : ∀ reason, h.failureReason = some reason → Passing h.calls os reason
  status : ∀ reason, AttemptNote.runtimeFailure reason ∈ os → h.failureReason.isSome = true

/-- Where the recovery is. -/
inductive Recovering (h : AttemptHost) (os : List AttemptNote) : Prop where
  | unclaimed (hnot : h.recoveryClaimed = false) (hothers : ∀ u, h.calls u ≠ some .recovering)
      (hcount : recoveries os = 0)
  | claimed (hclaimed : h.recoveryClaimed = true) (hfailed : h.failureReason.isSome = true)
      (thread : ℕ) (hcall : h.calls thread = some .recovering)
      (hothers : ∀ u, u ≠ thread → h.calls u ≠ some .recovering) (hcount : recoveries os = 0)
  | done (hclaimed : h.recoveryClaimed = true) (hfailed : h.failureReason.isSome = true)
      (hothers : ∀ u, h.calls u ≠ some .recovering) (hcount : recoveries os = 1)

/-! ## 4. Steps -/

theorem not_completing_none : ¬ Completing none :=
  fun ⟨_, _, hc⟩ => hc.elim (fun e => by cases e) fun e => by cases e

theorem not_completing_recovering : ¬ Completing (some .recovering) :=
  fun ⟨_, _, hc⟩ => hc.elim (fun e => by cases e) fun e => by cases e

section Calls

variable {calls : ℕ → Option AttemptCall} {thread : ℕ} {call : Option AttemptCall}
  {reason : String}

theorem others_update (h : ∀ u, ¬ Completing (calls u)) (hcall : ¬ Completing call) (u : ℕ) :
    ¬ Completing (Function.update calls thread call u) := by
  by_cases hu : u = thread
  · rw [hu, Function.update_self]
    exact hcall
  · rw [Function.update_of_ne hu]
    exact h u

theorem others_set (h : ∀ u, u ≠ thread → ¬ Completing (calls u)) {u : ℕ} (hu : u ≠ thread) :
    ¬ Completing (Function.update calls thread call u) := by
  rw [Function.update_of_ne hu]
  exact h u hu

/-- A thread that has nothing to do with the failure. -/
theorem Passing.beside (h : Passing calls os reason) (hbefore : ¬ Completing (calls thread))
    (hafter : ¬ Completing call) : Passing (Function.update calls thread call) os reason := by
  have hne : ∀ {u : ℕ}, Completing (calls u) → u ≠ thread := fun hu he => hbefore (he ▸ hu)
  have hothers : ∀ {w : ℕ}, (∀ u, u ≠ w → ¬ Completing (calls u)) →
      ∀ u, u ≠ w → ¬ Completing (Function.update calls thread call u) := by
    intro w hall u hu
    by_cases he : u = thread
    · rw [he, Function.update_self]
      exact hafter
    · rw [Function.update_of_ne he]
      exact hall u hu
  cases h with
  | stopping w hcall hall hstops hwrites =>
    have hkept := Function.update_of_ne (hne ⟨reason, _, Or.inl hcall⟩) call calls
    exact .stopping w (hkept.trans hcall) (hothers hall) hstops hwrites
  | writing w hcall hall hstops hwrites =>
    have hkept := Function.update_of_ne (hne ⟨reason, _, Or.inr hcall⟩) call calls
    exact .writing w (hkept.trans hcall) (hothers hall) hstops hwrites
  | done hall hstops hwrites => exact .done (others_update hall hafter) hstops hwrites

/-- Notes that are no side effect. -/
theorem Passing.notes (h : Passing calls os reason) (hstops : stopsOf o = [])
    (hwrites : writesOf o = []) : Passing calls (os ++ o) reason := by
  cases h with
  | stopping w hcall hall hs hw =>
    exact .stopping w hcall hall (by rw [stopsOf_append, hs, hstops]; rfl)
      (by rw [writesOf_append, hw, hwrites]; rfl)
  | writing w hcall hall hs hw =>
    exact .writing w hcall hall (by rw [stopsOf_append, hs, hstops]; rfl)
      (by rw [writesOf_append, hw, hwrites]; rfl)
  | done hall hs hw =>
    exact .done hall (by rw [stopsOf_append, hs, hstops]; rfl)
      (by rw [writesOf_append, hw, hwrites]; rfl)

/-- **The attempt is stopped** by the thread that recorded the failure. -/
theorem Passing.stop {r : String} {value : Bool} (h : Passing calls os reason)
    (hcall : calls thread = some (.stopping r value)) :
    Passing (Function.update calls thread (some (.writing r value)))
      (os ++ [AttemptNote.stopAttempt r]) reason := by
  have hmine : Completing (calls thread) := ⟨r, value, Or.inl hcall⟩
  cases h with
  | stopping w hw hall hs hws =>
    obtain rfl : thread = w := by_contra fun hne => hall thread hne hmine
    rw [hcall] at hw
    cases hw
    refine .writing thread (Function.update_self ..) (fun u hu => others_set hall hu) ?_ ?_
    · rw [stopsOf_append, hs]
      rfl
    · rw [writesOf_append, hws]
      rfl
  | writing w hw hall hs hws =>
    obtain rfl : thread = w := by_contra fun hne => hall thread hne hmine
    rw [hcall] at hw
    cases hw
  | done hall hs hws => exact absurd hmine (hall thread)

/-- **The failure is written** by the same thread. -/
theorem Passing.write {r : String} {value : Bool} (h : Passing calls os reason)
    (hcall : calls thread = some (.writing r value)) (hstops : stopsOf o = [])
    (hwrites : writesOf o = []) :
    Passing (Function.update calls thread none) (os ++ AttemptNote.writeFailure r :: o) reason := by
  have hmine : Completing (calls thread) := ⟨r, value, Or.inr hcall⟩
  cases h with
  | stopping w hw hall hs hws =>
    obtain rfl : thread = w := by_contra fun hne => hall thread hne hmine
    rw [hcall] at hw
    cases hw
  | writing w hw hall hs hws =>
    obtain rfl : thread = w := by_contra fun hne => hall thread hne hmine
    rw [hcall] at hw
    cases hw
    refine .done (fun u => ?_) ?_ ?_
    · by_cases hu : u = thread
      · rw [hu, Function.update_self]
        exact not_completing_none
      · exact others_set hall hu
    · rw [stopsOf_append, hs]
      change [reason] ++ stopsOf o = [reason]
      rw [hstops]
      rfl
    · rw [writesOf_append, hws]
      change [] ++ reason :: writesOf o = [reason]
      rw [hwrites]
      rfl
  | done hall hs hws => exact absurd hmine (hall thread)

end Calls

/-- A thread completes a failure only where one is recorded. -/
theorem Stage.failed (hs : Stage h os) {thread : ℕ} (hcall : Completing (h.calls thread)) :
    ∃ reason, h.failureReason = some reason := by
  cases hreason : h.failureReason with
  | none => exact absurd hcall ((hs.clear hreason).2.2 thread)
  | some reason => exact ⟨reason, rfl⟩

/-- **One step of the failure's side effects.** -/
theorem Stage.effect (hs : Stage h os) (he : Effect h i t o) : Stage t (os ++ o) := by
  cases he with
  | nothing hno ho =>
    obtain ⟨hr, hst, hw, -, -⟩ := projections_quiet fun x hx => Or.inl (ho x hx)
    refine ⟨?_, fun hnone => ?_, fun reason hreason => (hs.passing reason hreason).notes hst hw,
      fun reason hmem => ?_⟩
    · rw [recordedOf_append, hr, List.append_nil]
      exact hs.recorded
    · obtain ⟨hstops, hwrites, hall⟩ := hs.clear hnone
      exact ⟨by rw [stopsOf_append, hst, hstops]; rfl,
        by rw [writesOf_append, hw, hwrites]; rfl, hall⟩
    · rcases List.mem_append.mp hmem with hmem | hmem
      · exact hs.status reason hmem
      · cases ho _ hmem
  | @record thread reason value hi hnone hfree =>
    obtain ⟨hstops, hwrites, hall⟩ := hs.clear hnone
    refine ⟨?_, (fun hsome => by cases hsome), fun reason' hreason' => ?_, fun _ _ => rfl⟩
    · rw [recordedOf_append, hs.recorded, hnone]
      rfl
    · cases hreason'
      refine .stopping thread (Function.update_self ..)
        (fun u hu => others_set (fun v _ => hall v) hu) ?_ ?_
      · rw [stopsOf_append, hstops]
        rfl
      · rw [writesOf_append, hwrites]
        rfl
  | @stop thread r value hi hcall =>
    obtain ⟨reason, hreason⟩ := hs.failed ⟨r, value, Or.inl hcall⟩
    have hsome : (h.setCall thread (some (.writing r value))).failureReason = some reason := hreason
    refine ⟨?_, fun hnone => ?_, fun reason' hreason' => ?_, fun _ _ => by rw [hsome]; rfl⟩
    · rw [recordedOf_append, hs.recorded]
      exact List.append_nil _
    · rw [hsome] at hnone
      cases hnone
    · exact (hs.passing reason' hreason').stop hcall
  | @write thread r value written o hi hcall ho =>
    obtain ⟨reason, hreason⟩ := hs.failed ⟨r, value, Or.inr hcall⟩
    obtain ⟨hr, hst, hw, -, -⟩ := projections_quiet fun x hx => (ho x hx).imp_right fun e => ⟨r, e⟩
    refine ⟨?_, fun hnone => ?_, fun reason' hreason' => ?_, fun _ _ => ?_⟩
    · rw [recordedOf_append, hs.recorded]
      change h.failureReason.toList ++ recordedOf o = h.failureReason.toList
      rw [hr, List.append_nil]
    · have hnone' : h.failureReason = none := hnone
      rw [hreason] at hnone'
      cases hnone'
    · exact (hs.passing reason' hreason').write hcall hst hw
    · show h.failureReason.isSome = true
      rw [hreason]
      rfl
  | @finish terminal o hi hnone ho =>
    obtain ⟨hr, hst, hw, -, -⟩ := projections_quiet fun x hx => Or.inl (ho x hx)
    obtain ⟨hstops, hwrites, hall⟩ := hs.clear hnone
    refine ⟨?_, fun _ => ⟨?_, ?_, hall⟩, fun reason hreason => ?_, fun reason hmem => ?_⟩
    · rw [recordedOf_append, hs.recorded]
      change h.failureReason.toList ++ recordedOf o = h.failureReason.toList
      rw [hr, List.append_nil]
    · rw [stopsOf_append, hstops]
      exact hst
    · rw [writesOf_append, hwrites]
      exact hw
    · have hsome : h.failureReason = some reason := hreason
      rw [hnone] at hsome
      cases hsome
    · rcases List.mem_append.mp hmem with hmem | hmem
      · exact hs.status reason hmem
      · rcases List.mem_cons.mp hmem with e | hmem
        · cases e
        · cases ho _ hmem
  | @claim thread hi hsome hnot hfree =>
    rw [List.append_nil]
    have hbefore : ¬ Completing (h.calls thread) := hfree ▸ not_completing_none
    refine ⟨hs.recorded, fun hnone => ?_, fun reason hreason =>
      (hs.passing reason hreason).beside hbefore not_completing_recovering, hs.status⟩
    have hnone' : h.failureReason = none := hnone
    rw [hnone'] at hsome
    cases hsome
  | @recover thread hi hcall =>
    have hbefore : ¬ Completing (h.calls thread) := hcall ▸ not_completing_recovering
    refine ⟨?_, fun hnone => ?_, fun reason hreason =>
      ((hs.passing reason hreason).beside hbefore not_completing_none).notes rfl rfl,
      fun reason hmem => hs.status reason (by simpa using hmem)⟩
    · rw [recordedOf_append, hs.recorded]
      exact List.append_nil _
    · obtain ⟨hstops, hwrites, hall⟩ := hs.clear hnone
      refine ⟨?_, ?_, fun u => others_update hall not_completing_none u⟩
      · rw [stopsOf_append, hstops]
        rfl
      · rw [writesOf_append, hwrites]
        rfl

section Recovery

variable {calls : ℕ → Option AttemptCall} {thread : ℕ} {call : Option AttemptCall}

theorem no_recovery_update (h : ∀ u, calls u ≠ some .recovering) (hcall : call ≠ some .recovering)
    (u : ℕ) : Function.update calls thread call u ≠ some .recovering := by
  by_cases hu : u = thread
  · rw [hu, Function.update_self]
    exact hcall
  · rw [Function.update_of_ne hu]
    exact h u

/-- A thread that has nothing to do with the recovery, and notes that are none. -/
theorem Recovering.beside (hs : Recovering h os) (hclaimed : t.recoveryClaimed = h.recoveryClaimed)
    (hfailed : h.failureReason.isSome = true → t.failureReason.isSome = true)
    (hcalls : t.calls = Function.update h.calls thread call)
    (hbefore : h.calls thread ≠ some .recovering) (hafter : call ≠ some .recovering)
    (ho : recoveries o = 0) : Recovering t (os ++ o) := by
  have hcount : recoveries (os ++ o) = recoveries os := by rw [recoveries_append, ho, Nat.add_zero]
  cases hs with
  | unclaimed hnot hothers hzero =>
    refine .unclaimed (hclaimed.trans hnot) ?_ (hcount.trans hzero)
    rw [hcalls]
    exact no_recovery_update hothers hafter
  | claimed hyes hfail w hw hothers hzero =>
    have hne : w ≠ thread := fun e => hbefore (e ▸ hw)
    refine .claimed (hclaimed.trans hyes) (hfailed hfail) w ?_ (fun u hu => ?_) (hcount.trans hzero)
    · rw [hcalls, Function.update_of_ne hne]
      exact hw
    · rw [hcalls]
      by_cases he : u = thread
      · rw [he, Function.update_self]
        exact hafter
      · rw [Function.update_of_ne he]
        exact hothers u hu
  | done hyes hfail hothers hone =>
    refine .done (hclaimed.trans hyes) (hfailed hfail) ?_ (hcount.trans hone)
    rw [hcalls]
    exact no_recovery_update hothers hafter

end Recovery

/-- The same where no thread changes. -/
theorem Recovering.still (hs : Recovering h os) (hclaimed : t.recoveryClaimed = h.recoveryClaimed)
    (hfailed : t.failureReason = h.failureReason) (hcalls : t.calls = h.calls)
    (ho : recoveries o = 0) : Recovering t (os ++ o) := by
  have hcount : recoveries (os ++ o) = recoveries os := by rw [recoveries_append, ho, Nat.add_zero]
  cases hs with
  | unclaimed hnot hothers hzero =>
    exact .unclaimed (hclaimed.trans hnot) (by rw [hcalls]; exact hothers) (hcount.trans hzero)
  | claimed hyes hfail w hw hothers hzero =>
    exact .claimed (hclaimed.trans hyes) (by rw [hfailed]; exact hfail) w (by rw [hcalls]; exact hw)
      (by rw [hcalls]; exact hothers) (hcount.trans hzero)
  | done hyes hfail hothers hone =>
    exact .done (hclaimed.trans hyes) (by rw [hfailed]; exact hfail) (by rw [hcalls]; exact hothers)
      (hcount.trans hone)

/-- **One step of the recovery.** -/
theorem Recovering.effect (hs : Recovering h os) (he : Effect h i t o) :
    Recovering t (os ++ o) := by
  cases he with
  | nothing hno ho =>
    exact hs.still rfl rfl rfl (projections_quiet fun x hx => Or.inl (ho x hx)).2.2.2.1
  | @record thread reason value hi hnone hfree =>
    exact hs.beside rfl (fun _ => rfl) rfl (by rw [hfree]; simp) (by simp) (by simp [recoveries])
  | @stop thread r value hi hcall =>
    exact hs.beside rfl (fun hsome => hsome) rfl (by rw [hcall]; simp) (by simp)
      (by simp [recoveries])
  | @write thread r value written o hi hcall ho =>
    have hzero := (projections_quiet fun x hx => (ho x hx).imp_right fun e => ⟨r, e⟩).2.2.2.1
    refine hs.beside rfl (fun hsome => hsome) rfl (by rw [hcall]; simp) (by simp) ?_
    unfold recoveries at hzero ⊢
    rw [List.count_cons_of_ne (by simp), hzero]
  | @finish terminal o hi hnone ho =>
    have hzero := (projections_quiet fun x hx => Or.inl (ho x hx)).2.2.2.1
    refine hs.still rfl rfl rfl ?_
    unfold recoveries at hzero ⊢
    rw [List.count_cons_of_ne (by simp), hzero]
  | @claim thread hi hsome hnot hfree =>
    rw [List.append_nil]
    cases hs with
    | unclaimed _ hothers hzero =>
      refine .claimed rfl hsome thread (Function.update_self ..) (fun u hu => ?_) hzero
      change Function.update h.calls thread _ u ≠ _
      rw [Function.update_of_ne hu]
      exact hothers u
    | claimed hyes => rw [hnot] at hyes; cases hyes
    | done hyes => rw [hnot] at hyes; cases hyes
  | @recover thread hi hcall =>
    cases hs with
    | unclaimed _ hothers => exact absurd hcall (hothers thread)
    | claimed hyes hfail w hw hothers hzero =>
      obtain rfl : thread = w := by_contra fun hne => hothers thread hne hcall
      refine .done hyes hfail (fun u => ?_) ?_
      · change Function.update h.calls thread none u ≠ _
        by_cases hu : u = thread
        · rw [hu, Function.update_self]
          simp
        · rw [Function.update_of_ne hu]
          exact hothers u hu
      · rw [recoveries_append, hzero]
        rfl
    | done _ _ hothers => exact absurd hcall (hothers thread)

/-- The success is written by a step that finds no failure, and by nothing else. -/
theorem Effect.finishes (he : Effect h i t o) (hmem : AttemptNote.missionFinished ∈ o) :
    h.failureReason = none ∧ stopsOf o = [] := by
  cases he with
  | nothing hno ho =>
    exact absurd hmem (projections_quiet fun x hx => Or.inl (ho x hx)).2.2.2.2
  | record hi hnone hfree => simp at hmem
  | stop hi hcall => simp at hmem
  | @write thread r value written o hi hcall ho =>
    rcases List.mem_cons.mp hmem with e | hmem
    · cases e
    · exact absurd hmem (projections_quiet fun x hx => (ho x hx).imp_right fun e => ⟨r, e⟩).2.2.2.2
  | @finish terminal o hi hnone ho =>
    exact ⟨hnone, (projections_quiet fun x hx => Or.inl (ho x hx)).2.1⟩
  | claim hi hsome hnot hfree => simp at hmem
  | recover hi hcall => simp at hmem

/-- What is known of the files. -/
theorem finished_effect (hs : AttemptNote.missionFinished ∈ os ↔ h.missionFinished = true)
    (he : Effect h i t o) : AttemptNote.missionFinished ∈ os ++ o ↔ t.missionFinished = true := by
  rw [List.mem_append, hs]
  cases he with
  | nothing hno ho =>
    have hnot := (projections_quiet fun x hx => Or.inl (ho x hx)).2.2.2.2
    exact ⟨fun hor => hor.resolve_right hnot, Or.inl⟩
  | record hi hnone hfree => exact ⟨fun hor => hor.resolve_right (by simp), Or.inl⟩
  | stop hi hcall => exact ⟨fun hor => hor.resolve_right (by simp), Or.inl⟩
  | @write thread r value written o hi hcall ho =>
    have hnot := (projections_quiet fun x hx => (ho x hx).imp_right fun e => ⟨r, e⟩).2.2.2.2
    refine ⟨fun hor => hor.resolve_right fun hmem => ?_, Or.inl⟩
    rcases List.mem_cons.mp hmem with e | hmem
    · cases e
    · exact hnot hmem
  | finish hi hnone ho => exact ⟨fun _ => rfl, fun _ => Or.inr List.mem_cons_self⟩
  | claim hi hsome hnot hfree => exact ⟨fun hor => hor.resolve_right (by simp), Or.inl⟩
  | recover hi hcall => exact ⟨fun hor => hor.resolve_right (by simp), Or.inl⟩

/-! ## 5. Runs -/

variable {is : List AttemptStep}

/-- Behind every run. -/
theorem run_stage (hrun : Run (Steps step) fresh is os t) :
    Stage t os ∧ Recovering t os ∧ (AttemptNote.missionFinished ∈ os ↔ t.missionFinished = true) := by
  induction hrun with
  | start =>
    refine ⟨⟨rfl, fun _ => ⟨rfl, rfl, fun _ => not_completing_none⟩,
      fun _ hsome => (by cases hsome), fun _ hmem => absurd hmem List.not_mem_nil⟩,
      .unclaimed rfl (fun _ hcall => by cases hcall) rfl,
      ⟨fun hmem => absurd hmem List.not_mem_nil, fun hfinished => by cases hfinished⟩⟩
  | step _ hs ih =>
    have he := step_effect hs
    exact ⟨ih.1.effect he, ih.2.1.effect he, finished_effect ih.2.2 he⟩

/-- **In time nothing fails after the success, and otherwise both happen.** -/
theorem run_in_time (hrun : Run (Steps step) fresh is os t) :
    Run (Meeting (Steps step) InTime) fresh is os t ↔
      ¬ (t.missionFinished = true ∧ t.failureReason.isSome = true) := by
  induction hrun with
  | start => exact ⟨(fun _ hboth => by cases hboth.1), fun _ => .start⟩
  | @step is os s i o t hrun hs ih =>
    have hlast : Run (Meeting (Steps step) InTime) fresh (is ++ [i]) (os ++ o) t ↔
        Run (Meeting (Steps step) InTime) fresh is os s ∧ InTime s i := by
      constructor
      · intro hall
        obtain ⟨s', os', o', hos, hbefore, hstep'⟩ := hall.last
        obtain ⟨rfl, rfl⟩ := run_unique hrun hbefore.of_meeting
        exact ⟨hbefore, hstep'.2⟩
      · rintro ⟨hbefore, hturn⟩
        exact .step hbefore ⟨hs, hturn⟩
    rw [hlast, ih]
    have hno : ∀ {b : Bool}, b = false → ∀ {P : Prop}, b = true → P := fun e _ e' => by
      rw [e] at e'
      cases e'
    cases step_effect hs with
    | nothing hno ho =>
      refine ⟨fun hboth => hboth.1, fun hnot => ⟨hnot, fun hfinished => ?_⟩⟩
      refine Bool.eq_false_iff.mpr fun hf => hnot ⟨hfinished, hno hf⟩
    | record hi hnone hfree =>
      refine ⟨fun hboth hend => ?_, fun hnot => ⟨fun hboth => ?_, fun hfinished => ?_⟩⟩
      · have hlate := hboth.2 hend.1
        rw [hi] at hlate
        cases hlate
      · rw [hnone] at hboth
        cases hboth.2
      · exact absurd ⟨hfinished, rfl⟩ hnot
    | stop hi hcall => exact ⟨fun hboth => hboth.1, fun hnot => ⟨hnot, fun _ => hi⟩⟩
    | write hi hcall ho => exact ⟨fun hboth => hboth.1, fun hnot => ⟨hnot, fun _ => hi⟩⟩
    | finish hi hnone ho =>
      refine ⟨fun _ hend => ?_, fun _ => ⟨fun hboth => ?_, fun _ => hi⟩⟩
      · have hsome := hend.2
        change s.failureReason.isSome = true at hsome
        rw [hnone] at hsome
        cases hsome
      · rw [hnone] at hboth
        cases hboth.2
    | claim hi hsome hnot hfree => exact ⟨fun hboth => hboth.1, fun hnot => ⟨hnot, fun _ => hi⟩⟩
    | recover hi hcall => exact ⟨fun hboth => hboth.1, fun hnot => ⟨hnot, fun _ => hi⟩⟩

/-! ## 6. The outcome -/

/-- A side effect of a failure, or a recovery. -/
def isEffect (o : AttemptNote) : Bool :=
  match o with
  | .stopAttempt _ => true
  | .writeFailure _ => true
  | .runtimeFailure _ => true
  | .recovered => true
  | _ => false

/-- **One outcome**: not both status files, and nothing of a failure after the success. -/
def OneOutcome (os : List AttemptNote) : Prop :=
  (¬ (AttemptNote.missionFinished ∈ os ∧ ∃ reason, AttemptNote.runtimeFailure reason ∈ os)) ∧
    ∀ before after, os = before ++ AttemptNote.missionFinished :: after → ∀ o ∈ after, isEffect o = false

/-- Without a failure there is no side effect of one. -/
theorem Stage.no_effect (hs : Stage h os) (hr : Recovering h os) (hnone : h.failureReason = none) :
    ∀ o ∈ os, isEffect o = false := by
  obtain ⟨hstops, hwrites, -⟩ := hs.clear hnone
  have hfailed : h.failureReason.isSome = false := by
    rw [hnone]
    rfl
  intro o ho
  cases o with
  | stopAttempt reason =>
    have hmem : reason ∈ stopsOf os := List.mem_filterMap.mpr ⟨_, ho, rfl⟩
    rw [hstops] at hmem
    cases hmem
  | writeFailure reason =>
    have hmem : reason ∈ writesOf os := List.mem_filterMap.mpr ⟨_, ho, rfl⟩
    rw [hwrites] at hmem
    cases hmem
  | runtimeFailure reason =>
    have hsome := hs.status reason ho
    rw [hfailed] at hsome
    cases hsome
  | recovered =>
    cases hr with
    | unclaimed _ _ hzero => exact absurd ho (List.count_eq_zero.mp hzero)
    | claimed _ hsome => rw [hfailed] at hsome; cases hsome
    | done _ hsome => rw [hfailed] at hsome; cases hsome
  | recorded reason => rfl
  | missionFinished => rfl
  | returned value => rfl
  | raised detail => rfl

/-- **One outcome for each hosted attempt**: one failure reason, its two side effects once each,
    one recovery and only of a failure; and one outcome exactly when no failing call comes after the
    success has been written. -/
theorem one_outcome (hrun : Run (Steps step) fresh is os t) :
    recordedOf os = t.failureReason.toList ∧
    (stopsOf os <+: recordedOf os ∧ writesOf os <+: stopsOf os ∧
      ((∀ u, t.calls u = none) → stopsOf os = recordedOf os ∧ writesOf os = recordedOf os)) ∧
    (recoveries os ≤ 1 ∧ (AttemptNote.recovered ∈ os → recordedOf os ≠ [])) ∧
    (Run (Meeting (Steps step) InTime) fresh is os t → OneOutcome os) ∧
    ((∀ u, t.calls u = none) → OneOutcome os →
      Run (Meeting (Steps step) InTime) fresh is os t) := by
  obtain ⟨hstage, hrecovery, hfinished⟩ := run_stage hrun
  have hsides : stopsOf os <+: recordedOf os ∧ writesOf os <+: stopsOf os ∧
      ((∀ u, t.calls u = none) → stopsOf os = recordedOf os ∧ writesOf os = recordedOf os) := by
    rw [hstage.recorded]
    cases hreason : t.failureReason with
    | none =>
      obtain ⟨hstops, hwrites, -⟩ := hstage.clear hreason
      rw [hstops, hwrites]
      exact ⟨List.prefix_rfl, List.prefix_rfl, fun _ => ⟨rfl, rfl⟩⟩
    | some reason =>
      cases hstage.passing reason hreason with
      | stopping u hcall _ hstops hwrites =>
        rw [hstops, hwrites]
        refine ⟨List.nil_prefix, List.nil_prefix, fun hfree => ?_⟩
        rw [hfree u] at hcall
        cases hcall
      | writing u hcall _ hstops hwrites =>
        rw [hstops, hwrites]
        refine ⟨List.prefix_rfl, List.nil_prefix, fun hfree => ?_⟩
        rw [hfree u] at hcall
        cases hcall
      | done _ hstops hwrites =>
        rw [hstops, hwrites]
        exact ⟨List.prefix_rfl, List.prefix_rfl, fun _ => ⟨rfl, rfl⟩⟩
  refine ⟨hstage.recorded, hsides, ?_, fun hintime => ?_, fun hfree hone => ?_⟩
  · cases hrecovery with
    | unclaimed _ _ hzero =>
      exact ⟨by omega, fun hmem => absurd hmem (List.count_eq_zero.mp hzero)⟩
    | claimed _ hfailed _ _ _ hzero =>
      exact ⟨by omega, fun hmem => absurd hmem (List.count_eq_zero.mp hzero)⟩
    | done _ hfailed _ hcount =>
      obtain ⟨reason, hreason⟩ := Option.isSome_iff_exists.mp hfailed
      refine ⟨by omega, fun _ => ?_⟩
      rw [hstage.recorded, hreason]
      simp
  · have hnot := (run_in_time hrun).mp hintime
    have hquiet : AttemptNote.missionFinished ∈ os → ∀ o ∈ os, isEffect o = false := fun hmem => by
      refine hstage.no_effect hrecovery ?_
      rw [← Option.not_isSome_iff_eq_none]
      exact fun hsome => hnot ⟨hfinished.mp hmem, hsome⟩
    refine ⟨fun hboth => ?_, fun before after hos o ho => ?_⟩
    · obtain ⟨reason, hmem⟩ := hboth.2
      have heffect := hquiet hboth.1 _ hmem
      cases heffect
    · rw [hos] at hquiet
      exact hquiet (by simp) o (by simp [ho])
  · refine (run_in_time hrun).mpr fun hboth => ?_
    obtain ⟨reason, hreason⟩ := Option.isSome_iff_exists.mp hboth.2
    have hstops := (hsides.2.2 hfree).1
    rw [hstage.recorded, hreason] at hstops
    obtain ⟨before, after, hos⟩ := List.append_of_mem (hfinished.mpr hboth.1)
    rw [hos] at hrun
    obtain ⟨js, -, ps, s, i, p, q, v, -, hbefore, hs, rfl⟩ := hrun.emitted
    -- The success was written while no failure was recorded, so the stop comes after it.
    obtain ⟨hnone, hp⟩ := (step_effect hs).finishes (by simp)
    have hbeforeStops := ((run_stage hbefore).1.clear hnone).1
    have hsplit : stopsOf (ps ++ p ++ AttemptNote.missionFinished :: after) = stopsOf after := by
      rw [stopsOf_append, stopsOf_append, hbeforeStops]
      rw [stopsOf_append] at hp
      rw [(List.append_eq_nil_iff.mp hp).1]
      rfl
    rw [hos, hsplit] at hstops
    have hmem : reason ∈ stopsOf after := by
      rw [hstops]
      simp
    obtain ⟨o, ho, he⟩ := List.mem_filterMap.mp hmem
    have hquiet := hone.2 _ after hos o ho
    cases o with
    | stopAttempt r => cases hquiet
    | _ => cases he

/-! ## 7. A late failure -/

/-- An image is refused, the attempt stops, the failure is written and the controller recovers. -/
def badImage : List AttemptStep :=
  [.guardInput 1 "image" (some "bad image"), .finishSuccess 2 (.landed ⟨none, none⟩),
    .stopAttempt 1, .writeFailure 1 ⟨none, none⟩, .recoverOnce 3, .recover 3]

theorem one_outcome_bad_image : ∃ os t, Run (Steps step) fresh badImage os t ∧
    recordedOf os = t.failureReason.toList ∧
    (stopsOf os <+: recordedOf os ∧ writesOf os <+: stopsOf os ∧
      ((∀ u, t.calls u = none) → stopsOf os = recordedOf os ∧ writesOf os = recordedOf os)) ∧
    (recoveries os ≤ 1 ∧ (AttemptNote.recovered ∈ os → recordedOf os ≠ [])) ∧
    (Run (Meeting (Steps step) InTime) fresh badImage os t → OneOutcome os) ∧
    ((∀ u, t.calls u = none) → OneOutcome os →
      Run (Meeting (Steps step) InTime) fresh badImage os t) := by
  obtain ⟨t, os, hrun, -⟩ := @exists_run _ _ _ _ step (fun _ _ => true) fresh badImage
    (fun _ _ => true) (by decide)
  exact ⟨os, t, hrun.of_meeting, one_outcome hrun.of_meeting⟩

/-- The mission has landed; then the wall clock's failsafe comes due. -/
def lateFailsafe : List AttemptStep :=
  [.finishSuccess 1 (.landed ⟨none, none⟩),
    .fail 2 "companion exceeded the overall run wall failsafe", .stopAttempt 2,
    .writeFailure 2 ⟨none, none⟩, .recoverOnce 2, .recover 2]

/-- **Both statuses are written**, and a recovery is commanded after the success. -/
theorem both_outcomes : ∃ os t, Run (Steps step) fresh lateFailsafe os t ∧
    .missionFinished ∈ os ∧ (∃ reason, AttemptNote.runtimeFailure reason ∈ os) ∧ AttemptNote.recovered ∈ os ∧
    ¬ OneOutcome os := by
  obtain ⟨t, os, hrun, hend⟩ := @exists_run _ _ _ _ step (fun _ _ => true) fresh lateFailsafe
    (fun _ os => decide (AttemptNote.missionFinished ∈ os ∧ AttemptNote.recovered ∈ os ∧
      .runtimeFailure "companion exceeded the overall run wall failsafe" ∈ os)) (by decide)
  obtain ⟨hfinished, hrecovered, hfailed⟩ := of_decide_eq_true hend
  exact ⟨os, t, hrun.of_meeting, hfinished, ⟨_, hfailed⟩, hrecovered,
    fun hone => hone.1 ⟨hfinished, _, hfailed⟩⟩

end AttemptHost

end DroneSim
