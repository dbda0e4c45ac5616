/-
  File:      DroneSim/Gazebo/RuntimeEffects.lean
  Subject:   What one call of the Gazebo transition model can do.

  `Went m m' actions` lists the ways a call can go, one constructor each, with the tests that were
  passed on it; `call_went` takes a call apart into them. Every fact about a run is proved by cases
  on `Went`, none by unfolding `accept`.
-/
import DroneSim.Gazebo.RuntimeModel
import DroneSim.Library.Fallible

namespace DroneSim

open Library

namespace RuntimeModel

/-! ## 1. What a call can do -/

/-- Everything that decides about effects is as before; a stop failure may be noted. -/
structure SameCourse (m m' : RuntimeModel) : Prop where
  runId : m'.runId = m.runId
  gazeboReadyPublished : m'.gazeboReadyPublished = m.gazeboReadyPublished
  lifecycleState : m'.lifecycleState = m.lifecycleState
  paused : m'.paused = m.paused
  sourceSummary : m'.sourceSummary = m.sourceSummary
  failureReason : m'.failureReason = m.failureReason
  beginFinalizationEmitted : m'.beginFinalizationEmitted = m.beginFinalizationEmitted
  stopRequested : m'.stopRequested = m.stopRequested
  nativeArtifacts : m'.nativeArtifacts = m.nativeArtifacts
  frozen : m'.frozen = m.frozen
  serverStopFailed : m.serverStopFailed = true → m'.serverStopFailed = true

/-- The model after a failure, and after a stop failure where `stopFailed`. -/
def failed (m : RuntimeModel) (reason : String) (stopFailed : Bool) : RuntimeModel :=
  { m with
    failureReason := some reason
    finalizationPreempted := true
    paused := true
    beginFinalizationEmitted := true
    serverStopFailed := m.serverStopFailed || stopFailed }

section

variable (m : RuntimeModel) (reason : String) (stopFailed : Bool)

@[simp] theorem failed_gazeboReadyPublished :
    (m.failed reason stopFailed).gazeboReadyPublished = m.gazeboReadyPublished := rfl

@[simp] theorem failed_lifecycleState :
    (m.failed reason stopFailed).lifecycleState = m.lifecycleState := rfl

@[simp] theorem failed_paused : (m.failed reason stopFailed).paused = true := rfl

@[simp] theorem failed_sourceSummary :
    (m.failed reason stopFailed).sourceSummary = m.sourceSummary := rfl

@[simp] theorem failed_failureReason :
    (m.failed reason stopFailed).failureReason = some reason := rfl

@[simp] theorem failed_beginFinalizationEmitted :
    (m.failed reason stopFailed).beginFinalizationEmitted = true := rfl

@[simp] theorem failed_stopRequested :
    (m.failed reason stopFailed).stopRequested = m.stopRequested := rfl

@[simp] theorem failed_nativeArtifacts :
    (m.failed reason stopFailed).nativeArtifacts = m.nativeArtifacts := rfl

@[simp] theorem failed_frozen : (m.failed reason stopFailed).frozen = m.frozen := rfl

end

/-- The begin of a finalization, unless it has begun. -/
def beginActions (m : RuntimeModel) (terminal : TerminalState) (reason : String) :
    List RuntimeAction :=
  if m.beginFinalizationEmitted then [] else [.beginFinalization terminal reason]

/-- The effects of a failure. -/
def failureActions (m : RuntimeModel) (reason : String) (paths : List DiagnosticPath) :
    List RuntimeAction :=
  [RuntimeAction.writeRuntimeFailure reason paths] ++ m.pauseActions ++ m.beginActions .failed reason

/-- The model after a request to finalize. -/
def finalized (m : RuntimeModel) (request : FinalizationRequested) : RuntimeModel :=
  { m with
    finalizationPreempted := true
    lifecycleState := .finalizing
    paused := true
    beginFinalizationEmitted := true
    finalizationRequest := some request
    stopRequested := true }

/-- **The ways a call can go.** -/
inductive Went (m : RuntimeModel) : RuntimeModel → List RuntimeAction → Prop where
  | quiet {m' : RuntimeModel} (h : SameCourse m m') : Went m m' []
  | readied {m' : RuntimeModel} {flightExchange : FlightExchange} (h : SameCourse m m')
      (hnew : m.gazeboReadyPublished = false) :
      Went m { m' with gazeboReadyPublished := true } [.publishGazeboReady flightExchange]
  | failed {reason : String} {paths : List DiagnosticPath} {stopFailed : Bool}
      (h : m.failureReason = none) :
      Went m (m.failed reason stopFailed) (m.failureActions reason paths)
  | warmed (h : m.failureReason = none) (hstarting : m.lifecycleState = .starting) :
      Went m { m with lifecycleState := .ready, warmupStarted := true, paused := false }
        (if m.paused then [.setPaused false] else [])
  | activated (h : m.failureReason = none) (hready : m.lifecycleState = .ready) :
      Went m { m with lifecycleState := .running } [.activateOutput]
  | finalizing : Went m { m with
      lifecycleState := .finalizing, finalizationPreempted := true, paused := true } m.pauseActions
  | completed {summary : AdapterSummary} {simTimestampNs : ℕ} (h : m.failureReason = none)
      (hnew : m.sourceSummary = none) :
      Went m { m with sourceSummary := some summary, paused := true }
        (m.pauseActions ++ [RuntimeAction.writeSourceFinished simTimestampNs])
  | stopped {request : FinalizationRequested} {terminal : TerminalState} {reason : String}
      (h : m.stopRequested = false)
      (hterminal : terminal = .completed → m.sourceSummary.isSome = true ∧ m.failureReason = none) :
      Went m (m.finalized request) (m.pauseActions ++ m.beginActions terminal reason ++
        [RuntimeAction.stopServer request.deadlineMonotonic])
  | stoppedFailed {request : FinalizationRequested} {reason : String} {paths : List DiagnosticPath}
      (h : m.stopRequested = false) (hnone : m.failureReason = none) :
      Went m ((m.failed reason false).finalized request)
        (m.failureActions reason paths ++ [RuntimeAction.stopServer request.deadlineMonotonic])
  | quiesced {native : NativeArtifactSummary} (h : m.stopRequested = true)
      (hstop : m.serverStopFailed = false) (hnew : m.nativeArtifacts = none) :
      Went m { m with nativeArtifacts := some native, frozen := true } [.writeQuiescence native]

theorem SameCourse.refl (m : RuntimeModel) : SameCourse m m :=
  ⟨rfl, rfl, rfl, rfl, rfl, rfl, rfl, rfl, rfl, rfl, id⟩

variable {m m' : RuntimeModel} {actions : List RuntimeAction}

theorem failure_went {reason : String} {paths : List DiagnosticPath}
    (h : m.failure reason paths = .ok (m', actions)) : Went m m' actions := by
  unfold failure at h
  split at h
  · cases h
    exact .quiet (.refl m)
  · rename_i hnone
    rw [Bool.not_eq_true, Option.isSome_eq_false_iff, Option.isNone_iff_eq_none] at hnone
    split at h
    · cases h
      have hwent : Went m (m.failed reason false) (m.failureActions reason paths) := .failed hnone
      rw [failed, Bool.or_false] at hwent
      exact hwent
    · cases h

/-- A failure after which the stop counts as failed. -/
theorem failure_stop_went {reason : String} {paths : List DiagnosticPath}
    (h : m.failure reason paths = .ok (m', actions)) :
    Went m { m' with serverStopFailed := true } actions := by
  unfold failure at h
  split at h
  · cases h
    exact .quiet ⟨rfl, rfl, rfl, rfl, rfl, rfl, rfl, rfl, rfl, rfl, fun _ => rfl⟩
  · rename_i hnone
    rw [Bool.not_eq_true, Option.isSome_eq_false_iff, Option.isNone_iff_eq_none] at hnone
    split at h
    · cases h
      have hwent : Went m (m.failed reason true) (m.failureActions reason paths) := .failed hnone
      rw [failed, Bool.or_true] at hwent
      exact hwent
    · cases h

theorem nativeStopFailure_went {reason : String}
    (h : m.nativeStopFailure reason = .ok (m', actions)) :
    Went m m' actions ∧ m'.serverStopFailed = true := by
  obtain ⟨⟨k, failedActions⟩, hfailure, h⟩ := map_ok h
  cases h
  exact ⟨failure_stop_went hfailure, rfl⟩

theorem ready_went {k : RuntimeModel} (hcourse : SameCourse m k) (h : k.ready = (m', actions)) :
    Went m m' actions := by
  unfold ready at h
  split at h
  · split at h
    · rename_i hready
      rw [Bool.and_eq_true, Bool.not_eq_true', hcourse.gazeboReadyPublished] at hready
      cases h
      exact .readied hcourse hready.2
    · cases h
      exact .quiet hcourse
  · cases h
    exact .quiet hcourse

theorem acceptRunState_went {state : LifecycleState} (hnone : m.failureReason = none)
    (h : m.acceptRunState state = .ok (m', actions)) : Went m m' actions := by
  unfold acceptRunState at h
  split at h
  · split at h
    · cases h
      exact .quiet (.refl m)
    · exact failure_went h
  · split at h
    · cases h
      exact .quiet (.refl m)
    · split at h
      · exact failure_went h
      · split at h
        · exact failure_went h
        · rename_i hstarting
          have hwent := Went.warmed hnone (not_not.mp hstarting)
          dsimp only at h
          split at h
          · rename_i hpaused
            cases h
            rw [if_pos hpaused] at hwent
            exact hwent
          · rename_i hpaused
            cases h
            rw [if_neg hpaused] at hwent
            rw [Bool.not_eq_true] at hpaused
            rw [← hpaused] at hwent
            exact hwent
  · split at h
    · cases h
      exact .quiet (.refl m)
    · split at h
      · exact failure_went h
      · rename_i hready
        cases h
        exact .activated hnone (not_not.mp fun hne => hready (Or.inr hne))
  · cases h
    exact .finalizing
  · exact failure_went h
  · exact failure_went h

theorem acceptCompletion_went {summary : AdapterSummary}
    (h : m.acceptCompletion summary = .ok (m', actions)) : Went m m' actions := by
  unfold acceptCompletion at h
  split at h
  · split at h
    · cases h
      exact .quiet (.refl m)
    · exact failure_went h
  · rename_i hnew
    split at h
    · cases h
      exact .quiet (.refl m)
    · rename_i hcourse
      rw [Bool.or_eq_true, not_or, Bool.not_eq_true, Option.isSome_eq_false_iff,
        Option.isNone_iff_eq_none] at hcourse
      split at h
      · exact failure_went h
      · split at h
        · exact failure_went h
        · cases h
          exact .completed hcourse.1 hnew

theorem acceptFinalization_went {request : FinalizationRequested}
    (h : m.acceptFinalization request = .ok (m', actions)) : Went m m' actions := by
  unfold acceptFinalization at h
  split at h
  · cases h
    exact .quiet (.refl m)
  · rename_i hstop
    rw [Bool.not_eq_true] at hstop
    obtain ⟨⟨k, failedActions⟩, hfirst, h⟩ := map_ok h
    cases h
    unfold failEarly at hfirst
    split at hfirst
    · -- the request fails the run before it stops it
      rename_i hearly
      obtain ⟨-, -, hnone⟩ := hearly
      unfold failure at hfirst
      rw [hnone] at hfirst
      split at hfirst
      · rename_i hsome
        cases hsome
      · split at hfirst
        · cases hfirst
          have hwent : ∀ reason paths, Went m ((m.failed reason false).finalized request)
              (m.failureActions reason paths ++ [RuntimeAction.stopServer request.deadlineMonotonic]) :=
            fun reason paths => .stoppedFailed hstop hnone
          have hearly :=
            hwent "COMPLETED finalization requested before exact source-finished" serverDiagnostic
          simpa [failed, finalized, finalize, failureActions, beginActions, pauseActions] using
            hearly
        · cases hfirst
    · rename_i hcourse
      cases hfirst
      refine .stopped hstop fun hterminal => ?_
      split at hterminal
      · cases hterminal
      · rename_i hnone
        rw [Option.not_isSome_iff_eq_none] at hnone
        refine ⟨?_, hnone⟩
        rw [Option.isSome_iff_ne_none]
        exact fun hsource => hcourse ⟨hterminal, hsource, hnone⟩

/-- A summary that this run can quiesce on. -/
def Sound (m : RuntimeModel) (native : NativeArtifactSummary) : Prop :=
  NativeArtifactSummary.make native.serverLogPath native.stateLogPath native.serverReturncode
      native.graceful = .ok native ∧
    pathName (pathParent (pathParent native.serverLogPath)) = m.runId

/-- **What a stopped server does**: the run quiesces on a sound summary after the request to stop
    and no failed stop; else the stop counts as failed, or did before, or the run is over. -/
theorem acceptStopped_went {native : NativeArtifactSummary}
    (h : m.acceptStopped native = .ok (m', actions)) :
    Went m m' actions ∧ (m'.serverStopFailed = true ∨ m'.nativeArtifacts.isSome = true) ∧
      (m'.serverStopFailed = true ∨ m.nativeArtifacts.isSome = true ∨
        m.Sound native ∧ m.stopRequested = true) := by
  unfold acceptStopped at h
  split at h
  · rename_i known hknown
    split at h
    · cases h
      exact ⟨.quiet (.refl m), Or.inr (by rw [hknown]; rfl), Or.inr (Or.inl (by rw [hknown]; rfl))⟩
    · cases h
  · rename_i hnew
    split at h
    · rename_i hfailed
      cases h
      exact ⟨.quiet (.refl m), Or.inl hfailed, Or.inl hfailed⟩
    · rename_i hfailed
      rw [Bool.not_eq_true] at hfailed
      have hstop : ∀ {reason}, m.nativeStopFailure reason = .ok (m', actions) →
          Went m m' actions ∧ (m'.serverStopFailed = true ∨ m'.nativeArtifacts.isSome = true) ∧
            (m'.serverStopFailed = true ∨ m.nativeArtifacts.isSome = true ∨
              m.Sound native ∧ m.stopRequested = true) := by
        intro reason hreason
        obtain ⟨hwent, hset⟩ := nativeStopFailure_went hreason
        exact ⟨hwent, Or.inl hset, Or.inl hset⟩
      split at h
      · exact hstop h
      · rename_i validated hvalidated
        split at h
        · exact hstop h
        · rename_i hsame
          rw [not_not] at hsame
          subst hsame
          split at h
          · exact hstop h
          · rename_i hrequested
            rw [Bool.not_eq_false] at hrequested
            split at h
            · exact hstop h
            · rename_i hrun
              cases h
              exact ⟨.quiesced hrequested hfailed hnew, Or.inr rfl,
                Or.inr (Or.inr ⟨⟨hvalidated, not_not.mp hrun⟩, hrequested⟩)⟩

theorem acceptFact_went {fact : RuntimeFact} (h : m.acceptFact fact = .ok (m', actions)) :
    Went m m' actions := by
  cases fact with
  | finalizationRequested request => exact acceptFinalization_went h
  | serverStopFailed reason paths =>
    obtain ⟨⟨k, failedActions⟩, hfailure, h⟩ := map_ok (x := m.failure reason.val paths) h
    cases h
    exact failure_stop_went hfailure
  | serverStopped native => exact (acceptStopped_went h).1
  | childExited childName returncode => exact failure_went h
  | endpointTimeout endpoint =>
    simp only [acceptFact] at h
    split at h
    · cases h
      exact .quiet (.refl m)
    · exact failure_went h
  | runState state =>
    simp only [acceptFact] at h
    split at h
    · cases h
      exact .quiet (.refl m)
    · rename_i hnone
      exact acceptRunState_went (Option.not_isSome_iff_eq_none.mp hnone) h
  | artifactsReady =>
    simp only [acceptFact] at h
    split at h
    · cases h
      exact .quiet (.refl m)
    · refine ready_went ?_ (Except.ok.inj h)
      exact ⟨rfl, rfl, rfl, rfl, rfl, rfl, rfl, rfl, rfl, rfl, id⟩
  | gazeboReady flightExchange =>
    simp only [acceptFact] at h
    split at h
    · cases h
      exact .quiet (.refl m)
    · refine ready_went ?_ (Except.ok.inj h)
      exact ⟨rfl, rfl, rfl, rfl, rfl, rfl, rfl, rfl, rfl, rfl, id⟩
  | adapterCompleted summary =>
    simp only [acceptFact] at h
    split at h
    · cases h
      exact .quiet (.refl m)
    · exact acceptCompletion_went h

theorem acceptOk_went {input : RuntimeInput} (h : m.acceptOk input = .ok (m', actions)) :
    Went m m' actions := by
  unfold acceptOk at h
  split at h
  · split at h
    · cases h
    · exact failure_went h
  · split at h
    · cases h
      exact .quiet (.refl m)
    · split at h
      · split at h
        · cases h
          exact .quiet (.refl m)
        · cases h
      · exact acceptFact_went h

/-- **Every call went one of these ways**, a call that raises the quiet one. -/
theorem call_went {input : RuntimeInput} (h : Calls accept m input actions m') :
    Went m m' actions := by
  obtain ⟨rfl, rfl⟩ := h
  unfold accept
  split
  · rename_i hok
    exact acceptOk_went hok
  · exact .quiet (.refl m)

end RuntimeModel

end DroneSim
