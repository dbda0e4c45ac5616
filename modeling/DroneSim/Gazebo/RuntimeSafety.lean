/-
  File:      DroneSim/Gazebo/RuntimeSafety.lean
  Subject:   The effects of a Gazebo run are safe and single-shot.

  Each effect has a flag in the model (`told`), and a failed or finalizing run is `closed`. A case
  analysis on `Went` says what a call does with these flags; the rules of `Library/Emission.lean`
  make of it what all the effects of a run look like.

  * `Went.kept` -- every call keeps the invariant `Kept`;
  * `singleShot`, `closes`, `completesLate`, `completesClean`, `quiescesLate`, `barredStays` -- the
    rules for the effects, one by one;
  * `runtimeEffects_safe` -- all of them, over every sequence of inputs.
-/
import DroneSim.Gazebo.RuntimeEffects
import DroneSim.Library.Emission

namespace DroneSim

open Library

/-! ## 1. The effects and their flags -/

namespace RuntimeAction

/-- The effects that a run has at most once, by their kind. -/
inductive Kind where
  | publishGazeboReady
  | activateOutput
  | writeSourceFinished
  | writeRuntimeFailure
  | beginFinalization
  | stopServer
  | writeQuiescence
  deriving DecidableEq

/-- Is the effect of this kind? -/
def Kind.holds : Kind → RuntimeAction → Bool
  | .publishGazeboReady, .publishGazeboReady _ => true
  | .activateOutput, .activateOutput => true
  | .writeSourceFinished, .writeSourceFinished _ => true
  | .writeRuntimeFailure, .writeRuntimeFailure _ _ => true
  | .beginFinalization, .beginFinalization _ _ => true
  | .stopServer, .stopServer _ => true
  | .writeQuiescence, .writeQuiescence _ => true
  | _, _ => false

/-- The pause that the effect sets. -/
def pausing : RuntimeAction → Option Bool
  | .setPaused paused => some paused
  | _ => none

/-- The effect lets the run go on: it unpauses the world or activates its output. -/
def releases : RuntimeAction → Bool
  | .setPaused paused => !paused
  | .activateOutput => true
  | _ => false

/-- The effect tells of a failure or ends the run. -/
def ends : RuntimeAction → Bool
  | .writeRuntimeFailure _ _ => true
  | .beginFinalization _ _ => true
  | .stopServer _ => true
  | _ => false

/-- The effect begins to finalize a completed run. -/
def completes : RuntimeAction → Bool
  | .beginFinalization .completed _ => true
  | _ => false

end RuntimeAction

namespace RuntimeModel

open RuntimeAction (Kind completes releases ends)

/-- The flag that an effect of a kind turns on. -/
def told (m : RuntimeModel) : Kind → Bool
  | .publishGazeboReady => m.gazeboReadyPublished
  | .activateOutput => m.lifecycleState.pastReady
  | .writeSourceFinished => m.sourceSummary.isSome
  | .writeRuntimeFailure => m.failureReason.isSome
  | .beginFinalization => m.beginFinalizationEmitted
  | .stopServer => m.stopRequested
  | .writeQuiescence => m.nativeArtifacts.isSome

/-- The run has failed or finalizes: nothing releases it any more. -/
def closed (m : RuntimeModel) : Bool :=
  m.failureReason.isSome || m.lifecycleState == .finalizing

variable {m m' : RuntimeModel} {actions : List RuntimeAction}

theorem countP_pauseActions (m : RuntimeModel) (k : Kind) : m.pauseActions.countP k.holds = 0 := by
  unfold pauseActions
  cases k <;> split <;> rfl

theorem countP_beginActions (m : RuntimeModel) (terminal : TerminalState) (reason : String)
    (k : Kind) : (m.beginActions terminal reason).countP k.holds =
      if k = .beginFinalization ∧ m.beginFinalizationEmitted = false then 1 else 0 := by
  unfold beginActions
  cases k <;> cases m.beginFinalizationEmitted <;> rfl

/-- **What a call does with the flag of an effect**: the effect comes once, and only while its
    flag is off; it turns the flag on, and the flag stays. -/
theorem Went.told_single (h : Went m m' actions) (k : Kind) :
    actions.countP k.holds ≤ 1 ∧
      (0 < actions.countP k.holds → m.told k = false ∧ m'.told k = true) ∧
      (m.told k = true → m'.told k = true) := by
  cases h with
  | quiet h =>
    cases k <;> simp [told, h.gazeboReadyPublished, h.lifecycleState, h.sourceSummary,
      h.failureReason, h.beginFinalizationEmitted, h.stopRequested, h.nativeArtifacts]
  | readied h hnew =>
    cases k <;> simp [told, Kind.holds, hnew, h.lifecycleState, h.sourceSummary,
      h.failureReason, h.beginFinalizationEmitted, h.stopRequested, h.nativeArtifacts]
  | failed h =>
    unfold failureActions
    rw [List.countP_append, List.countP_append, countP_pauseActions, countP_beginActions]
    cases hbegin : m.beginFinalizationEmitted <;> cases k <;>
      simp [told, Kind.holds, h, hbegin]
  | warmed h hstarting =>
    have hnone : (if m.paused then [RuntimeAction.setPaused false] else []).countP k.holds = 0 := by
      cases k <;> split <;> rfl
    rw [hnone]
    cases k <;> simp [told, hstarting, LifecycleState.pastReady]
  | activated h hready => cases k <;> simp [told, Kind.holds, hready, LifecycleState.pastReady]
  | finalizing =>
    rw [countP_pauseActions]
    cases k <;> simp [told, LifecycleState.pastReady]
  | completed h hnew =>
    rw [List.countP_append, countP_pauseActions]
    cases k <;> simp [told, Kind.holds, hnew]
  | stopped h hterminal =>
    rw [List.countP_append, List.countP_append, countP_pauseActions, countP_beginActions]
    cases hbegin : m.beginFinalizationEmitted <;> cases k <;>
      simp [told, Kind.holds, finalized, LifecycleState.pastReady, h, hbegin]
  | stoppedFailed h hnone =>
    unfold failureActions
    rw [List.countP_append, List.countP_append, List.countP_append, countP_pauseActions,
      countP_beginActions]
    cases hbegin : m.beginFinalizationEmitted <;> cases k <;>
      simp [told, Kind.holds, finalized, LifecycleState.pastReady, h, hnone, hbegin]
  | quiesced h hstop hnew => cases k <;> simp [told, Kind.holds, hnew]

theorem pauseActions_any (m : RuntimeModel) {p : RuntimeAction → Bool}
    (h : p (.setPaused true) = false) : m.pauseActions.any p = false := by
  unfold pauseActions
  split
  · rfl
  · simp [h]

theorem beginActions_any (m : RuntimeModel) (terminal : TerminalState) (reason : String)
    {p : RuntimeAction → Bool} (h : p (.beginFinalization terminal reason) = false) :
    (m.beginActions terminal reason).any p = false := by
  unfold beginActions
  split
  · rfl
  · simp [h]

/-- **A closed run stays closed and is not released**, and what ends a run closes it. -/
theorem Went.closing (h : Went m m' actions) (hends : m.closed = true ∨
    actions.any ends = true) :
    m'.closed = true ∧ actions.any releases = false := by
  have hpause := m.pauseActions_any (p := releases) rfl
  have hpauseEnds := m.pauseActions_any (p := ends) rfl
  have hbegin := fun terminal reason =>
    m.beginActions_any terminal reason (p := releases) rfl
  cases h with
  | quiet h =>
    have hclosed : m.closed = true := by simpa using hends
    exact ⟨by rw [← hclosed]; simp [closed, h.failureReason, h.lifecycleState], rfl⟩
  | readied h _ =>
    have hclosed : m.closed = true := by simpa [ends] using hends
    exact ⟨by rw [← hclosed]; simp [closed, h.failureReason, h.lifecycleState], rfl⟩
  | failed h =>
    refine ⟨by simp [closed], ?_⟩
    simp [failureActions, hpause, hbegin, releases]
  | warmed h hstarting =>
    have hends : m.closed = true ∨ False := by
      refine hends.imp_right fun hany => ?_
      split at hany <;> simp [ends] at hany
    simp [closed, h, hstarting] at hends
  | activated h hready =>
    simp [closed, h, hready, ends] at hends
  | finalizing => exact ⟨by simp [closed], hpause⟩
  | completed h hnew =>
    have hclosed : m.closed = true := by simpa [hpauseEnds, ends] using hends
    exact ⟨hclosed, by simp [hpause, releases]⟩
  | stopped h hterminal =>
    exact ⟨by simp [closed, finalized], by simp [hpause, hbegin, releases]⟩
  | stoppedFailed h hnone =>
    refine ⟨by simp [closed, finalized], ?_⟩
    simp [failureActions, hpause, hbegin, releases]
  | quiesced h hstop hnew =>
    have hclosed : m.closed = true := by simpa [ends] using hends
    exact ⟨hclosed, rfl⟩

/-- The pauses of a call set the world to the state it does not have. -/
theorem Went.pausing (h : Went m m' actions) :
    Alternates m.paused (actions.filterMap RuntimeAction.pausing) ∧
      lastOf m.paused (actions.filterMap RuntimeAction.pausing) = m'.paused := by
  have hpause : m.pauseActions.filterMap RuntimeAction.pausing =
      if m.paused then [] else [true] := by
    unfold pauseActions
    split <;> rfl
  have hbegin : ∀ terminal reason,
      (m.beginActions terminal reason).filterMap RuntimeAction.pausing = [] := by
    intro terminal reason
    unfold beginActions
    split <;> rfl
  have hfailure : ∀ reason paths, (m.failureActions reason paths).filterMap RuntimeAction.pausing =
      if m.paused then [] else [true] := by
    intro reason paths
    unfold failureActions
    rw [List.filterMap_append, List.filterMap_append, hpause, hbegin, List.append_nil]
    rfl
  have hpaused : Alternates m.paused (if m.paused then [] else [true]) ∧
      lastOf m.paused (if m.paused then [] else [true]) = true := by
    cases m.paused
    · exact ⟨⟨rfl, trivial⟩, rfl⟩
    · exact ⟨trivial, rfl⟩
  cases h with
  | quiet h => exact ⟨trivial, h.paused.symm⟩
  | readied h _ => exact ⟨trivial, h.paused.symm⟩
  | failed h =>
    rw [hfailure]
    exact hpaused
  | warmed h hstarting =>
    cases hp : m.paused
    · exact ⟨trivial, rfl⟩
    · exact ⟨⟨rfl, trivial⟩, rfl⟩
  | activated h hready => exact ⟨trivial, rfl⟩
  | finalizing =>
    rw [hpause]
    exact hpaused
  | completed h hnew =>
    rw [List.filterMap_append, hpause]
    show Alternates _ (_ ++ []) ∧ lastOf _ (_ ++ []) = _
    rw [List.append_nil]
    exact hpaused
  | stopped h hterminal =>
    rw [List.filterMap_append, List.filterMap_append, hpause, hbegin, List.append_nil]
    show Alternates _ (_ ++ []) ∧ lastOf _ (_ ++ []) = _
    rw [List.append_nil]
    exact hpaused
  | stoppedFailed h hnone =>
    rw [List.filterMap_append, hfailure]
    show Alternates _ (_ ++ []) ∧ lastOf _ (_ ++ []) = _
    rw [List.append_nil]
    exact hpaused
  | quiesced h hstop hnew => exact ⟨trivial, rfl⟩

/-- A flag is turned on by its effect; an activated output is not the only way past readiness. -/
theorem Went.turned (h : Went m m' actions) {k : Kind} (hk : k ≠ .activateOutput)
    (hon : m'.told k = true) : m.told k = true ∨ actions.any k.holds = true := by
  cases h with
  | quiet h =>
    left
    rw [← hon]
    cases k <;> simp [told, h.gazeboReadyPublished, h.lifecycleState, h.sourceSummary,
      h.failureReason, h.beginFinalizationEmitted, h.stopRequested, h.nativeArtifacts]
  | readied h hnew =>
    cases k <;> simp_all [told, Kind.holds, h.sourceSummary, h.failureReason,
      h.beginFinalizationEmitted, h.stopRequested, h.nativeArtifacts]
  | failed h =>
    cases hbegin : m.beginFinalizationEmitted <;> cases k <;>
      simp_all [told, Kind.holds, failureActions, beginActions]
  | warmed h hstarting => cases k <;> simp_all [told]
  | activated h hready => cases k <;> simp_all [told]
  | finalizing => cases k <;> simp_all [told]
  | completed h hnew => cases k <;> simp_all [told, Kind.holds]
  | stopped h hterminal =>
    cases hbegin : m.beginFinalizationEmitted <;> cases k <;>
      simp_all [told, Kind.holds, finalized, beginActions]
  | stoppedFailed h hnone =>
    cases hbegin : m.beginFinalizationEmitted <;> cases k <;>
      simp_all [told, Kind.holds, finalized, failureActions, beginActions]
  | quiesced h hstop hnew => cases k <;> simp_all [told, Kind.holds]

/-- A completed run is finalized after its source has finished, and without a failure. -/
theorem Went.completing (h : Went m m' actions)
    (hany : actions.any completes = true) :
    m.sourceSummary.isSome = true ∧ m.failureReason = none ∧
      actions.any (Kind.holds .writeRuntimeFailure) = false := by
  have hpause := m.pauseActions_any (p := completes) rfl
  have hpauseFailure := m.pauseActions_any (p := Kind.holds .writeRuntimeFailure) rfl
  have hbegin := fun reason =>
    m.beginActions_any .failed reason (p := completes) rfl
  have hbeginFailure := fun terminal reason =>
    m.beginActions_any terminal reason (p := Kind.holds .writeRuntimeFailure) rfl
  cases h with
  | quiet h => cases hany
  | readied h _ => simp [completes] at hany
  | failed h => simp [failureActions, hpause, hbegin, completes] at hany
  | warmed h hstarting => split at hany <;> simp [completes] at hany
  | activated h hready => simp [completes] at hany
  | finalizing =>
    rw [hpause] at hany
    cases hany
  | completed h hnew => simp [hpause, completes] at hany
  | @stopped request terminal reason h hterminal =>
    have hcompleted : terminal = .completed := by
      cases terminal with
      | completed => rfl
      | failed => simp [hpause, hbegin, completes] at hany
      | aborted =>
        have hbegin := m.beginActions_any .aborted reason (p := completes) rfl
        simp [hpause, hbegin, completes] at hany
    obtain ⟨hsource, hnone⟩ := hterminal hcompleted
    exact ⟨hsource, hnone, by simp [hpauseFailure, hbeginFailure, Kind.holds]⟩
  | stoppedFailed h hnone => simp [failureActions, hpause, hbegin, completes] at hany
  | quiesced h hstop hnew => simp [completes] at hany

/-- No quiescence any more: a stop failed, or the run is quiescent already. -/
def barred (m : RuntimeModel) : Bool := m.serverStopFailed || m.nativeArtifacts.isSome

theorem Went.barred_stays (h : Went m m' actions) (hbarred : m.barred = true) :
    m'.barred = true := by
  have hsame : ∀ {k : RuntimeModel}, SameCourse m k → k.barred = true := by
    intro k hk
    unfold barred at hbarred ⊢
    rw [Bool.or_eq_true] at hbarred ⊢
    rw [hk.nativeArtifacts]
    exact hbarred.imp_left hk.serverStopFailed
  cases h with
  | quiet h => exact hsame h
  | readied h _ =>
    have hk := hsame h
    exact hk
  | failed h =>
    unfold barred at hbarred ⊢
    rw [Bool.or_eq_true] at hbarred ⊢
    exact hbarred.imp_left fun hstop => by simp [RuntimeModel.failed, hstop]
  | stoppedFailed h hnone =>
    unfold barred at hbarred ⊢
    simpa [RuntimeModel.failed, finalized] using hbarred
  | quiesced h hstop hnew => simp [barred]
  | _ => exact hbarred

/-- A run quiesces only when it was asked to stop and nothing bars it. -/
theorem Went.quiescing (h : Went m m' actions)
    (hany : actions.any (Kind.holds .writeQuiescence) = true) :
    m.stopRequested = true ∧ m.barred = false := by
  have hpause := m.pauseActions_any (p := Kind.holds .writeQuiescence) rfl
  have hbegin := fun terminal reason =>
    m.beginActions_any terminal reason (p := Kind.holds .writeQuiescence) rfl
  cases h with
  | quiet h => cases hany
  | readied h _ => cases hany
  | failed h => simp [failureActions, hpause, hbegin, Kind.holds] at hany
  | warmed h hstarting => split at hany <;> simp [Kind.holds] at hany
  | activated h hready => cases hany
  | finalizing =>
    rw [hpause] at hany
    cases hany
  | completed h hnew => simp [hpause, Kind.holds] at hany
  | stopped h hterminal => simp [hpause, hbegin, Kind.holds] at hany
  | stoppedFailed h hnone => simp [failureActions, hpause, hbegin, Kind.holds] at hany
  | quiesced h hstop hnew => exact ⟨h, by simp [barred, hstop, hnew]⟩

/-! ## 2. What a run has told -/

/-- What holds between the flags at any time. -/
structure Kept (m : RuntimeModel) : Prop where
  stopCloses : m.stopRequested = true → m.closed = true
  frozenStopped : m.frozen = true → m.stopRequested = true
  frozenNative : m.frozen = m.nativeArtifacts.isSome

theorem kept_initial (runId : String) (expectedFrames : ℕ) :
    Kept (initial runId expectedFrames) where
  stopCloses h := by cases h
  frozenStopped h := by cases h
  frozenNative := rfl

theorem Went.kept (h : Went m m' actions) (hm : Kept m) : Kept m' := by
  have hclosing := fun hclosed => (h.closing (Or.inl hclosed)).1
  cases h with
  | quiet h =>
    refine ⟨fun hstop => hclosing (hm.stopCloses (h.stopRequested ▸ hstop)), fun hfrozen => ?_, ?_⟩
    · rw [h.stopRequested]
      exact hm.frozenStopped (h.frozen ▸ hfrozen)
    · rw [h.frozen, h.nativeArtifacts, hm.frozenNative]
  | readied h _ =>
    refine ⟨fun hstop => hclosing (hm.stopCloses (h.stopRequested ▸ hstop)), fun hfrozen => ?_, ?_⟩
    · show _ = true
      rw [h.stopRequested]
      exact hm.frozenStopped (h.frozen ▸ hfrozen)
    · show _ = _
      rw [h.frozen, h.nativeArtifacts, hm.frozenNative]
  | quiesced hstop _ _ => exact ⟨fun _ => hclosing (hm.stopCloses hstop), fun _ => hstop, rfl⟩
  | stopped h _ => exact ⟨fun _ => by simp [closed, finalized], fun _ => rfl, hm.frozenNative⟩
  | stoppedFailed h _ =>
    exact ⟨fun _ => by simp [closed, finalized], fun _ => rfl, hm.frozenNative⟩
  | _ => exact ⟨fun hstop => hclosing (hm.stopCloses hstop), hm.frozenStopped, hm.frozenNative⟩

theorem accept_went (m : RuntimeModel) (input : RuntimeInput) :
    Went m (m.accept input).1 (published (m.accept input).2) := call_went ⟨rfl, rfl⟩

theorem call_kept {input : RuntimeInput} (h : Calls accept m input actions m') (hm : Kept m) :
    Kept m' := (call_went h).kept hm

theorem call_runId {input : RuntimeInput} (h : Calls accept m input actions m') :
    m'.runId = m.runId := by
  have hwent := call_went h
  cases hwent with
  | quiet hsame => exact hsame.runId
  | readied hsame _ => exact hsame.runId
  | _ => rfl

/-- The input asks the run to finalize. -/
def beginsFinalization (runId : String) : RuntimeInput → Bool
  | .event id (.finalizationRequested _) => id == runId
  | .event id (.runState .finalizing) => id == runId
  | _ => false

/-- What a call on an event of a run that is not frozen returns. -/
theorem accept_of_ok {fact : RuntimeFact} {r : Effects} (hfrozen : m.frozen = false)
    (h : m.acceptFact fact = .ok r) : (m.accept (.event m.runId fact)).1 = r.1 := by
  unfold accept acceptOk
  dsimp only
  rw [if_neg (fun h => h rfl), hfrozen, if_neg Bool.false_ne_true, h]

theorem failure_total {reason : String} (paths : List DiagnosticPath)
    (h : boundedText reason maxReasonBytes = true) : ∃ r, m.failure reason paths = .ok r := by
  unfold failure
  split
  · exact ⟨_, rfl⟩
  · exact ⟨_, rfl⟩

theorem nativeStopFailure_total {reason : String} (h : boundedText reason maxReasonBytes = true) :
    ∃ r, m.nativeStopFailure reason = .ok r := by
  obtain ⟨r, hr⟩ := failure_total serverExitDiagnostics h
  unfold nativeStopFailure
  rw [hr]
  exact ⟨_, rfl⟩

theorem acceptStopped_total {native : NativeArtifactSummary} (h : m.nativeArtifacts = none) :
    ∃ r, m.acceptStopped native = .ok r := by
  unfold acceptStopped
  rw [h]
  dsimp only
  split
  · exact ⟨_, rfl⟩
  · split
    · exact nativeStopFailure_total (by decide)
    · split
      · exact nativeStopFailure_total (by decide)
      · split
        · exact nativeStopFailure_total (by decide)
        · split
          · exact nativeStopFailure_total (by decide)
          · exact ⟨_, rfl⟩

/-- **A run that is asked to finalize is closed.** -/
theorem closed_of_begins {input : RuntimeInput} (hm : Kept m)
    (hbegins : beginsFinalization m.runId input = true) : (m.accept input).1.closed = true := by
  have hstays : m.closed = true → (m.accept input).1.closed = true := fun hclosed =>
    ((m.accept_went input).closing (Or.inl hclosed)).1
  by_cases hclosed : m.closed = true
  · exact hstays hclosed
  have hstop : m.stopRequested = false := by
    rw [Bool.eq_false_iff]
    exact fun h => hclosed (hm.stopCloses h)
  have hfrozen : m.frozen = false := by
    rw [Bool.eq_false_iff]
    intro h
    rw [hm.frozenStopped h] at hstop
    cases hstop
  have hnone : m.failureReason.isSome = false := by
    rw [Bool.eq_false_iff]
    exact fun h => hclosed (by simp [closed, h])
  unfold beginsFinalization at hbegins
  split at hbegins
  · rename_i id request
    obtain rfl := eq_of_beq hbegins
    have hearly : ∃ r, m.failEarly request = .ok r := by
      unfold failEarly
      split
      · exact failure_total _ (by decide)
      · exact ⟨_, rfl⟩
    obtain ⟨r, hr⟩ := hearly
    have hok : m.acceptFact (.finalizationRequested request) =
        .ok ((r.1.finalize request).1, r.2 ++ (r.1.finalize request).2) := by
      show m.acceptFinalization request = _
      unfold acceptFinalization
      rw [hstop, if_neg Bool.false_ne_true, hr]
      rfl
    rw [accept_of_ok hfrozen hok]
    simp [closed, finalize]
  · rename_i id
    obtain rfl := eq_of_beq hbegins
    have hok : m.acceptFact (.runState .finalizing) =
        .ok ({ m with
          lifecycleState := .finalizing, finalizationPreempted := true, paused := true },
          m.pauseActions) := by
      show (if m.failureReason.isSome then _ else m.acceptRunState .finalizing) = _
      rw [hnone, if_neg Bool.false_ne_true]
      rfl
    rw [accept_of_ok hfrozen hok]
    simp [closed]
  · cases hbegins

/-- The input tells of a stop that failed: as such, or as a stop with a summary the run cannot
    trust, or as one nobody asked for. -/
def StopFailure (m : RuntimeModel) : RuntimeInput → Prop
  | .event id (.serverStopFailed _ _) => id = m.runId
  | .event id (.serverStopped native) =>
    id = m.runId ∧ (¬ m.Sound native ∨ m.stopRequested = false)
  | _ => False

/-- **A failed stop bars the quiescence.** -/
theorem barred_of_stopFailure {input : RuntimeInput} (hm : Kept m) (hfail : StopFailure m input) :
    (m.accept input).1.barred = true := by
  by_cases hbarred : m.barred = true
  · exact (m.accept_went input).barred_stays hbarred
  have hnone : m.nativeArtifacts.isSome = false := by
    rw [Bool.eq_false_iff]
    exact fun h => hbarred (by simp [barred, h])
  have hfrozen : m.frozen = false := by rw [hm.frozenNative, hnone]
  unfold StopFailure at hfail
  split at hfail
  · rename_i id reason paths
    obtain rfl := hfail
    obtain ⟨r, hr⟩ := failure_total (m := m) paths reason.property
    have hok : m.acceptFact (.serverStopFailed reason paths) =
        .ok ({ r.1 with serverStopFailed := true }, r.2) := by
      show (m.failure reason.val paths).map _ = _
      rw [hr]
      rfl
    rw [accept_of_ok hfrozen hok]
    simp [barred]
  · rename_i id native
    obtain ⟨rfl, hbad⟩ := hfail
    rw [Option.isSome_eq_false_iff, Option.isNone_iff_eq_none] at hnone
    obtain ⟨r, hr⟩ : ∃ r, m.acceptStopped native = .ok r := acceptStopped_total hnone
    have hok : m.acceptFact (.serverStopped native) = .ok r := hr
    rw [accept_of_ok hfrozen hok]
    obtain ⟨-, -, hset⟩ := acceptStopped_went hr
    rcases hset with hset | hset | ⟨hsound, hrequested⟩
    · simp [barred, hset]
    · rw [hnone] at hset
      cases hset
    · rcases hbad with hbad | hbad
      · exact absurd hsound hbad
      · rw [hrequested] at hbad
        cases hbad
  · cases hfail

/-! ## 3. Whole runs -/

/-- **Single-shot.** -/
theorem singleShot (k : Kind) : SingleShot (Calls accept) k.holds fun m => m.told k where
  stays _ _ _ _ h := ((call_went h).told_single k).2.2
  single _ _ _ _ h := ((call_went h).told_single k).1
  turns _ _ _ _ h := ((call_went h).told_single k).2.1

/-- The pauses of a run alternate. -/
theorem switches : Switches (Calls accept) RuntimeAction.pausing paused :=
  fun _ _ _ _ h => (call_went h).pausing

/-- A run is not released after an effect that ends it. -/
theorem closes : Closes (Calls accept) ends releases closed where
  stays _ _ _ _ h hclosed := ((call_went h).closing (Or.inl hclosed)).1
  turns _ _ a x b _ h hx := by
    have hany : (a ++ x :: b).any ends = true := by simp [hx]
    obtain ⟨hclosed, hnone⟩ := (call_went h).closing (Or.inr hany)
    rw [List.any_append, List.any_cons, Bool.or_eq_false_iff, Bool.or_eq_false_iff] at hnone
    exact ⟨hclosed, hnone.2.2⟩
  needs _ _ _ _ h hclosed := ((call_went h).closing (Or.inl hclosed)).2

/-- A completed run is finalized after its source has finished. -/
theorem completesLate : Needs (Calls accept) (Kind.holds .writeSourceFinished)
    completes fun m => m.told .writeSourceFinished where
  turned _ _ _ _ h := (call_went h).turned (by decide)
  needs _ _ a x b _ h hx := Or.inl ((call_went h).completing (by simp [hx])).1

/-- A completed run is finalized without a failure. -/
theorem completesClean : Closes (Calls accept) (Kind.holds .writeRuntimeFailure)
    completes fun m => m.told .writeRuntimeFailure where
  stays := (singleShot .writeRuntimeFailure).stays
  turns _ _ a x b _ h hx := by
    have hany : (a ++ x :: b).any (Kind.holds .writeRuntimeFailure) = true := by simp [hx]
    have hpos : 0 < (a ++ x :: b).countP (Kind.holds .writeRuntimeFailure) :=
      List.countP_pos_iff.mpr ⟨x, by simp, hx⟩
    refine ⟨(((call_went h).told_single .writeRuntimeFailure).2.1 hpos).2, ?_⟩
    rw [Bool.eq_false_iff]
    intro hb
    have hcompletes : (a ++ x :: b).any completes = true := by
      rw [List.any_append, List.any_cons, hb, Bool.or_true, Bool.or_true]
    rw [((call_went h).completing hcompletes).2.2] at hany
    cases hany
  needs m _ _ _ h hfailed := by
    rw [Bool.eq_false_iff]
    intro hcompletes
    have htold : m.failureReason.isSome = true := hfailed
    rw [((call_went h).completing hcompletes).2.1] at htold
    cases htold

/-- A run quiesces after it was asked to stop. -/
theorem quiescesLate : Needs (Calls accept) (Kind.holds .stopServer)
    (Kind.holds .writeQuiescence) fun m => m.told .stopServer where
  turned _ _ _ _ h := (call_went h).turned (by decide)
  needs _ _ a x b _ h hx := Or.inl ((call_went h).quiescing (by simp [hx])).1

/-- A run that is barred quiesces no more. -/
theorem barredStays : Closes (Calls accept) (fun _ => false) (Kind.holds .writeQuiescence)
    barred where
  stays _ _ _ _ h := (call_went h).barred_stays
  turns _ _ _ _ _ _ _ hx := by cases hx
  needs _ _ _ _ h hbarred := by
    rw [Bool.eq_false_iff]
    intro hany
    rw [((call_went h).quiescing hany).2] at hbarred
    cases hbarred

/-- The effects of a sequence of inputs, in order. -/
def effects (m : RuntimeModel) (inputs : List RuntimeInput) : List RuntimeAction :=
  (feed accept m inputs).2

/-- The model after a sequence of inputs. -/
def after (m : RuntimeModel) (inputs : List RuntimeInput) : RuntimeModel := (feed accept m inputs).1

theorem kept_after (runId : String) (expectedFrames : ℕ) (inputs : List RuntimeInput) :
    Kept ((initial runId expectedFrames).after inputs) :=
  (feed_run accept _ inputs).invariant (kept_initial runId expectedFrames)
    fun _ _ _ _ hm h => call_kept h hm

theorem runId_after (m : RuntimeModel) (inputs : List RuntimeInput) :
    (m.after inputs).runId = m.runId :=
  (feed_run accept m inputs).invariant (P := fun k => k.runId = m.runId) rfl
    fun _ _ _ _ hm h => (call_runId h).trans hm

/-- **The effects of a Gazebo run are safe and single-shot.** Over every sequence of inputs: each
    effect that a run has once is returned at most once; the pauses alternate, the first one
    releasing the world; nothing is released after a failure, a begun finalization or a stop, nor
    after an input that asks the run to finalize; a completed finalization comes after the
    finished source and without a failure; a quiescence comes after the stop of the server and
    never after a failed stop. -/
theorem runtimeEffects_safe (runId : String) (expectedFrames : ℕ) (inputs : List RuntimeInput) :
    let m := initial runId expectedFrames
    (∀ k : Kind, (m.effects inputs).countP k.holds ≤ 1) ∧
    Alternates true ((m.effects inputs).filterMap RuntimeAction.pausing) ∧
    (∀ a x b, m.effects inputs = a ++ x :: b → ends x = true →
      b.any releases = false) ∧
    (∀ before input later, inputs = before ++ input :: later →
      beginsFinalization runId input = true →
      ((m.after (before ++ [input])).effects later).any releases = false) ∧
    (∀ a reason b, m.effects inputs = a ++ RuntimeAction.beginFinalization .completed reason :: b →
      a.any (Kind.holds .writeSourceFinished) = true ∧
        a.any (Kind.holds .writeRuntimeFailure) = false) ∧
    (∀ a native b, m.effects inputs = a ++ RuntimeAction.writeQuiescence native :: b →
      a.any (Kind.holds .stopServer) = true) ∧
    (∀ before input later, inputs = before ++ input :: later →
      StopFailure (m.after before) input →
      ((m.after (before ++ [input])).effects later).any (Kind.holds .writeQuiescence) =
        false) := by
  intro m
  have hrun : Run (Calls accept) m inputs (m.effects inputs) (m.after inputs) :=
    feed_run accept m inputs
  have hlater : ∀ before input, (m.after (before ++ [input])) =
      ((m.after before).accept input).1 := by
    intro before input
    unfold after
    rw [feed_append]
    rfl
  refine ⟨fun k => ((singleShot k).run hrun).1, (switches.run hrun).1, ?_, ?_, ?_, ?_, ?_⟩
  · intro a x b hlog hx
    rw [hlog] at hrun
    exact closes.run hrun hx
  · intro before input later _ hbegins
    refine closes.closed (feed_run accept _ later) ?_
    have hid : (m.after before).runId = runId := runId_after m before
    rw [← hid] at hbegins
    show (m.after (before ++ [input])).closed = true
    rw [hlater]
    exact closed_of_begins (kept_after _ _ before) hbegins
  · intro a reason b hlog
    rw [hlog] at hrun
    refine ⟨completesLate.run rfl hrun rfl, ?_⟩
    rw [Bool.eq_false_iff]
    intro hany
    obtain ⟨x, hmem, hx⟩ := List.any_eq_true.mp hany
    obtain ⟨c, d, rfl⟩ := List.append_of_mem hmem
    rw [List.append_assoc, List.cons_append] at hrun
    have hnone := completesClean.run hrun hx
    simp [completes] at hnone
  · intro a native b hlog
    rw [hlog] at hrun
    exact quiescesLate.run rfl hrun rfl
  · intro before input later _ hstop
    refine barredStays.closed (feed_run accept _ later) ?_
    show (m.after (before ++ [input])).barred = true
    rw [hlater]
    exact barred_of_stopFailure (kept_after _ _ before) hstop

/-- A run of two frames from its first fact to its quiescence. -/
example :
    let run := "11111111-1111-4111-8111-111111111111"
    let native : NativeArtifactSummary :=
      ⟨["runs", run, "gazebo", "server.log"], ["runs", run, "gazebo", "state", "state.tlog.zst"],
        0, true⟩
    ((initial run 2).effects ([.artifactsReady,
        .gazeboReady ⟨true, 2, 2, 0, 0, 2, 0, 1, 0, rfl, by decide, by decide⟩,
        .runState .ready, .runState .running,
        .adapterCompleted ⟨2, 2, 2, 2, some 50000000, some 100000000⟩,
        .finalizationRequested ⟨.completed, ⟨"done", by decide⟩, 30⟩,
        .serverStopped native].map (.event run))).drop 1 =
      [.setPaused false, .activateOutput, .setPaused true, .writeSourceFinished 100000000,
        .beginFinalization .completed "done", .stopServer 30, .writeQuiescence native] := by
  decide +kernel

end RuntimeModel

end DroneSim
