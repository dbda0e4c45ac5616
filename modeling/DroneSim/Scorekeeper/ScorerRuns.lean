/-
  File:      DroneSim/Scorekeeper/ScorerRuns.lean
  Subject:   Runs of the scorer, and what a bad release does to the score for good.

  The scorer takes any sequence of samples, decisions and finalisations; a decision that raises
  leaves behind what was written before it (`afterDecision`). The log of a run holds the releases
  that invalidate something, with the number of their payload event, and the results.

  * `acceptPayloadEvent_eq` -- a payload event invalidates by `invalidation` and does nothing else;
  * `afterDecision_of_ok` -- the state of `accept_judge_decision`, where it does not raise;
  * `Forfeited` -- what an invalidating release in the log leaves in the state in every run, and
    `points_forfeited`, what every result then has;
  * `disqualification_permanent` -- in the runs whose calls are `Lasting` each such result also
    names the release and gives no time bonus;
  * `disqualification_forgotten` -- and not in every run: an approval of FM2 takes the reference of
    an invalid BP, and a time bonus of an earlier result stays after CP is lost.
-/
import DroneSim.Library.Fallible
import DroneSim.Scorekeeper.Config2027
import DroneSim.Scorekeeper.Scorer

namespace DroneSim

open Library

/-- The points of a component and their reference, as the result has them. -/
def ScoreResult.award (r : ScoreResult) (name : String) : Option (ℚ × String) :=
  (r.ruleResults.find? fun row => row.ruleId = name).map fun row =>
    (row.awardedPoints, row.evidenceRef)

namespace VfsScorer

variable {c : ScorerSetup} {s : VfsScorer} {log : List Note} {s : VfsScorer}

/-! ## 1. Calls -/

inductive Call where
  | fail (reason : String)
  | groundTruth (sample : GroundTruthSample)
  | vehicleStatus (sample : VehicleStatusSample)
  | payloadState (sample : PayloadStateSample)
  | payloadEvent (sample : PayloadEventSample)
  | missionEvent (sample : MissionEventSample)
  | judgeDecision (decision : JudgeDecision)
  | finalize (timestampNs : Option ℕ)

/-- An entry of the log. -/
inductive Note where
  /-- `low_release` -/
  | lowRelease (eventId : ℕ)
  /-- `airborne_release` or `invalid_landing` -/
  | lostRecovery (reason : String) (eventId : ℕ)
  | result (result : ScoreResult)
  deriving DecidableEq

/-- What a release makes invalid. -/
inductive Invalidation where
  | bp
  | cp (reason : String)
  deriving DecidableEq

/-- The points for the recovery are lost. -/
def Invalidation.lost : Invalidation → Bool
  | .bp => false
  | .cp _ => true

/-- What a payload event of the run makes invalid. -/
def invalidation (c : ScorerSetup) (s : VfsScorer) (sample : PayloadEventSample) :
    Option Invalidation :=
  match s.truth with
  | none => none
  | some truth =>
    if sample.runId ≠ c.runId ∨ sample.action ≠ "release" ∨ sample.state ≠ "detached" then none
    else if s.phase = "FM2" then
      if truth.positionXyz.z < c.course.attempt.minimumAglM then some .bp else none
    else if s.phase = "FM3" then
      if !truth.inContact then some (.cp "airborne_release")
      else if !waypointContains (c.course.waypoint .L) truth.positionXyz.x truth.positionXyz.y
          c.course.attempt.aircraftRadiusM then
        some (.cp "invalid_landing")
      else none
    else none

/-- The reference of a payload event. -/
def eventRef (eventId : ℕ) : String := "payload-events#" ++ toString eventId

def Invalidation.note (eventId : ℕ) : Invalidation → Note
  | .bp => .lowRelease eventId
  | .cp reason => .lostRecovery reason eventId

/-- The state after an invalidation. -/
def invalidate (s : VfsScorer) (eventId : ℕ) : Option Invalidation → VfsScorer
  | none => s
  | some .bp => s.invalidateBp "low_release" (eventRef eventId)
  | some (.cp reason) => s.invalidateCp reason (eventRef eventId)

/-- **A payload event of the run is observed and invalidates**; another is passed over. -/
theorem acceptPayloadEvent_eq (c : ScorerSetup) (s : VfsScorer) (sample : PayloadEventSample) :
    s.acceptPayloadEvent c sample = if sample.runId ≠ c.runId then s
      else (s.observe sample.simTimestampNs).invalidate sample.eventId (s.invalidation c sample) := by
  unfold acceptPayloadEvent
  split
  · rfl
  · rename_i hrun
    dsimp only [invalidation, observe]
    cases s.truth with
    | none => rfl
    | some truth =>
      dsimp only
      by_cases hrelease : sample.action ≠ "release" ∨ sample.state ≠ "detached"
      · rw [if_pos hrelease, if_pos (Or.inr hrelease)]
        rfl
      · rw [if_neg hrelease, if_neg (not_or.mpr ⟨hrun, hrelease⟩)]
        by_cases hfm2 : s.phase = "FM2"
        · rw [if_pos hfm2, if_pos hfm2]
          split <;> rfl
        · rw [if_neg hfm2, if_neg hfm2]
          by_cases hfm3 : s.phase = "FM3"
          · rw [if_pos hfm3, if_pos hfm3]
            split
            · rfl
            · split <;> rfl
          · rw [if_neg hfm3, if_neg hfm3]
            rfl

/-- The state `accept_judge_decision` leaves, also where it raises. -/
def afterDecision (c : ScorerSetup) (s : VfsScorer) (decision : JudgeDecision) : VfsScorer :=
  if decision.runId ≠ c.runId ∨ decision.outcome ≠ .approved then s
  else
    let s := s.observe decision.simTimestampNs
    let ref := decision.evidenceRefs.head?.getD "judge-decisions"
    if decision.phase = "FM1" ∧ decision.checkpoint = "H" then
      s.recordFm1 c (s.flownAutonomously "FM1") true ref
    else if decision.phase = "FM2" then
      let s := { s with fm2EligibleIds := decision.eligibleArucoIds }
      match s.recordFm2 c decision.eligibleArucoIds (s.flownAutonomously "FM2") ref with
      -- a marker without a target
      | .error _ => s
      -- or else at most the active time is missing
      | .ok s => (s.recordActiveTime decision.activeElapsedNs false).toOption.getD s
    else if decision.phase = "FM3" then
      let s := s.recordFm3 c (s.deliveredMarkers c) (s.flownAutonomously "FM3") ref
      (s.recordActiveTime decision.activeElapsedNs true).toOption.getD s
    else s

/-- **Where `accept_judge_decision` does not raise, this is its state.** -/
theorem afterDecision_of_ok {decision : JudgeDecision} {t : VfsScorer}
    (h : s.acceptJudgeDecision c decision = .ok t) : s.afterDecision c decision = t := by
  unfold acceptJudgeDecision at h
  unfold afterDecision
  split at h
  · rename_i hother
    rw [if_pos hother]
    exact Except.ok.inj h
  · rename_i hours
    rw [if_neg hours]
    dsimp only at h ⊢
    split at h
    · rename_i hfm1
      rw [if_pos hfm1]
      exact Except.ok.inj h
    · rename_i hfm1
      rw [if_neg hfm1]
      split at h
      · rename_i hfm2
        rw [if_pos hfm2]
        generalize recordFm2 c _ _ _ _ = r at h ⊢
        cases r with
        | error => cases h
        | ok s => exact congrArg (fun r => r.toOption.getD s) h
      · rename_i hfm2
        rw [if_neg hfm2]
        split at h
        · rename_i hfm3
          rw [if_pos hfm3, h]
          rfl
        · rename_i hfm3
          rw [if_neg hfm3]
          exact Except.ok.inj h

/-- One call: the state it leaves and the log entries. -/
def step (c : ScorerSetup) (s : VfsScorer) : Call → VfsScorer × List Note
  | .fail reason => ((s.fail reason).toOption.getD s, [])
  | .groundTruth sample => (s.acceptGroundTruth c sample, [])
  | .vehicleStatus sample => (s.acceptVehicleStatus c sample, [])
  | .payloadState sample => (s.acceptPayloadState c sample, [])
  | .payloadEvent sample => (s.acceptPayloadEvent c sample,
      ((s.invalidation c sample).map (Invalidation.note sample.eventId)).toList)
  | .missionEvent sample => (s.acceptMissionEvent c sample, [])
  | .judgeDecision decision => (s.afterDecision c decision, [])
  | .finalize timestampNs =>
    ((s.finalize c timestampNs).1, [.result (s.finalize c timestampNs).2])

/-- The calls of the scorer. -/
def Feeds (c : ScorerSetup) (s : VfsScorer) (call : Call) (notes : List Note) (t : VfsScorer) :
    Prop :=
  (t, notes) = s.step c call

/-! ## 2. What a call can do -/

/-- Nothing of the awards changes, no penalty goes, and each new one is deducted. -/
structure Frame (c : ScorerSetup) (s t : VfsScorer) : Prop where
  a : t.a = s.a
  bp : t.bp = s.bp
  cp : t.cp = s.cp
  ba : t.ba = s.ba
  ca : t.ca = s.ca
  timeBonus : t.t = s.t
  bpInvalid : t.bpInvalid = s.bpInvalid
  cpInvalid : t.cpInvalid = s.cpInvalid
  frozen : t.fm2EligibleIds = s.fm2EligibleIds
  refs : ∀ name, name ≠ "deductions" → t.refs.get name = s.refs.get name
  deducted : t.deductions - c.rules.deductionPoints * t.penalties.length =
    s.deductions - c.rules.deductionPoints * s.penalties.length
  penalties : s.penalties <+: t.penalties

namespace Frame

theorem refl (s : VfsScorer) : Frame c s s :=
  ⟨rfl, rfl, rfl, rfl, rfl, rfl, rfl, rfl, rfl, fun _ _ => rfl, rfl, List.prefix_rfl⟩

theorem trans {s t u : VfsScorer} (h : Frame c s t) (h' : Frame c t u) : Frame c s u where
  a := h'.a.trans h.a
  bp := h'.bp.trans h.bp
  cp := h'.cp.trans h.cp
  ba := h'.ba.trans h.ba
  ca := h'.ca.trans h.ca
  timeBonus := h'.timeBonus.trans h.timeBonus
  bpInvalid := h'.bpInvalid.trans h.bpInvalid
  cpInvalid := h'.cpInvalid.trans h.cpInvalid
  frozen := h'.frozen.trans h.frozen
  refs := fun name hne => (h'.refs name hne).trans (h.refs name hne)
  deducted := h'.deducted.trans h.deducted
  penalties := h.penalties.trans h'.penalties

end Frame

theorem frame_observe (s : VfsScorer) (timestampNs : ℕ) : Frame c s (s.observe timestampNs) :=
  ⟨rfl, rfl, rfl, rfl, rfl, rfl, rfl, rfl, rfl, fun _ _ => rfl, rfl, List.prefix_rfl⟩

theorem frame_addPenalty (s : VfsScorer) (reason evidenceRef : String) :
    Frame c s (s.addPenalty c reason evidenceRef) := by
  refine ⟨rfl, rfl, rfl, rfl, rfl, rfl, rfl, rfl, rfl, fun name hne => ?_, ?_,
    List.prefix_append _ _⟩
  · exact Dict.get_set_of_ne _ _ hne
  · have hlength : ((s.penalties ++ [(reason, evidenceRef)]).length : ℚ) =
        s.penalties.length + 1 := by
      rw [List.length_append]
      exact Nat.cast_succ _
    show s.deductions + c.rules.deductionPoints -
      c.rules.deductionPoints * ((s.penalties ++ [(reason, evidenceRef)]).length : ℚ) = _
    rw [hlength]
    ring

theorem frame_fail {reason : String} : Frame c s ((s.fail reason).toOption.getD s) := by
  unfold fail
  split
  · exact Frame.refl s
  · exact ⟨rfl, rfl, rfl, rfl, rfl, rfl, rfl, rfl, rfl, fun _ _ => rfl, rfl, List.prefix_rfl⟩

theorem frame_touchDownPenalties (s : VfsScorer) (sample : GroundTruthSample) :
    Frame c s (s.touchDownPenalties c sample) := by
  have hcourse : ∀ allowed : Bool, Frame c s (if allowed then s else
      s.addPenalty c "off_course_contact" ("ground-truth#" ++ toString sample.simTimestampNs)) := by
    intro allowed
    split
    · exact Frame.refl s
    · exact frame_addPenalty s _ _
  unfold touchDownPenalties
  dsimp only
  split
  · split
    · exact (hcourse _).trans (frame_addPenalty _ _ _)
    · exact hcourse _
  · exact hcourse _

theorem frame_acceptGroundTruth (s : VfsScorer) (sample : GroundTruthSample) :
    Frame c s (s.acceptGroundTruth c sample) := by
  have hobserved : Frame c s { s.observe sample.simTimestampNs with truth := some sample } :=
    ⟨rfl, rfl, rfl, rfl, rfl, rfl, rfl, rfl, rfl, fun _ _ => rfl, rfl, List.prefix_rfl⟩
  unfold acceptGroundTruth
  split
  · exact Frame.refl s
  · dsimp only
    split
    · exact hobserved.trans (frame_touchDownPenalties _ sample)
    · exact hobserved

theorem frame_acceptVehicleStatus (s : VfsScorer) (sample : VehicleStatusSample) :
    Frame c s (s.acceptVehicleStatus c sample) := by
  unfold acceptVehicleStatus
  split
  · exact Frame.refl s
  · dsimp only
    split
    · exact ⟨rfl, rfl, rfl, rfl, rfl, rfl, rfl, rfl, rfl, fun _ _ => rfl, rfl, List.prefix_rfl⟩
    · exact ⟨rfl, rfl, rfl, rfl, rfl, rfl, rfl, rfl, rfl, fun _ _ => rfl, rfl, List.prefix_rfl⟩

theorem frame_acceptPayloadState (s : VfsScorer) (sample : PayloadStateSample) :
    Frame c s (s.acceptPayloadState c sample) := by
  unfold acceptPayloadState
  split
  · exact Frame.refl s
  · exact ⟨rfl, rfl, rfl, rfl, rfl, rfl, rfl, rfl, rfl, fun _ _ => rfl, rfl, List.prefix_rfl⟩

theorem frame_acceptMissionEvent (s : VfsScorer) (sample : MissionEventSample) :
    Frame c s (s.acceptMissionEvent c sample) := by
  unfold acceptMissionEvent
  split
  · exact Frame.refl s
  · dsimp only
    split
    · exact ⟨rfl, rfl, rfl, rfl, rfl, rfl, rfl, rfl, rfl, fun _ _ => rfl, rfl, List.prefix_rfl⟩
    · exact frame_observe s _

theorem frame_recordActiveTime (s : VfsScorer) (activeElapsedNs : ℤ) (home : Bool) :
    Frame c s ((s.recordActiveTime activeElapsedNs home).toOption.getD s) := by
  unfold recordActiveTime
  split
  · exact Frame.refl s
  · exact ⟨rfl, rfl, rfl, rfl, rfl, rfl, rfl, rfl, rfl, fun _ _ => rfl, rfl, List.prefix_rfl⟩

/-- The decision is an approval of the run for a phase. -/
def approves (c : ScorerSetup) (phase : String) (decision : JudgeDecision) : Bool :=
  decision.runId == c.runId && decision.outcome == .approved && decision.phase == phase

/-- **What one call can do.** -/
inductive StepSpec (c : ScorerSetup) (s : VfsScorer) : Call → VfsScorer → List Note → Prop where
  | plain (call : Call) (t : VfsScorer) (h : Frame c s t) : StepSpec c s call t []
  | lowRelease (sample : PayloadEventSample) (u : VfsScorer) (h : Frame c s u) :
      StepSpec c s (.payloadEvent sample)
        (u.invalidateBp "low_release" (eventRef sample.eventId)) [.lowRelease sample.eventId]
  | lostRecovery (sample : PayloadEventSample) (reason : String) (u : VfsScorer)
      (hlost : s.invalidation c sample = some (.cp reason)) (h : Frame c s u) :
      StepSpec c s (.payloadEvent sample) (u.invalidateCp reason (eventRef sample.eventId))
        [.lostRecovery reason sample.eventId]
  | fm1 (decision : JudgeDecision) (autonomous : Bool) (ref : String) (u : VfsScorer)
      (h : Frame c s u) :
      StepSpec c s (.judgeDecision decision) (u.recordFm1 c autonomous true ref) []
  | fm2Raised (decision : JudgeDecision) (u : VfsScorer) (hfm2 : approves c "FM2" decision = true)
      (h : Frame c s u) :
      StepSpec c s (.judgeDecision decision)
        { u with fm2EligibleIds := decision.eligibleArucoIds } []
  | fm2 (decision : JudgeDecision) (autonomous : Bool) (ref : String) (u v t : VfsScorer)
      (hfm2 : approves c "FM2" decision = true) (h : Frame c s u)
      (hrecord : { u with fm2EligibleIds := decision.eligibleArucoIds }.recordFm2 c
        decision.eligibleArucoIds autonomous ref = .ok v) (h' : Frame c v t) :
      StepSpec c s (.judgeDecision decision) t []
  | fm3 (decision : JudgeDecision) (autonomous : Bool) (ref : String) (u t : VfsScorer)
      (h : Frame c s u)
      (h' : Frame c (u.recordFm3 c (u.deliveredMarkers c) autonomous ref) t) :
      StepSpec c s (.judgeDecision decision) t []
  | finalize (timestampNs : Option ℕ) :
      StepSpec c s (.finalize timestampNs) (s.settle c) [.result (s.finalize c timestampNs).2]

/-- **Every payload event is one of these.** -/
theorem payloadEvent_spec (c : ScorerSetup) (s : VfsScorer) (sample : PayloadEventSample) :
    StepSpec c s (.payloadEvent sample) (s.acceptPayloadEvent c sample)
      ((s.invalidation c sample).map (Invalidation.note sample.eventId)).toList := by
  rw [acceptPayloadEvent_eq]
  split
  · rename_i hrun
    have hnone : s.invalidation c sample = none := by
      unfold invalidation
      split
      · rfl
      · rw [if_pos (Or.inl hrun)]
    rw [hnone]
    exact .plain _ s (Frame.refl s)
  · cases hinvalid : s.invalidation c sample with
    | none => exact .plain _ _ (frame_observe s _)
    | some invalid =>
      cases invalid with
      | bp => exact .lowRelease sample _ (frame_observe s _)
      | cp reason => exact .lostRecovery sample reason _ hinvalid (frame_observe s _)

/-- **Every decision is one of these.** -/
theorem judgeDecision_spec (c : ScorerSetup) (s : VfsScorer) (decision : JudgeDecision) :
    StepSpec c s (.judgeDecision decision) (s.afterDecision c decision) [] := by
  unfold afterDecision
  split
  · exact .plain _ s (Frame.refl s)
  · rename_i hours
    obtain ⟨hrun, happroved⟩ := not_or.mp hours
    rw [not_not] at hrun happroved
    dsimp only
    split
    · exact .fm1 decision _ _ _ (frame_observe s _)
    · split
      · rename_i hphase
        have hfm2 : approves c "FM2" decision = true := by
          rw [approves, beq_iff_eq.mpr hrun, beq_iff_eq.mpr happroved, beq_iff_eq.mpr hphase]
          rfl
        split
        · exact .fm2Raised decision _ hfm2 (frame_observe s _)
        · rename_i hrecord
          exact .fm2 decision _ _ _ _ _ hfm2 (frame_observe s _) hrecord
            (frame_recordActiveTime _ _ _)
      · split
        · exact .fm3 decision _ _ _ _ (frame_observe s _) (frame_recordActiveTime _ _ _)
        · exact .plain _ _ (frame_observe s _)

/-- **Every call is one of these.** -/
theorem step_spec (c : ScorerSetup) (s : VfsScorer) (call : Call) :
    StepSpec c s call (s.step c call).1 (s.step c call).2 := by
  cases call with
  | fail reason => exact .plain _ _ frame_fail
  | groundTruth sample => exact .plain _ _ (frame_acceptGroundTruth s sample)
  | vehicleStatus sample => exact .plain _ _ (frame_acceptVehicleStatus s sample)
  | payloadState sample => exact .plain _ _ (frame_acceptPayloadState s sample)
  | payloadEvent sample => exact payloadEvent_spec c s sample
  | missionEvent sample => exact .plain _ _ (frame_acceptMissionEvent s sample)
  | judgeDecision decision => exact judgeDecision_spec c s decision
  | finalize timestampNs => exact .finalize timestampNs

/-- **Before a result**: a penalty may be added, and the time bonus is set only beside points for
    the recovery. -/
theorem settle_spec (c : ScorerSetup) (s : VfsScorer) :
    ∃ u, Frame c s u ∧ (s.settle c = u ∨
      0 < s.cp ∧ ∃ remaining, s.settle c = { u with t := c.rules.timeBonus remaining }) := by
  unfold settle
  dsimp only
  by_cases hlate : s.lateHome c = true
  · have hframe := frame_addPenalty (c := c) s "late_home" "attempt-status#active-deadline"
    rw [if_pos hlate]
    refine ⟨_, hframe, ?_⟩
    split
    · split
      · rename_i hbonus
        exact Or.inr ⟨hframe.cp ▸ hbonus.1, _, rfl⟩
      · exact Or.inl rfl
    · exact Or.inl rfl
  · rw [if_neg hlate]
    refine ⟨_, Frame.refl s, ?_⟩
    split
    · split
      · rename_i hbonus
        exact Or.inr ⟨hbonus.1, _, rfl⟩
      · exact Or.inl rfl
    · exact Or.inl rfl

/-! ## 3. A bad release -/

/-- **What the releases of the log leave in the state, whatever follows them.** -/
structure Forfeited (log : List Note) (s : VfsScorer) : Prop where
  bpInvalid : (∃ id, Note.lowRelease id ∈ log) →
    ∃ id, Note.lowRelease id ∈ log ∧ s.bpInvalid = some ("low_release", eventRef id)
  cpInvalid : (∃ reason id, Note.lostRecovery reason id ∈ log) →
    ∃ reason id, Note.lostRecovery reason id ∈ log ∧ s.cpInvalid = some (reason, eventRef id)
  bp : s.bpInvalid ≠ none → s.bp = 0
  cp : ∀ reason ref, s.cpInvalid = some (reason, ref) →
    s.cp = 0 ∧ s.refs.get "CP" = some (ref ++ ":" ++ reason)

/-- An invalid BP is named as such, and an invalid CP has no time bonus beside it. -/
structure Attributed (s : VfsScorer) : Prop where
  bp : ∀ reason ref, s.bpInvalid = some (reason, ref) →
    s.refs.get "BP" = some (ref ++ ":" ++ reason)
  timeBonus : s.cpInvalid ≠ none → s.t = 0

/-- The decision approves FM2 and is written down: each of its markers has a target. -/
def records (c : ScorerSetup) (decision : JudgeDecision) : Bool :=
  approves c "FM2" decision && (targetSum c decision.eligibleArucoIds).isOk

/-- The condition on a call: no approval of FM2 is written down after a low release, and no bad
    release follows a result with a time bonus. -/
def Lasting (c : ScorerSetup) (s : VfsScorer) : Call → Prop
  | .judgeDecision decision => records c decision = true → s.bpInvalid = none
  | .payloadEvent sample => (s.invalidation c sample).any Invalidation.lost = true → s.t = 0
  | _ => True

instance (c : ScorerSetup) (s : VfsScorer) : (call : Call) → Decidable (Lasting c s call)
  | .judgeDecision decision =>
    inferInstanceAs (Decidable (records c decision = true → s.bpInvalid = none))
  | .payloadEvent sample =>
    inferInstanceAs (Decidable ((s.invalidation c sample).any Invalidation.lost = true → s.t = 0))
  | .fail _ | .groundTruth _ | .vehicleStatus _ | .payloadState _ | .missionEvent _
  | .finalize _ => .isTrue trivial

namespace Forfeited

theorem init : Forfeited [] init where
  bpInvalid := fun ⟨_, hid⟩ => absurd hid List.not_mem_nil
  cpInvalid := fun ⟨_, _, hid⟩ => absurd hid List.not_mem_nil
  bp := fun h => absurd rfl h
  cp := fun _ _ h => nomatch h

/-- The points may change where nothing is invalid. -/
theorem of_same {s t : VfsScorer} (h : Forfeited log s) (hbpInvalid : t.bpInvalid = s.bpInvalid)
    (hcpInvalid : t.cpInvalid = s.cpInvalid) (hbp : s.bpInvalid ≠ none → s.bp = 0 → t.bp = 0)
    (hcp : s.cpInvalid ≠ none → s.cp = 0 → t.cp = 0)
    (href : s.cpInvalid ≠ none → t.refs.get "CP" = s.refs.get "CP") : Forfeited log t where
  bpInvalid := fun hlow => hbpInvalid ▸ h.bpInvalid hlow
  cpInvalid := fun hlost => hcpInvalid ▸ h.cpInvalid hlost
  bp := fun hsome => hbp (hbpInvalid ▸ hsome) (h.bp (hbpInvalid ▸ hsome))
  cp := by
    intro reason ref hinvalid
    rw [hcpInvalid] at hinvalid
    have hsome : s.cpInvalid ≠ none := by
      rw [hinvalid]
      exact Option.some_ne_none _
    obtain ⟨hzero, hnamed⟩ := h.cp reason ref hinvalid
    exact ⟨hcp hsome hzero, (href hsome).trans hnamed⟩

theorem of_frame {s t : VfsScorer} (h : Forfeited log s) (hframe : Frame c s t) :
    Forfeited log t :=
  h.of_same hframe.bpInvalid hframe.cpInvalid (fun _ => hframe.bp.trans)
    (fun _ => hframe.cp.trans) fun _ => hframe.refs "CP" (by decide)

/-- An entry that is no release changes nothing. -/
theorem snoc (h : Forfeited log s) (r : ScoreResult) : Forfeited (log ++ [.result r]) s where
  bpInvalid := by
    rintro ⟨id, hid⟩
    have hmem : Note.lowRelease id ∈ log := by simpa using hid
    obtain ⟨id', hmem', hinvalid⟩ := h.bpInvalid ⟨id, hmem⟩
    exact ⟨id', List.mem_append_left _ hmem', hinvalid⟩
  cpInvalid := by
    rintro ⟨reason, id, hid⟩
    have hmem : Note.lostRecovery reason id ∈ log := by simpa using hid
    obtain ⟨reason', id', hmem', hinvalid⟩ := h.cpInvalid ⟨reason, id, hmem⟩
    exact ⟨reason', id', List.mem_append_left _ hmem', hinvalid⟩
  bp := h.bp
  cp := h.cp

theorem lowRelease (h : Forfeited log s) (id : ℕ) :
    Forfeited (log ++ [.lowRelease id]) (s.invalidateBp "low_release" (eventRef id)) where
  bpInvalid := fun _ => ⟨id, List.mem_append_right _ List.mem_cons_self, rfl⟩
  cpInvalid := by
    rintro ⟨reason, id', hid⟩
    have hmem : Note.lostRecovery reason id' ∈ log := by simpa using hid
    obtain ⟨reason, id, hmem, hinvalid⟩ := h.cpInvalid ⟨reason, id', hmem⟩
    exact ⟨reason, id, List.mem_append_left _ hmem, hinvalid⟩
  bp := fun _ => rfl
  cp := by
    intro reason ref hinvalid
    obtain ⟨hzero, hnamed⟩ := h.cp reason ref hinvalid
    exact ⟨hzero, (Dict.get_set_of_ne _ _ (by decide)).trans hnamed⟩

theorem lostRecovery (h : Forfeited log s) (reason : String) (id : ℕ) :
    Forfeited (log ++ [.lostRecovery reason id]) (s.invalidateCp reason (eventRef id)) where
  bpInvalid := by
    rintro ⟨id', hid⟩
    have hmem : Note.lowRelease id' ∈ log := by simpa using hid
    obtain ⟨id, hmem, hinvalid⟩ := h.bpInvalid ⟨id', hmem⟩
    exact ⟨id, List.mem_append_left _ hmem, hinvalid⟩
  cpInvalid := fun _ => ⟨reason, id, List.mem_append_right _ List.mem_cons_self, rfl⟩
  bp := h.bp
  cp := by
    intro reason' ref hinvalid
    obtain ⟨rfl, rfl⟩ := Prod.mk.injEq .. ▸ Option.some.inj hinvalid
    exact ⟨rfl, Dict.get_set_self _ _ _⟩

/-- A result takes no points back. -/
theorem settle (h : Forfeited log s) : Forfeited log (s.settle c) := by
  obtain ⟨u, hframe, hsame | ⟨_, remaining, hbonus⟩⟩ := settle_spec c s
  · rw [hsame]
    exact h.of_frame hframe
  · rw [hbonus]
    exact (h.of_frame hframe).of_same rfl rfl (fun _ h => h) (fun _ h => h) fun _ => rfl

/-- **Every call keeps it.** -/
theorem step {log notes : List Note} {s t : VfsScorer} {call : Call} (h : Forfeited log s)
    (hstep : StepSpec c s call t notes) : Forfeited (log ++ notes) t := by
  cases hstep with
  | plain _ _ hframe =>
    rw [List.append_nil]
    exact h.of_frame hframe
  | lowRelease sample u hframe => exact (h.of_frame hframe).lowRelease _
  | lostRecovery sample reason u _ hframe => exact (h.of_frame hframe).lostRecovery _ _
  | fm1 decision autonomous ref u hframe =>
    rw [List.append_nil]
    exact (h.of_frame hframe).of_same rfl rfl (fun _ h => h) (fun _ h => h)
      fun _ => Dict.get_set_of_ne _ _ (by decide)
  | fm2Raised decision u _ hframe =>
    rw [List.append_nil]
    exact (h.of_frame hframe).of_same rfl rfl (fun _ h => h) (fun _ h => h) fun _ => rfl
  | fm2 decision autonomous ref u v t _ hframe hrecord hframe' =>
    obtain ⟨points, _, rfl⟩ := map_ok hrecord
    rw [List.append_nil]
    refine Forfeited.of_frame ?_ hframe'
    refine (h.of_frame hframe).of_same rfl rfl (fun hinvalid _ => ?_) (fun _ h => h) fun _ => ?_
    · exact if_pos (Option.isSome_iff_ne_none.mpr hinvalid)
    · exact (Dict.get_set_of_ne _ _ (by decide)).trans (Dict.get_set_of_ne _ _ (by decide))
  | fm3 decision autonomous ref u t hframe hframe' =>
    have hu := h.of_frame hframe
    rw [List.append_nil]
    refine Forfeited.of_frame ?_ hframe'
    refine hu.of_same rfl rfl (fun _ h => h) (fun hinvalid _ => ?_) fun hinvalid => ?_
    · exact if_pos (Option.isSome_iff_ne_none.mpr hinvalid)
    · -- the reference written is the one there
      obtain ⟨⟨reason, ref⟩, hsome⟩ := Option.ne_none_iff_exists'.mp hinvalid
      rw [(hu.cp reason ref hsome).2, recordFm3, hsome]
      exact (Dict.get_set_of_ne _ _ (by decide)).trans (Dict.get_set_self _ _ _)
  | finalize timestampNs => exact h.settle.snoc _

end Forfeited

/-- **In every run**, without a condition. -/
theorem forfeited_run {calls : List Call} {os : List Note} (h : Run (Feeds c) init calls os s) :
    Forfeited os s := by
  induction h with
  | start => exact Forfeited.init
  | @step calls os s call notes t h hstep ih =>
    have hspec := step_spec c s call
    rw [← hstep] at hspec
    exact ih.step hspec

namespace Attributed

theorem of_same {s t : VfsScorer} (h : Attributed s) (hbpInvalid : t.bpInvalid = s.bpInvalid)
    (hcpInvalid : t.cpInvalid = s.cpInvalid) (hbonus : s.cpInvalid ≠ none → t.t = s.t)
    (href : t.refs.get "BP" = s.refs.get "BP") : Attributed t where
  bp := fun reason ref hinvalid => href.trans (h.bp reason ref (hbpInvalid ▸ hinvalid))
  timeBonus := fun hsome =>
    (hbonus (hcpInvalid ▸ hsome)).trans (h.timeBonus (hcpInvalid ▸ hsome))

theorem of_frame {s t : VfsScorer} (h : Attributed s) (hframe : Frame c s t) : Attributed t :=
  h.of_same hframe.bpInvalid hframe.cpInvalid (fun _ => hframe.timeBonus)
    (hframe.refs "BP" (by decide))

/-- A result gives no time bonus beside an invalid CP. -/
theorem settle (h : Attributed s) (hforfeited : Forfeited log s) : Attributed (s.settle c) := by
  obtain ⟨u, hframe, hsame | ⟨hcp, remaining, hbonus⟩⟩ := settle_spec c s
  · rw [hsame]
    exact h.of_frame hframe
  · rw [hbonus]
    refine h.of_same hframe.bpInvalid hframe.cpInvalid (fun hinvalid => ?_)
      (hframe.refs "BP" (by decide))
    -- there are no points for the recovery any more
    obtain ⟨⟨reason, ref⟩, hsome⟩ := Option.ne_none_iff_exists'.mp hinvalid
    rw [(hforfeited.cp reason ref hsome).1] at hcp
    exact absurd hcp (lt_irrefl 0)

/-- **What a call that meets the condition leaves.** -/
theorem step {log notes : List Note} {s t : VfsScorer} {call : Call} (h : Attributed s)
    (hforfeited : Forfeited log s) (hlasting : Lasting c s call)
    (hstep : StepSpec c s call t notes) : Attributed t := by
  cases hstep with
  | plain _ _ hframe => exact h.of_frame hframe
  | lowRelease sample u hframe =>
    refine ⟨?_, (h.of_frame hframe).timeBonus⟩
    intro reason ref hinvalid
    obtain ⟨rfl, rfl⟩ := Prod.mk.injEq .. ▸ Option.some.inj hinvalid
    exact Dict.get_set_self _ _ _
  | lostRecovery sample reason u hlost hframe =>
    refine ⟨fun reason ref hinvalid => ?_, fun _ => ?_⟩
    · exact (Dict.get_set_of_ne _ _ (by decide)).trans ((h.of_frame hframe).bp reason ref hinvalid)
    · exact hframe.timeBonus.trans (hlasting (by rw [hlost]; rfl))
  | fm1 decision autonomous ref u hframe =>
    exact (h.of_frame hframe).of_same rfl rfl (fun _ => rfl) (Dict.get_set_of_ne _ _ (by decide))
  | fm2Raised decision u _ hframe =>
    exact (h.of_frame hframe).of_same rfl rfl (fun _ => rfl) rfl
  | fm2 decision autonomous ref u v t hfm2 hframe hrecord hframe' =>
    obtain ⟨points, hpoints, rfl⟩ := map_ok hrecord
    -- it is written down, so there was no low release
    have hnone : s.bpInvalid = none := by
      refine hlasting ?_
      rw [records, hfm2, hpoints]
      rfl
    refine Attributed.of_frame ⟨fun reason ref hinvalid => ?_, ?_⟩ hframe'
    · have hsome : u.bpInvalid = some (reason, ref) := hinvalid
      rw [hframe.bpInvalid, hnone] at hsome
      cases hsome
    · exact (h.of_frame hframe).timeBonus
  | fm3 decision autonomous ref u t hframe hframe' =>
    refine Attributed.of_frame ?_ hframe'
    refine (h.of_frame hframe).of_same rfl rfl (fun _ => rfl) ?_
    exact (Dict.get_set_of_ne _ _ (by decide)).trans (Dict.get_set_of_ne _ _ (by decide))
  | finalize timestampNs => exact h.settle hforfeited

end Attributed

theorem attributed_run {calls : List Call} {os : List Note}
    (h : Run (Meeting (Feeds c) (Lasting c)) init calls os s) : Attributed s := by
  induction h with
  | start => exact ⟨fun _ _ h => (nomatch h), fun h => absurd rfl h⟩
  | @step calls os s call notes t h hstep ih =>
    obtain ⟨hfeeds, hlasting⟩ := hstep
    have hspec := step_spec c s call
    rw [← hfeeds] at hspec
    exact ih.step (forfeited_run h.of_meeting) hlasting hspec

/-- **No penalty goes** in a run. -/
theorem penalties_grow {t : VfsScorer} {calls : List Call} {os : List Note}
    (h : Run (Feeds c) s calls os t) : s.penalties <+: t.penalties := by
  refine h.invariant (P := fun t => s.penalties <+: t.penalties) List.prefix_rfl ?_
  intro t call notes u hgrown hstep
  refine hgrown.trans ?_
  have hspec := step_spec c t call
  rw [← hstep] at hspec
  cases hspec with
  | plain _ _ hframe => exact hframe.penalties
  | lowRelease sample u hframe => exact hframe.penalties
  | lostRecovery sample reason u _ hframe => exact hframe.penalties
  | fm1 decision autonomous ref u hframe => exact hframe.penalties
  | fm2Raised decision u _ hframe => exact hframe.penalties
  | fm2 decision autonomous ref u v t _ hframe hrecord hframe' =>
    obtain ⟨points, _, rfl⟩ := map_ok hrecord
    exact hframe.penalties.trans hframe'.penalties
  | fm3 decision autonomous ref u t hframe hframe' =>
    exact hframe.penalties.trans hframe'.penalties
  | finalize timestampNs =>
    show t.penalties <+: (t.settle c).penalties
    obtain ⟨u, hframe, hsame | ⟨_, remaining, hbonus⟩⟩ := settle_spec c t
    · rw [hsame]
      exact hframe.penalties
    · rw [hbonus]
      exact hframe.penalties

/-- Only a finalisation gives a result. -/
theorem result_of_step {call : Call} {r : ScoreResult} (h : Note.result r ∈ (s.step c call).2) :
    ∃ timestampNs, call = .finalize timestampNs ∧ r = (s.finalize c timestampNs).2 := by
  have hspec := step_spec c s call
  generalize (s.step c call).1 = t at hspec
  generalize (s.step c call).2 = notes at hspec h
  cases hspec with
  | finalize timestampNs =>
    have hr := List.mem_singleton.mp h
    exact ⟨timestampNs, rfl, by injection hr⟩
  | lowRelease => simp at h
  | lostRecovery => simp at h
  | plain => exact absurd h List.not_mem_nil
  | fm1 => exact absurd h List.not_mem_nil
  | fm2Raised => exact absurd h List.not_mem_nil
  | fm2 => exact absurd h List.not_mem_nil
  | fm3 => exact absurd h List.not_mem_nil

/-- **A result of a run** is that of the state its finalisation finds, with the log before it. -/
theorem result_of_run {C : VfsScorer → Call → Prop} {calls : List Call} {before after : List Note}
    {r : ScoreResult} (h : Run (Meeting (Feeds c) C) init calls (before ++ .result r :: after) s) :
    ∃ js t timestampNs, js ++ [.finalize timestampNs] <+: calls ∧
      Run (Meeting (Feeds c) C) init js before t ∧ r = (t.finalize c timestampNs).2 := by
  obtain ⟨js, ks, ps, t, call, p, q, u, hcalls, hbefore, ⟨hfeeds, _⟩, rfl⟩ := h.emitted
  have hnotes : (t.step c call).2 = p ++ .result r :: q := (congrArg Prod.snd hfeeds).symm
  have hmem : Note.result r ∈ (t.step c call).2 := by
    rw [hnotes]
    exact List.mem_append_right p List.mem_cons_self
  obtain ⟨timestampNs, rfl, hr⟩ := result_of_step hmem
  have hp : p = [] := by
    cases p with
    | nil => rfl
    | cons note p => simp [step] at hnotes
  rw [hp, List.append_nil]
  exact ⟨js, t, timestampNs, ⟨ks, by rw [hcalls, List.append_assoc]; rfl⟩, hbefore, hr⟩

theorem award_bp (s : VfsScorer) (timestampNs : Option ℕ) :
    (s.finalize c timestampNs).2.award "BP" =
      some ((s.settle c).bp, ((s.settle c).refs.get "BP").getD "rules#BP") := rfl

theorem award_cp (s : VfsScorer) (timestampNs : Option ℕ) :
    (s.finalize c timestampNs).2.award "CP" =
      some ((s.settle c).cp, ((s.settle c).refs.get "CP").getD "rules#CP") := rfl

theorem award_t (s : VfsScorer) (timestampNs : Option ℕ) :
    (s.finalize c timestampNs).2.award "T" =
      some ((s.settle c).t, ((s.settle c).refs.get "T").getD "rules#T") := rfl

/-- **After a low release BP has no points**, and after a release that loses the recovery CP has
    none and names such a release. -/
def Forfeits (before : List Note) (r : ScoreResult) : Prop :=
  ((∃ id, Note.lowRelease id ∈ before) → (r.award "BP").map Prod.fst = some 0) ∧
  ((∃ reason id, Note.lostRecovery reason id ∈ before) →
    ∃ reason id, Note.lostRecovery reason id ∈ before ∧
      r.award "CP" = some (0, eventRef id ++ ":" ++ reason))

/-- **This much holds of every result**, whatever the calls are. -/
theorem points_forfeited {calls : List Call} {before after : List Note} {s : VfsScorer}
    {r : ScoreResult} (hrun : Run (Feeds c) init calls (before ++ .result r :: after) s) :
    Forfeits before r := by
  obtain ⟨calls, t, timestampNs, -, hbefore, rfl⟩ :=
    result_of_run (C := fun _ _ => True) (hrun.mono fun _ _ _ _ hs => ⟨hs, trivial⟩)
  have hsettled := (forfeited_run hbefore.of_meeting).settle (c := c)
  constructor
  · intro hlow
    obtain ⟨id, _, hinvalid⟩ := hsettled.bpInvalid hlow
    have hzero := hsettled.bp (hinvalid ▸ Option.some_ne_none _)
    rw [award_bp, hzero]
    rfl
  · intro hlost
    obtain ⟨reason, id, hmem, hinvalid⟩ := hsettled.cpInvalid hlost
    obtain ⟨hzero, hnamed⟩ := hsettled.cp reason _ hinvalid
    refine ⟨reason, id, hmem, ?_⟩
    rw [award_cp, hzero, hnamed]
    rfl

/-- **A result keeps to the releases before it**: after a low release BP has no points and names
    such a release; after an airborne one or one beside the landing zone CP and T have no points
    and CP names such a release. -/
def KeepsTo (before : List Note) (r : ScoreResult) : Prop :=
  ((∃ id, Note.lowRelease id ∈ before) → ∃ id, Note.lowRelease id ∈ before ∧
    r.award "BP" = some (0, eventRef id ++ ":" ++ "low_release")) ∧
  ((∃ reason id, Note.lostRecovery reason id ∈ before) →
    ∃ reason id, Note.lostRecovery reason id ∈ before ∧
      r.award "CP" = some (0, eventRef id ++ ":" ++ reason) ∧
      (r.award "T").map Prod.fst = some 0)

/-- **A bad release counts in every later result** of a run whose calls meet the condition. -/
theorem disqualification_permanent {calls : List Call} {os before after : List Note}
    {s : VfsScorer} {r : ScoreResult}
    (hrun : Run (Meeting (Feeds c) (Lasting c)) init calls os s)
    (hsplit : os = before ++ .result r :: after) : KeepsTo before r := by
  subst hsplit
  have hforfeits := points_forfeited hrun.of_meeting
  obtain ⟨calls, t, timestampNs, -, hbefore, rfl⟩ := result_of_run hrun
  have hforfeited := forfeited_run hbefore.of_meeting
  have hattributed := (attributed_run hbefore).settle (c := c) hforfeited
  constructor
  · intro hlow
    obtain ⟨id, hmem, hinvalid⟩ := (hforfeited.settle (c := c)).bpInvalid hlow
    refine ⟨id, hmem, ?_⟩
    have hzero := (hforfeited.settle (c := c)).bp (hinvalid ▸ Option.some_ne_none _)
    rw [award_bp, hattributed.bp _ _ hinvalid, hzero]
    rfl
  · intro hlost
    obtain ⟨reason, id, hmem, hcp⟩ := hforfeits.2 hlost
    obtain ⟨_, _, _, hinvalid⟩ := (hforfeited.settle (c := c)).cpInvalid hlost
    refine ⟨reason, id, hmem, hcp, ?_⟩
    rw [award_t, hattributed.timeBonus (hinvalid ▸ Option.some_ne_none _)]
    rfl

/-! ## 4. Two runs -/

/-- A scorer of the committed configuration. -/
def scorer2027 : ScorerSetup := (runtime2027 []).scorer

open Sample2027

/-- A payload is released in FM2 five metres up. -/
def lowCalls : List Call :=
  [.missionEvent (startedAt (ms 0) 0 "FM2"), .groundTruth (truthAt (ms 10) 0 0 5 false),
    .payloadEvent ⟨runId2027, ms 20, 7, 2, "release", "detached"⟩]

/-- Decision `id` approves a phase. -/
def approvalOf (phase : String) (id : ℕ) (eligible : List ℕ) : JudgeDecision :=
  ⟨runId2027, ms (100 * id), id, "check", id, phase, "", .approved, eligible, 1000000000,
    "approved", ["mission-events#" ++ toString id]⟩

/-- What a log entry awards. -/
def Note.award (name : String) : Note → Option (ℚ × String)
  | .result r => r.award name
  | _ => none

/-- A test of the last log entry of a computed run, and of one before it. -/
theorem exists_result (C : VfsScorer → Call → Prop) [∀ s call, Decidable (C s call)]
    (calls : List Call) (note : Note) (name : String) (value : ℚ × String)
    (h : (exec (fun s call => (.ok (s.step c call) : Except Empty _))
      (fun s call => decide (C s call)) init calls).any (fun r => r.2.dropLast.contains note &&
        r.2.getLast?.bind (Note.award name) == some value) = true) :
    ∃ s before r, Run (Meeting (Feeds c) C) init calls (before ++ [.result r]) s ∧
      note ∈ before ∧ r.award name = some value := by
  obtain ⟨t, os, hrun, htest⟩ := exists_run
    (p := fun _ os => os.dropLast.contains note &&
      os.getLast?.bind (Note.award name) == some value) h
  obtain ⟨hbefore, hlast⟩ := Bool.and_eq_true_iff.mp htest
  obtain ⟨last, hnote, haward⟩ := Option.bind_eq_some_iff.mp (beq_iff_eq.mp hlast)
  have hos : os = os.dropLast ++ [last] := (List.dropLast_append_getLast? last hnote).symm
  have hfeeds : Run (Meeting (Feeds c) C) init calls (os.dropLast ++ [last]) t :=
    hos ▸ hrun.mono fun _ _ _ _ hs => ⟨(Except.ok.inj hs.1).symm, of_decide_eq_true hs.2⟩
  cases last with
  | result r => exact ⟨t, os.dropLast, r, hfeeds, List.contains_iff_mem.mp hbefore, haward⟩
  | lowRelease => cases haward
  | lostRecovery => cases haward

/-- A low release, and a result. -/
theorem disqualification_permanent_low :
    ∃ s before r, Run (Meeting (Feeds scorer2027) (Lasting scorer2027)) init
        (lowCalls ++ [.finalize none]) (before ++ [Note.result r]) s ∧
      Note.lowRelease 7 ∈ before ∧ r.award "BP" = some (0, "payload-events#7:low_release") ∧
      KeepsTo before r := by
  obtain ⟨s, before, r, hrun, hlow, haward⟩ := exists_result (c := scorer2027)
    (Lasting scorer2027) (lowCalls ++ [.finalize none]) (.lowRelease 7) "BP"
    (0, "payload-events#7:low_release") (by decide +kernel)
  exact ⟨s, before, r, hrun, hlow, haward, disqualification_permanent hrun rfl⟩

/-- A payload is brought back and a result given; then one is released in the air. -/
def lateLossCalls : List Call :=
  [.judgeDecision (approvalOf "FM2" 3 [2]), .payloadState (restingAt (ms 350) 2 (-30.48) 0),
    .judgeDecision (approvalOf "FM3" 4 []), .finalize none,
    .missionEvent (startedAt (ms 500) 5 "FM3"), .groundTruth (aloftAt (ms 510)),
    .payloadEvent ⟨runId2027, ms 520, 8, 2, "release", "detached"⟩]

/-- A reference of another stream is none of a payload event. -/
theorem eventRef_ne (id : ℕ) (reason rest : String) (h : rest.toList.head? ≠ some 'p') :
    eventRef id ++ ":" ++ reason ≠ rest := by
  rintro rfl
  refine h ?_
  rw [eventRef, String.toList_append, String.toList_append, String.toList_append]
  rfl

/-- **An approval of FM2 after a low release takes the reference of BP**, and a time bonus of an
    earlier result stays where CP is lost. -/
theorem disqualification_forgotten :
    (∃ s before r, Run (Feeds scorer2027) init
        (lowCalls ++ [.judgeDecision (approvalOf "FM2" 3 [2]), .finalize none])
        (before ++ [Note.result r]) s ∧ Note.lowRelease 7 ∈ before ∧ ¬KeepsTo before r) ∧
    ∃ s before r, Run (Feeds scorer2027) init (lateLossCalls ++ [.finalize none])
        (before ++ [Note.result r]) s ∧
      Note.lostRecovery "airborne_release" 8 ∈ before ∧ ¬KeepsTo before r := by
  constructor
  · obtain ⟨s, before, r, hrun, hlow, haward⟩ := exists_result (c := scorer2027)
      (fun _ _ => True) (lowCalls ++ [.judgeDecision (approvalOf "FM2" 3 [2]), .finalize none])
      (.lowRelease 7) "BP" (0, "mission-events#3") (by decide +kernel)
    refine ⟨s, before, r, hrun.of_meeting, hlow, fun hkeeps => ?_⟩
    obtain ⟨id, _, hnamed⟩ := hkeeps.1 ⟨7, hlow⟩
    have href : eventRef id ++ ":" ++ "low_release" = "mission-events#3" :=
      congrArg Prod.snd (Option.some.inj (hnamed.symm.trans haward))
    exact eventRef_ne id _ _ (by decide) href
  · obtain ⟨s, before, r, hrun, hlost, haward⟩ := exists_result (c := scorer2027)
      (fun _ _ => True) (lateLossCalls ++ [.finalize none])
      (.lostRecovery "airborne_release" 8) "T" (15, "rules#T") (by decide +kernel)
    refine ⟨s, before, r, hrun.of_meeting, hlost, fun hkeeps => ?_⟩
    obtain ⟨_, _, _, _, hbonus⟩ := hkeeps.2 ⟨_, 8, hlost⟩
    rw [haward] at hbonus
    exact absurd (Option.some.inj hbonus) (by decide)

end VfsScorer

end DroneSim
