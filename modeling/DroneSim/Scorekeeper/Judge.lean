/-
  File:      DroneSim/Scorekeeper/Judge.lean
  Subject:   The automatic judge `VfsJudge` (scorekeeper/vfs.py).

  `VfsJudge` is the mutable state of the judge; run id, course, scenario and the JSON decoder
  stand aside in `JudgeSetup`, since no method changes them. A method that may raise answers in
  `Except String` with the source's text; nothing of the state survives a raise.

  * `acceptGroundTruth` is the guard and `advance`, the four updates of the source in their
    order: leg peak, approval timeout, contact change, deadline;
  * `acceptVehicleStatus` is the guard and `noteStatus`, which may stop the clock for FM2;
  * `decision` answers a check request: freshness, then one branch per phase;
  * `acceptMissionEvent` and `rejectMissionEventMissingEvidence` differ only in how a request
    that was not seen before is answered (`respond`);
  * `call` is one method call, named by a `Call`; a run of the judge is a run of `Accepts`.
-/
import DroneSim.Scorekeeper.Footprint
import DroneSim.Library.Run

namespace DroneSim

open Library

/-! ## 1. State -/

/-- What the judge is built with. -/
structure JudgeSetup where
  runId : String
  course : VfsCourse
  scenario : VfsScenario
  loads : JsonLoads

structure VfsJudge where
  truth : Option GroundTruthSample
  status : Option VehicleStatusSample
  payloads : Dict ℕ PayloadStateSample
  requests : Dict String (String × String × JudgeDecision)
  decisionId : ℕ
  statusSequence : ℕ
  startedAtNs : Option ℕ
  activeSinceNs : Option ℕ
  activeAccumulatedNs : ℤ
  paused : Bool
  approvalNs : ℕ
  phase : String
  finished : Bool
  terminalFailureReason : Option String
  payloadGroundedSince : Dict ℕ ℕ
  takeoffCount : ℕ
  fm1DApproved : Bool
  fm2Approved : Bool
  fm2Airborne : Bool
  fm2EligibleIds : List ℕ
  legPeakAglM : ℚ

namespace VfsJudge

variable (c : JudgeSetup) (j : VfsJudge) (event : MissionEventSample) (timestampNs : ℕ)

/-- `__init__`. -/
def init : VfsJudge where
  truth := none
  status := none
  payloads := Dict.empty
  requests := Dict.empty
  decisionId := 0
  statusSequence := 0
  startedAtNs := none
  activeSinceNs := none
  activeAccumulatedNs := 0
  paused := false
  approvalNs := 0
  phase := ""
  finished := false
  terminalFailureReason := none
  payloadGroundedSince := Dict.empty
  takeoffCount := 0
  fm1DApproved := false
  fm2Approved := false
  fm2Airborne := false
  fm2EligibleIds := []
  legPeakAglM := 0

/-- The property `active_elapsed_ns`. -/
def activeElapsedNs : ℤ :=
  match j.activeSinceNs, j.truth with
  | some since, some truth => j.activeAccumulatedNs + truth.simTimestampNs - since
  | _, _ => j.activeAccumulatedNs

/-- `_active_elapsed_at`. -/
def activeElapsedAt : ℤ :=
  match j.activeSinceNs with
  | none => j.activeAccumulatedNs
  | some since => j.activeAccumulatedNs + max 0 ((timestampNs : ℤ) - since)

/-- The published state; an approval at time zero counts as none, as in the source. -/
def attemptState : AttemptState :=
  if j.finished then .finished
  else if j.startedAtNs.isNone then .waiting
  else if j.paused && j.approvalNs != 0 then .approved
  else if j.paused then .paused
  else .active

/-- The property `attempt_status`. -/
def attemptStatus : AttemptStatus where
  runId := c.runId
  simTimestampNs := (j.truth.map GroundTruthSample.simTimestampNs).getD 0
  sequenceId := j.statusSequence
  state := j.attemptState
  activeElapsedNs := j.activeElapsedNs
  approvalTimestampNs := j.approvalNs
  started := j.startedAtNs.isSome

/-! ## 2. Ground truth -/

/-- The aircraft stands inside the home circle. -/
def insideHome (truth : GroundTruthSample) : Bool :=
  waypointContains (c.course.waypoint .H) truth.positionXyz.x truth.positionXyz.y
    c.course.attempt.aircraftRadiusM

/-- The height above ground of a sample. -/
def aglM (sample : GroundTruthSample) : ℚ :=
  sample.positionXyz.z - c.course.groundZM

def trackPeak (sample : GroundTruthSample) : VfsJudge :=
  if sample.inContact then j
  else { j with legPeakAglM := max j.legPeakAglM (aglM c sample) }

/-- An approval is outstanding and older than the approval timeout. -/
def approvalExpired : Bool :=
  j.paused && j.approvalNs != 0 &&
    decide ((timestampNs : ℤ) - j.approvalNs > toNanoseconds c.course.attempt.approvalTimeoutS)

def expireApproval (sample : GroundTruthSample) : VfsJudge :=
  if j.approvalExpired c sample.simTimestampNs then
    { j with finished := true, terminalFailureReason := some "approval_timeout" }
  else j

/-- The takeoff: starts the clock the first time, resumes it where it is paused. -/
def takeOff (sample : GroundTruthSample) : VfsJudge :=
  let j := { j with
    takeoffCount := j.takeoffCount + 1
    fm2Airborne := j.fm2Airborne || j.phase == "FM2"
    legPeakAglM := aglM c sample }
  if j.startedAtNs.isNone then
    { j with
      startedAtNs := some sample.simTimestampNs
      activeSinceNs := some sample.simTimestampNs }
  else if j.paused && !j.finished then
    { j with paused := false, activeSinceNs := some sample.simTimestampNs, approvalNs := 0 }
  else j

/-- The touchdown: inside the home circle in FM3 it stops a running clock. -/
def touchDown (sample : GroundTruthSample) : VfsJudge :=
  match j.activeSinceNs with
  | none => j
  | some since =>
    if j.phase == "FM3" && insideHome c sample then
      { j with
        activeAccumulatedNs := j.activeAccumulatedNs + sample.simTimestampNs - since
        activeSinceNs := none
        paused := true }
    else j

/-- What the change of contact between two consecutive samples does. -/
def changeContact (previous : Option GroundTruthSample) (sample : GroundTruthSample) : VfsJudge :=
  match previous with
  | none => j
  | some previous =>
    if previous.inContact && !sample.inContact then j.takeOff c sample
    else if !previous.inContact && sample.inContact then j.touchDown c sample
    else j

/-- Past the allowed duration the clock stops for good. -/
def enforceDeadline (sample : GroundTruthSample) : VfsJudge :=
  if j.activeElapsedNs > c.course.durationNs then
    let j := match j.activeSinceNs with
      | none => j
      | some since =>
        { j with
          activeAccumulatedNs := j.activeAccumulatedNs + sample.simTimestampNs - since
          activeSinceNs := none }
    { j with finished := true, terminalFailureReason := some "active_deadline_exceeded" }
  else j

/-- The state after an accepted truth sample. -/
def advance (sample : GroundTruthSample) : VfsJudge :=
  let previous := j.truth
  let j := { j with truth := some sample }
  let j := j.trackPeak c sample
  let j := j.expireApproval c sample
  let j := j.changeContact c previous sample
  let j := j.enforceDeadline c sample
  { j with statusSequence := j.statusSequence + 1 }

/-- `accept_ground_truth`. -/
def acceptGroundTruth (sample : GroundTruthSample) : Except String (VfsJudge × AttemptStatus) :=
  if sample.runId ≠ c.runId then .error "evidence belongs to another run"
  else if j.truth.any fun t => decide (sample.simTimestampNs ≤ t.simTimestampNs) then
    .error "ground truth timestamps must increase"
  else .ok (j.advance c sample, (j.advance c sample).attemptStatus c)

/-! ## 3. Vehicle status -/

/-- The status shows the vehicle disarmed on the home circle after a flight of this FM2 phase,
    with the clock running. -/
def pausesFm2 (sample : VehicleStatusSample) : Bool :=
  j.phase == "FM2" && j.fm2Airborne && j.startedAtNs.isSome && j.activeSinceNs.isSome &&
    !sample.armed &&
    j.truth.any fun truth =>
      truth.inContact && insideHome c truth &&
        decide (|(sample.simTimestampNs : ℤ) - truth.simTimestampNs| ≤ statusFreshnessNs)

/-- The state after an accepted status sample. -/
def noteStatus (sample : VehicleStatusSample) : VfsJudge :=
  let j := { j with status := some sample }
  match j.activeSinceNs, j.truth with
  | some since, some truth =>
    if j.pausesFm2 c sample then
      { j with
        activeAccumulatedNs := j.activeAccumulatedNs +
          max sample.simTimestampNs truth.simTimestampNs - since
        activeSinceNs := none
        paused := true }
    else j
  | _, _ => j

/-- `accept_vehicle_status`. -/
def acceptVehicleStatus (sample : VehicleStatusSample) : Except String VfsJudge :=
  if sample.runId ≠ c.runId then .error "evidence belongs to another run"
  else if j.status.any fun s => decide (sample.simTimestampNs ≤ s.simTimestampNs) ||
      sample.sequenceId != s.sequenceId + 1 then
    .error "vehicle status must be ordered and contiguous"
  else .ok (j.noteStatus c sample)

/-! ## 4. Payload states and events -/

/-- `math.sqrt(sum(value * value ...)) <= 0.10`. -/
def slow (sample : PayloadStateSample) : Bool := sqrtLe sample.linearVelocityXyz.normSq (1 / 10)

/-- The state after an accepted payload sample: since when the payload lies still. -/
def notePayload (sample : PayloadStateSample) : VfsJudge :=
  { j with
    payloads := j.payloads.set sample.arucoId sample
    payloadGroundedSince :=
      if sample.grounded && slow sample then
        j.payloadGroundedSince.setdefault sample.arucoId sample.simTimestampNs
      else j.payloadGroundedSince.erase sample.arucoId }

/-- `accept_payload_state`. -/
def acceptPayloadState (sample : PayloadStateSample) : Except String VfsJudge :=
  if sample.runId ≠ c.runId then .error "evidence belongs to another run"
  else if (j.payloads.get sample.arucoId).any fun p =>
      decide (sample.simTimestampNs ≤ p.simTimestampNs) then
    .error "payload timestamps must increase"
  else .ok (j.notePayload sample)

/-- `accept_payload_event`. -/
def acceptPayloadEvent (sample : PayloadEventSample) : Except String VfsJudge :=
  if sample.runId ≠ c.runId then .error "evidence belongs to another run" else .ok j

/-! ## 5. What a check looks at -/

/-- `_fresh_status`. -/
def freshStatus (stamp : ℕ) : Bool :=
  j.status.any fun s => fresh stamp s.simTimestampNs statusFreshnessNs

/-- Truth and status are recent enough for a request stamped `stamp`. -/
def evidenceCurrent (stamp : ℕ) : Bool :=
  (j.truth.any fun t => fresh stamp t.simTimestampNs evidenceFreshnessNs) && j.freshStatus stamp

/-- A marker's last sample is recent enough for a request stamped `stamp`. -/
def payloadCurrent (stamp marker : ℕ) : Bool :=
  (j.payloads.get marker).any fun p => fresh stamp p.simTimestampNs evidenceFreshnessNs

/-- `_contained`. -/
def contained (sample : PayloadStateSample) (zone : Zone) : Bool :=
  payloadContained sample (c.course.waypoint zone) c.scenario.payloadGeometry.sizeM
    c.course.groundZM c.course.attempt.groundContactEpsilonM

/-- The tuple comprehension of `_eligible` for one marker. -/
def eligibleMarker (timestampNs marker : ℕ) : Bool :=
  match j.payloads.get marker, c.scenario.targets.get marker with
  | some sample, some target =>
    fresh timestampNs sample.simTimestampNs evidenceFreshnessNs &&
      decide ((sample.simTimestampNs : ℤ) -
        (j.payloadGroundedSince.get marker).getD sample.simTimestampNs ≥ c.scenario.settleNs) &&
      contained c sample target.zone
  | _, _ => false

/-- `_eligible`. -/
def eligible : List ℕ :=
  c.scenario.markers.filter fun marker => j.eligibleMarker c timestampNs marker

/-- The vehicle stands disarmed inside the home circle. -/
def homeDisarmed : Bool :=
  (j.truth.any fun t => t.inContact && insideHome c t) && (j.status.any fun s => !s.armed)

/-- The physical requirements of an FM1 checkpoint. -/
def fm1Met (checkpoint : String) : Bool :=
  let zone : Zone := if checkpoint = "D" then .D else .H
  let ordered := (checkpoint == "D" && j.phase == "FM1" && decide (j.takeoffCount ≥ 1)) ||
    (checkpoint == "H" && j.fm1DApproved && decide (j.takeoffCount ≥ 2))
  (j.truth.any fun t => t.inContact &&
      waypointContains (c.course.waypoint zone) t.positionXyz.x t.positionXyz.y
        c.course.attempt.aircraftRadiusM) &&
    ordered && (j.status.any fun s => !s.armed) &&
    decide (j.legPeakAglM ≥ c.course.attempt.minimumAglM)

/-- Every target's payload has a current sample. -/
def targetsCurrent (stamp : ℕ) : Bool :=
  c.scenario.targets.keys.all fun marker => j.payloadCurrent stamp marker

/-- An FM2 request stamped `stamp` would be approved. -/
def fm2Met (stamp : ℕ) : Bool :=
  j.evidenceCurrent stamp && j.targetsCurrent c stamp && j.homeDisarmed c

/-- Every frozen payload has a current sample. -/
def frozenCurrent (stamp : ℕ) : Bool :=
  j.fm2EligibleIds.all fun marker => j.payloadCurrent stamp marker

/-- Every frozen payload lies detached in the landing zone. -/
def payloadsRetrieved : Bool :=
  j.fm2EligibleIds.all fun marker => (j.payloads.get marker).any fun p =>
    p.grounded && !p.attached && contained c p .L

/-! ## 6. Decisions -/

/-- The text `payload-state#<marker>/<timestamp>` of each marker that has a sample. -/
def payloadRefs (markers : List ℕ) : List String :=
  markers.filterMap fun marker => (j.payloads.get marker).map fun p =>
    "payload-state#" ++ toString marker ++ "/" ++ toString p.simTimestampNs

/-- The references every decision starts with. -/
def baseRefs : List String :=
  ["mission-events#" ++ toString event.eventId] ++
    (match j.truth with
      | some t => if t.simTimestampNs ≤ event.simTimestampNs then
          ["groundtruth#" ++ toString t.simTimestampNs] else []
      | none => []) ++
    (match j.status with
      | some s => if s.simTimestampNs ≤ event.simTimestampNs then
          ["vehicle-status#" ++ toString s.sequenceId] else []
      | none => [])

/-- What a branch of `_decision` finds. -/
structure Verdict where
  outcome : JudgeOutcome
  reason : String
  eligible : List ℕ
  refs : List String

def Verdict.stale (refs : List String) : Verdict := ⟨.error, "evidence_stale_or_missing", [], refs⟩

def Verdict.unmet (refs : List String) : Verdict :=
  ⟨.rejected, "physical_requirements_not_met", [], refs⟩

/-- The FM1 branch. -/
def fm1Decision (checkpoint : String) (refs : List String) : VfsJudge × Verdict :=
  if j.fm1Met c checkpoint then
    ({ j with fm1DApproved := j.fm1DApproved || checkpoint == "D" },
      ⟨.approved, "landing_approved", [], refs⟩)
  else (j, .unmet refs)

/-- The approving state change of the FM2 branch: stop the clock at the request, freeze the
    eligible payloads. -/
def freezeFm2 (stamp : ℕ) : VfsJudge :=
  let eligible := j.eligible c stamp
  { j with
    activeAccumulatedNs := match j.activeSinceNs with
      | some since => j.activeAccumulatedNs + stamp - since
      | none => j.activeAccumulatedNs
    activeSinceNs := none
    paused := true
    approvalNs := stamp
    fm2Approved := true
    fm2EligibleIds := eligible
    finished := j.finished || eligible.isEmpty }

/-- The FM2 branch. -/
def fm2Decision (stamp : ℕ) (refs : List String) : VfsJudge × Verdict :=
  let refs := refs ++ j.payloadRefs c.scenario.markers
  if !j.targetsCurrent c stamp then (j, .stale refs)
  else if j.homeDisarmed c then
    (j.freezeFm2 c stamp, ⟨.approved, "eligible_payloads_frozen", j.eligible c stamp, refs⟩)
  else (j, .unmet refs)

/-- The FM3 branch. -/
def fm3Decision (stamp : ℕ) (refs : List String) : VfsJudge × Verdict :=
  let refs := refs ++ j.payloadRefs j.fm2EligibleIds
  match j.terminalFailureReason with
  | some reason => (j, ⟨.rejected, reason, [], refs⟩)
  | none =>
    if !j.frozenCurrent stamp then (j, .stale refs)
    else if !j.payloadsRetrieved c then (j, ⟨.rejected, "payload_retrieval_incomplete", [], refs⟩)
    else if j.phase == "FM3" && j.fm2Approved && j.homeDisarmed c then
      ({ j with finished := true }, ⟨.approved, "attempt_complete", [], refs⟩)
    else (j, .unmet refs)

/-- The branches of `_decision`. -/
def judgeCheck (checkpoint : String) : VfsJudge × Verdict :=
  let refs := j.baseRefs event
  let stamp := event.simTimestampNs
  if !j.evidenceCurrent stamp then (j, .stale refs)
  else if event.phase == "FM1" && (checkpoint == "D" || checkpoint == "H") then
    j.fm1Decision c checkpoint refs
  else if event.phase == "FM2" && checkpoint == "" then j.fm2Decision c stamp refs
  else if event.phase == "FM3" && checkpoint == "" then j.fm3Decision c stamp refs
  else (j, ⟨.error, "invalid_check_request", [], refs⟩)

/-- `_decision`. -/
def decision (requestId checkpoint : String) : VfsJudge × JudgeDecision :=
  let r := j.judgeCheck c event checkpoint
  ({ r.1 with decisionId := r.1.decisionId + 1 },
    { runId := c.runId
      simTimestampNs := event.simTimestampNs
      decisionId := r.1.decisionId
      requestId := requestId
      requestEventId := event.eventId
      phase := event.phase
      checkpoint := checkpoint
      outcome := r.2.outcome
      eligibleArucoIds := r.2.eligible
      activeElapsedNs := r.1.activeElapsedNs
      reasonCode := r.2.reason
      evidenceRefs := r.2.refs })

/-- `_error`. -/
def error (c : JudgeSetup) (j : VfsJudge) (event : MissionEventSample)
    (requestId checkpoint reason : String) (activeElapsedNs : ℤ) : VfsJudge × JudgeDecision :=
  ({ j with decisionId := j.decisionId + 1 },
    { runId := c.runId
      simTimestampNs := event.simTimestampNs
      decisionId := j.decisionId
      requestId := requestId
      requestEventId := event.eventId
      phase := event.phase
      checkpoint := checkpoint
      outcome := .error
      eligibleArucoIds := []
      activeElapsedNs := activeElapsedNs
      reasonCode := reason
      evidenceRefs := ["mission-events#" ++ toString event.eventId] })

/-- The answer to a request whose epoch stayed incomplete. -/
def missingEvidence (requestId checkpoint : String) : VfsJudge × JudgeDecision :=
  j.error c event requestId checkpoint "evidence_stale_or_missing"
    (j.activeElapsedAt event.simTimestampNs)

/-- How both methods answer a check request: an unreadable request and a reused id are errors, a
    repeated request gets the stored decision, a new one is answered by `answer` and stored. -/
def respond (answer : VfsJudge → MissionEventSample → String → String → VfsJudge × JudgeDecision)
    (j : VfsJudge) (event : MissionEventSample) : VfsJudge × List JudgeDecision :=
  match requestDetail c.loads event.detail with
  | none =>
    let r := j.error c event "" "" "invalid_request_detail" j.activeElapsedNs
    (r.1, [r.2])
  | some (checkpoint, requestId) =>
    match j.requests.get requestId with
    | some (phase, previousCheckpoint, previous) =>
      if phase = event.phase ∧ previousCheckpoint = checkpoint then (j, [previous])
      else
        let r := j.error c event requestId checkpoint "request_id_conflict" j.activeElapsedNs
        (r.1, [r.2])
    | none =>
      let r := answer j event requestId checkpoint
      ({ r.1 with requests := r.1.requests.set requestId (event.phase, checkpoint, r.2) }, [r.2])

/-- A phase starts: FM2 begins airborne only where the current truth is. -/
def startPhase (phase : String) : VfsJudge :=
  { j with
    phase := phase
    fm2Airborne := if phase == "FM2" then j.truth.any fun t => !t.inContact else j.fm2Airborne }

/-- `accept_mission_event`. -/
def acceptMissionEvent : Except String (VfsJudge × List JudgeDecision) :=
  if event.runId ≠ c.runId then .error "evidence belongs to another run"
  else if event.startsPhase then .ok (j.startPhase event.phase, [])
  else if event.state ≠ "CHECK_REQUESTED" then .ok (j, [])
  else .ok (j.respond c (decision c) event)

/-- `reject_mission_event_missing_evidence`. -/
def rejectMissionEventMissingEvidence : Except String (VfsJudge × List JudgeDecision) :=
  if event.runId ≠ c.runId then .error "evidence belongs to another run"
  else if event.state ≠ "CHECK_REQUESTED" then .ok (j, [])
  else .ok (j.respond c (missingEvidence c) event)

/-! ## 7. Calls -/

/-- A call of one of the judge's methods that take evidence. -/
inductive Call where
  | groundTruth (sample : GroundTruthSample)
  | vehicleStatus (sample : VehicleStatusSample)
  | payloadState (sample : PayloadStateSample)
  | payloadEvent (sample : PayloadEventSample)
  | missionEvent (event : MissionEventSample)
  | missingEvidence (event : MissionEventSample)

/-- The method a call names: the judge afterwards and the decisions returned. -/
def call : Call → Except String (VfsJudge × List JudgeDecision)
  | .groundTruth sample => (j.acceptGroundTruth c sample).map fun r => (r.1, [])
  | .vehicleStatus sample => (j.acceptVehicleStatus c sample).map fun j => (j, [])
  | .payloadState sample => (j.acceptPayloadState c sample).map fun j => (j, [])
  | .payloadEvent sample => (j.acceptPayloadEvent c sample).map fun j => (j, [])
  | .missionEvent event => j.acceptMissionEvent c event
  | .missingEvidence event => j.rejectMissionEventMissingEvidence c event

/-- The accepted calls. -/
abbrev Accepts : VfsJudge → Call → List JudgeDecision → VfsJudge → Prop :=
  Steps (call c)

end VfsJudge

end DroneSim
