/-
  File:      DroneSim/Scorekeeper/Scorer.lean
  Subject:   The online scorer `VfsScorer` with its rules (scorekeeper/vfs.py) and its result
             (scorekeeper/models.py).

  The scorer receives what the judge receives, after it, and the judge's decisions. Its methods
  only add to its components; `finalize` adds the late-home penalty and the time bonus and lists
  components, penalties and total. Two places of the source can raise: a decision that names a
  marker without a target, and a negative active time.
-/
import DroneSim.Scorekeeper.Judge

namespace DroneSim

open Library

/-! ## 1. Rules -/

/-- `VfsRules`; the weight table of the source is never empty. -/
structure VfsRules where
  rulesetId : String
  scoringChecksum : String
  pointAManual : ℚ
  pointAAutonomous : ℚ
  targetPoints : Target → ℚ
  recoveryPoints : ℚ
  autonomyBonus : ℚ
  timeBonuses : List (ℕ × ℚ)
  weightMultipliers : List (ℚ × ℚ)
  deductionPoints : ℚ
  weightMultipliers_ne : weightMultipliers ≠ []

namespace VfsRules

def maximumAvailableScore : ℚ := 380

/-- `multiplier`: the first row whose bound exceeds the weight, the last row for the rest. -/
def multiplier (rules : VfsRules) (weightLb : ℚ) : ℚ :=
  match rules.weightMultipliers.find? fun row => weightLb < row.1 with
  | some row => row.2
  | none => (rules.weightMultipliers.getLast rules.weightMultipliers_ne).2

/-- `time_bonus`: the most points of the rows the remaining time reaches. -/
def timeBonus (rules : VfsRules) (remainingNs : ℤ) : ℚ :=
  let seconds : ℚ := (remainingNs : ℚ) / 1000000000
  ((rules.timeBonuses.filter fun row => (row.1 : ℚ) ≤ seconds).map Prod.snd).max?.getD 0

end VfsRules

/-! ## 2. Results -/

structure RuleResult where
  ruleId : String
  passed : Bool
  awardedPoints : ℚ
  availablePoints : ℚ
  evidenceRef : String
  deriving DecidableEq

structure ScoreEvent where
  runId : String
  simTimestampNs : ℕ
  eventId : ℕ
  eventType : String
  value : ℚ
  evidenceRef : String
  deriving DecidableEq

structure ScoreResult where
  runId : String
  rulesetId : String
  complete : Bool
  achievedScore : ℚ
  maximumAvailableScore : ℚ
  scoringChecksum : String
  evidencePaths : List String
  ruleResults : List RuleResult
  events : List ScoreEvent
  diagnostic : Option String
  deriving DecidableEq

/-! ## 3. State -/

/-- What the scorer is built with. -/
structure ScorerSetup where
  runId : String
  rules : VfsRules
  course : VfsCourse
  scenario : VfsScenario
  weightLb : ℚ

structure VfsScorer where
  a : ℚ
  bp : ℚ
  cp : ℚ
  ba : ℚ
  ca : ℚ
  t : ℚ
  deductions : ℚ
  activeNs : Option ℤ
  homeBeforeDeadline : Bool
  refs : Dict String String
  lastTimestampNs : ℕ
  diagnostic : Option String
  phase : String
  truth : Option GroundTruthSample
  payloads : Dict ℕ PayloadStateSample
  lastVehicleStatus : Option VehicleStatusSample
  autonomous : Dict String Bool
  bpInvalid : Option (String × String)
  cpInvalid : Option (String × String)
  penalties : List (String × String)
  fm2EligibleIds : List ℕ

namespace VfsScorer

variable (c : ScorerSetup) (s : VfsScorer)

/-- `__init__`. -/
def init : VfsScorer where
  a := 0
  bp := 0
  cp := 0
  ba := 0
  ca := 0
  t := 0
  deductions := 0
  activeNs := none
  homeBeforeDeadline := false
  refs := Dict.empty
  lastTimestampNs := 0
  diagnostic := none
  phase := ""
  truth := none
  payloads := Dict.empty
  lastVehicleStatus := none
  autonomous := Dict.ofList [("FM1", true), ("FM2", true), ("FM3", true)]
  bpInvalid := none
  cpInvalid := none
  penalties := []
  fm2EligibleIds := []

/-- `_AUTONOMOUS_MODES`. -/
def autonomousModes : List String := ["GUIDED", "LAND"]

/-! ## 4. Records -/

/-- `fail`. -/
def fail (reason : String) : Except String VfsScorer :=
  if reason = "" then .error "failure reason must be nonempty"
  else .ok { s with diagnostic := s.diagnostic <|> some reason }

/-- `add_penalty`. -/
def addPenalty (reason evidenceRef : String) : VfsScorer :=
  { s with
    deductions := s.deductions + c.rules.deductionPoints
    penalties := s.penalties ++ [(reason, evidenceRef)]
    refs := s.refs.set "deductions" (evidenceRef ++ ":" ++ reason) }

/-- `invalidate_bp`. -/
def invalidateBp (reason evidenceRef : String) : VfsScorer :=
  { s with
    bpInvalid := some (reason, evidenceRef)
    bp := 0
    refs := s.refs.set "BP" (evidenceRef ++ ":" ++ reason) }

/-- `invalidate_cp`. -/
def invalidateCp (reason evidenceRef : String) : VfsScorer :=
  { s with
    cpInvalid := some (reason, evidenceRef)
    cp := 0
    refs := s.refs.set "CP" (evidenceRef ++ ":" ++ reason) }

/-- `record_fm1`. -/
def recordFm1 (autonomous complete : Bool) (evidenceRef : String) : VfsScorer :=
  { s with
    a := if complete then
        if autonomous then c.rules.pointAAutonomous else c.rules.pointAManual
      else 0
    refs := s.refs.set "A" evidenceRef }

/-- The points of the markers' targets; a marker without a target raises. -/
def targetSum (eligible : List ℕ) : Except String ℚ :=
  match eligible.mapM fun marker => c.scenario.targets.get marker with
  | some targets => .ok (targets.map c.rules.targetPoints).sum
  | none => .error "KeyError"

/-- `record_fm2`. -/
def recordFm2 (eligible : List ℕ) (autonomous : Bool) (evidenceRef : String) :
    Except String VfsScorer :=
  (targetSum c eligible).map fun points =>
    { s with
      bp := if s.bpInvalid.isSome then 0 else points
      ba := if autonomous && !eligible.isEmpty then c.rules.autonomyBonus else 0
      refs := (s.refs.set "BP" evidenceRef).set "BA" evidenceRef }

/-- `record_fm3`. -/
def recordFm3 (delivered : List ℕ) (autonomous : Bool) (evidenceRef : String) : VfsScorer :=
  { s with
    cp := if s.cpInvalid.isSome then 0 else delivered.length * c.rules.recoveryPoints
    ca := if autonomous && !delivered.isEmpty then c.rules.autonomyBonus else 0
    refs :=
      (s.refs.set "CP" (match s.cpInvalid with
        | some (reason, invalidationRef) => invalidationRef ++ ":" ++ reason
        | none => evidenceRef)).set "CA" evidenceRef }

/-- `record_active_time`. -/
def recordActiveTime (activeElapsedNs : ℤ) (homeBeforeDeadline : Bool) : Except String VfsScorer :=
  if activeElapsedNs < 0 then .error "timestamp must be a nonnegative integer"
  else .ok { s with activeNs := some activeElapsedNs, homeBeforeDeadline := homeBeforeDeadline }

/-! ## 5. Evidence -/

def observe (timestampNs : ℕ) : VfsScorer :=
  { s with lastTimestampNs := max s.lastTimestampNs timestampNs }

/-- A touchdown outside the four landing zones, and one under a recent failsafe status. -/
def touchDownPenalties (sample : GroundTruthSample) : VfsScorer :=
  let allowed := [Zone.S, .D, .L, .H].any fun zone =>
    waypointContains (c.course.waypoint zone) sample.positionXyz.x sample.positionXyz.y 0
  let s := if allowed then s else
    s.addPenalty c "off_course_contact" ("ground-truth#" ++ toString sample.simTimestampNs)
  match s.lastVehicleStatus with
  | some status =>
    if status.failsafeActive &&
        fresh sample.simTimestampNs status.simTimestampNs statusFreshnessNs then
      s.addPenalty c "failsafe_landing" ("vehicle-status#" ++ toString status.sequenceId)
    else s
  | none => s

/-- `accept_ground_truth`. -/
def acceptGroundTruth (sample : GroundTruthSample) : VfsScorer :=
  if sample.runId ≠ c.runId then s
  else
    let previous := s.truth
    let s := { s.observe sample.simTimestampNs with truth := some sample }
    if (previous.any fun t => !t.inContact) && sample.inContact then s.touchDownPenalties c sample
    else s

/-- The status takes the autonomy of the current phase away. -/
def manual (status : VehicleStatusSample) : Bool :=
  (status.armed && !autonomousModes.contains status.mode) || status.failsafeActive

/-- `accept_vehicle_status`. -/
def acceptVehicleStatus (sample : VehicleStatusSample) : VfsScorer :=
  if sample.runId ≠ c.runId then s
  else
    let s := { s.observe sample.simTimestampNs with lastVehicleStatus := some sample }
    if (s.autonomous.get s.phase).isSome && manual sample then
      { s with autonomous := s.autonomous.set s.phase false }
    else s

/-- `accept_payload_state`. -/
def acceptPayloadState (sample : PayloadStateSample) : VfsScorer :=
  if sample.runId ≠ c.runId then s
  else { s.observe sample.simTimestampNs with payloads := s.payloads.set sample.arucoId sample }

/-- `accept_payload_event`. -/
def acceptPayloadEvent (sample : PayloadEventSample) : VfsScorer :=
  if sample.runId ≠ c.runId then s
  else
    let s := s.observe sample.simTimestampNs
    let evidenceRef := "payload-events#" ++ toString sample.eventId
    match s.truth with
    | none => s
    | some truth =>
      if sample.action ≠ "release" ∨ sample.state ≠ "detached" then s
      else if s.phase = "FM2" then
        -- the height is compared with the datum of the frame, not with the ground
        if truth.positionXyz.z < c.course.attempt.minimumAglM then
          s.invalidateBp "low_release" evidenceRef
        else s
      else if s.phase = "FM3" then
        if !truth.inContact then s.invalidateCp "airborne_release" evidenceRef
        else if !waypointContains (c.course.waypoint .L) truth.positionXyz.x truth.positionXyz.y
            c.course.attempt.aircraftRadiusM then
          s.invalidateCp "invalid_landing" evidenceRef
        else s
      else s

/-- `accept_mission_event`. -/
def acceptMissionEvent (sample : MissionEventSample) : VfsScorer :=
  if sample.runId ≠ c.runId then s
  else
    let s := s.observe sample.simTimestampNs
    if sample.state = "STARTED" ∧ (s.autonomous.get sample.phase).isSome then
      { s with phase := sample.phase }
    else s

/-! ## 6. Decisions -/

/-- The frozen markers whose last sample lies detached in the landing zone. -/
def deliveredMarkers : List ℕ :=
  (s.payloads.items.filter fun p => s.fm2EligibleIds.contains p.1 && !p.2.attached &&
    payloadContained p.2 (c.course.waypoint .L) c.scenario.payloadGeometry.sizeM
      c.course.groundZM c.course.attempt.groundContactEpsilonM).map Prod.fst

/-- The phase was flown without a manual status. -/
def flownAutonomously (phase : String) : Bool :=
  (s.autonomous.get phase).getD false

/-- `accept_judge_decision`. -/
def acceptJudgeDecision (decision : JudgeDecision) : Except String VfsScorer :=
  if decision.runId ≠ c.runId ∨ decision.outcome ≠ .approved then .ok s
  else
    let s := s.observe decision.simTimestampNs
    let ref := decision.evidenceRefs.head?.getD "judge-decisions"
    if decision.phase = "FM1" ∧ decision.checkpoint = "H" then
      .ok (s.recordFm1 c (s.flownAutonomously "FM1") true ref)
    else if decision.phase = "FM2" then
      let s := { s with fm2EligibleIds := decision.eligibleArucoIds }
      match s.recordFm2 c decision.eligibleArucoIds (s.flownAutonomously "FM2") ref with
      | .error e => .error e
      | .ok s => s.recordActiveTime decision.activeElapsedNs false
    else if decision.phase = "FM3" then
      (s.recordFm3 c (s.deliveredMarkers c) (s.flownAutonomously "FM3") ref).recordActiveTime
        decision.activeElapsedNs true
    else .ok s

/-! ## 7. The result -/

/-- The attempt ran out of time without an approved return. -/
def lateHome : Bool :=
  (s.activeNs.any fun active => decide (active > c.course.durationNs)) &&
    !s.homeBeforeDeadline && s.penalties.all fun p => p.1 != "late_home"

/-- The state with the late-home penalty and the time bonus. -/
def settle : VfsScorer :=
  let s := if s.lateHome c then s.addPenalty c "late_home" "attempt-status#active-deadline" else s
  match s.activeNs with
  | some active =>
    if s.cp > 0 ∧ s.homeBeforeDeadline ∧ active ≤ c.course.durationNs then
      { s with t := c.rules.timeBonus (c.course.durationNs - active) }
    else s
  | none => s

/-- The eight components: name, value, available points. -/
def components : List (String × ℚ × ℚ) :=
  [("A", s.a, 65), ("BP", s.bp, 90), ("CP", s.cp, 90), ("R", c.rules.multiplier c.weightLb, 1.5),
    ("BA", s.ba, 15), ("CA", s.ca, 15), ("T", s.t, 15), ("deductions", s.deductions, 0)]

def achieved : ℚ :=
  max 0 (s.a + c.rules.multiplier c.weightLb * (s.bp + s.cp) + s.ba + s.ca + s.t - s.deductions)

def ruleResult (component : String × ℚ × ℚ) : RuleResult where
  ruleId := component.1
  passed := component.2.1 = component.2.2
  awardedPoints := component.2.1
  availablePoints := component.2.2
  evidenceRef := (s.refs.get component.1).getD ("rules#" ++ component.1)

/-- The events of a result: type, value and evidence, to be numbered in this order. -/
def eventRows : List (String × ℚ × String) :=
  ((s.components c).map s.ruleResult).map (fun row =>
      ("competition_2027." ++ row.ruleId, row.awardedPoints, row.evidenceRef)) ++
    s.penalties.map (fun p =>
      ("competition_2027.penalty." ++ p.1, -c.rules.deductionPoints, p.2)) ++
    [("competition_2027.unloaded_weight_lb", c.weightLb,
        "configuration/scenario.yaml#aircraft_empty_mass_kg"),
      ("score.finalized", s.achieved c, "scoring/result.json")]

/-- `finalize`. -/
def finalize (timestampNs : Option ℕ) : VfsScorer × ScoreResult :=
  let stamp := timestampNs.getD s.lastTimestampNs
  let s := s.settle c
  let rows := (s.components c).map s.ruleResult
  (s,
    { runId := c.runId
      rulesetId := c.rules.rulesetId
      complete := s.diagnostic.isNone
      achievedScore := s.achieved c
      maximumAvailableScore := VfsRules.maximumAvailableScore
      scoringChecksum := c.rules.scoringChecksum
      evidencePaths := (rows.map RuleResult.evidenceRef).eraseDups
      ruleResults := rows
      events := (s.eventRows c).zipIdx.map fun e =>
        ⟨c.runId, stamp, e.2, e.1.1, e.1.2.1, e.1.2.2⟩
      diagnostic := s.diagnostic })

end VfsScorer

end DroneSim
