/-
  File:      DroneSim/Scorekeeper/Competition.lean
  Subject:   The physical competition scorer (scorekeeper/competition.py, CompetitionScorer).

  The scorer takes in truth, payload states, payload events and mission events, keeps them, and
  evaluates the seven rules when it is finalized. The first fault it notes stays its diagnostic;
  with a diagnostic no rule is awarded. Lengths and speeds are exact rationals, so a root is only
  ever compared with a bound (`sqrtLe`, `hypotLe`).

  * `acceptGroundTruth`, `acceptPayloadState`, `acceptPayloadEvent`, `acceptMissionEvent`;
  * `latestTimestampGap`, `streamGap` -- the gap of the newest sample, and of a whole stream;
  * `noteStart` -- the start of the mission, and the gaps of the streams so far.
-/
import DroneSim.Scorekeeper.Samples
import DroneSim.Library.Exact

namespace DroneSim

open Library

/-! ## 1. Samples and rules -/

/-- `GroundTruthSample` with the velocity that the competition reads. -/
structure MovingTruthSample extends GroundTruthSample where
  linearVelocityXyz : Xyz
  deriving DecidableEq

/-- `PayloadEventSample` with its command and code. -/
structure CodedPayloadEvent extends PayloadEventSample where
  commandId : String
  code : String
  deriving DecidableEq

structure CompetitionRules where
  sampleIntervalNs : ℕ
  pickupCenterToleranceM : ℚ
  releasePositionToleranceM : ℚ
  releaseHorizontalSpeedMps : ℚ
  releaseStabilityNs : ℕ
  payloadSettleNs : ℕ
  releaseAglM : ℚ
  deadlineNs : ℕ
  points : List ℚ

/-- The values that `load_competition_rules` demands of the file. -/
def competitionV1 : CompetitionRules where
  sampleIntervalNs := 50000000
  pickupCenterToleranceM := 75 / 1000
  releasePositionToleranceM := 15 / 100
  releaseHorizontalSpeedMps := 1 / 10
  releaseStabilityNs := 2000000000
  payloadSettleNs := 1000000000
  releaseAglM := 10
  deadlineNs := 600000000000
  points := [20, 30, 10, 20, 15, 50, 5]

/-- A rectangle of `_WAYPOINTS`: center, width and height. -/
structure CompetitionWaypoint where
  x : ℚ
  y : ℚ
  width : ℚ
  height : ℚ

namespace CompetitionWaypoint

def h : CompetitionWaypoint := ⟨0, 0, 4572 / 1000, 4572 / 1000⟩
def l : CompetitionWaypoint := ⟨-9144 / 100, 0, 4572 / 1000, 4572 / 1000⟩
def f2 : CompetitionWaypoint := ⟨-15240 / 100, 0, 9144 / 10000, 9144 / 10000⟩
def wa : CompetitionWaypoint := ⟨-4572 / 100, -9144 / 1000, 6096 / 1000, 6096 / 1000⟩
def wm : CompetitionWaypoint := ⟨-4572 / 100, 9144 / 1000, 6096 / 1000, 6096 / 1000⟩

/-- `_inside_waypoint`. -/
def contains (w : CompetitionWaypoint) (p : Xyz) : Bool :=
  decide (|p.x - w.x| ≤ w.width / 2) && decide (|p.y - w.y| ≤ w.height / 2)

end CompetitionWaypoint

/-- `_MISSION_SEQUENCE`. -/
def missionSequence : List (String × String) :=
  [("FM1", "STARTED"), ("FM1", "COMPLETE"), ("FM2", "STARTED"), ("FM2", "COMPLETE"),
    ("FM3_3", "STARTED"), ("FM3_3", "COMPLETE"), ("FM3_4", "STARTED"), ("FM3_4", "COMPLETE"),
    ("HOME", "STARTED"), ("HOME", "DISARMED"), ("HOME", "COMPLETE")]

/-- `_PAYLOAD_SEQUENCE`. -/
def payloadSequence : List (ℕ × String × String) :=
  [(2, "release", "detached"), (3, "attach", "attached"), (3, "release", "detached"),
    (4, "attach", "attached"), (4, "release", "detached")]

/-- The phases of `_PHASE_INDEX`. -/
inductive CompetitionPhase where
  | fm1 | fm2 | fm33 | fm34 | home
  deriving DecidableEq

/-- `_PHASE_INDEX`. -/
def CompetitionPhase.index : CompetitionPhase → ℕ
  | fm1 => 0
  | fm2 => 2
  | fm33 => 4
  | fm34 => 6
  | home => 8

/-- `index + (2 if phase == "HOME" else 1)`. -/
def CompetitionPhase.endIndex (phase : CompetitionPhase) : ℕ :=
  phase.index + if phase = .home then 2 else 1

/-- `_PICKUP_WAYPOINT`. -/
def pickupWaypoint : ℕ → Option CompetitionWaypoint
  | 3 => some .wa
  | 4 => some .wm
  | _ => none

/-- `_PAYLOAD_PREFIX_LENGTH`. -/
def payloadPrefixLength : ℕ → ℕ
  | 2 => 1
  | 3 => 3
  | _ => 5

/-- The phase and state of a mission event. -/
def MissionEventSample.place (e : MissionEventSample) : String × String := (e.phase, e.state)

/-- The marker, action and state of a payload event. -/
def CodedPayloadEvent.deed (e : CodedPayloadEvent) : ℕ × String × String :=
  (e.arucoId, e.action, e.state)

/-! ## 2. Geometry -/

/-- `_speed(v) <= bound`. -/
def speedLe (v : Xyz) (bound : ℚ) : Bool := sqrtLe v.normSq bound

/-- `_horizontal_speed(v) <= bound`. -/
def horizontalSpeedLe (v : Xyz) (bound : ℚ) : Bool := hypotLe v.x v.y bound

/-- `math.dist(p, q) <= bound`. -/
def distLe (p q : Xyz) (bound : ℚ) : Bool :=
  sqrtLe (Xyz.normSq ⟨p.x - q.x, p.y - q.y, p.z - q.z⟩) bound

/-- The two arguments of `atan2` in `_yaw`, scaled by the squared norm. -/
def yawArguments (q : Xyzw) : ℚ × ℚ :=
  (2 * (q.w * q.z + q.x * q.y), q.normSq - 2 * (q.y * q.y + q.z * q.z))

/-- `_inside_f2`; `halfX` and `halfY` are the halves of `_PAYLOAD_XY_SIZE_M`. -/
def insideF2 (sample : PayloadStateSample) : Bool :=
  let (s, c) := yawArguments sample.orientationXyzw
  let halfX : ℚ := 1524 / 10000 / 2
  let halfY : ℚ := 1524 / 10000 / 2
  let w := CompetitionWaypoint.f2
  extentLe halfX halfY s c (w.width / 2 - |sample.positionXyz.x - w.x|) &&
    extentLe halfY halfX s c (w.height / 2 - |sample.positionXyz.y - w.y|)

/-! ## 3. Intake -/

/-- The state of `CompetitionScorer` before it is finalized. The payload states have the three
    markers as their keys. -/
structure CompetitionScorer where
  runId : String
  rules : CompetitionRules
  startSimTimeNs : Option ℕ
  groundTruth : List MovingTruthSample
  payloadStates : ℕ → List PayloadStateSample
  payloadEvents : List CodedPayloadEvent
  missionEvents : List MissionEventSample
  diagnostic : Option String

namespace CompetitionScorer

variable (c : CompetitionScorer)

/-- The keys of `_payload_states`. -/
def markers : List ℕ := [2, 3, 4]

/-- `CompetitionScorer.__init__`. -/
def initial (runId : String) (rules : CompetitionRules) : CompetitionScorer where
  runId := runId
  rules := rules
  startSimTimeNs := none
  groundTruth := []
  payloadStates := fun _ => []
  payloadEvents := []
  missionEvents := []
  diagnostic := none

/-- `fail`: the first reason stays. -/
def fail (reason : String) : CompetitionScorer :=
  { c with diagnostic := some (c.diagnostic.getD reason) }

/-- `current - previous != interval` for two neighbours of the list. -/
def uneven (interval : ℕ) (timestamps : List ℕ) : Bool :=
  (timestamps.zip timestamps.tail).any fun p => (p.2 : ℤ) - p.1 ≠ interval

/-- `_stream_gap` fails. -/
def streamGaps (start interval : ℕ) (timestamps : List ℕ) : Bool :=
  match timestamps.filter fun t => start ≤ t with
  | [] => false
  | first :: rest => interval < first - start || uneven interval (first :: rest)

/-- `_stream_gap`. -/
def streamGap (timestamps : List ℕ) (diagnostic : String) : CompetitionScorer :=
  match c.startSimTimeNs with
  | none => c
  | some start =>
    if streamGaps start c.rules.sampleIntervalNs timestamps then c.fail diagnostic else c

/-- `_latest_timestamp_gap` fails, for the two newest timestamps. -/
def latestGaps (start interval : ℕ) (previous : Option ℕ) (current : ℕ) : Bool :=
  match previous with
  | none => interval < current - start
  | some previous =>
    if previous < start then interval < current - start
    else decide ((current : ℤ) - previous ≠ interval)

/-- `_latest_timestamp_gap`. -/
def latestTimestampGap (previous : Option ℕ) (current : ℕ) (diagnostic : String) :
    CompetitionScorer :=
  match c.startSimTimeNs with
  | none => c
  | some start =>
    if latestGaps start c.rules.sampleIntervalNs previous current then c.fail diagnostic else c

/-- The sample is older than the mission. -/
def beforeStart (simTimestampNs : ℕ) : Bool :=
  c.startSimTimeNs.any fun start => simTimestampNs < start

def payloadGapName (marker : ℕ) : String := "payload_" ++ toString marker ++ "_timestamp_gap"

/-- `accept_ground_truth`. -/
def acceptGroundTruth (sample : MovingTruthSample) : CompetitionScorer :=
  if sample.runId ≠ c.runId then c
  else if c.beforeStart sample.simTimestampNs then c
  else
    let previous := c.groundTruth.getLast?.map fun s => s.simTimestampNs
    if previous.any fun t => sample.simTimestampNs ≤ t then
      c.fail "ground_truth_timestamp_not_increasing"
    else
      { c with groundTruth := c.groundTruth ++ [sample] }.latestTimestampGap previous
        sample.simTimestampNs "ground_truth_timestamp_gap"

/-- `accept_payload_state`. -/
def acceptPayloadState (sample : PayloadStateSample) : CompetitionScorer :=
  if sample.runId ≠ c.runId then c
  else if c.beforeStart sample.simTimestampNs then c
  else if !markers.contains sample.arucoId then c.fail "unknown_payload_state"
  else
    let states := c.payloadStates sample.arucoId
    let previous := states.getLast?.map fun s => s.simTimestampNs
    if previous.any fun t => sample.simTimestampNs ≤ t then
      c.fail ("payload_" ++ toString sample.arucoId ++ "_timestamp_not_increasing")
    else
      { c with
        payloadStates := fun m => if m = sample.arucoId then states ++ [sample]
          else c.payloadStates m }.latestTimestampGap previous sample.simTimestampNs
        (payloadGapName sample.arucoId)

/-- `accept_payload_event`. -/
def acceptPayloadEvent (sample : CodedPayloadEvent) : CompetitionScorer :=
  if sample.runId ≠ c.runId then c
  else if !markers.contains sample.arucoId then c.fail "unknown_payload_event"
  else
    match c.payloadEvents.getLast? with
    | some previous =>
      if sample.eventId ≠ previous.eventId + 1 then c.fail "payload_event_id_discontinuity"
      else if sample.simTimestampNs < previous.simTimestampNs then
        c.fail "payload_event_timestamp_regression"
      else { c with payloadEvents := c.payloadEvents ++ [sample] }
    | none =>
      if sample.eventId ≠ 0 then c.fail "payload_event_id_discontinuity"
      else { c with payloadEvents := c.payloadEvents ++ [sample] }

/-- `_ground_truth_gap`. -/
def groundTruthGap : CompetitionScorer :=
  c.streamGap (c.groundTruth.map fun s => s.simTimestampNs) "ground_truth_timestamp_gap"

/-- `_payload_gap`. -/
def payloadGap (marker : ℕ) : CompetitionScorer :=
  c.streamGap ((c.payloadStates marker).map fun s => s.simTimestampNs) (payloadGapName marker)

/-- The end of `accept_mission_event`, once the event is kept. -/
def noteStart (sample : MissionEventSample) : CompetitionScorer :=
  if c.startSimTimeNs.isNone && sample.place = ("FM1", "STARTED") then
    markers.foldl payloadGap
      { c with startSimTimeNs := some sample.simTimestampNs }.groundTruthGap
  else c

/-- `accept_mission_event`. -/
def acceptMissionEvent (sample : MissionEventSample) : CompetitionScorer :=
  if sample.runId ≠ c.runId then c
  else
    match c.missionEvents.getLast? with
    | some previous =>
      if sample.eventId ≠ previous.eventId + 1 then c.fail "mission_event_id_discontinuity"
      else if sample.simTimestampNs < previous.simTimestampNs then
        c.fail "mission_event_timestamp_regression"
      else { c with missionEvents := c.missionEvents ++ [sample] }.noteStart sample
    | none =>
      if sample.eventId ≠ 0 then c.fail "mission_event_id_discontinuity"
      else { c with missionEvents := c.missionEvents ++ [sample] }.noteStart sample

end CompetitionScorer

end DroneSim
