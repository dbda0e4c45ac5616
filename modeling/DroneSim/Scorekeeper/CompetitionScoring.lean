/-
  File:      DroneSim/Scorekeeper/CompetitionScoring.lean
  Subject:   The rules of the competition scorer (scorekeeper/competition.py, `_evaluate`).

  What the scorer keeps is evaluated once, when it is finalized. Section 1 has what reads a list of
  samples alone; the rules of section 3 read the scorer's lists from the start of the mission on.

  * `gateWindow`, `settledTimestamp`, `capacityHolds` -- over lists;
  * `landing`, `homeLandingTimestamp`, `delivery`, `settlementOrderValid` -- the rules;
  * `evaluate`, `finalize`.
-/
import DroneSim.Scorekeeper.Competition
import DroneSim.Library.Dict
import Mathlib.Data.List.Dedup
import Mathlib.Data.List.Sort

namespace DroneSim

open Library

/-! ## 1. Over lists of samples -/

namespace CompetitionRules

variable (rules : CompetitionRules)

/-- `_is_landed`. -/
def isLanded (sample : MovingTruthSample) (waypoint : CompetitionWaypoint) : Bool :=
  sample.inContact && speedLe sample.linearVelocityXyz rules.releaseHorizontalSpeedMps &&
    waypoint.contains sample.positionXyz

/-- The window of `_release_gate` has every sample of the interval, at its rate. -/
def gateWindow (first last : ℕ) (window : List MovingTruthSample) : Bool :=
  let timestamps := window.map fun s => s.simTimestampNs
  decide (window.length = rules.releaseStabilityNs / rules.sampleIntervalNs + 1) &&
    decide (timestamps.head? = some first) && decide (timestamps.getLast? = some last) &&
    !CompetitionScorer.uneven rules.sampleIntervalNs timestamps

/-- A sample of the window is high, slow and over F2. -/
def gateSample (sample : MovingTruthSample) : Bool :=
  hypotLe (sample.positionXyz.x - CompetitionWaypoint.f2.x)
      (sample.positionXyz.y - CompetitionWaypoint.f2.y) rules.releasePositionToleranceM &&
    horizontalSpeedLe sample.linearVelocityXyz rules.releaseHorizontalSpeedMps &&
    decide (rules.releaseAglM ≤ sample.positionXyz.z)

/-- `eligible` of `_settled_timestamp`. -/
def settling (sample : PayloadStateSample) : Bool :=
  sample.grounded && !sample.attached &&
    speedLe sample.linearVelocityXyz rules.releaseHorizontalSpeedMps && insideF2 sample

/-- The loop of `_settled_timestamp`. -/
def settleLoop (releaseNs : ℕ) : Option ℕ → Option ℕ → List PayloadStateSample → Option ℕ
  | _, _, [] => none
  | startedNs, previousNs, sample :: rest =>
    if sample.simTimestampNs ≤ releaseNs then settleLoop releaseNs startedNs previousNs rest
    else
      let eligible := rules.settling sample
      let startedNs :=
        if !eligible || previousNs.all fun (previous : ℕ) =>
            (sample.simTimestampNs : ℤ) - previous ≠ rules.sampleIntervalNs then
          if eligible then some sample.simTimestampNs else none
        else startedNs
      match eligible, startedNs with
      | true, some started =>
        if (rules.payloadSettleNs : ℤ) ≤ (sample.simTimestampNs : ℤ) - started then
          some sample.simTimestampNs
        else settleLoop releaseNs startedNs (some sample.simTimestampNs) rest
      | _, _ => settleLoop releaseNs startedNs none rest

/-- `_settled_timestamp`. -/
def settledTimestamp (releaseNs : ℕ) (states : List PayloadStateSample) : Option ℕ :=
  rules.settleLoop releaseNs none none states

end CompetitionRules

/-- The loop of `_capacity_valid` over the timestamps, with the latest sample of each marker. -/
def capacityLoop (rows : List PayloadStateSample) : Dict ℕ PayloadStateSample → List ℕ → Bool
  | _, [] => true
  | latest, timestampNs :: rest =>
    let latest := (rows.filter fun s => s.simTimestampNs = timestampNs).foldl
      (fun d s => d.set s.arucoId s) latest
    if 1 < (latest.items.filter fun p => p.2.attached).length then false
    else capacityLoop rows latest rest

/-- `_capacity_valid` over the samples from the start on. -/
def capacityHolds (rows : List PayloadStateSample) : Bool :=
  capacityLoop rows .empty
    ((rows.map fun s => s.simTimestampNs).dedup.insertionSort (· ≤ ·))

/-- The first sample a release can be seen on: detached, within one interval of the event. -/
def detachedWithin (rules : CompetitionRules) (eventNs : ℕ) (states : List PayloadStateSample) :
    Option PayloadStateSample :=
  states.find? fun s => decide (eventNs ≤ s.simTimestampNs) &&
    decide (s.simTimestampNs ≤ eventNs + rules.sampleIntervalNs) && !s.attached

/-- `current_index` of `_physical_attach`: attached, within one interval of the event. -/
def attachedIndex (rules : CompetitionRules) (eventNs : ℕ) (states : List PayloadStateSample) :
    Option ℕ :=
  states.findIdx? fun s => decide (eventNs ≤ s.simTimestampNs) &&
    decide (s.simTimestampNs ≤ eventNs + rules.sampleIntervalNs) && s.attached

/-- `previous` and `current` of `_physical_attach`. -/
def attachPair (rules : CompetitionRules) (eventNs : ℕ) (states : List PayloadStateSample) :
    Option (PayloadStateSample × PayloadStateSample) :=
  match attachedIndex rules eventNs states with
  | none => none
  | some 0 => none
  | some (index + 1) => do
    let previous ← states[index]?
    let current ← states[index + 1]?
    some (previous, current)

namespace CompetitionScorer

variable (c : CompetitionScorer) (marker : ℕ)

/-! ## 2. Events from the start on -/

/-- `_mission_after_start`. -/
def missionAfterStart : List MissionEventSample :=
  match c.startSimTimeNs with
  | none => []
  | some start => c.missionEvents.filter fun e => start ≤ e.simTimestampNs

/-- `_payload_after_start`. -/
def payloadAfterStart : List CodedPayloadEvent :=
  match c.startSimTimeNs with
  | none => []
  | some start => c.payloadEvents.filter fun e => start ≤ e.simTimestampNs

/-- `_mission_prefix`. -/
def missionPrefix (length : ℕ) : Bool :=
  (c.missionAfterStart.map MissionEventSample.place).take length = missionSequence.take length

/-- `_payload_prefix`. -/
def payloadPrefix (length : ℕ) : Bool :=
  decide ((c.payloadAfterStart.map CodedPayloadEvent.deed).take length =
    payloadSequence.take length) && (c.payloadAfterStart.take length).all fun e => e.code == "OK"

/-- `_phase_events`. -/
def phaseEvents (phase : CompetitionPhase) : Option (MissionEventSample × MissionEventSample) :=
  let events := c.missionAfterStart
  if events.length ≤ phase.endIndex || !c.missionPrefix (phase.endIndex + 1) then none
  else do
    let first ← events[phase.index]?
    let last ← events[phase.endIndex]?
    some (first, last)

/-- `_home_events`. -/
def homeEvents : Option (MissionEventSample × MissionEventSample × MissionEventSample) :=
  let events := c.missionAfterStart
  if events.length < missionSequence.length || !c.missionPrefix missionSequence.length then none
  else do
    let started ← events[8]?
    let disarmed ← events[9]?
    let complete ← events[10]?
    some (started, disarmed, complete)

/-- `_payload_event`. -/
def payloadEvent (action : String) : Option CodedPayloadEvent :=
  c.payloadAfterStart.find? fun e => e.arucoId == marker && e.action == action &&
    e.state == (if action = "attach" then "attached" else "detached") && e.code == "OK"

/-! ## 3. Rules -/

/-- `_vehicle_at`. -/
def vehicleAt (timestampNs : ℕ) : Option MovingTruthSample :=
  match c.startSimTimeNs with
  | none => none
  | some start =>
    (c.groundTruth.filter fun s => decide (start ≤ s.simTimestampNs) &&
      decide (s.simTimestampNs ≤ timestampNs) &&
      decide (timestampNs - s.simTimestampNs ≤ c.rules.sampleIntervalNs)).getLast?

/-- `_landing`. -/
def landing (phase : CompetitionPhase) (waypoint : CompetitionWaypoint) : Bool :=
  match c.phaseEvents phase with
  | none => false
  | some events =>
    match c.vehicleAt events.2.simTimestampNs with
    | none => false
    | some sample => c.rules.isLanded sample waypoint

/-- `_physical_home_landing_timestamp`. -/
def physicalHomeLanding (started : MissionEventSample) : Option ℕ :=
  (c.groundTruth.find? fun s => decide (started.simTimestampNs ≤ s.simTimestampNs) &&
    c.rules.isLanded s .h).map fun s => s.simTimestampNs

/-- The vehicle is on H at a time. -/
def landedAtHome (timestampNs : ℕ) : Bool :=
  (c.vehicleAt timestampNs).any fun s => c.rules.isLanded s .h

/-- `_home_landing_timestamp`. -/
def homeLandingTimestamp : Option ℕ :=
  match c.homeEvents with
  | none => none
  | some (started, disarmed, complete) =>
    if started.simTimestampNs < disarmed.simTimestampNs ∧
        disarmed.simTimestampNs < complete.simTimestampNs then
      match c.physicalHomeLanding started with
      | none => none
      | some landing =>
        if disarmed.simTimestampNs ≤ landing then none
        else if c.landedAtHome disarmed.simTimestampNs && c.landedAtHome complete.simTimestampNs &&
            c.groundTruth.all fun s => decide (landing ≤ s.simTimestampNs) &&
              decide (s.simTimestampNs ≤ complete.simTimestampNs) → c.rules.isLanded s .h then
          some landing
        else none
    else none

/-- `_home_checkpoint_boundary_timestamp`. -/
def homeCheckpointBoundary : Option ℕ :=
  let events := c.missionAfterStart
  if events.length ≤ CompetitionPhase.home.index || !c.missionPrefix 9 then none
  else
    match events[CompetitionPhase.home.index]? with
    | none => none
    | some started =>
      (((events.drop 9).filter fun e => e.phase == "HOME" &&
          (e.state == "DISARMED" || e.state == "COMPLETE")).map (fun e => e.simTimestampNs) ++
        (c.physicalHomeLanding started).toList).min?

/-- `_release_gate`. -/
def releaseGate (event : CodedPayloadEvent) : Bool :=
  match c.startSimTimeNs with
  | none => false
  | some start =>
    if event.simTimestampNs < start + c.rules.releaseStabilityNs then false
    else
      let first := event.simTimestampNs - c.rules.releaseStabilityNs
      let window := c.groundTruth.filter fun s => decide (first ≤ s.simTimestampNs) &&
        decide (s.simTimestampNs ≤ event.simTimestampNs)
      c.rules.gateWindow first event.simTimestampNs window && window.all c.rules.gateSample

/-- `_state_before`. -/
def stateBefore (marker timestampNs : ℕ) : Option PayloadStateSample :=
  match c.startSimTimeNs with
  | none => none
  | some start =>
    ((c.payloadStates marker).filter fun s => decide (start ≤ s.simTimestampNs) &&
      decide (s.simTimestampNs < timestampNs)).getLast?

/-- `_physical_release`. -/
def physicalRelease (event : CodedPayloadEvent) : Bool :=
  (c.stateBefore marker event.simTimestampNs).any (fun attached =>
    decide (event.simTimestampNs - attached.simTimestampNs ≤ c.rules.sampleIntervalNs) &&
      attached.attached) &&
    (detachedWithin c.rules event.simTimestampNs (c.payloadStates marker)).isSome

/-- `_physical_attach`. -/
def physicalAttach (event : CodedPayloadEvent) : Bool :=
  match attachPair c.rules event.simTimestampNs (c.payloadStates marker) with
  | none => false
  | some (previous, current) =>
    match c.vehicleAt current.simTimestampNs, pickupWaypoint marker, c.startSimTimeNs with
    | some vehicle, some waypoint, some start =>
      decide (start ≤ previous.simTimestampNs) &&
        decide ((current.simTimestampNs : ℤ) - previous.simTimestampNs =
          c.rules.sampleIntervalNs) &&
        previous.grounded && !previous.attached && current.attached &&
        waypoint.contains current.positionXyz && vehicle.inContact &&
        hypotLe (current.positionXyz.x - vehicle.positionXyz.x)
          (current.positionXyz.y - vehicle.positionXyz.y) c.rules.pickupCenterToleranceM &&
        distLe current.positionXyz previous.positionXyz c.rules.pickupCenterToleranceM
    | _, _, _ => false

/-- `_capacity_valid`. -/
def capacityValid : Bool :=
  match c.startSimTimeNs with
  | none => false
  | some start =>
    capacityHolds (markers.flatMap fun marker =>
      (c.payloadStates marker).filter fun s => start ≤ s.simTimestampNs)

/-- The attach that `_delivery` demands for payloads 3 and 4. -/
def attachedInPhase (events : MissionEventSample × MissionEventSample)
    (release : CodedPayloadEvent) : Bool :=
  match c.payloadEvent marker "attach" with
  | none => false
  | some attach =>
    decide (events.1.simTimestampNs ≤ attach.simTimestampNs) &&
      decide (attach.simTimestampNs < release.simTimestampNs) && c.physicalAttach marker attach

/-- What `_delivery` demands before it looks for the settlement. -/
def released (events : MissionEventSample × MissionEventSample) (release : CodedPayloadEvent) :
    Bool :=
  decide (events.1.simTimestampNs ≤ release.simTimestampNs) &&
    decide (release.simTimestampNs ≤ events.2.simTimestampNs) &&
    c.payloadPrefix (payloadPrefixLength marker) && c.releaseGate release &&
    c.physicalRelease marker release &&
    (decide (marker ≠ 3 ∧ marker ≠ 4) || c.attachedInPhase marker events release)

/-- `_delivery`: whether the payload is delivered, and when it settled. -/
def delivery (phase : CompetitionPhase) (settleBeforeNs : Option ℕ) : Bool × Option ℕ :=
  match c.phaseEvents phase, c.payloadEvent marker "release" with
  | some events, some release =>
    if c.released marker events release then
      let settled := (c.rules.settledTimestamp release.simTimestampNs
        (c.payloadStates marker)).filter fun settled =>
          !settleBeforeNs.any fun before => before ≤ settled
      (settled.isSome, settled)
    else (false, none)
  | _, _ => (false, none)

/-- `_settlement_order_valid`. -/
def settlementOrderValid (boundaryNs : Option ℕ) : Bool :=
  match boundaryNs, c.payloadEvent marker "release" with
  | some boundary, some release =>
    (c.rules.settledTimestamp release.simTimestampNs (c.payloadStates marker)).all fun settled =>
      settled < boundary
  | _, _ => true

/-! ## 4. The evaluation -/

/-- The timestamp of the attach that closes the settlement of the payload before it. -/
def attachBoundary : Option ℕ :=
  (c.payloadEvent marker "attach").map fun e => e.simTimestampNs

/-- The outcomes of `_evaluate`, in the order of `_RULE_IDS`. -/
def outcomes : List Bool :=
  let fm1Landing := c.landing .fm1 .l
  let fm1Autonomy := fm1Landing && c.missionPrefix 2
  let payload2 := (c.delivery 2 .fm2 (c.attachBoundary 3)).1 && fm1Autonomy
  let fm2Autonomy := payload2 && c.missionPrefix 4
  let payload3 := (c.delivery 3 .fm33 (c.attachBoundary 4)).1 && fm2Autonomy && c.capacityValid
  let fm3Autonomy := payload3 && c.missionPrefix 6
  let payload4 := (c.delivery 4 .fm34 c.homeCheckpointBoundary).1 && fm3Autonomy && c.capacityValid
  [fm1Landing, fm1Autonomy, payload2, fm2Autonomy, payload3, fm3Autonomy, payload4]

/-- `mission_valid`. -/
def missionValid : Bool :=
  c.missionAfterStart.map MissionEventSample.place = missionSequence

/-- `payload_valid`. -/
def payloadValid : Bool :=
  decide (c.payloadAfterStart.map CodedPayloadEvent.deed = payloadSequence) &&
    c.payloadAfterStart.all fun e => e.code == "OK"

/-- `settlement_order_valid`. -/
def settlementsValid : Bool :=
  c.settlementOrderValid 2 (c.attachBoundary 3) && c.settlementOrderValid 3 (c.attachBoundary 4) &&
    c.settlementOrderValid 4 c.homeCheckpointBoundary

/-- `deadline_valid`. -/
def deadlineValid : Bool :=
  match c.phaseEvents .home, c.startSimTimeNs with
  | some events, some start => decide (events.2.simTimestampNs - start ≤ c.rules.deadlineNs)
  | _, _ => false

/-- `home_complete_claimed and self._home_events() is None`. -/
def homeDisarmMissing : Bool :=
  (c.missionAfterStart.any fun e => e.place = ("HOME", "COMPLETE")) && c.homeEvents.isNone

/-- The first check of `_evaluate` that fails. -/
def verdict : Option String :=
  if c.homeDisarmMissing then some "home_disarm_missing"
  else if !c.missionValid then some "mission_sequence_invalid"
  else if !c.payloadValid then some "payload_event_sequence_invalid"
  else if !c.capacityValid then some "payload_capacity_exceeded"
  else if !c.settlementsValid then some "physical_sequence_invalid"
  else if c.homeLandingTimestamp.isNone then some "home_completion_invalid"
  else if !c.deadlineValid then some "home_deadline_exceeded"
  else none

/-- `complete` of `_evaluate`, the diagnostic aside. -/
def completes : Bool :=
  c.missionValid && c.payloadValid && c.capacityValid && c.settlementsValid &&
    c.homeLandingTimestamp.isSome && c.deadlineValid

/-- `_evaluate`: the outcomes, whether the mission is complete, and the diagnostic. -/
def evaluate : List Bool × Bool × Option String :=
  if c.startSimTimeNs.isNone then (List.replicate 7 false, false, some "mission_start_missing")
  else
    match c.diagnostic with
    | some diagnostic => (List.replicate 7 false, false, some diagnostic)
    | none => (c.outcomes, c.completes && !c.homeDisarmMissing, c.verdict)

/-- What `finalize` makes of the evaluation: the points awarded and their sum. -/
structure CompetitionResult where
  outcomes : List Bool
  awarded : List ℚ
  achieved : ℚ
  complete : Bool
  diagnostic : Option String

/-- `finalize`. -/
def finalize : CompetitionResult :=
  let (outcomes, complete, diagnostic) := c.evaluate
  let awarded := (c.rules.points.zip outcomes).map fun p => if p.2 then p.1 else 0
  ⟨outcomes, awarded, awarded.sum, complete, diagnostic⟩

end CompetitionScorer

end DroneSim
