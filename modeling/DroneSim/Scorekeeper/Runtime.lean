/-
  File:      DroneSim/Scorekeeper/Runtime.lean
  Subject:   The routing of evidence `VfsScorekeeperRuntime` (scorekeeper/vfs_runtime.py).

  The runtime buffers what arrives, hands complete epochs to judge and scorer in the order of
  their timestamps, and holds a check request back until its epoch was joined or it expired. Its
  two callbacks are the field `log`, together with the calls on the judge: what has been called
  and published so far, oldest first.

  * `acceptMissionEventNow` -- one call on the judge and the publication of its decisions;
  * `joinEpoch` -- truth, payloads and status of one timestamp, in this order;
  * `resolvePendingChecks`, `drainPhysicalEpochs` -- the two loops of the source;
  * `accept` -- one callback of the runtime, named by an `Input`; `run` feeds a list of them.

  A raise is `Except.error` and ends a run. The output of the finalizer (files, score events) is
  not part of this model; what it does to the pending checks is.
-/
import DroneSim.Scorekeeper.Scorer

namespace DroneSim

open Library
open VfsJudge (Call)

/-! ## 1. State -/

/-- What the runtime does, as its environment sees it. -/
inductive Effect where
  /-- A call on the judge and its answer. -/
  | called (call : Call) (decisions : List JudgeDecision)
  /-- `publish_decision`, in answer to a mission event. -/
  | decided (event : MissionEventSample) (decision : JudgeDecision)
  /-- `publish_attempt`. -/
  | attempted (status : AttemptStatus)

structure RuntimeSetup where
  judge : JudgeSetup
  scorer : ScorerSetup

structure VfsScorekeeperRuntime where
  judge : VfsJudge
  scorer : Option VfsScorer
  groundTruthTimestampNs : Option ℕ
  vehicleStatusTimestampNs : Option ℕ
  payloadTimestampsNs : Dict ℕ ℕ
  groundTruthBuffer : Dict ℕ GroundTruthSample
  vehicleStatusBuffer : Dict ℕ VehicleStatusSample
  payloadBuffer : Dict ℕ (Dict ℕ PayloadStateSample)
  statusGridOffsetNs : Option ℕ
  lastEpochTimestampNs : Option ℕ
  latestObservedTimestampNs : ℕ
  latestGroundTruthReceivedNs : Option ℕ
  latestVehicleStatusReceivedNs : Option ℕ
  latestPayloadReceivedNs : Dict ℕ ℕ
  pendingChecks : List MissionEventSample
  log : List Effect

/-- The markers of an epoch: the keys of `_payload_timestamps_ns`. -/
def payloadMarkers : List ℕ := [2, 3, 4]

/-- The period of the vehicle status. -/
def statusPeriodNs : ℕ := 100000000

/-- How long an epoch or a check may stay incomplete. -/
def joinTimeoutNs : ℕ := 500000000

namespace VfsScorekeeperRuntime

variable (c : RuntimeSetup) (s : VfsScorekeeperRuntime) (timestampNs : ℕ)
  (event : MissionEventSample)

/-- `__init__`, with or without a scorer. -/
def init (scorer : Option VfsScorer) : VfsScorekeeperRuntime where
  judge := VfsJudge.init
  scorer := scorer
  groundTruthTimestampNs := none
  vehicleStatusTimestampNs := none
  payloadTimestampsNs := Dict.empty
  groundTruthBuffer := Dict.empty
  vehicleStatusBuffer := Dict.empty
  payloadBuffer := Dict.empty
  statusGridOffsetNs := none
  lastEpochTimestampNs := none
  latestObservedTimestampNs := 0
  latestGroundTruthReceivedNs := none
  latestVehicleStatusReceivedNs := none
  latestPayloadReceivedNs := Dict.empty
  pendingChecks := []
  log := []

/-- `source_inputs_observed_through`. -/
def sourceInputsObservedThrough : Bool :=
  (s.groundTruthTimestampNs.any fun t => decide (timestampNs ≤ t)) &&
    (s.vehicleStatusTimestampNs.any fun t => fresh timestampNs t statusFreshnessNs) &&
    payloadMarkers.all fun marker =>
      (s.payloadTimestampsNs.get marker).any fun t => decide (timestampNs ≤ t)

/-! ## 2. Calls and publications -/

/-- A call on the judge. -/
def callJudge (k : Call) : Except String (VfsScorekeeperRuntime × List JudgeDecision) :=
  (s.judge.call c.judge k).map fun r =>
    ({ s with judge := r.1, log := s.log ++ [Effect.called k r.2] }, r.2)

/-- What the scorer, if there is one, makes of a sample. -/
def score (f : VfsScorer → VfsScorer) : VfsScorekeeperRuntime :=
  { s with scorer := s.scorer.map f }

/-- The scorer accepts a decision, then it is published. -/
def publishDecision (s : VfsScorekeeperRuntime) (decision : JudgeDecision) :
    Except String VfsScorekeeperRuntime :=
  match s.scorer with
  | none => .ok { s with log := s.log ++ [Effect.decided event decision] }
  | some scorer =>
    (scorer.acceptJudgeDecision c.scorer decision).map fun scorer =>
      { s with scorer := some scorer, log := s.log ++ [Effect.decided event decision] }

/-- `_accept_mission_event_now`. -/
def acceptMissionEventNow (missing : Bool) : Except String VfsScorekeeperRuntime := do
  let r ← s.callJudge c (if missing then .missingEvidence event else .missionEvent event)
  r.2.foldlM (publishDecision c event) (r.1.score fun scorer =>
    scorer.acceptMissionEvent c.scorer event)

/-! ## 3. Pending checks -/

/-- The epoch of the check was joined. -/
def epochReady : Bool :=
  s.lastEpochTimestampNs.any fun t => decide (event.simTimestampNs ≤ t)

/-- The check waited for more than the timeout. -/
def expired : Bool :=
  decide (s.latestObservedTimestampNs > event.simTimestampNs + joinTimeoutNs)

/-- The check stays pending. -/
def waits (force : Bool) (event : MissionEventSample) : Bool :=
  !(s.epochReady event || s.expired event || force)

/-- The loop body of `_resolve_pending_checks`. -/
def resolveCheck (force : Bool) (s : VfsScorekeeperRuntime) (event : MissionEventSample) :
    Except String VfsScorekeeperRuntime :=
  if s.epochReady event then s.acceptMissionEventNow c event false
  else if s.expired event || force then s.acceptMissionEventNow c event true
  else .ok s

/-- `_resolve_pending_checks`. -/
def resolvePendingChecks (force : Bool) : Except String VfsScorekeeperRuntime :=
  (s.pendingChecks.foldlM (resolveCheck c force) s).map fun r =>
    { r with pendingChecks := s.pendingChecks.filter (s.waits force) }

/-! ## 4. Epochs -/

/-- `_epoch_complete`. -/
def epochComplete : Bool :=
  let payloads := (s.payloadBuffer.get timestampNs).getD Dict.empty
  let sameMarkers := (payloads.keys.all fun marker => payloadMarkers.contains marker) &&
    payloadMarkers.all fun marker => payloads.keys.contains marker
  sameMarkers &&
    match s.statusGridOffsetNs with
    | none => false
    | some offset =>
      timestampNs % statusPeriodNs != offset || (s.vehicleStatusBuffer.get timestampNs).isSome

/-- The epoch the loop of `_drain_physical_epochs` takes next, `none` where it ends. -/
def nextEpoch : Option ℕ :=
  match s.groundTruthBuffer.keys.min? with
  | none => none
  | some timestampNs =>
    if s.pendingChecks.any fun event => decide (event.simTimestampNs < timestampNs) then none
    else if s.epochComplete timestampNs then some timestampNs
    else none

/-- `d.pop(k)`, the dictionary aside. -/
def pop {α : Type} (d : Dict ℕ α) (timestampNs : ℕ) : Except String α :=
  match d.get timestampNs with
  | some a => .ok a
  | none => .error "KeyError"

def joinTruth (truth : GroundTruthSample) : Except String VfsScorekeeperRuntime :=
  (s.callJudge c (.groundTruth truth)).map fun r =>
    { r.1 with groundTruthTimestampNs := some truth.simTimestampNs }.score fun scorer =>
      scorer.acceptGroundTruth c.scorer truth

/-- The loop body over the markers of an epoch. -/
def joinPayload (payloads : Dict ℕ PayloadStateSample) (s : VfsScorekeeperRuntime) (marker : ℕ) :
    Except String VfsScorekeeperRuntime := do
  let sample ← pop payloads marker
  let r ← s.callJudge c (.payloadState sample)
  .ok ({ r.1 with
    payloadTimestampsNs := r.1.payloadTimestampsNs.set marker timestampNs }.score fun scorer =>
      scorer.acceptPayloadState c.scorer sample)

/-- Truth and payloads of an epoch leave their buffers. -/
def takeEpoch : VfsScorekeeperRuntime :=
  { s with
    groundTruthBuffer := s.groundTruthBuffer.erase timestampNs
    payloadBuffer := s.payloadBuffer.erase timestampNs }

/-- The status of an epoch leaves its buffer. -/
def takeStatus : VfsScorekeeperRuntime :=
  { s with vehicleStatusBuffer := s.vehicleStatusBuffer.erase timestampNs }

/-- The status of the epoch, if it has one. -/
def joinStatus : Except String VfsScorekeeperRuntime :=
  match s.vehicleStatusBuffer.get timestampNs with
  | none => .ok s
  | some status =>
    ((s.takeStatus timestampNs).callJudge c (.vehicleStatus status)).map fun r =>
      { r.1 with vehicleStatusTimestampNs := some timestampNs }.score fun scorer =>
        scorer.acceptVehicleStatus c.scorer status

/-- `publish_attempt(self.judge.attempt_status)` at the end of an epoch. -/
def closeEpoch : VfsScorekeeperRuntime :=
  { s with
    lastEpochTimestampNs := some timestampNs
    log := s.log ++ [Effect.attempted (s.judge.attemptStatus c.judge)] }

/-- The body of the loop of `_drain_physical_epochs` up to the pending checks. -/
def joinEpoch : Except String VfsScorekeeperRuntime := do
  let truth ← pop s.groundTruthBuffer timestampNs
  let payloads ← pop s.payloadBuffer timestampNs
  let s ← (s.takeEpoch timestampNs).joinTruth c truth
  let s ← (payloads.keys.insertionSort (· ≤ ·)).foldlM (joinPayload c timestampNs payloads) s
  let s ← s.joinStatus c timestampNs
  .ok (s.closeEpoch c timestampNs)

/-- The loop of `_drain_physical_epochs`; every turn takes a truth from the buffer, so the number
    of buffered truths bounds the turns. -/
def drainEpochs : ℕ → VfsScorekeeperRuntime → Except String VfsScorekeeperRuntime
  | 0, s => .ok s
  | n + 1, s =>
    match s.nextEpoch with
    | none => .ok s
    | some timestampNs => do
      let s ← s.joinEpoch c timestampNs
      let s ← s.resolvePendingChecks c false
      drainEpochs n s

/-- The timestamps of all buffered samples. -/
def bufferedTimestamps : List ℕ :=
  s.groundTruthBuffer.keys ++ s.vehicleStatusBuffer.keys ++ s.payloadBuffer.keys

/-- A buffered sample is older than the timeout. -/
def stale : Bool :=
  s.bufferedTimestamps.min?.any fun oldest =>
    decide (s.latestObservedTimestampNs > oldest + joinTimeoutNs)

/-- `_drain_physical_epochs`. -/
def drainPhysicalEpochs : Except String VfsScorekeeperRuntime := do
  let s ← drainEpochs c s.groundTruthBuffer.keys.length s
  let s ← s.resolvePendingChecks c false
  if s.stale then .error "VFS physical epoch remained incomplete for over 500 ms" else .ok s

/-! ## 5. Callbacks -/

/-- `_observe_timestamp`. -/
def observeTimestamp : VfsScorekeeperRuntime :=
  { s with latestObservedTimestampNs := max s.latestObservedTimestampNs timestampNs }

/-- The truth in its buffer. -/
def bufferGroundTruth (sample : GroundTruthSample) : VfsScorekeeperRuntime :=
  { s with
    latestGroundTruthReceivedNs := some sample.simTimestampNs
    groundTruthBuffer := s.groundTruthBuffer.set sample.simTimestampNs sample }.observeTimestamp
      sample.simTimestampNs

/-- The status in its buffer; the first one fixes the grid. -/
def bufferVehicleStatus (sample : VehicleStatusSample) : VfsScorekeeperRuntime :=
  { s with
    latestVehicleStatusReceivedNs := some sample.simTimestampNs
    vehicleStatusBuffer := s.vehicleStatusBuffer.set sample.simTimestampNs sample
    statusGridOffsetNs := match s.statusGridOffsetNs with
      | none => some (sample.simTimestampNs % statusPeriodNs)
      | some offset => some offset }.observeTimestamp sample.simTimestampNs

/-- The payload state in its buffer, beside the others of its timestamp. -/
def bufferPayloadState (sample : PayloadStateSample) : VfsScorekeeperRuntime :=
  { s with
    latestPayloadReceivedNs := s.latestPayloadReceivedNs.set sample.arucoId sample.simTimestampNs
    payloadBuffer := s.payloadBuffer.set sample.simTimestampNs
      (((s.payloadBuffer.get sample.simTimestampNs).getD Dict.empty).set sample.arucoId
        sample) }.observeTimestamp sample.simTimestampNs

/-- `accept_ground_truth`. -/
def acceptGroundTruth (sample : GroundTruthSample) : Except String VfsScorekeeperRuntime :=
  if s.latestGroundTruthReceivedNs.any fun t => decide (sample.simTimestampNs ≤ t) then
    .error "ground truth receive timestamps must increase"
  else (s.bufferGroundTruth sample).drainPhysicalEpochs c

/-- `accept_vehicle_status`. -/
def acceptVehicleStatus (sample : VehicleStatusSample) : Except String VfsScorekeeperRuntime :=
  if s.latestVehicleStatusReceivedNs.any fun t => decide (sample.simTimestampNs ≤ t) then
    .error "vehicle status receive timestamps must increase"
  else (s.bufferVehicleStatus sample).drainPhysicalEpochs c

/-- `accept_payload_state`. -/
def acceptPayloadState (sample : PayloadStateSample) : Except String VfsScorekeeperRuntime :=
  if (s.latestPayloadReceivedNs.get sample.arucoId).any fun t =>
      decide (sample.simTimestampNs ≤ t) then
    .error "payload receive timestamps must increase per marker"
  else (s.bufferPayloadState sample).drainPhysicalEpochs c

/-- `accept_payload_event`. -/
def acceptPayloadEvent (s : VfsScorekeeperRuntime) (sample : PayloadEventSample) :
    Except String VfsScorekeeperRuntime :=
  (s.callJudge c (.payloadEvent sample)).map fun r =>
    r.1.score fun scorer => scorer.acceptPayloadEvent c.scorer sample

/-- `accept_mission_event`: only a readable check request whose epoch is not joined waits. -/
def acceptMissionEvent : Except String VfsScorekeeperRuntime :=
  if event.state ≠ "CHECK_REQUESTED" then s.acceptMissionEventNow c event false
  else if (requestDetail c.judge.loads event.detail).isNone then
    s.acceptMissionEventNow c event false
  else if event ∈ s.pendingChecks then .ok s
  else if s.epochReady event then s.acceptMissionEventNow c event false
  else { s with pendingChecks := s.pendingChecks ++ [event] }.resolvePendingChecks c false

/-- `accept_source_finished` before the finalizer: it needs one, and so a scorer. -/
def acceptSourceFinished : Except String VfsScorekeeperRuntime :=
  if s.scorer.isNone then .error "runtime finalization is not configured"
  else s.resolvePendingChecks c true

/-- A callback of the runtime. -/
inductive Input where
  | groundTruth (sample : GroundTruthSample)
  | vehicleStatus (sample : VehicleStatusSample)
  | payloadState (sample : PayloadStateSample)
  | payloadEvent (sample : PayloadEventSample)
  | missionEvent (event : MissionEventSample)
  | sourceFinished

def accept : Input → Except String VfsScorekeeperRuntime
  | .groundTruth sample => s.acceptGroundTruth c sample
  | .vehicleStatus sample => s.acceptVehicleStatus c sample
  | .payloadState sample => s.acceptPayloadState c sample
  | .payloadEvent sample => s.acceptPayloadEvent c sample
  | .missionEvent event => s.acceptMissionEvent c event
  | .sourceFinished => s.acceptSourceFinished c

/-- The runtime after the given callbacks, none of which raised. -/
def run (scorer : Option VfsScorer) (is : List Input) : Except String VfsScorekeeperRuntime :=
  is.foldlM (accept c) (init scorer)

end VfsScorekeeperRuntime

end DroneSim
