/-
  File:      DroneSim/Electromagnet/Gateway.lean
  Subject:   The payload gateway (electromagnet/controller.py, PayloadGateway).

  The gateway takes in vehicle and payload samples, answers payload requests one at a time and
  exchanges one command and one result with the coordinator of a payload. `execute` holds the
  operation lock to its end but the state lock only in sections, so samples and results come in
  between: `Executing` is the place an execution has come to, `step` lets it go to the next.

  * `acceptVehicle`, `acceptPayload`, `acceptResult` -- the intake;
  * `response`, `snapshot`, `record` -- the sections of `execute` that compute something;
  * `GatewayEffect` -- what a step shows outside or takes in: the log of a run is a list of these;
  * `step` -- one move of the system.
-/
import DroneSim.Electromagnet.Payload
import DroneSim.Library.Run

namespace DroneSim

open Library

/-! ## 1. Data -/

/-- `_PHYSICAL_HISTORY_HORIZON_NS`. -/
def physicalHistoryHorizonNs : ℕ := 500000000

structure PhysicalResult where
  commandId : String
  status : String
  state : String
  code : String
  deriving DecidableEq, Repr

/-- `parse_physical_result`. -/
def parsePhysicalResult (value : String) : Except String PhysicalResult :=
  let refused : Except String PhysicalResult :=
    .error "physical result must use payload-result-v1"
  match (value.toList.splitOn '|').map String.ofList with
  | [version, commandId, status, state, code] =>
    if version ≠ "payload-result-v1" then refused
    else if commandId.toList.isEmpty || !(["confirmed", "error"].contains status) ||
        !(["attached", "detached", "unknown"].contains state) || code.toList.isEmpty then refused
    else if status = "confirmed" ∧ (state = "unknown" ∨ code ≠ "OK") then refused
    else if status = "error" ∧ state ≠ "unknown" then refused
    else .ok ⟨commandId, status, state, code⟩
  | _ => refused

structure PayloadResponse where
  accepted : Bool
  code : String
  detail : String
  commandId : String
  responseSequence : ℕ
  deriving DecidableEq, Repr

structure PayloadEventRecord where
  runId : String
  timestampNs : ℕ
  eventId : ℕ
  arucoId : ℕ
  commandId : String
  action : String
  state : String
  code : String
  deriving DecidableEq, Repr

structure VehicleFact where
  timestampNs : ℕ
  xy : ℚ × ℚ
  grounded : Bool
  deriving DecidableEq, Repr

structure PayloadFact where
  timestampNs : ℕ
  xy : ℚ × ℚ
  grounded : Bool
  attached : Bool
  deriving DecidableEq, Repr

/-- `_PendingResult`: the event is set iff the value is there. -/
structure PendingResult where
  markerId : ℕ
  value : Option PhysicalResult
  deriving DecidableEq, Repr

/-- The state of `PayloadGateway`. The histories have the three markers as their keys. -/
structure PayloadGateway where
  vehicle : Option VehicleFact
  payloads : Dict ℕ PayloadFact
  vehicleHistory : Dict ℕ VehicleFact
  payloadHistories : ℕ → Dict ℕ PayloadFact
  pending : Dict String PendingResult
  responses : Dict String (PayloadRequest × PayloadResponse)
  responseSequence : ℕ
  eventId : ℕ

/-- **What a step takes in or shows**: a sample that counts, the flag an accepted command writes,
    a command to the coordinator, a payload event, a response made, what `execute` returns. -/
inductive GatewayEffect where
  | vehicle (fact : VehicleFact)
  | payload (marker : ℕ) (fact : PayloadFact)
  | flag (marker : ℕ) (fact : PayloadFact)
  | command (request : PayloadRequest) (wire : String)
  | event (record : PayloadEventRecord)
  | responded (request : PayloadRequest) (response : PayloadResponse)
  | returned (request : PayloadRequest) (response : PayloadResponse)
  | raised (request : PayloadRequest) (error : String)
  deriving DecidableEq

namespace PayloadGateway

variable (a : PayloadAuthority) (g : PayloadGateway)

/-- The keys of `_payload_histories`. -/
def markers : List ℕ := [2, 3, 4]

/-- `PayloadGateway.__init__`. -/
def initial : PayloadGateway where
  vehicle := none
  payloads := .empty
  vehicleHistory := .empty
  payloadHistories := fun _ => .empty
  pending := .empty
  responses := .empty
  responseSequence := 0
  eventId := 0

/-! ## 2. Intake -/

/-- `latest_timestamps`. -/
def latestTimestamps : List ℕ :=
  g.payloads.items.map (fun p => p.2.timestampNs) ++ (g.vehicle.map VehicleFact.timestampNs).toList

/-- A history entry survives: it is not older than the cutoff. -/
def current (timestampNs : ℕ) : Bool :=
  g.latestTimestamps.all fun latest => latest ≤ timestampNs + physicalHistoryHorizonNs

/-- `_prune_histories_locked`. -/
def prune : PayloadGateway :=
  { g with
    vehicleHistory := g.vehicleHistory.filterKeys g.current
    payloadHistories := fun marker => (g.payloadHistories marker).filterKeys g.current }

/-- `accept_vehicle`. -/
def acceptVehicle (runId : String) (timestampNs : ℕ) (xy : ℚ × ℚ) (grounded : Bool) :
    PayloadGateway × List GatewayEffect :=
  if runId ≠ a.runId then (g, [])
  else if g.vehicle.any fun vehicle => timestampNs ≤ vehicle.timestampNs then (g, [])
  else
    let fact : VehicleFact := ⟨timestampNs, xy, grounded⟩
    ({ g with
        vehicle := some fact
        vehicleHistory := g.vehicleHistory.set timestampNs fact }.prune, [.vehicle fact])

/-- `_payload_histories[marker][fact.timestamp_ns] = fact`. -/
def setHistory (marker : ℕ) (fact : PayloadFact) : ℕ → Dict ℕ PayloadFact :=
  fun m => if m = marker then (g.payloadHistories m).set fact.timestampNs fact
    else g.payloadHistories m

/-- `accept_payload`. -/
def acceptPayload (runId : String) (timestampNs : ℕ) (arucoId : ℕ) (xy : ℚ × ℚ)
    (grounded attached : Bool) : PayloadGateway × List GatewayEffect :=
  if runId ≠ a.runId || !markers.contains arucoId then (g, [])
  else if (g.payloads.get arucoId).any fun previous => timestampNs ≤ previous.timestampNs then
    (g, [])
  else
    let fact : PayloadFact := ⟨timestampNs, xy, grounded, attached⟩
    ({ g with
        payloads := g.payloads.set arucoId fact
        payloadHistories := g.setHistory arucoId fact }.prune, [.payload arucoId fact])

/-- `accept_result` behind the `except ValueError` of its only caller. -/
def acceptResult (arucoId : ℕ) (wire : String) : PayloadGateway :=
  match parsePhysicalResult wire with
  | .error _ => g
  | .ok result =>
    match g.pending.get result.commandId with
    | none => g
    | some pending =>
      if pending.markerId ≠ arucoId || pending.value.isSome then g
      else { g with pending := g.pending.set result.commandId { pending with value := some result } }

/-! ## 3. Sections of `execute` -/

/-- `_response`. -/
def response (g : PayloadGateway) (request : PayloadRequest) (accepted : Bool)
    (code detail : String) (cache : Bool) : PayloadGateway × PayloadResponse :=
  let response : PayloadResponse :=
    ⟨accepted, code, detail, request.commandId, g.responseSequence + 1⟩
  ({ g with
      responseSequence := g.responseSequence + 1
      responses :=
        if cache then g.responses.set request.commandId (request, response) else g.responses },
    response)

/-- The markers of the facts that say attached. -/
def attachedIds (facts : List (ℕ × PayloadFact)) : List ℕ :=
  (facts.filter fun p => p.2.attached).map Prod.fst

/-- `attached_ids[0] if len(attached_ids) == 1 else None`. -/
def soleId : List ℕ → Option ℕ
  | [marker] => some marker
  | _ => none

/-- `common_timestamps`. -/
def commonTimestamps : List ℕ :=
  g.vehicleHistory.keys.filter fun t => markers.all fun m => ((g.payloadHistories m).get t).isSome

/-- `payloads` of `_snapshot`: the facts of the three markers at one timestamp. -/
def payloadsAt (timestampNs : ℕ) : List (ℕ × PayloadFact) :=
  markers.filterMap fun m => ((g.payloadHistories m).get timestampNs).map fun fact => (m, fact)

/-- `set(self._payloads) == {2, 3, 4}`. -/
def complete : Bool :=
  g.payloads.keys.all markers.contains && markers.all g.payloads.keys.contains

/-- The newest fact of the marker has other flags. -/
def flagsDiffer (marker : ℕ) (fact : PayloadFact) : Bool :=
  (g.payloads.get marker).any fun now =>
    now.grounded != fact.grounded || now.attached != fact.attached

/-- `_snapshot` once a common timestamp is found. -/
def snapshotAt (newest : VehicleFact) (timestampNs : ℕ) (vehicle : VehicleFact) (arucoId : ℕ) :
    Except String PayloadWorld :=
  let payloads := g.payloadsAt timestampNs
  let ids := attachedIds payloads
  let currentIds := attachedIds g.payloads.items
  if 1 < ids.length then .error "INVALID_PHYSICAL_STATE"
  else if 1 < currentIds.length then .error "INVALID_PHYSICAL_STATE"
  else if currentIds.head? ≠ soleId ids || newest.grounded != vehicle.grounded ||
      payloads.any fun p => g.flagsDiffer p.1 p.2 then
    .error "STALE_PHYSICAL_STATE"
  else
    let payload := ((payloads.find? fun p => p.1 = arucoId).map Prod.snd).getD
      ⟨0, (0, 0), false, false⟩
    .ok ⟨vehicle.xy, vehicle.grounded, payload.xy, payload.grounded, soleId ids⟩

/-- `_snapshot`: the world, or the code of the refusal. -/
def snapshot (request : PayloadRequest) : Except String PayloadWorld :=
  match g.vehicle with
  | none => .error "NOT_READY"
  | some newest =>
    if !g.complete then .error "NOT_READY"
    else
      match g.commonTimestamps.max? with
      | none => .error "STALE_PHYSICAL_STATE"
      | some timestampNs =>
        match g.vehicleHistory.get timestampNs with
        | none => .error "KeyError"
        | some vehicle => g.snapshotAt newest timestampNs vehicle request.arucoId

/-- The section that writes the confirmed flag and makes the event; `none` is the `KeyError` of
    `self._payloads[request.aruco_id]`. -/
def record (request : PayloadRequest) (physical : PhysicalResult) :
    Option (PayloadGateway × PayloadFact × PayloadEventRecord) :=
  (g.payloads.get request.arucoId).map fun fact =>
    let written : PayloadFact := { fact with attached := decide (request.action = "attach") }
    let event : PayloadEventRecord :=
      { runId := a.runId
        timestampNs := max ((g.vehicle.map VehicleFact.timestampNs).getD 0) written.timestampNs
        eventId := g.eventId
        arucoId := request.arucoId
        commandId := request.commandId
        action := request.action
        state := physical.state
        code := physical.code }
    ({ g with
        payloads := g.payloads.set request.arucoId written
        payloadHistories := g.setHistory request.arucoId written
        eventId := g.eventId + 1 }, written, event)

end PayloadGateway

/-- `accepted` of `_execute_serialized`. -/
def PhysicalResult.accepts (physical : PhysicalResult) (action : String) : Bool :=
  decide (physical.status = "confirmed") &&
    decide (physical.state = if action = "attach" then "attached" else "detached") &&
    decide (physical.code = "OK")

/-! ## 4. The system -/

/-- **Where an execution stands**, before its next section. -/
inductive Executing where
  /-- the cache was not looked up yet -/
  | entered (request : PayloadRequest)
  | missed (request : PayloadRequest)
  | refusing (request : PayloadRequest) (accepted : Bool) (code detail : String)
  | commanding (request : PayloadRequest) (wire : String)
  /-- the slot is there, the command is not out yet -/
  | registered (request : PayloadRequest) (wire : String)
  /-- the publication raised -/
  | abandoning (request : PayloadRequest)
  | waiting (request : PayloadRequest)
  | woken (request : PayloadRequest) (confirmed : Bool)
  | confirming (request : PayloadRequest) (physical : PhysicalResult)
  | recorded (request : PayloadRequest) (event : PayloadEventRecord) (state : String)
  | announcing (request : PayloadRequest) (event : PayloadEventRecord)
      (response : PayloadResponse)

/-- The gateway and the execution that holds the operation lock. -/
structure GatewaySystem where
  gateway : PayloadGateway
  executing : Option Executing

namespace GatewaySystem

def initial : GatewaySystem := ⟨.initial, none⟩

/-- **A move**: a sample or a result comes in, a request is taken up, an execution goes on, its
    publication returns or raises, its wait ends. -/
inductive Move where
  | vehicle (runId : String) (timestampNs : ℕ) (xy : ℚ × ℚ) (grounded : Bool)
  | payload (runId : String) (timestampNs arucoId : ℕ) (xy : ℚ × ℚ) (grounded attached : Bool)
  | result (arucoId : ℕ) (wire : String)
  | execute (request : PayloadRequest)
  | proceed
  | publish (raised : Bool)
  | wake (signaled : Bool)

/-- A section of an execution that calls nothing outside. -/
def proceed (a : PayloadAuthority) (g : PayloadGateway) :
    Executing → Except String (GatewaySystem × List GatewayEffect)
  | .entered request =>
    match g.responses.get request.commandId with
    | some previous =>
      if previous.1 = request then .ok (⟨g, none⟩, [.returned request previous.2])
      else
        let (g, response) := g.response request false "COMMAND_ID_CONFLICT"
          "command_id was already used by a different request" false
        .ok (⟨g, none⟩, [.responded request response, .returned request response])
    | none => .ok (⟨g, some (.missed request)⟩, [])
  | .missed request =>
    match g.snapshot request with
    | .error code => .ok (⟨g, some (.refusing request false code
        "current vehicle and payload truth is incomplete or inconsistent")⟩, [])
    | .ok world =>
      let decision := a.decide world request
      match decision.wireCommand with
      | none => .ok (⟨g, some (.refusing request decision.accepted decision.code
          decision.code)⟩, [])
      | some wire => .ok (⟨g, some (.commanding request wire)⟩, [])
  | .refusing request accepted code detail =>
    let (g, response) := g.response request accepted code detail true
    .ok (⟨g, none⟩, [.responded request response, .returned request response])
  | .commanding request wire =>
    .ok (⟨{ g with pending := g.pending.set request.commandId ⟨request.arucoId, none⟩ },
      some (.registered request wire)⟩, [])
  | .abandoning request =>
    .ok (⟨{ g with pending := g.pending.erase request.commandId },
      some (.refusing request false "COORDINATOR_PUBLISH_FAILED"
        "coordinator command could not be published")⟩, [])
  | .woken request confirmed =>
    -- the slot in the dictionary is the execution's own: no other execution runs
    let physical := (g.pending.get request.commandId).bind PendingResult.value
    let g := { g with pending := g.pending.erase request.commandId }
    match confirmed, physical with
    | true, some physical =>
      if physical.accepts request.action then .ok (⟨g, some (.confirming request physical)⟩, [])
      else .ok (⟨g, some (.refusing request false
          (if physical.status = "error" then physical.code else "PHYSICAL_CONFIRMATION_MISMATCH")
          "Gazebo rejected the physical payload command")⟩, [])
    | _, _ => .ok (⟨g, some (.refusing request false "PHYSICAL_CONFIRMATION_TIMEOUT"
        "no matching physical confirmation within five wall seconds")⟩, [])
  | .confirming request physical =>
    match g.record a request physical with
    | none => .ok (⟨g, none⟩, [.raised request "KeyError"])
    | some (g, written, event) => .ok (⟨g, some (.recorded request event physical.state)⟩,
        [.flag request.arucoId written])
  | .recorded request event state =>
    let (g, response) := g.response request true "OK" ("physical payload " ++ state) true
    .ok (⟨g, some (.announcing request event response)⟩, [.responded request response])
  | .announcing request event response =>
    .ok (⟨g, none⟩, [.event event, .returned request response])
  | .registered _ _ | .waiting _ => .error "the execution is outside"

/-- **One move of the system.** -/
def step (a : PayloadAuthority) (s : GatewaySystem) :
    Move → Except String (GatewaySystem × List GatewayEffect)
  | .vehicle runId timestampNs xy grounded =>
    let (g, effects) := s.gateway.acceptVehicle a runId timestampNs xy grounded
    .ok ({ s with gateway := g }, effects)
  | .payload runId timestampNs arucoId xy grounded attached =>
    let (g, effects) := s.gateway.acceptPayload a runId timestampNs arucoId xy grounded attached
    .ok ({ s with gateway := g }, effects)
  | .result arucoId wire => .ok ({ s with gateway := s.gateway.acceptResult arucoId wire }, [])
  | .execute request =>
    match s.executing with
    | none => .ok ({ s with executing := some (.entered request) }, [])
    | some _ => .error "the operation lock is held"
  | .proceed =>
    match s.executing with
    | none => .error "nothing is executing"
    | some executing => proceed a s.gateway executing
  | .publish raised =>
    match s.executing with
    | some (.registered request wire) =>
      .ok ({ s with executing := some (if raised then .abandoning request else .waiting request) },
        [.command request wire])
    | _ => .error "no command is due"
  | .wake signaled =>
    match s.executing with
    | some (.waiting request) =>
      if signaled && !(s.gateway.pending.get request.commandId).any (fun p => p.value.isSome) then
        .error "the event is not set"
      else .ok ({ s with executing := some (.woken request signaled) }, [])
    | _ => .error "nothing waits"

/-! ## 5. Moves of one command -/

/-- Three payloads that may be picked up on one pad. -/
def padAuthority : PayloadAuthority where
  runId := "run"
  pickupZones := .ofList [("pad", ⟨0, 0, 10, 10⟩)]
  payloadZones := .ofList [(2, ["pad"]), (3, ["pad"]), (4, ["pad"])]
  maxCenterErrorM := 1
  maxCenterErrorM_pos := by norm_num
  configured := by decide

/-- Everything stands on the pad at one time; `carried` is attached. -/
def standing (timestampNs : ℕ) (carried : Option ℕ) : List Move :=
  .vehicle "run" timestampNs (0, 0) true ::
    PayloadGateway.markers.map fun m =>
      .payload "run" timestampNs m (0, 0) true (decide (carried = some m))

/-- A request up to the command. -/
def commandMoves (request : PayloadRequest) : List Move :=
  [.execute request, .proceed, .proceed, .proceed, .publish false]

/-- The result comes, and the execution ends with an event. -/
def confirmMoves (arucoId : ℕ) (wire : String) : List Move :=
  [.result arucoId wire, .wake true, .proceed, .proceed, .proceed, .proceed]

def attachRequest : PayloadRequest := ⟨"run", 2, "attach", "c1"⟩

end GatewaySystem

end DroneSim
