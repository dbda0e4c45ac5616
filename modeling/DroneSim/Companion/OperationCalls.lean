/-
  File:      DroneSim/Companion/OperationCalls.lean
  Subject:   The calls of the drone operations (companion/operations.py, DroneOperations).

  `dispatch` begins a tool, `completion` asks whether it is done, `evaluate` ends an operation that is
  done, late, or left without what it needs. `start`, `observe`, `tick`, `abort` and `recoverLand` are
  the methods that callers use; `answer` is one of them, with what it finds around it.
-/
import DroneSim.Companion.MarkerOperations

namespace DroneSim

open Library Library.Attempt Library.Acting MachineFloat

namespace DroneOperations

variable {R : Type}
variable (e : Equipment R) (w : Surroundings R) (tool : ToolCall R) (s : DroneOperations R)
  (a : ActiveOperation R) (arucoId : ℤ)

/-! ## 1. Tools begin -/

/-- `_next_request_id`. -/
def nextRequestId (stem : String) : Operating R String := do
  update fun s => { s with requestSequence := s.requestSequence + 1 }
  let s ← current
  return s!"{stem}:{s.requestSequence}"

/-- A command whose ACK is waited for. -/
def command (kind : CommandKind) (altitudeM : Option R) : Operating R Unit :=
  do
    update fun s => { s with active := s.active.map fun a => { a with expectedAck := some kind } }
    request w (.send kind altitudeM)

/-- The request of a tool, under the next number. -/
def requestNext (stem : String) (make : String → ℤ → OperationRequest R) : Operating R Unit := do
  let requestId ← nextRequestId stem
  update (withContext fun _ => .request requestId)
  let s ← current
  request w (make requestId s.clockNs)

/-- `_begin_phase_tool`. -/
def beginPhaseTool (tool : String) (phase : String) (make : String → ℤ → OperationRequest R) :
    Operating R Unit :=
  if e.phases then requestNext w phase make else throw s!"{tool} requires phase exchange"

def configureFlight (w : Surroundings R) (tuning : FlightTuning R) : Operating R Unit := do
  let s ← current
  if !(s.fresh [.armed, .landed] && s.isDown) then
    throw "configure_flight requires fresh landed/disarmed state"
  else do
    update (withContext fun _ => .tuning tuning.parameters)
    update fun s =>
      { s with
        sensed :=
          { s.sensed with
            parameters := s.sensed.parameters.filterKeys fun name =>
              !(tuning.parameters.map Prod.fst).contains name } }
    request w (.configureFlight tuning.parameters)

def beginArm : Operating R Unit := do
  let s ← current
  if !s.modeIs "GUIDED" then throw "arm requires observed GUIDED mode"
  else if !(s.fresh [.prearmChecksHealthy] && s.flagIs .prearmChecksHealthy true) then
    throw "arm requires healthy prearm checks"
  else command w .arm none

/-- The LAND command, but where the vehicle is down. -/
def beginLanding : Operating R Unit := do
  let s ← current
  if s.fresh [.landed] && s.isDown then finish e .succeeded "" else command w .land none

def beginFindMarker : Operating R Unit := do
  let s ← current
  if e.vision && e.rangefinder then do
    update (withContext fun _ => .marker [] ⟨s.lastMarkerSequence, "", [], none⟩)
    request w (.requestMarker arucoId s.lastMarkerSequence)
  else throw "find_marker requires configured vision and range"

def beginAttach : Operating R Unit := do
  let s ← current
  if !e.payloads then throw "attach_payload requires payload command transport"
  else if !(s.isDown && s.lastPrecisionTouchdownId == some arucoId) then
    throw "attach_payload requires matching aligned touchdown and disarm"
  else requestNext w "attach" fun requestId _ => .requestPayload "attach" arucoId requestId none

variable [MachineFloat R] (e : Equipment R) (w : Surroundings R) (tool : ToolCall R)
  (s : DroneOperations R) (a : ActiveOperation R) (arucoId : ℤ)

def beginGotoCourse (target : CourseTarget) (altitudeM : R) : Operating R Unit := do
  let s ← current
  let point ← ofExcept (resolveCourseTarget e target s)
  update (withContext fun _ => .course point.1 point.2 none)
  request w (.sendWaypoint point.1 point.2 altitudeM)

/-- The vehicle may release where it flies. -/
def mayReleaseAirborne (course : OperationCourse R) (s : DroneOperations R) : Bool :=
  s.flagIs .armed true && s.flagIs .landed false && s.modeIs "GUIDED" &&
    s.fresh [.relativeAltitudeM] && !decide (s.altitude < course.minimumAglM)

/-- What `release_payload` requires of the vehicle. -/
def releaseRefusal (deliveryMode : DeliveryMode) (s : DroneOperations R) : Option String :=
  match deliveryMode with
  | .airborne =>
    match e.course with
    | none => some ""
    | some course =>
      if s.mayReleaseAirborne course then none
      else some "airborne release prerequisites are not satisfied"
  | .grounded =>
    if s.isDown then none else some "grounded release requires landed and disarmed state"

def beginRelease (deliveryMode : DeliveryMode) : Operating R Unit := do
  let s ← current
  if !e.payloads then throw "release_payload requires payload command transport"
  else
    match releaseRefusal e deliveryMode s with
    | some error => throw error
    | none =>
      requestNext w "release" fun requestId _ =>
        .requestPayload "release" arucoId requestId (some deliveryMode)

/-- The tools that need a heartbeat, once it is there. -/
def dispatchVehicle : ToolCall R → Operating R Unit
  | .configureFlight tuning => configureFlight w tuning
  | .setMode _ => command w .setGuided none
  | .arm => beginArm w
  | .takeoff altitudeM _ => command w .takeoff (some altitudeM)
  | .gotoWaypoint latitudeDeg longitudeDeg altitudeM _ =>
    request w (.sendWaypoint latitudeDeg longitudeDeg altitudeM)
  | .hold _ => pure ()
  | .land => beginLanding e w
  | .gotoCourseWaypoint target altitudeM _ => beginGotoCourse e w target altitudeM
  | .findMarker arucoId => beginFindMarker e w arucoId
  | .precisionLand arucoId => beginPrecision e w arucoId
  | .attachPayload arucoId => beginAttach e w arucoId
  | .releasePayload arucoId deliveryMode => beginRelease e w arucoId deliveryMode
  | _ => throw "attempt_recovery"

/-- `_dispatch`. -/
def dispatch : Operating R Unit := do
  let s ← current
  match tool with
  | .waitForState .. => pure ()
  | .beginPhase phase =>
    beginPhaseTool e w tool.name phase fun requestId stamp => .beginPhase phase requestId stamp
  | .checkPhase phase checkpoint =>
    beginPhaseTool e w tool.name phase fun requestId stamp =>
      .checkPhase phase (checkpoint.getD "") requestId stamp
  | _ =>
    if !s.fresh [.heartbeat] then throw "fresh vehicle heartbeat required"
    else if tool.beginsGuided && !(s.flagIs .armed true && s.modeIs "GUIDED") then
      throw s!"{tool.name} requires observed armed GUIDED state"
    else dispatchVehicle e w tool

/-! ## 2. Tools complete -/

/-- The reported parameters are the configured ones. -/
def tuned (parameters : List (String × R)) (s : DroneOperations R) : Bool :=
  parameters.all fun p => (s.sensed.parameters.get p.1).any fun observed => isClose observed p.2

/-- The configured parameters as they are reported. -/
def reported (parameters : List (String × R)) (s : DroneOperations R) : List (String × R) :=
  parameters.filterMap fun p => (s.sensed.parameters.get p.1).map fun observed => (p.1, observed)

def completeConfigure : Operating R Bool := do
  let s ← current
  if !(s.fresh [.armed, .landed] && s.isDown) then do
    finish e .failed "landed/disarmed state lost during configure_flight"
    return false
  else
    match a.context with
    | .tuning parameters =>
      if s.afterStart a [.precisionParameters] && s.tuned parameters then do
        emit (.flightConfigurationConfirmed (s.reported parameters))
        return true
      else return false
    | _ => throw "'parameters'"

/-- The awaited values, by the last telemetry. -/
def stateReached (armed landed : Option Bool) (mode : Option String) (s : DroneOperations R) : Bool :=
  s.fresh [.heartbeat] &&
    armed.all (fun b => s.fresh [.armed] && s.flagIs .armed b) &&
    landed.all (fun b => s.fresh [.landed] && s.flagIs .landed b) &&
    mode.all fun m => s.fresh [.mode] && s.modeIs m

/-- The altitude of a takeoff is reached. -/
def takenOff (altitudeM : R) (toleranceM : Option R) : Except String Bool :=
  if s.afterStart a [.relativeAltitudeM] then do
    let altitude ← s.number .relativeAltitudeM
    return decide (altitudeM - toleranceM.getD (smaller 0.15 (altitudeM * 0.1)) ≤ altitude)
  else .ok false

/-- A waypoint is reached. -/
def atWaypoint (latitudeDeg longitudeDeg altitudeM : R) (toleranceM : Option R) :
    Except String Bool :=
  if s.afterStart a [.latitudeDeg, .longitudeDeg, .relativeAltitudeM] then do
    let latitude ← s.number .latitudeDeg
    let longitude ← s.number .longitudeDeg
    let altitude ← s.number .relativeAltitudeM
    let north := radians (latitude - latitudeDeg) * 6371000.0
    let longitudeDelta := modulo (longitude - longitudeDeg + 180.0) 360.0 - 180.0
    let east := radians longitudeDelta * 6371000.0 * cos (radians latitudeDeg)
    return decide (hypot north east ≤ toleranceM.getD 1.0) &&
      decide (MachineFloat.abs (altitude - altitudeM) ≤ toleranceM.getD 1.0)
  else .ok false

/-- The vehicle is at the course waypoint and stands still. -/
def stillAt (target : R × R) (altitudeM : R) (toleranceM : Option R) : Except String Bool := do
  let latitude ← s.number .latitudeDeg
  let longitude ← s.number .longitudeDeg
  let altitude ← s.number .relativeAltitudeM
  let north ← s.number .horizontalVelocityNorthMS
  let east ← s.number .horizontalVelocityEastMS
  return decide (horizontalDistanceM (latitude, longitude) target ≤ toleranceM.getD 1.0) &&
    decide (MachineFloat.abs (altitude - altitudeM) ≤ toleranceM.getD 1.0) &&
    decide (hypot north east < 0.10)

/-- `_evaluate_course_waypoint`. -/
def evaluateCourseWaypoint (altitudeM : R) (toleranceM : Option R) : Operating R Bool := do
  let s ← current
  if s.afterStart a [.latitudeDeg, .longitudeDeg, .relativeAltitudeM, .horizontalVelocityNorthMS,
      .horizontalVelocityEastMS] then
    match a.context with
    | .course latitudeDeg longitudeDeg stableSinceNs => do
      let still ← ofExcept (s.stillAt (latitudeDeg, longitudeDeg) altitudeM toleranceM)
      match still, stableSinceNs with
      | false, _ => do
        update (withContext fun _ => .course latitudeDeg longitudeDeg none)
        return false
      | true, none => do
        update (withContext fun _ => .course latitudeDeg longitudeDeg (some s.clockNs))
        return false
      | true, some stable => return decide (1000000000 ≤ s.clockNs - stable)
    | _ => throw "'latitude_deg'"
  else return false

/-- The number of the active request. -/
def requestIdOf : Except String String :=
  match a.context with
  | .request requestId => .ok requestId
  | _ => .error "'request_id'"

/-- `_evaluate_payload`. -/
def evaluatePayload : Operating R Bool := do
  let requestId ← ofExcept (requestIdOf a)
  let confirmation ← ofExcept (w.confirmation requestId)
  match confirmation with
  | none => return false
  | some c =>
    if c.requestId ≠ requestId then return false
    else if c.confirmed then return true
    else do
      finish e .failed (if c.reason = "" then "payload action was not confirmed" else c.reason)
      return false

/-- `_evaluate_phase_tool`, of a check. -/
def evaluatePhaseCheck (phase : String) (checkpoint : Option String) : Operating R Bool := do
  let requestId ← ofExcept (requestIdOf a)
  let decision ← ofExcept (w.decision requestId)
  match decision with
  | none => return false
  | some d =>
    if d.requestId ≠ requestId ∨ d.phase ≠ phase ∨ d.checkpoint ≠ checkpoint.getD "" then
      return false
    else if d.approved then return true
    else do
      finish e .failed (if d.reason = "" then "judge rejected phase check" else d.reason)
      return false

/-- The time of a hold has passed. -/
def heldFor (durationSimS : R) : Except String Bool :=
  match nanoseconds durationSimS with
  | none => .error "cannot convert float infinity to integer"
  | some duration => .ok (decide (duration ≤ s.clockNs - a.status.startedAtNs))

/-- Whether the tool is done; a tool that fails is not. -/
def completion : Operating R Bool :=
  do
    let s ← current
    match a.tool with
    | .configureFlight _ => completeConfigure e a
    | .waitForState armed landed mode => return s.stateReached armed landed mode
    | .setMode mode => return s.afterStart a [.mode] && s.modeIs mode
    | .arm => return s.afterStart a [.armed] && s.flagIs .armed true
    | .takeoff altitudeM toleranceM => ofExcept (s.takenOff a altitudeM toleranceM)
    | .gotoWaypoint latitudeDeg longitudeDeg altitudeM toleranceM =>
      ofExcept (s.atWaypoint a latitudeDeg longitudeDeg altitudeM toleranceM)
    | .gotoCourseWaypoint _ altitudeM toleranceM =>
      failing e (evaluateCourseWaypoint a altitudeM toleranceM)
    | .findMarker arucoId => failing e (evaluateFindMarker e w arucoId)
    | .precisionLand arucoId => failing e (evaluatePrecision e w a arucoId)
    | .attachPayload _ => failing e (evaluatePayload e w a)
    | .releasePayload _ _ => failing e (evaluatePayload e w a)
    | .beginPhase _ => return true
    | .checkPhase phase checkpoint => failing e (evaluatePhaseCheck e w a phase checkpoint)
    | .hold durationSimS => ofExcept (s.heldFor a durationSimS)
    | .land => return s.afterStart a [.landed, .armed] && s.isDown
    | .attemptRecovery => return false

/-! ## 3. The evaluation -/

/-- A tool that is done has succeeded. -/
def complete : Operating R Unit := do
  let done ← completion e w a
  if done then finish e .succeeded "" else pure ()

/-- The evaluation of a tool in time. -/
def evaluateTool : Operating R Unit := do
  let s ← current
  if !a.tool.outlivesHeartbeat && !s.fresh [.heartbeat] then
    finish e .failed "vehicle heartbeat became stale"
  else if a.tool.staysGuided && !(s.modeIs "GUIDED" && s.flagIs .armed true) then
    finish e .failed "armed GUIDED state lost during operation"
  else if a.expectedAck.isSome && !a.acknowledged then pure ()
  else complete e w a

/-- The evaluation of an operation that no expiry ends. -/
def evaluateActive : Operating R Unit := do
  let s ← current
  if a.deadlineNs ≤ s.clockNs then finish e .failed s!"{a.tool.name} simulation timeout"
  else if a.tool.isRecovery then evaluateHomeRecovery e w a
  else evaluateTool e w a

/-- The end of an operation whose attempt has expired. -/
def expire (reason : String) : Operating R Unit := do
  finish e .failed reason
  startHomeRecovery e w

/-- `_evaluate`. -/
def evaluate : Operating R Unit := do
  let s ← current
  match s.active with
  | none => pure ()
  | some a =>
    if a.tool.isRecovery then evaluateActive e w a
    else
      match expiryReason e w s.clockNs with
      | some reason => expire e w reason
      | none => evaluateActive e w a

/-! ## 4. Calls -/

/-- A new entry, running. -/
def openStart : DroneOperations R :=
  s.opened
    { operationId := s.operations.length, tool := tool.name, state := .running
      startedAtNs := s.clockNs }

/-- The new entry is active. -/
def activate (operationId : ℕ) (tool : ToolCall R) (timeoutNs : ℤ) (s : DroneOperations R) :
    DroneOperations R :=
  { s with
    active := some
      { status :=
          { operationId := operationId, tool := tool.name, state := .running
            startedAtNs := s.clockNs }
        tool := tool
        deadlineNs := s.clockNs + timeoutNs
        baselineSequence := s.sensed.sequence } }

/-- `start` from its `try` on. -/
def launch : Operating R Unit :=
  tryCatch
    (do
      dispatch e w tool
      evaluate e w)
    fun error => finish e .failed error

/-- `start` past the checks of its arguments and of the state. -/
def begin' (timeoutSimS : R) : Operating R ℕ := do
  let s ← current
  update (openStart tool)
  perform (.opened s.operations.length)
  match nanoseconds timeoutSimS with
  | none => throw "cannot convert float infinity to integer"
  | some timeoutNs => do
    update (activate s.operations.length tool timeoutNs)
    emit (.operationStarted s.operations.length tool timeoutSimS)
    match expiryReason e w s.clockNs with
    | some reason => do
      expire e w reason
      return s.operations.length
    | none => do
      launch e w tool
      return s.operations.length

/-- `positive_seconds` takes the timeout. -/
def validTimeout (timeoutSimS : R) : Bool := isFinite timeoutSimS && decide (0.0 < timeoutSimS)

/-- What `start` refuses. -/
def startRefusal (timeoutSimS : R) (s : DroneOperations R) : Option String :=
  if tool.isRecovery then some "unsupported tool: 'attempt_recovery'"
  else if !validTimeout timeoutSimS then
    some "timeout_sim_s must be finite and positive"
  else if s.active.isSome then some "another operation is active"
  else s.stoppedReason.map fun reason => s!"operations stopped: {reason}"

/-- `start`. -/
def start (timeoutSimS : R) : Operating R ℕ := do
  let s ← current
  match startRefusal tool timeoutSimS s with
  | some error => throw error
  | none => begin' e w tool timeoutSimS

/-- The operations are stopped, and the active one ends. -/
def halt (state : OperationState) (reason : String) : Operating R Unit := do
  stop reason
  finish e state reason

/-- `abort`. -/
def abort (reason : String) : Operating R Unit := halt e .cancelled reason

/-- `tick` up to its evaluation. -/
def advance (timestampNs : Option ℤ) : Operating R Unit := do
  let s ← current
  match timestampNs with
  | none => do
    halt e .failed "simulation timestamp regressed or invalid"
    throw "simulation timestamp regressed or invalid"
  | some timestamp =>
    if timestamp < s.clockNs then do
      halt e .failed "simulation timestamp regressed or invalid"
      throw "simulation timestamp regressed or invalid"
    else update fun s => { s with clockNs := timestamp }

/-- `tick`; `none` for a timestamp that is no integer. -/
def tick (timestampNs : Option ℤ) : Operating R Unit := do
  advance e timestampNs
  evaluate e w

/-- An invalid reading ends the operation; those after it find none. -/
def rejectReadings (telemetry : Telemetry R) : Operating R Unit :=
  match telemetry.invalid with
  | none => pure ()
  | some name => finish e .failed s!"invalid {name.name} telemetry"

/-- The first time that the vehicle is armed. -/
def noteArmed (telemetry : Telemetry R) : Operating R Unit := do
  let s ← current
  if telemetry.armed == some true && s.armedAtNs.isNone then do
    update fun s => { s with armedAtNs := some s.clockNs }
    emit .missionArmed
  else pure ()

/-- An ACK for the command that the operation waits for. -/
def takeAck (telemetry : Telemetry R) : Operating R Unit := do
  let s ← current
  match s.active, telemetry.ack with
  | some a, some ack =>
    if a.expectedAck ≠ some ack.command then pure ()
    else if ack.accepted then
      update fun s => { s with active := s.active.map fun a => { a with acknowledged := true } }
    else
      finish e .failed
        s!"command rejected: {ack.command.value}, result {ack.result}"
  | _, _ => pure ()

/-- What `observe` takes from telemetry. -/
def sense (telemetry : Telemetry R) (s : DroneOperations R) : DroneOperations R :=
  { s with sensed := s.sensed.intake s.clockNs telemetry }

/-- `observe`. -/
def observe (telemetry : Telemetry R) : Operating R Unit := do
  advance e (some telemetry.timestampNs)
  update (sense telemetry)
  rejectReadings e telemetry
  noteArmed telemetry
  takeAck e telemetry
  evaluate e w

/-- `recover_land` may begin, by the last values. -/
def admitsRecovery : Bool :=
  s.recoveryId.isNone && s.fresh [.heartbeat] && s.flagIs .armed true &&
    (s.modeIs "GUIDED" || s.modeIs "LAND")

/-- `start("land", {})`, whose number is the recovery's; the stop stands again however it ends. -/
def landAgain (timeoutSimS : R) (reason : String) : Operating R Unit := do
  tryCatch
    (do
      let operationId ← start e w .land timeoutSimS
      update fun s => { s with recoveryId := some operationId })
    fun error => do
      stop reason
      throw error
  stop reason

/-- `recover_land`. -/
def recoverLand (timeoutSimS : R) : Operating R Unit := do
  let s ← current
  if s.admitsRecovery then do
    abort e (s.stoppedReason.getD "recovery requested")
    update fun s => { s with stoppedReason := none }
    landAgain e w timeoutSimS (s.stoppedReason.getD "recovery requested")
  else pure ()

/-- The calls that a caller makes. -/
inductive Input (R : Type) where
  | start (tool : ToolCall R) (timeoutSimS : R)
  | observe (telemetry : Telemetry R)
  | tick (timestampNs : Option ℤ)
  | abort (reason : String)
  | recoverLand (timeoutSimS : R)

/-- A call and what it finds around it. -/
structure Call (R : Type) where
  input : Input R
  around : Surroundings R

/-- One call. -/
def answer (i : Call R) : Operating R Unit :=
  match i.input with
  | .start tool timeoutSimS => do
    let _ ← start e i.around tool timeoutSimS
    return ()
  | .observe telemetry => observe e i.around telemetry
  | .tick timestampNs => tick e i.around timestampNs
  | .abort reason => abort e reason
  | .recoverLand timeoutSimS => recoverLand e i.around timeoutSimS

end DroneOperations

end DroneSim
