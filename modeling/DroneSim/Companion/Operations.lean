/-
  File:      DroneSim/Companion/Operations.lean
  Subject:   The end of an operation and the recovery at home (companion/operations.py).

  What one call finds around it (`Surroundings`: the attempt's clock, the next marker observation, the
  last range, the answers to requests, which requests raise) and what the operations are equipped with
  (`Equipment`) are parameters. A computation notes the requests it makes with the state it makes them
  in, what it emits, and the assignments of an operation's entry and of the reason for the stop.
-/
import DroneSim.Companion.OperationState
import DroneSim.Library.Acting
import Mathlib.Data.List.MinMax
import Mathlib.Algebra.Order.Group.Int
import Mathlib.Algebra.Order.Group.Unbundled.Abs

namespace DroneSim

open Library Library.Attempt Library.Acting MachineFloat

/-! ## 1. Surroundings -/

/-- What the operations use of `VfsCourse`, durations in nanoseconds. -/
structure OperationCourse (R : Type) where
  waypoints : String → Option (R × R)
  durationNs : ℤ
  approvalTimeoutNs : ℤ
  recoveryTimeoutNs : ℤ
  acquisitionAglM : R
  minimumAglM : R
  transitAglM : R

/-- What the operations use of `VfsScenario`: the target and the release offset of a payload. -/
structure OperationScenario (R : Type) where
  targets : ℤ → Option String
  releaseOffsets : ℤ → Option (R × R)

/-- What a `DroneOperations` was built with. -/
structure Equipment (R : Type) where
  course : Option (OperationCourse R)
  scenario : Option (OperationScenario R)
  vision : Bool
  rangefinder : Bool
  payloads : Bool
  phases : Bool
  attempt : Bool

structure PayloadConfirmation where
  requestId : String
  confirmed : Bool
  reason : String
  deriving DecidableEq, Repr

structure PhaseDecision where
  requestId : String
  phase : String
  checkpoint : String
  approved : Bool
  reason : String
  deriving DecidableEq, Repr

/-- What one call finds around it; `raises n` where the request after `n` notes raises. -/
structure Surroundings (R : Type) where
  activeElapsedNs : ℤ := 0
  approvalTimestampNs : ℤ := 0
  poll : Except String (Option (MarkerObservation R)) := .ok none
  range : Option (RangeObservation R) := none
  confirmation : String → Except String (Option PayloadConfirmation) := fun _ => .ok none
  decision : String → Except String (Option PhaseDecision) := fun _ => .ok none
  raises : ℕ → Option String := fun _ => none

/-- Requests to the vehicle and to the other dependencies. -/
inductive OperationRequest (R : Type) where
  | configureFlight (parameters : List (String × R))
  | send (command : CommandKind) (altitudeM : Option R)
  | sendWaypoint (latitudeDeg longitudeDeg altitudeM : R)
  | sendMode (mode : String)
  | sendLandingTarget (vector : BodyFrd R)
  | requestMarker (arucoId afterSequence : ℤ)
  | requestPayload (action : String) (arucoId : ℤ) (requestId : String)
      (deliveryMode : Option DeliveryMode)
  | beginPhase (phase requestId : String) (stampNs : ℤ)
  | checkPhase (phase checkpoint requestId : String) (stampNs : ℤ)

/-- The requests that are vehicle commands. -/
def OperationRequest.isCommand {R : Type} : OperationRequest R → Bool
  | configureFlight _ | send .. | sendWaypoint .. | sendMode _ | sendLandingTarget _ => true
  | _ => false

/-- The vector of a LANDING_TARGET. -/
def OperationRequest.target {R : Type} : OperationRequest R → Option (BodyFrd R)
  | sendLandingTarget vector => some vector
  | _ => none

/-- The fields of a `precision_observation`. -/
structure PrecisionReport (R : Type) where
  arucoId : ℤ
  phase : String
  retry : ℕ
  observation : MarkerObservation R
  healthy : Bool
  reason : String
  reacquiredFramesBefore : ℕ
  telemetryTimestampsNs : List (Reading × ℤ)
  range : Option (RangeObservation R)

inductive OperationEvent (R : Type) where
  | operationStarted (operationId : ℕ) (tool : ToolCall R) (timeoutSimS : R)
  | operationFinished (operationId : ℕ) (tool : String) (state : OperationState) (error : String)
  | missionArmed
  | flightConfigurationConfirmed (parameters : List (String × R))
  | precisionRecovery (arucoId : ℤ) (retry : ℕ)
  | precisionObservation (report : PrecisionReport R)

inductive OperationNote (R : Type) where
  | opened (operationId : ℕ)
  | stopped
  | retried (operationId : ℕ)
  | polled (answer : Except String (Option (MarkerObservation R)))
  | sent (s : DroneOperations R) (request : OperationRequest R)
  | markersCancelled
  | payloadsCancelled
  | emitted (stampNs : ℤ) (event : OperationEvent R)

abbrev Operating (R : Type) : Type → Type := Action (DroneOperations R) (OperationNote R) String

namespace DroneOperations

variable {R : Type}
variable (e : Equipment R) (w : Surroundings R) (course : OperationCourse R) (s : DroneOperations R)

def emit (event : OperationEvent R) : Operating R Unit := do
  let s ← current
  perform (.emitted s.clockNs event)

/-- A request to a dependency, which may raise. -/
def request (w : Surroundings R) (request : OperationRequest R) : Operating R Unit := do
  let r ← get
  perform (.sent r.state request)
  match w.raises r.log.length with
  | some error => throw error
  | none => pure ()

/-- `self._vision.poll()`. -/
def poll (w : Surroundings R) : Operating R (Option (MarkerObservation R)) := do
  perform (.polled w.poll)
  ofExcept w.poll

/-- `self._stopped_reason = reason`. -/
def stop (reason : String) : Operating R Unit := do
  update fun s => { s with stoppedReason := some reason }
  perform .stopped

/-! ## 2. The end of an operation -/

/-- The work of the dependencies is given up. -/
def cancelWork (state : OperationState) : ToolCall R → Operating R Unit
  | .findMarker _ | .precisionLand _ => if e.vision then perform .markersCancelled else pure ()
  | .attachPayload _ | .releasePayload .. =>
    if e.payloads && state != .succeeded then perform .payloadsCancelled else pure ()
  | _ => pure ()

def stopUnlessSucceeded (state : OperationState) (error : String) : Operating R Unit :=
  if state = .succeeded then pure () else stop (if error = "" then state.value else error)

/-- `_finish`. -/
def finish (state : OperationState) (error : String) : Operating R Unit := do
  let s ← current
  match s.active with
  | none => pure ()
  | some a => do
    update (settled { a.status with
      state := state
      finishedAtNs := some s.clockNs
      error := error })
    cancelWork e state a.tool
    stopUnlessSucceeded state error
    emit (.operationFinished a.status.operationId a.status.tool state error)

/-- A computation whose exceptions fail the operation. -/
def failing (x : Operating R Bool) : Operating R Bool :=
  tryCatch x fun error => do
    finish e .failed error
    return false

variable [MachineFloat R] (e : Equipment R) (w : Surroundings R) (course : OperationCourse R)
  (s : DroneOperations R)

/-! ## 3. The recovery at home -/

/-- `_attempt_expiry_reason`. -/
def expiryReason (clockNs : ℤ) : Option String :=
  match e.course with
  | none => none
  | some course =>
    if e.attempt = false then none
    else if course.durationNs ≤ w.activeElapsedNs then some "active attempt deadline expired"
    else if 0 < w.approvalTimestampNs ∧
        course.approvalTimeoutNs ≤ clockNs - w.approvalTimestampNs then
      some "approval-to-takeoff deadline expired"
    else none

/-- `resolve_waypoint_xy` for a payload target. -/
def payloadTargetXy (scenario : OperationScenario R) (arucoId : ℤ) : Except String (R × R) :=
  match scenario.releaseOffsets arucoId with
  | none => .error s!"unknown payload ID: {arucoId}"
  | some offset =>
    match (scenario.targets arucoId).bind course.waypoints with
    | none => .error s!"{arucoId}"
    | some center => .ok (center.1 + offset.1, center.2 + offset.2)

/-- The point of a course target, east and north. -/
def targetXy : CourseTarget → Except String (R × R)
  | .waypoint name =>
    match course.waypoints name with
    | none => .error s!"unknown course waypoint '{name}'"
    | some center => .ok center
  | .payload arucoId =>
    match e.scenario with
    | none => .error "payload target requires a frozen scenario"
    | some scenario => payloadTargetXy course scenario arucoId

/-- `_resolve_course_target`. -/
def resolveCourseTarget (target : CourseTarget) (s : DroneOperations R) : Except String (R × R) :=
  match e.course, s.sensed.courseOrigin with
  | none, _ => .error "course navigation requires a frozen course"
  | some _, none => .error "course navigation requires pinned home"
  | some course, some origin =>
    (targetXy e course target).map fun xy => offsetGps origin.1 origin.2 xy.2 xy.1

/-- The recovery at home may begin, by the last values. -/
def homeAdmissible : Bool :=
  s.fresh [.heartbeat, .mode, .armed, .landed] && !s.flagIs .failsafe true &&
    (s.modeIs "GUIDED" || s.modeIs "LAND") && !s.isDown

/-- The entry and the activity of the recovery at home. -/
def openHome : DroneOperations R :=
  { s.opened
      { operationId := s.operations.length, tool := "attempt_recovery", state := .running
        startedAtNs := s.clockNs } with
    active := some
      { status :=
          { operationId := s.operations.length, tool := "attempt_recovery", state := .running
            startedAtNs := s.clockNs }
        tool := .attemptRecovery
        deadlineNs := s.clockNs + course.recoveryTimeoutNs
        baselineSequence := s.sensed.sequence }
    recoveryId := some s.operations.length
    stoppedReason := some (s.stoppedReason.getD "attempt recovery") }

/-- The recovery fails where the home position is unavailable. -/
def loseHome : DroneOperations R :=
  match s.active with
  | none => s
  | some a =>
    s.settled { a.status with
      state := .failed
      finishedAtNs := some s.clockNs
      error := "home recovery target is unavailable" }

/-- `float(self._values.get("relative_altitude_m", 0.0))`. -/
def altitude : R :=
  match s.value .relativeAltitudeM with
  | some (.number x) => x
  | _ => 0.0

/-- The way home, or down where the vehicle is landing. -/
def headHome : Operating R Unit := do
  let s ← current
  if s.modeIs "LAND" then update (withContext fun _ => .homeLand)
  else
    match resolveCourseTarget e (.waypoint "H") s with
    | .error _ => update loseHome
    | .ok target => do
      update (withContext fun _ =>
        .homeReturn target.1 target.2 (larger s.altitude course.transitAglM))
      request w (.sendWaypoint target.1 target.2 (larger s.altitude course.transitAglM))

/-- `_start_home_recovery`. -/
def startHomeRecovery : Operating R Unit := do
  let s ← current
  if s.recoveryId.isSome || !s.homeAdmissible then pure ()
  else
    match e.course with
    | none => throw "'NoneType' object has no attribute 'attempt'"
    | some course => do
      update (openHome course)
      perform (.opened s.operations.length)
      perform .stopped
      headHome e w course

/-- The vehicle has come home and stands still. -/
def isHome (latitudeDeg longitudeDeg : R) : Except String Bool := do
  let latitude ← s.number .latitudeDeg
  let longitude ← s.number .longitudeDeg
  let north ← s.number .horizontalVelocityNorthMS
  let east ← s.number .horizontalVelocityEastMS
  return decide (horizontalDistanceM (latitude, longitude) (latitudeDeg, longitudeDeg) ≤ 1.0) &&
    decide (hypot north east < 0.10)

/-- The return: LAND once the vehicle is home. -/
def returnHome (latitudeDeg longitudeDeg : R) : Operating R Unit := do
  let s ← current
  if s.fresh [.latitudeDeg, .longitudeDeg, .relativeAltitudeM, .horizontalVelocityNorthMS,
      .horizontalVelocityEastMS] then do
    let home ← ofExcept (s.isHome latitudeDeg longitudeDeg)
    if home then do
      request w (.send .land none)
      update (withContext fun _ => .homeLand)
    else pure ()
  else pure ()

/-- `_evaluate_home_recovery`. -/
def evaluateHomeRecovery (a : ActiveOperation R) : Operating R Unit := do
  let s ← current
  if a.deadlineNs ≤ s.clockNs then finish e .failed "attempt recovery simulation timeout"
  else if (!s.fresh [.heartbeat, .mode, .armed, .landed] || s.flagIs .failsafe true ||
      !(s.modeIs "GUIDED" || s.modeIs "LAND")) = true then
    finish e .failed "attempt recovery authority is unavailable"
  else if s.isDown then finish e .succeeded ""
  else
    match a.context with
    | .homeLand => pure ()
    | .homeReturn latitudeDeg longitudeDeg _ => returnHome w latitudeDeg longitudeDeg
    | _ => throw "'phase'"

end DroneOperations

end DroneSim
