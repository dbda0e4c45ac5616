/-
  File:      DroneSim/Companion/OperationState.lean
  Subject:   The state of the drone operations (companion/operations.py).

  One owner calls `DroneOperations` with requests, telemetry and clock ticks. Here is what it holds:
  the last telemetry values and when they came, the operations so far, the one that runs and what it
  has noted, and why no further one may start. An operation's number is its place in the order of
  opening; its text in the source is the number plus one.
-/
import DroneSim.Companion.PrecisionLanding
import Mathlib.Logic.Function.Basic

namespace DroneSim

open Library MachineFloat

/-! ## 1. Telemetry -/

inductive CommandKind where
  | setGuided
  | arm
  | takeoff
  | land
  deriving DecidableEq, Repr

def CommandKind.value : CommandKind → String
  | .setGuided => "SET_GUIDED"
  | .arm => "ARM"
  | .takeoff => "TAKEOFF"
  | .land => "LAND"

structure CommandAck where
  command : CommandKind
  accepted : Bool
  result : ℤ
  deriving DecidableEq, Repr

/-- The names of what is observed. -/
inductive Reading where
  | heartbeat
  | mode
  | armed
  | landed
  | relativeAltitudeM
  | latitudeDeg
  | longitudeDeg
  | verticalSpeedMS
  | prearmChecksHealthy
  | horizontalVelocityNorthMS
  | horizontalVelocityEastMS
  | rollRad
  | pitchRad
  | yawRad
  | homeLatitudeDeg
  | homeLongitudeDeg
  | homeAltitudeM
  | failsafe
  | precisionParameters
  deriving DecidableEq, Repr

def Reading.name : Reading → String
  | .heartbeat => "heartbeat"
  | .mode => "mode"
  | .armed => "armed"
  | .landed => "landed"
  | .relativeAltitudeM => "relative_altitude_m"
  | .latitudeDeg => "latitude_deg"
  | .longitudeDeg => "longitude_deg"
  | .verticalSpeedMS => "vertical_speed_m_s"
  | .prearmChecksHealthy => "prearm_checks_healthy"
  | .horizontalVelocityNorthMS => "horizontal_velocity_north_m_s"
  | .horizontalVelocityEastMS => "horizontal_velocity_east_m_s"
  | .rollRad => "roll_rad"
  | .pitchRad => "pitch_rad"
  | .yawRad => "yaw_rad"
  | .homeLatitudeDeg => "home_latitude_deg"
  | .homeLongitudeDeg => "home_longitude_deg"
  | .homeAltitudeM => "home_altitude_m"
  | .failsafe => "failsafe"
  | .precisionParameters => "precision_parameters"

inductive TelemetryValue (R : Type) where
  | flag (b : Bool)
  | text (t : String)
  | number (x : R)
  deriving DecidableEq

structure Telemetry (R : Type) where
  timestampNs : ℤ
  heartbeat : Bool := false
  mode : Option String := none
  armed : Option Bool := none
  relativeAltitudeM : Option R := none
  verticalSpeedMS : Option R := none
  landed : Option Bool := none
  ack : Option CommandAck := none
  prearmChecksHealthy : Option Bool := none
  latitudeDeg : Option R := none
  longitudeDeg : Option R := none
  horizontalVelocityNorthMS : Option R := none
  horizontalVelocityEastMS : Option R := none
  rollRad : Option R := none
  pitchRad : Option R := none
  yawRad : Option R := none
  homeLatitudeDeg : Option R := none
  homeLongitudeDeg : Option R := none
  homeAltitudeM : Option R := none
  failsafe : Option Bool := none
  precisionParameters : List (String × R) := []

/-- `getattr(telemetry, name)`. -/
def Telemetry.get {R : Type} (telemetry : Telemetry R) : Reading → Option (TelemetryValue R)
  | .heartbeat => some (.flag telemetry.heartbeat)
  | .mode => telemetry.mode.map .text
  | .armed => telemetry.armed.map .flag
  | .landed => telemetry.landed.map .flag
  | .relativeAltitudeM => telemetry.relativeAltitudeM.map .number
  | .latitudeDeg => telemetry.latitudeDeg.map .number
  | .longitudeDeg => telemetry.longitudeDeg.map .number
  | .verticalSpeedMS => telemetry.verticalSpeedMS.map .number
  | .prearmChecksHealthy => telemetry.prearmChecksHealthy.map .flag
  | .horizontalVelocityNorthMS => telemetry.horizontalVelocityNorthMS.map .number
  | .horizontalVelocityEastMS => telemetry.horizontalVelocityEastMS.map .number
  | .rollRad => telemetry.rollRad.map .number
  | .pitchRad => telemetry.pitchRad.map .number
  | .yawRad => telemetry.yawRad.map .number
  | .homeLatitudeDeg => telemetry.homeLatitudeDeg.map .number
  | .homeLongitudeDeg => telemetry.homeLongitudeDeg.map .number
  | .homeAltitudeM => telemetry.homeAltitudeM.map .number
  | .failsafe => telemetry.failsafe.map .flag
  | .precisionParameters => none

/-- The readings that `observe` goes through, in its order. -/
def readings : List Reading :=
  [.mode, .armed, .landed, .relativeAltitudeM, .latitudeDeg, .longitudeDeg, .verticalSpeedMS,
    .prearmChecksHealthy, .horizontalVelocityNorthMS, .horizontalVelocityEastMS, .rollRad, .pitchRad,
    .yawRad, .homeLatitudeDeg, .homeLongitudeDeg, .homeAltitudeM, .failsafe]

/-- The readings with a history. -/
def Reading.isPose : Reading → Bool
  | .latitudeDeg | .longitudeDeg | .rollRad | .pitchRad | .yawRad => true
  | _ => false

section

variable {R : Type} [MachineFloat R]

/-- A float that is not finite. -/
def TelemetryValue.isInvalid : TelemetryValue R → Bool
  | .number x => !isFinite x
  | _ => false

/-- The first reading that is invalid. -/
def Telemetry.invalid (telemetry : Telemetry R) : Option Reading :=
  readings.find? fun name => (telemetry.get name).any TelemetryValue.isInvalid

end

/-! ## 2. What was observed -/

/-- The last values, when they came, and with which telemetry. -/
structure Sensed (R : Type) where
  sequence : ℕ
  values : Reading → Option (TelemetryValue R)
  parameters : Dict String R
  observed : Reading → Option (ℤ × ℕ)
  poseHistory : Reading → List (ℤ × R)
  courseOrigin : Option (R × R)

namespace Sensed

variable {R : Type}

def initial : Sensed R := ⟨0, fun _ => none, .empty, fun _ => none, fun _ => [], none⟩

/-- `deque(maxlen=32)`, with one entry for a clock reading. -/
def pushed (clockNs : ℤ) (x : R) (history : List (ℤ × R)) : List (ℤ × R) :=
  let kept := if history.getLast?.any (fun row => row.1 = clockNs) then history.dropLast else history
  (kept ++ [(clockNs, x)]).drop (kept.length + 1 - 32)

/-- A value and when it came. -/
def put (clockNs : ℤ) (name : Reading) (value : TelemetryValue R) (s : Sensed R) : Sensed R :=
  { s with
    values := Function.update s.values name (some value)
    observed := Function.update s.observed name (some (clockNs, s.sequence)) }

/-- The history of a pose reading. -/
def record (clockNs : ℤ) (name : Reading) (value : TelemetryValue R) (s : Sensed R) : Sensed R :=
  match value with
  | .number x =>
    if name.isPose then
      { s with
        poseHistory := Function.update s.poseHistory name (pushed clockNs x (s.poseHistory name)) }
    else s
  | _ => s

/-- The heartbeat. -/
def beat (clockNs : ℤ) (heartbeat : Bool) (s : Sensed R) : Sensed R :=
  if heartbeat then s.put clockNs .heartbeat (.flag true) else s

/-- The parameters that the flight controller reports. -/
def tuned (clockNs : ℤ) (parameters : List (String × R)) (s : Sensed R) : Sensed R :=
  if parameters.isEmpty then s
  else
    { s with
      parameters := parameters.foldl (fun held p => held.set p.1 p.2) s.parameters
      observed := Function.update s.observed .precisionParameters (some (clockNs, s.sequence)) }

/-- The first home position. -/
def located (telemetry : Telemetry R) (s : Sensed R) : Sensed R :=
  match s.courseOrigin, telemetry.homeLatitudeDeg, telemetry.homeLongitudeDeg with
  | none, some latitude, some longitude => { s with courseOrigin := some (latitude, longitude) }
  | _, _, _ => s

variable [MachineFloat R]

/-- One reading; an invalid one is left out. -/
def take (clockNs : ℤ) (telemetry : Telemetry R) (s : Sensed R) (name : Reading) : Sensed R :=
  match telemetry.get name with
  | none => s
  | some value =>
    if value.isInvalid then s else (s.put clockNs name value).record clockNs name value

/-- What `observe` takes from telemetry. -/
def intake (clockNs : ℤ) (telemetry : Telemetry R) (s : Sensed R) : Sensed R :=
  let counted := { s with sequence := s.sequence + 1 }
  let read := readings.foldl (take clockNs telemetry) (counted.beat clockNs telemetry.heartbeat)
  (read.tuned clockNs telemetry.precisionParameters).located telemetry

end Sensed

/-! ## 3. Operations -/

inductive OperationState where
  | running
  | succeeded
  | failed
  | cancelled
  deriving DecidableEq, Repr

def OperationState.value : OperationState → String
  | .running => "running"
  | .succeeded => "succeeded"
  | .failed => "failed"
  | .cancelled => "cancelled"

structure OperationStatus where
  operationId : ℕ
  tool : String
  state : OperationState
  startedAtNs : ℤ
  finishedAtNs : Option ℤ := none
  error : String := ""
  deriving DecidableEq, Repr

structure FlightTuning (R : Type) where
  transitSpeedMS : R
  horizontalAccelerationMS2 : R
  horizontalJerkMS3 : R
  landingHighSpeedMS : R
  landingTransitionAltitudeM : R

/-- The arguments under their names in `FLIGHT_TUNING_PARAMETERS`. -/
def FlightTuning.parameters {R : Type} (tuning : FlightTuning R) : List (String × R) :=
  [("WP_SPD", tuning.transitSpeedMS), ("WP_ACC", tuning.horizontalAccelerationMS2),
    ("WP_JERK", tuning.horizontalJerkMS3), ("LAND_SPD_HIGH_MS", tuning.landingHighSpeedMS),
    ("LAND_ALT_LOW_M", tuning.landingTransitionAltitudeM)]

inductive CourseTarget where
  | waypoint (name : String)
  | payload (arucoId : ℤ)
  deriving DecidableEq, Repr

inductive DeliveryMode where
  | airborne
  | grounded
  deriving DecidableEq, Repr

/-- A tool with its validated arguments. `attemptRecovery` is no tool that a caller may name. -/
inductive ToolCall (R : Type) where
  | configureFlight (tuning : FlightTuning R)
  | setMode (mode : String)
  | arm
  | waitForState (armed landed : Option Bool) (mode : Option String)
  | takeoff (altitudeM : R) (toleranceM : Option R)
  | gotoWaypoint (latitudeDeg longitudeDeg altitudeM : R) (toleranceM : Option R)
  | hold (durationSimS : R)
  | land
  | gotoCourseWaypoint (target : CourseTarget) (altitudeM : R) (toleranceM : Option R)
  | findMarker (arucoId : ℤ)
  | precisionLand (arucoId : ℤ)
  | attachPayload (arucoId : ℤ)
  | releasePayload (arucoId : ℤ) (deliveryMode : DeliveryMode)
  | beginPhase (phase : String)
  | checkPhase (phase : String) (checkpoint : Option String)
  | attemptRecovery

namespace ToolCall

variable {R : Type}

def name : ToolCall R → String
  | configureFlight _ => "configure_flight"
  | setMode _ => "set_mode"
  | arm => "arm"
  | waitForState .. => "wait_for_state"
  | takeoff .. => "takeoff"
  | gotoWaypoint .. => "goto_waypoint"
  | hold _ => "hold"
  | land => "land"
  | gotoCourseWaypoint .. => "goto_course_waypoint"
  | findMarker _ => "find_marker"
  | precisionLand _ => "precision_land"
  | attachPayload _ => "attach_payload"
  | releasePayload .. => "release_payload"
  | beginPhase _ => "begin_phase"
  | checkPhase .. => "check_phase"
  | attemptRecovery => "attempt_recovery"

def isRecovery : ToolCall R → Bool
  | attemptRecovery => true
  | _ => false

/-- The marker of a precision landing. -/
def landingMarker : ToolCall R → Option ℤ
  | precisionLand arucoId => some arucoId
  | _ => none

/-- The tools that begin in armed GUIDED flight. -/
def beginsGuided : ToolCall R → Bool
  | takeoff .. | gotoWaypoint .. | gotoCourseWaypoint .. | findMarker _ | precisionLand _
  | hold _ => true
  | _ => false

/-- The tools that end with armed GUIDED flight. -/
def staysGuided : ToolCall R → Bool
  | takeoff .. | gotoWaypoint .. | gotoCourseWaypoint .. | findMarker _ | hold _ => true
  | _ => false

/-- The tools that go on without a heartbeat. -/
def outlivesHeartbeat : ToolCall R → Bool
  | waitForState .. | beginPhase _ | checkPhase .. => true
  | _ => false

end ToolCall

/-! ## 4. What an operation notes -/

/-- What `_marker_candidate` keeps. -/
structure MarkerLook (R : Type) where
  lastSequence : ℤ
  rejection : String
  poseTimestamps : List (Reading × ℤ)
  pose : Option (Pose R)

inductive PrecisionPhase (R : Type) where
  | awaitFirst
  | tracking
  | hold (holdStartedNs nextHoldNs : ℤ) (holdTarget : R × R × R)
  | retryTransit (nextHoldNs : ℤ) (holdTarget : R × R × R)

def PrecisionPhase.name {R : Type} : PrecisionPhase R → String
  | awaitFirst => "await_first"
  | tracking => "tracking"
  | hold .. => "hold"
  | retryTransit .. => "retry_transit"

/-- The context of a precision landing. -/
structure Precision (R : Type) where
  anchor : MarkerAnchor R
  phase : PrecisionPhase R
  look : MarkerLook R
  lastHealthyNs : ℤ
  reacquired : ℕ
  retry : ℕ

/-- The context of an operation, in one of the shapes that the tools give it. -/
inductive OperationContext (R : Type) where
  | empty
  | tuning (parameters : List (String × R))
  | course (latitudeDeg longitudeDeg : R) (stableSinceNs : Option ℤ)
  | marker (samples : List (R × R)) (look : MarkerLook R)
  | precision (c : Precision R)
  | request (requestId : String)
  | homeReturn (latitudeDeg longitudeDeg altitudeM : R)
  | homeLand

namespace OperationContext

variable {R : Type}

def look : OperationContext R → Option (MarkerLook R)
  | marker _ look => some look
  | precision c => some c.look
  | _ => none

/-- Another look, where the context has one. -/
def withLook (look : MarkerLook R) : OperationContext R → OperationContext R
  | marker samples _ => marker samples look
  | precision c => precision { c with look := look }
  | c => c

def landing : OperationContext R → Option (Precision R)
  | precision c => some c
  | _ => none

end OperationContext

/-- `_Active`. -/
structure ActiveOperation (R : Type) where
  status : OperationStatus
  tool : ToolCall R
  deadlineNs : ℤ
  baselineSequence : ℕ
  expectedAck : Option CommandKind := none
  acknowledged : Bool := false
  context : OperationContext R := .empty

/-! ## 5. The state -/

structure DroneOperations (R : Type) where
  clockNs : ℤ
  sensed : Sensed R
  operations : List OperationStatus
  active : Option (ActiveOperation R)
  stoppedReason : Option String
  recoveryId : Option ℕ
  armedAtNs : Option ℤ
  markerAnchors : Dict ℤ (MarkerAnchor R)
  lastMarkerSequence : ℤ
  lastPrecisionTouchdownId : Option ℤ
  requestSequence : ℕ

namespace DroneOperations

variable {R : Type}
variable (s : DroneOperations R)

/-- `DroneOperations.__init__`. -/
def created : DroneOperations R where
  clockNs := 0
  sensed := .initial
  operations := []
  active := none
  stoppedReason := none
  recoveryId := none
  armedAtNs := none
  markerAnchors := .empty
  lastMarkerSequence := 0
  lastPrecisionTouchdownId := none
  requestSequence := 0

/-- `self._operations.get(operation_id)`. -/
def entry (operationId : ℕ) : Option OperationStatus :=
  s.operations[operationId]?

/-- `self._values.get(name)`. -/
def value (name : Reading) : Option (TelemetryValue R) :=
  s.sensed.values name

/-- `self._values.get(name) is b`. -/
def flagIs (name : Reading) (b : Bool) : Bool :=
  match s.value name with
  | some (.flag flag) => flag == b
  | _ => false

/-- `self._values.get("mode") == mode`. -/
def modeIs (mode : String) : Bool :=
  match s.value .mode with
  | some (.text text) => text == mode
  | _ => false

/-- `self._values[name]`, of a number. -/
def number (s : DroneOperations R) (name : Reading) : Except String R :=
  match s.value name with
  | some (.number x) => .ok x
  | _ => .error s!"'{name.name}'"

/-- `_fresh`. -/
def fresh (names : List Reading) : Bool :=
  names.all fun name =>
    match s.sensed.observed name with
    | none => false
    | some (stamp, _) => decide (0 ≤ s.clockNs - stamp) && decide (s.clockNs - stamp ≤ 3000000000)

/-- `_after_start`. -/
def afterStart (active : ActiveOperation R) (names : List Reading) : Bool :=
  s.fresh names && names.all fun name =>
    match s.sensed.observed name with
    | none => false
    | some (_, sequence) => decide (active.baselineSequence < sequence)

/-- The vehicle stands and is disarmed, by the last values. -/
def isDown : Bool := s.flagIs .landed true && s.flagIs .armed false

/-- The active operation's context, changed. -/
def withContext (f : OperationContext R → OperationContext R) (s : DroneOperations R) :
    DroneOperations R :=
  { s with active := s.active.map fun a => { a with context := f a.context } }

/-- The active operation ends with this status. -/
def settled (status : OperationStatus) (s : DroneOperations R) : DroneOperations R :=
  { s with operations := s.operations.set status.operationId status, active := none }

/-- A new entry. -/
def opened (status : OperationStatus) (s : DroneOperations R) : DroneOperations R :=
  { s with operations := s.operations ++ [status] }

end DroneOperations

end DroneSim
