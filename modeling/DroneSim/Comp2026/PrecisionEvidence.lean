/-
  File:      DroneSim/Comp2026/PrecisionEvidence.lean
  Subject:   What the precision mission sees (mock_mission.py; sensors/lidar/clearance.py).

  A reading puts a camera frame, a flight snapshot and a range sample together, and refuses where they
  do not belong to one moment. Controller, camera, range sensor and clock are a family of answers
  (`PrecisionWorld`), one for each question that the mission asks; an answer may be an exception.
-/
import DroneSim.Comp2026.ReleaseHold
import DroneSim.Library.Asking
import DroneSim.Library.History

namespace DroneSim

open Library Library.Attempt Library.Acting

/-! ## 1. Values -/

/-- `RelPosComplete`: forward, right, down. -/
structure RelPosComplete where
  x : ℚ
  y : ℚ
  z : ℚ
  deriving DecidableEq, Repr

/-- A `GPSCoord` of finite numbers. -/
structure GpsPoint where
  lat : ℚ
  long : ℚ
  alt : ℚ
  deriving DecidableEq, Repr

/-- The functions of `math` that are used. -/
structure MathFunctions where
  sin : ℚ → ℚ
  cos : ℚ → ℚ
  acos : ℚ → ℚ
  hypot : ℚ → ℚ → ℚ
  radians : ℚ → ℚ
  degrees : ℚ → ℚ

/-- `ClearanceCalibration`. -/
structure ClearanceCalibration where
  beamDirection : RelPosComplete
  referenceOffset : RelPosComplete
  maxTilt : ℚ
  maxAge : ℚ
  maxSkew : ℚ
  beam_down : 0 < beamDirection.z
  tilt_pos : 0 < maxTilt
  age_pos : 0 < maxAge
  skew_pos : 0 < maxSkew

/-- `PrecisionMissionPolicy`; seconds and metres. -/
structure PrecisionPolicy where
  calibration : ClearanceCalibration
  maxExposureAge : ℚ
  maxImageAttitudeSkew : ℚ
  maxImageLocationSkew : ℚ
  maxAttitudeTransportLatency : ℚ
  maxLocationTransportLatency : ℚ
  acquisitionTimeout : ℚ
  frameTimeout : ℚ
  observationPeriod : ℚ
  targetHoverHeight : ℚ
  hoverTolerance : ℚ
  centeredTolerance : ℚ
  correctionGain : ℚ
  positive : ∀ x ∈ [maxExposureAge, maxImageAttitudeSkew, maxImageLocationSkew,
    maxAttitudeTransportLatency, maxLocationTransportLatency, acquisitionTimeout, frameTimeout,
    observationPeriod, targetHoverHeight, hoverTolerance, centeredTolerance, correctionGain], 0 < x
  gain_le : correctionGain ≤ 1
  frame_le : frameTimeout ≤ acquisitionTimeout

/-- A field of the snapshot whose value is an attitude; a component may be no number. -/
structure AttitudeReading where
  roll : FloatValue
  pitch : FloatValue
  yaw : FloatValue
  sampledAt : ℚ
  sequence : ℤ

/-- What of a `FlightSnapshot` is read here. A value of the wrong kind is `none`. -/
structure PrecisionSnapshot where
  attitude : Option (SnapshotField (Option (FloatValue × FloatValue × FloatValue)))
  /-- Degrees times 10⁷, twice, and millimetres above the sea. -/
  location : Option (SnapshotField (Option (ℚ × ℚ × ℚ)))
  landedState : Option (SnapshotField (Option ℤ))
  armed : Option (SnapshotField (Option Bool))

/-- The vector that the camera returns. -/
inductive MarkerReading where
  | absent
  /-- Not three finite numbers. -/
  | malformed
  | vector (vector : RelPosComplete)

/-- The metadata of a frame; `none` where it is no integer. -/
structure CameraMetadata where
  sequence : Option ℤ
  exposureAgeBounded : Bool
  exposureTimestampNs : Option ℤ

/-- `ProjectedVerticalClearance`. -/
structure ProjectedClearance where
  projected : ℚ
  range : LidarSample
  attitude : AttitudeSample

/-- `_PrecisionEvidence`. -/
structure PrecisionEvidence where
  vector : Option RelPosComplete
  frameSequence : ℤ
  frameTimestampNs : ℤ
  frameAge : ℚ
  location : GpsPoint
  attitude : AttitudeSample
  clearance : ProjectedClearance
  locationInvalidationGeneration : ℤ
  attitudeInvalidationGeneration : ℤ

/-- What the operations raise. -/
inductive PrecisionError where
  /-- `_CameraAcquisitionTimeout`. -/
  | cameraTimeout (reason : String)
  /-- Another `TimeoutError`. -/
  | timeout (reason : String)
  /-- `ClearanceUnavailableError`, `PrecisionEvidenceUnavailable` or `StaleSensorError`. -/
  | unavailable (reason : String)
  | raised (reason : String)
  /-- No exception: the operation has come this far. -/
  | cut
  deriving DecidableEq, Repr

/-! ## 2. Geometry -/

namespace MathFunctions

variable (m : MathFunctions)

/-- `_rotate_body_frd_to_local_ned`. -/
def rotateBodyFrdToLocalNed (v : RelPosComplete) (roll pitch yaw : ℚ) : ℚ × ℚ × ℚ :=
  let cr := m.cos roll
  let sr := m.sin roll
  let cp := m.cos pitch
  let sp := m.sin pitch
  let cy := m.cos yaw
  let sy := m.sin yaw
  (cy * cp * v.x + (cy * sp * sr - sy * cr) * v.y + (cy * sp * cr + sy * sr) * v.z,
    sy * cp * v.x + (sy * sp * sr + cy * cr) * v.y + (sy * sp * cr - cy * sr) * v.z,
    -sp * v.x + cp * sr * v.y + cp * cr * v.z)

/-- `_marker_offset_ne`. -/
def markerOffsetNe (update : RelPosComplete) (attitude : AttitudeSample) : ℚ × ℚ :=
  let cr := m.cos attitude.roll
  let sr := m.sin attitude.roll
  let cp := m.cos attitude.pitch
  let sp := m.sin attitude.pitch
  let cy := m.cos attitude.yaw
  let sy := m.sin attitude.yaw
  (cy * cp * update.x + (cy * sp * sr - sy * cr) * update.y + (cy * sp * cr + sy * sr) * update.z,
    sy * cp * update.x + (sy * sp * sr + cy * cr) * update.y + (sy * sp * cr - cy * sr) * update.z)

/-- `_horizontal_distance_m`. -/
def horizontalDistance (first second : GpsPoint) : ℚ :=
  let latitude := m.radians ((first.lat + second.lat) / 2)
  let north := m.radians (second.lat - first.lat) * 6378137
  let east := m.radians (second.long - first.long) * m.cos latitude * 6378137
  m.hypot north east

/-- `_offset_gps`. -/
def offsetGps (origin : GpsPoint) (north east : ℚ) : GpsPoint :=
  let radius : ℚ := 6378137
  ⟨origin.lat + m.degrees (north / radius),
    origin.long + m.degrees (east / (radius * m.cos (m.radians origin.lat))), origin.alt⟩

/-- The offset of the marker of an evidence. -/
def offsetOf (e : PrecisionEvidence) (vector : RelPosComplete) : ℚ × ℚ :=
  m.markerOffsetNe vector e.attitude

/-- `math.hypot(north, east)` of the marker's offset. -/
def horizontalError (e : PrecisionEvidence) (vector : RelPosComplete) : ℚ :=
  m.hypot (m.offsetOf e vector).1 (m.offsetOf e vector).2

/-- `_projected_target`, for an evidence with this vector. -/
def projectedTarget (e : PrecisionEvidence) (vector : RelPosComplete) : GpsPoint :=
  m.offsetGps e.location (m.offsetOf e vector).1 (m.offsetOf e vector).2

/-- `math.isclose(a, b, rel_tol=1e-12, abs_tol=1e-12)`. -/
def isClose (a b : ℚ) : Bool := decide (|a - b| ≤ max (1e-12 * max |a| |b|) 1e-12)

/-- `project_vertical_clearance`. -/
def projectVerticalClearance (c : ClearanceCalibration) (range : LidarSample)
    (attitude : AttitudeReading) (now : ℚ) : Except PrecisionError ProjectedClearance :=
  if range.distance < 0 then .error (.unavailable "range distance_m must be non-negative")
  else if range.sequence ≤ 0 then
    .error (.unavailable "range sequence must be a positive integer")
  else if range.invalidationGeneration < 0 then
    .error (.unavailable "range invalidation_generation must be a non-negative integer")
  else match attitude.roll, attitude.pitch, attitude.yaw with
  | none, _, _ => .error (.unavailable "attitude roll_rad must be a finite number")
  | some _, none, _ => .error (.unavailable "attitude pitch_rad must be a finite number")
  | some _, some _, none => .error (.unavailable "attitude yaw_rad must be a finite number")
  | some roll, some pitch, some yaw =>
    if attitude.sequence ≤ 0 then
      .error (.unavailable "attitude sequence must be a positive integer")
    else if now - range.sampledAt < 0 then .error (.unavailable "range sample is future-dated")
    else if c.maxAge < now - range.sampledAt then .error (.unavailable "range sample is stale")
    else if now - attitude.sampledAt < 0 then
      .error (.unavailable "attitude sample is future-dated")
    else if c.maxAge < now - attitude.sampledAt then
      .error (.unavailable "attitude sample is stale")
    else if c.maxSkew < |range.sampledAt - attitude.sampledAt| then
      .error (.unavailable "range-attitude sample skew exceeds its bound")
    else
      let beam := (m.rotateBodyFrdToLocalNed c.beamDirection roll pitch yaw).2.2
      let beamDown := max (-1) (min 1 beam)
      if beamDown ≤ 0 then .error (.unavailable "LiDAR beam does not point downward")
      else if c.maxTilt < m.acos beamDown && !isClose (m.acos beamDown) c.maxTilt then
        .error (.unavailable "LiDAR beam tilt exceeds its bound")
      else
        let offset := (m.rotateBodyFrdToLocalNed c.referenceOffset roll pitch yaw).2.2
        let projected := offset + range.distance * beam
        if projected < 0 then
          .error (.unavailable "projected clearance is negative or nonfinite")
        else .ok ⟨projected, range, ⟨roll, pitch, yaw, attitude.sampledAt, attitude.sequence⟩⟩

end MathFunctions

/-! ## 3. The surroundings -/

/-- A command to the controller or the payload, and the waits for a confirmation. -/
inductive PrecisionCommand where
  | setGuidedMode
  | setLandMode
  | landingTarget (vector : Option RelPosComplete)
  | guidedWaypoint (waypoint : GpsPoint)
  | confirmLanding (timeout : ℚ)
  | gotoWaypoint (waypoint : GpsPoint) (timeout : ℚ)
  | moveRelative (displacement : RelPosComplete) (timeout : ℚ)
  | requireLandingProfile
  | disarm
  | attach (targetId : ℕ)
  deriving DecidableEq, Repr

/-- What a command returns. -/
inductive Returned where
  | int (n : ℤ)
  | bool (b : Bool)
  | other
  deriving DecidableEq, Repr

/-- `precision_readiness()`. -/
structure CameraReadiness where
  ready : Bool
  reasons : List String

/-- **Every behaviour of what the mission meets**, by the number of the question. -/
structure PrecisionWorld where
  /-- `policy.clock()`; `none` is no finite number. -/
  clock : ℕ → Except PrecisionError FloatValue
  checkPermission : ℕ → Except PrecisionError Unit
  precisionReadiness : ℕ → Except PrecisionError CameraReadiness
  /-- `camera.vec_to_marker_3d_bounded(target_id, timeout_s=.., after_sequence=..)`. -/
  vecToMarker3dBounded : ℕ → ℚ → ℤ → ℕ → Except PrecisionError (MarkerReading × CameraMetadata)
  flightSnapshot : ℕ → Except PrecisionError PrecisionSnapshot
  /-- `lidar.get_sample()`. -/
  getSample : ℕ → Except PrecisionError LidarSample
  /-- `mission_home.amsl_m`. -/
  missionHome : ℕ → Except PrecisionError (Option ℚ)
  getLocationMetres : GpsPoint → ℚ → ℚ → ℕ → Except PrecisionError GpsPoint
  sleep : ℚ → ℕ → Except PrecisionError Unit
  command : PrecisionCommand → ℕ → Except PrecisionError Returned

/-- What is made of a reading: the evidence, if there is one, and why it is not accepted. -/
structure Judgement where
  evidence : Option PrecisionEvidence
  rejection : Option String

/-- The evidence, where nothing speaks against it. -/
def Judgement.accepted (j : Judgement) : Option PrecisionEvidence :=
  if j.rejection.isNone then j.evidence else none

/-- `LandingResult`. -/
inductive LandingResult where
  | touchdown
  | retry
  | failed
  deriving DecidableEq, Repr

/-- What is noted of a mission. -/
inductive PrecisionNote where
  /-- The clock was read. -/
  | time (time : ℚ)
  | command (command : PrecisionCommand)
  /-- The command returned what the mission demands. -/
  | done (command : PrecisionCommand)
  | read (evidence : PrecisionEvidence)
  /-- A reading came to nothing. -/
  | unread
  /-- `started_at` of a landing. -/
  | started (time : ℚ)
  | nearGround (time : ℚ)
  | judged (judgement : Judgement) (time : ℚ)
  /-- The landing is in its hold from here on. -/
  | held (time : ℚ) (waypoint : GpsPoint)
  /-- It is tracking again. -/
  | reacquired (time : ℚ)
  /-- `started_at` of a pickup. -/
  | pickup (time : ℚ)
  /-- `_acquire_target_anchor` returns the anchor. -/
  | anchored (anchor : GpsPoint)
  /-- `aruco_land_precision` is called. -/
  | attempted
  /-- It has returned. -/
  | landed (result : LandingResult)

/-- An operation of the mission. -/
abbrev PrecisionCall : Type → Type := Asking PrecisionNote PrecisionError

namespace PrecisionWorld

variable (m : MathFunctions) (p : PrecisionPolicy) (w : PrecisionWorld)

/-- `_now`. -/
def now : PrecisionCall ℚ := do
  match ← ask w.clock with
  | none => throw (.raised "precision clock is unavailable")
  | some t => do
    perform (.time t)
    return t

/-- `controller.check_permission()`. -/
def permission : PrecisionCall Unit := ask w.checkPermission

/-- `_camera_ready`. -/
def cameraReady : PrecisionCall Unit := do
  let readiness ← ask w.precisionReadiness
  if readiness.ready then return ()
  else throw (.raised ("camera is not precision-ready: " ++ "; ".intercalate readiness.reasons))

/-- A command that `confirmed` tells a success of. -/
def require (operation : String) (confirmed : Returned → Bool) (c : PrecisionCommand) :
    PrecisionCall Unit := do
  perform (.command c)
  let returned ← ask (w.command c)
  if confirmed returned then perform (.done c)
  else throw (.raised (operation ++ " was not confirmed"))

/-- `_require_zero`. -/
def requireZero (operation : String) (c : PrecisionCommand) : PrecisionCall Unit :=
  w.require operation (fun r => decide (r = .int 0)) c

/-- `_sleep_bounded`. -/
def sleepBounded (deadline : ℚ) : PrecisionCall Bool := do
  let t ← w.now
  if deadline - t ≤ 0 then return false
  else do
    ask (w.sleep (min p.observationPeriod (deadline - t)))
    let t ← w.now
    return decide (t < deadline)

/-! ## 4. A reading -/

/-- `_field_observation`. -/
def fieldObservation {α : Type} (name : String) (field : Option (SnapshotField α)) :
    Except PrecisionError (SnapshotField α) :=
  match field with
  | some observation =>
    if observation.fresh then .ok observation
    else .error (.unavailable ("fresh " ++ name ++ " observation is unavailable"))
  | none => .error (.unavailable ("fresh " ++ name ++ " observation is unavailable"))

/-- `_attitude_sample`. -/
def attitudeReading (s : PrecisionSnapshot) : Except PrecisionError AttitudeReading := do
  let observation ← fieldObservation "attitude" s.attitude
  match observation.value with
  | none => .error (.unavailable "attitude observation is malformed")
  | some (roll, pitch, yaw) =>
    .ok ⟨roll, pitch, yaw, observation.receivedAt, observation.sequence⟩

/-- `_location`; the observation is returned for when it was received. -/
def location (s : PrecisionSnapshot) : PrecisionCall (GpsPoint × ℚ) := do
  let observation ← ofExcept (fieldObservation "location" s.location)
  match observation.value with
  | none => throw (.unavailable "location observation is malformed")
  | some (lat, long, amslMm) => do
    match ← ask w.missionHome with
    | none => throw (.unavailable "precision mission requires pinned mission home")
    | some amsl =>
      return (⟨lat / 10 ^ 7, long / 10 ^ 7, amslMm / 1000 - amsl⟩, observation.receivedAt)

/-- `_read_clearance`. -/
def readClearance : PrecisionCall ProjectedClearance := do
  w.permission
  let snapshot ← ask w.flightSnapshot
  let attitude ← ofExcept (attitudeReading snapshot)
  let range ← ask w.getSample
  let t ← w.now
  ofExcept (m.projectVerticalClearance p.calibration range attitude t)

/-- `_source_interval_within_skew`. -/
def sourceIntervalWithinSkew (receivedAt exposureAt maxTransportLatency maxSkew : ℚ) : Bool :=
  decide (max |receivedAt - exposureAt| |receivedAt - maxTransportLatency - exposureAt| ≤ maxSkew)

/-- The frame's sequence and its exposure time. -/
def frameTimes (metadata : CameraMetadata) : Except PrecisionError (ℤ × ℤ) :=
  match metadata.sequence, metadata.exposureTimestampNs with
  | some sequence, some exposureNs =>
    if sequence ≤ 0 || !metadata.exposureAgeBounded then
      .error (.unavailable "camera metadata cannot support precision flight")
    else if 2 ^ 1024 * 10 ^ 9 ≤ |exposureNs| then
      .error (.unavailable "camera exposure timestamp is invalid")
    else .ok (sequence, exposureNs)
  | _, _ => .error (.unavailable "camera metadata cannot support precision flight")

/-- The vector of a frame. -/
def markerVector : MarkerReading → Except PrecisionError (Option RelPosComplete)
  | .absent => .ok none
  | .malformed => .error (.unavailable "camera marker vector is malformed")
  | .vector v => .ok (some v)

/-- A frame; a `TimeoutError` of the camera is one of its own. -/
def captureFrame (targetId : ℕ) (timeout : ℚ) (afterSequence : ℤ) :
    PrecisionCall (MarkerReading × CameraMetadata) :=
  tryCatch (ask (w.vecToMarker3dBounded targetId timeout afterSequence)) fun error =>
    match error with
    | .timeout reason => throw (.cameraTimeout reason)
    | _ => throw error

/-- The invalidation generation of a field that may be missing. -/
def generationOf {α : Type} (field : Option (SnapshotField α)) : ℤ :=
  (field.map SnapshotField.invalidationGeneration).getD 0

/-- `_read_precision_evidence`. -/
def readPrecisionEvidence (targetId : ℕ) (afterSequence : ℤ) (timeout : ℚ) :
    PrecisionCall PrecisionEvidence := do
  w.permission
  w.cameraReady
  let (marker, metadata) ← w.captureFrame targetId timeout afterSequence
  let (sequence, exposureNs) ← ofExcept (frameTimes metadata)
  let exposure : ℚ := exposureNs / 10 ^ 9
  let snapshot ← ask w.flightSnapshot
  let attitude ← ofExcept (attitudeReading snapshot)
  let (place, receivedAt) ← w.location snapshot
  if !sourceIntervalWithinSkew attitude.sampledAt exposure p.maxAttitudeTransportLatency
      p.maxImageAttitudeSkew then
    throw (.unavailable "camera and attitude observations exceed approved skew")
  else if !sourceIntervalWithinSkew receivedAt exposure p.maxLocationTransportLatency
      p.maxImageLocationSkew then
    throw (.unavailable "camera and location observations exceed approved skew")
  else do
    let range ← ask w.getSample
    let t ← w.now
    if !(decide (0 ≤ t - exposure) && decide (t - exposure ≤ p.maxExposureAge)) then
      throw (.unavailable "camera exposure is outside the approved age")
    else do
      let clearance ← ofExcept (m.projectVerticalClearance p.calibration range attitude t)
      let vector ← ofExcept (markerVector marker)
      return ⟨vector, sequence, exposureNs, t - exposure, place, clearance.attitude, clearance,
        generationOf snapshot.location, generationOf snapshot.attitude⟩

/-- Why a reading came to nothing. -/
inductive Unread where
  | noFrame
  | unavailableEvidence
  deriving DecidableEq, Repr

/-- A reading, with the exceptions that both loops handle taken for an answer. -/
def attemptEvidence (targetId : ℕ) (afterSequence : ℤ) (timeout : ℚ) :
    PrecisionCall (Except Unread PrecisionEvidence) :=
  tryCatch
    (do
      let e ← w.readPrecisionEvidence m p targetId afterSequence timeout
      perform (.read e)
      return .ok e)
    fun error =>
      match error with
      | .cameraTimeout _ => do
        perform .unread
        return .error .noFrame
      | .unavailable _ => do
        perform .unread
        return .error .unavailableEvidence
      | _ => throw error

/-- A clearance, or none where the three exceptions say so. -/
def attemptClearance : PrecisionCall (Option ProjectedClearance) :=
  tryCatch
    (do
      let clearance ← w.readClearance m p
      return some clearance)
    fun error =>
      match error with
      | .unavailable _ => return none
      | _ => throw error

/-! ## 5. What the operations note -/

variable {m p w} {α : Type} {Q : α → List PrecisionNote → Prop}
  {E : PrecisionError → List PrecisionNote → Prop} {log : List PrecisionNote}
  {A : List PrecisionNote → Prop}

theorem tells_now {Q : ℚ → List PrecisionNote → Prop} (h : ∀ t, Q t (log ++ [PrecisionNote.time t]))
    (h' : ∀ e, E e log) : Tells w.now Q E log := by
  unfold now
  refine .bind (.ask (fun value => ?_) h')
  cases value with
  | none => exact .throw (h' _)
  | some t => exact .bind (.perform (.pure (h t)))

theorem tells_permission {Q : Unit → List PrecisionNote → Prop} (h : Q () log)
    (h' : ∀ e, E e log) : Tells w.permission Q E log := .ask (fun _ => h) h'

/-- **A command**: it is noted, then it may raise, and where it is confirmed that is noted too. -/
theorem tells_require {Q : Unit → List PrecisionNote → Prop} {operation : String}
    {confirmed : Returned → Bool} {c : PrecisionCommand}
    (h : Q () (log ++ [PrecisionNote.command c] ++ [PrecisionNote.done c])) (h' : ∀ e, E e (log ++ [PrecisionNote.command c])) :
    Tells (w.require operation confirmed c) Q E log := by
  unfold require
  refine .bind (.perform (.bind (.ask (fun returned => ?_) h')))
  exact .ite (fun _ => .perform h) fun _ => .throw (h' _)

/-- What a reading of the clock leaves. -/
def Timeless (A : List PrecisionNote → Prop) : Prop := ∀ log t, A log → A (log ++ [PrecisionNote.time t])

theorem keeps_now (hA : Timeless A) : Keeps (fun r => A r.log) w.now := by
  unfold now
  refine .bind (keeps_ask _) fun value => ?_
  cases value with
  | none => exact .throw _
  | some t => exact .bind (fun r hr => hA r.log t hr) fun _ => .pure _

theorem keeps_cameraReady : Keeps (fun r => A r.log) w.cameraReady := by
  unfold cameraReady
  exact .bind (keeps_ask _) fun _ => .ite (.pure _) (.throw _)

theorem keeps_location (s : PrecisionSnapshot) : Keeps (fun r => A r.log) (w.location s) := by
  unfold location
  refine .bind (.ofExcept _) fun observation => ?_
  split
  · exact .throw _
  · refine .bind (keeps_ask _) fun home => ?_
    split
    · exact .throw _
    · exact .pure _

theorem keeps_sleepBounded (hA : Timeless A) (deadline : ℚ) :
    Keeps (fun r => A r.log) (w.sleepBounded p deadline) := by
  unfold sleepBounded
  exact .bind (keeps_now hA) fun _ => .ite (.pure _)
    (.bind (keeps_ask _) fun _ => .bind (keeps_now hA) fun _ => .pure _)

theorem keeps_readClearance (hA : Timeless A) : Keeps (fun r => A r.log) (w.readClearance m p) := by
  unfold readClearance
  exact .bind (keeps_ask _) fun _ => .bind (keeps_ask _) fun _ => .bind (.ofExcept _) fun _ =>
    .bind (keeps_ask _) fun _ => .bind (keeps_now hA) fun _ => .ofExcept _

theorem keeps_attemptClearance (hA : Timeless A) :
    Keeps (fun r => A r.log) (w.attemptClearance m p) := by
  unfold attemptClearance
  refine .tryCatch (.bind (keeps_readClearance hA) fun _ => .pure _) fun error => ?_
  split
  · exact .pure _
  · exact .throw _

theorem keeps_captureFrame (targetId : ℕ) (timeout : ℚ) (afterSequence : ℤ) :
    Keeps (fun r => A r.log) (w.captureFrame targetId timeout afterSequence) := by
  unfold captureFrame
  refine .tryCatch (keeps_ask _) fun error => ?_
  split
  · exact .throw _
  · exact .throw _

theorem keeps_readPrecisionEvidence (hA : Timeless A) (targetId : ℕ) (afterSequence : ℤ)
    (timeout : ℚ) :
    Keeps (fun r => A r.log) (w.readPrecisionEvidence m p targetId afterSequence timeout) := by
  unfold readPrecisionEvidence
  refine .bind (keeps_ask _) fun _ => .bind keeps_cameraReady fun _ =>
    .bind (keeps_captureFrame _ _ _) fun frame => ?_
  refine .bind (.ofExcept _) fun times => .bind (keeps_ask _) fun snapshot =>
    .bind (.ofExcept _) fun attitude => .bind (keeps_location snapshot) fun place => ?_
  refine .ite (.throw _) (.ite (.throw _) (.bind (keeps_ask _) fun range =>
    .bind (keeps_now hA) fun t => .ite (.throw _) ?_))
  exact .bind (.ofExcept _) fun clearance => .bind (.ofExcept _) fun vector => .pure _

/-- **A reading** notes the evidence that it returns, or that it came to nothing. -/
theorem tells_attemptEvidence {Q : Except Unread PrecisionEvidence → List PrecisionNote → Prop}
    (hA : Timeless A) (hlog : A log) {targetId : ℕ} {afterSequence : ℤ} {timeout : ℚ}
    (hread : ∀ e log, A log → Q (.ok e) (log ++ [PrecisionNote.read e]))
    (hunread : ∀ failed log, A log → Q (.error failed) (log ++ [PrecisionNote.unread]))
    (h' : ∀ e log, A log → E e log) :
    Tells (w.attemptEvidence m p targetId afterSequence timeout) Q E log := by
  unfold attemptEvidence
  refine .tryCatch (.bind ((Tells.keeps (keeps_readPrecisionEvidence hA targetId afterSequence
    timeout) hlog).mono (fun e os hos => ?_) fun error os hos => ?_))
  · exact .bind (.perform (.pure (hread e os hos)))
  · cases error with
    | cameraTimeout => exact .bind (.perform (.pure (hunread _ os hos)))
    | unavailable => exact .bind (.perform (.pure (hunread _ os hos)))
    | _ => exact .throw (h' _ os hos)

end PrecisionWorld

end DroneSim
