/-
  File:      DroneSim/Companion/MarkerOperations.lean
  Subject:   Marker search and precision landing (companion/operations.py).

  `markerCandidate` decides whether an observation counts, `evaluateFindMarker` gathers five that
  agree, and `evaluatePrecision` is one step of a precision landing: on the way to a retry, at the
  ground, or with what the camera sees. `report` and `steer` come after the look.
-/
import DroneSim.Companion.Operations
import Mathlib.Data.List.Sort

namespace DroneSim

open Library Library.Attempt Library.Acting MachineFloat

namespace DroneOperations

variable {R : Type}
variable (e : Equipment R) (w : Surroundings R) (course : OperationCourse R) (arucoId : ℤ)
  (c : Precision R) (s : DroneOperations R)

/-! ## 1. The marker candidate -/

/-- The look of the active operation, changed. -/
def withLook (f : MarkerLook R → MarkerLook R) (s : DroneOperations R) : DroneOperations R :=
  s.withContext fun c =>
    match c.look with
    | none => c
    | some look => c.withLook (f look)

/-- A frame is used. -/
def takeFrame (sequence : ℤ) (s : DroneOperations R) : DroneOperations R :=
  { s.withLook fun look => { look with lastSequence := sequence } with
    lastMarkerSequence := max s.lastMarkerSequence sequence }

/-- The look of the active operation. -/
def currentLook : Operating R (MarkerLook R) := do
  let s ← current
  match s.active.bind fun a => a.context.look with
  | none => throw "'last_sequence'"
  | some look => return look

/-- The readings of a pose. -/
def poseReadings : List Reading := [.latitudeDeg, .longitudeDeg, .rollRad, .pitchRad, .yawRad]

/-- The entry of the history that is nearest to the exposure. -/
def nearest (exposureNs : ℤ) (name : Reading) : Option (ℤ × R) :=
  (s.sensed.poseHistory name).foldl
    (List.argAux fun row best => (row.1 - exposureNs).natAbs < (best.1 - exposureNs).natAbs) none

/-- A pose with the stamps gone through. -/
structure PoseLookup (R : Type) where
  stamps : List (Reading × ℤ)
  values : List R
  rejection : Option String

/-- The loop over the pose readings. -/
def lookupPose (s : DroneOperations R) (exposureNs : ℤ) :
    List Reading → PoseLookup R → Except String (PoseLookup R)
  | [], found => .ok found
  | name :: names, found =>
    match s.nearest exposureNs name with
    | none => .error "min() arg is an empty sequence"
    | some (stamp, value) =>
      if 200000000 < |stamp - exposureNs| then
        .ok ⟨found.stamps ++ [(name, stamp)], found.values, some "telemetry_skew"⟩
      else
        lookupPose s exposureNs names
          ⟨found.stamps ++ [(name, stamp)], found.values ++ [value], found.rejection⟩

def PoseLookup.pose : PoseLookup R → Option (Pose R)
  | ⟨_, [latitude, longitude, roll, pitch, yaw], _⟩ => some ⟨latitude, longitude, roll, pitch, yaw⟩
  | _ => none

variable [MachineFloat R] (e : Equipment R) (w : Surroundings R) (course : OperationCourse R)
  (arucoId : ℤ) (c : Precision R) (s : DroneOperations R)

/-- The range is young and, for an acquisition, at the height for it. -/
def rangeFits (acquisitionHeight : Bool) (range : RangeObservation R) : Bool :=
  decide (0 ≤ s.clockNs - range.timestampNs) && decide (s.clockNs - range.timestampNs ≤ 500000000) &&
    !(acquisitionHeight && decide (1.0 < MachineFloat.abs (range.distanceM - course.acquisitionAglM)))

/-- The candidate's position. -/
def candidateAt (observation : MarkerObservation R) (pose : Pose R) : R × R :=
  let offset := markerOffsetNe observation.vector pose.rollRad pose.pitchRad pose.yawRad
  offsetGps pose.latitudeDeg pose.longitudeDeg offset.1 offset.2

/-- The checks of `_marker_candidate` past the clock's, on a pose that was found. -/
def judgePose (observation : MarkerObservation R) (acquisitionHeight : Bool) (pose : Pose R) :
    String × Option (R × R) :=
  if observation.vector.downM ≤ 0.0 then ("invalid_depth", none)
  else
    match w.range with
    | none => ("range_unavailable", none)
    | some range =>
      if rangeFits course s acquisitionHeight range then
        ("healthy", some (candidateAt observation pose))
      else ("range_age_or_height", none)

/-- The look after a frame was used, and the candidate. -/
def judgeFrame (observation : MarkerObservation R) (acquisitionHeight : Bool)
    (look : MarkerLook R) : Except String (MarkerLook R × Option (R × R)) :=
  if ¬(observation.exposureTimestampNs ≤ observation.receiptTimestampNs ∧
      observation.receiptTimestampNs ≤ s.clockNs) then
    .ok ({ look with rejection := "frame_clock_order" }, none)
  else if 500000000 < s.clockNs - observation.exposureTimestampNs then
    .ok ({ look with rejection := "frame_age" }, none)
  else if s.fresh poseReadings = false then
    .ok ({ look with rejection := "telemetry_unavailable" }, none)
  else
    match s.lookupPose observation.exposureTimestampNs poseReadings ⟨[], [], none⟩ with
    | .error error => .error error
    | .ok found =>
      match found.rejection, found.pose with
      | none, some pose =>
        .ok ({ look with
            poseTimestamps := found.stamps
            pose := some pose
            rejection := (judgePose w course s observation acquisitionHeight pose).1 },
          (judgePose w course s observation acquisitionHeight pose).2)
      | rejection, _ =>
        .ok ({ look with
            poseTimestamps := found.stamps
            rejection := rejection.getD look.rejection }, none)

/-- A frame that was not used before. -/
def freshCandidate (observation : MarkerObservation R) (acquisitionHeight : Bool) :
    Operating R (Option (R × R)) :=
  do
    update (takeFrame observation.sequence)
    let s ← current
    let look ← currentLook
    let judged ← ofExcept (judgeFrame w course s observation acquisitionHeight look)
    update (withLook fun _ => judged.1)
    return judged.2

/-- The frame's number against the last one. -/
def sequencedCandidate (observation : MarkerObservation R) (acquisitionHeight : Bool) :
    Operating R (Option (R × R)) :=
  do
    let look ← currentLook
    if observation.sequence ≤ look.lastSequence then do
      update (withLook fun look => { look with rejection := "repeated_frame" })
      return none
    else freshCandidate w course observation acquisitionHeight

/-- `_marker_candidate`. -/
def markerCandidate (acquisitionHeight : Bool) (observation : Option (MarkerObservation R)) :
    Operating R (Option (R × R)) := do
  match e.course with
  | none => throw ""
  | some course => do
    update (withLook fun look => { look with rejection := "no_observation", poseTimestamps := [] })
    match observation with
    | none => return none
    | some o =>
      if o.arucoId ≠ arucoId then return none
      else sequencedCandidate w course o acquisitionHeight

/-! ## 2. The marker search -/

/-- `sorted(values)[len(values) // 2]`. -/
def median (values : List R) : Option R :=
  (values.insertionSort fun a b => a ≤ b)[values.length / 2]?

/-- The samples with one more, begun anew where it does not agree with them. -/
def gathered (candidate : R × R) (samples : List (R × R)) : List (R × R) :=
  if samples.any fun prior => decide (anchorDriftM < horizontalDistanceM candidate prior) then
    [candidate]
  else samples ++ [candidate]

/-- The samples of the active search. -/
def currentSamples : Operating R (List (R × R)) := do
  let s ← current
  match s.active.map ActiveOperation.context with
  | some (.marker samples _) => return samples
  | _ => throw "'samples'"

/-- The anchor of five samples. -/
def anchorMarker (samples : List (R × R)) : Operating R Bool := do
  let look ← currentLook
  match median (samples.map Prod.fst), median (samples.map Prod.snd) with
  | some latitude, some longitude => do
    update fun s =>
      { s with
        markerAnchors := s.markerAnchors.set arucoId
          ⟨arucoId, latitude, longitude, s.clockNs, look.lastSequence⟩ }
    return true
  | _, _ => throw "list index out of range"

/-- A candidate of the search. -/
def gather (candidate : R × R) : Operating R Bool := do
  let samples ← currentSamples
  update (withContext fun c =>
    match c with
    | .marker _ look => .marker (gathered candidate samples) look
    | c => c)
  if (gathered candidate samples).length < 5 then return false
  else anchorMarker arucoId (gathered candidate samples)

/-- `_evaluate_find_marker`. -/
def evaluateFindMarker : Operating R Bool := do
  let observation ← poll w
  let candidate ← markerCandidate e w arucoId true observation
  match candidate with
  | none => return false
  | some candidate => gather arucoId candidate

/-! ## 3. The precision landing -/

/-- The context of the precision landing. -/
def currentLanding : Operating R (Precision R) := do
  let s ← current
  match s.active.bind fun a => a.context.landing with
  | none => throw "'phase'"
  | some c => return c

/-- The context of the precision landing, changed. -/
def withLanding (f : Precision R → Precision R) (s : DroneOperations R) : DroneOperations R :=
  s.withContext fun c =>
    match c with
    | .precision c => .precision (f c)
    | c => c

/-- The landing in another phase. -/
def setPhase (phase : PrecisionPhase R) : Operating R Unit :=
  update (withLanding fun c => { c with phase := phase })

/-- The target is healthy now, or landing may go on without it. -/
def markHealthy : Operating R Unit :=
  update fun s => s.withLanding fun c => { c with lastHealthyNs := s.clockNs }

/-- What one look came to. -/
structure Sight (R : Type) where
  observation : Option (MarkerObservation R)
  healthy : Bool
  reason : String

/-- How far off the marker is seen from the vehicle. -/
def offCenterM (observation : MarkerObservation R) (pose : Pose R) : R :=
  let offset := markerOffsetNe observation.vector pose.rollRad pose.pitchRad pose.yawRad
  hypot offset.1 offset.2

/-- The phases that want the marker below the vehicle. -/
def wantsCenter : PrecisionPhase R → Bool
  | .awaitFirst | .hold .. => true
  | _ => false

/-- What a candidate near the anchor is worth. -/
def judgeCenter (o : MarkerObservation R) : Except String (Sight R) :=
  if wantsCenter c.phase then
    match c.look.pose with
    | none => .error "'marker_pose'"
    | some pose =>
      if offCenterM o pose ≤ 0.50 then .ok ⟨some o, true, c.look.rejection⟩
      else .ok ⟨some o, false, "not_centered"⟩
  else .ok ⟨some o, true, c.look.rejection⟩

/-- What the candidate is worth. -/
def judgeCandidate (observation : Option (MarkerObservation R)) (candidate : Option (R × R)) :
    Except String (Sight R) :=
  match candidate, observation with
  | some position, some o =>
    if horizontalDistanceM position (c.anchor.latitudeDeg, c.anchor.longitudeDeg) ≤
        anchorDriftM then
      judgeCenter c o
    else .ok ⟨observation, false, "anchor_drift"⟩
  | _, _ => .ok ⟨observation, false, c.look.rejection⟩

/-- A look at the marker. -/
def sight (observation : Option (MarkerObservation R)) : Operating R (Sight R) := do
  let candidate ← markerCandidate e w arucoId false observation
  let c ← currentLanding
  ofExcept (judgeCandidate c observation candidate)

/-- The `precision_observation` of a sight. -/
def reportOf (o : MarkerObservation R) (healthy : Bool) (reason : String) : PrecisionReport R where
  arucoId := arucoId
  phase := c.phase.name
  retry := c.retry
  observation := o
  healthy := healthy
  reason := reason
  reacquiredFramesBefore := c.reacquired
  telemetryTimestampsNs := c.look.poseTimestamps
  range := w.range

def report (seen : Sight R) : Operating R Unit :=
  match seen.observation with
  | none => pure ()
  | some o => emit (.precisionObservation (reportOf w arucoId c o seen.healthy seen.reason))

/-- The range says that the ground is near. -/
def nearGround : Bool :=
  w.range.any fun range => decide (range.distanceM ≤ nearGroundM)

/-- The waypoint to hold is sent again when it is due. -/
def refresh (nextHoldNs : ℤ) (holdTarget : R × R × R) (phase : ℤ → PrecisionPhase R) :
    Operating R Unit := do
  let s ← current
  if nextHoldNs ≤ s.clockNs then do
    request w (.sendWaypoint holdTarget.1 holdTarget.2.1 holdTarget.2.2)
    setPhase (phase (s.clockNs + holdRefreshNs))
  else pure ()

/-- The target is lost: GUIDED, and a hold where the vehicle is. -/
def loseTarget : Operating R Unit := do
  request w (.sendMode "GUIDED")
  let s ← current
  let latitude ← ofExcept (s.number .latitudeDeg)
  let longitude ← ofExcept (s.number .longitudeDeg)
  let altitude ← ofExcept (s.number .relativeAltitudeM)
  update (withLanding fun c =>
    { c with
      phase := .hold s.clockNs s.clockNs (latitude, longitude, altitude)
      reacquired := 0 })

/-- LAND at first sight. -/
def beginLand : Operating R Unit := do
  request w (.sendMode "LAND")
  update fun s => s.withLanding fun c => { c with phase := .tracking, lastHealthyNs := s.clockNs }

/-- LAND again after a hold. -/
def resumeLand : Operating R Unit := do
  request w (.sendMode "LAND")
  update fun s => s.withLanding fun c =>
    { c with phase := .tracking, lastHealthyNs := s.clockNs, reacquired := 0 }

/-- The one way back to the anchor. -/
def retry (w : Surroundings R) (course : OperationCourse R) (a : ActiveOperation R)
    (c : Precision R) : Operating R Unit := do
  request w (.sendWaypoint c.anchor.latitudeDeg c.anchor.longitudeDeg course.acquisitionAglM)
  perform (.retried a.status.operationId)
  update fun s => s.withLanding fun c =>
    { c with
      phase := .retryTransit (s.clockNs + holdRefreshNs)
        (c.anchor.latitudeDeg, c.anchor.longitudeDeg, course.acquisitionAglM)
      retry := 1
      reacquired := 0 }

/-- The phase `tracking`. -/
def track (seen : Sight R) : Operating R Unit := do
  let s ← current
  match seen.healthy, seen.observation with
  | true, some o =>
    if s.modeIs "LAND" then do
      request w (.sendLandingTarget o.vector)
      markHealthy
    else pure ()
  | _, _ =>
    if nearGround w then markHealthy
    else if s.clockNs - c.lastHealthyNs < targetHealthNs then pure ()
    else loseTarget w

/-- A hold that has timed out. -/
def endHold : Operating R Unit := do
  let s ← current
  match s.active with
  | none => throw "'retry'"
  | some a =>
    match a.context.landing with
    | none => throw "'retry'"
    | some c =>
      if 1 ≤ c.retry then finish e .failed "precision target reacquisition failed"
      else retry w course a c

/-- How many healthy frames came in a row. -/
def countFrame (seen : Sight R) (c : Precision R) : Precision R :=
  if seen.observation.isSome then
    { c with reacquired := if seen.healthy then c.reacquired + 1 else 0 }
  else c

/-- The phase `hold`. -/
def holdOn (holdStartedNs nextHoldNs : ℤ) (holdTarget : R × R × R) (seen : Sight R) :
    Operating R Unit := do
  refresh w nextHoldNs holdTarget fun next => .hold holdStartedNs next holdTarget
  update (withLanding (countFrame seen))
  let c ← currentLanding
  let s ← current
  if reacquireFrames ≤ c.reacquired then resumeLand w
  else if holdTimeoutNs ≤ s.clockNs - holdStartedNs then endHold e w course
  else pure ()

/-- What follows from a sight, by the phase. -/
def steer (seen : Sight R) : Operating R Unit :=
  match c.phase with
  | .awaitFirst => if seen.healthy then beginLand w else pure ()
  | .tracking => track w c seen
  | .hold holdStartedNs nextHoldNs holdTarget =>
    holdOn e w course holdStartedNs nextHoldNs holdTarget seen
  | .retryTransit .. => throw "'hold_started_ns'"

/-- The part of a step that needs the camera. -/
def evaluateSight : Operating R Unit := do
  let observation ← poll w
  let seen ← sight e w arucoId observation
  let c ← currentLanding
  report w arucoId c seen
  steer e w course c seen

/-- The vehicle is at the point of a retry. -/
def arrivedAt (target : R × R × R) : Except String Bool :=
  if s.fresh [.latitudeDeg, .longitudeDeg, .relativeAltitudeM] then do
    let latitude ← s.number .latitudeDeg
    let longitude ← s.number .longitudeDeg
    let altitude ← s.number .relativeAltitudeM
    return decide (horizontalDistanceM (latitude, longitude) (target.1, target.2.1) ≤ 0.25) &&
      decide (MachineFloat.abs (altitude - target.2.2) ≤ 0.25)
  else .ok false

/-- The hold at the point of a retry. -/
def holdAtAnchor (holdTarget : R × R × R) : Operating R Unit := do
  let c ← currentLanding
  let s ← current
  match c.phase with
  | .retryTransit nextHoldNs _ => do
    update (withLanding fun c =>
      { c with phase := .hold s.clockNs nextHoldNs holdTarget, reacquired := 0 })
    emit (.precisionRecovery arucoId c.retry)
  | _ => throw "'next_hold_ns'"

/-- The phase `retry_transit`. -/
def transit (nextHoldNs : ℤ) (holdTarget : R × R × R) : Operating R Unit := do
  refresh w nextHoldNs holdTarget fun next => .retryTransit next holdTarget
  let s ← current
  let arrived ← ofExcept (s.arrivedAt holdTarget)
  if arrived then do
    holdAtAnchor arucoId holdTarget
    evaluateSight e w course arucoId
  else do
    let _ ← poll w
    return ()

/-- A step of the landing in flight. -/
def evaluateFlying : Operating R Unit := do
  let c ← currentLanding
  let s ← current
  match c.phase with
  | .retryTransit nextHoldNs holdTarget => transit e w course arucoId nextHoldNs holdTarget
  | .tracking =>
    if s.modeIs "LAND" && nearGround w then markHealthy
    else evaluateSight e w course arucoId
  | _ => evaluateSight e w course arucoId

/-- `_evaluate_precision`. -/
def evaluatePrecision (a : ActiveOperation R) (arucoId : ℤ) : Operating R Bool := do
  let s ← current
  match e.course with
  | none => throw ""
  | some course =>
    if s.afterStart a [.landed, .armed] && s.isDown then do
      update fun s => { s with lastPrecisionTouchdownId := some arucoId }
      return true
    else if s.flagIs .failsafe true then do
      finish e .failed "failsafe observed during precision landing"
      return false
    else if !(s.modeIs "GUIDED" || s.modeIs "LAND") then do
      finish e .failed "operator mode change revoked precision landing"
      return false
    else do
      evaluateFlying e w course arucoId
      return false

/-- `_begin_precision`. -/
def beginPrecision : Operating R Unit := do
  let s ← current
  if !(e.vision && e.rangefinder) then
    throw "precision_land requires configured vision and range"
  else
    match s.markerAnchors.get arucoId with
    | none => throw "precision_land requires a current matching marker acquisition"
    | some anchor =>
      if !profileMatches s.sensed.parameters then
        throw "live precision-landing profile does not match the approved profile"
      else do
        update fun s =>
          { s with
            active := s.active.map fun a =>
              { a with
                deadlineNs := min a.deadlineNs (s.clockNs + precisionTimeoutNs)
                context := .precision
                  { anchor := anchor
                    phase := .awaitFirst
                    look := ⟨s.lastMarkerSequence, "", [], none⟩
                    lastHealthyNs := s.clockNs
                    reacquired := 0
                    retry := 0 } } }
        request w (.requestMarker arucoId s.lastMarkerSequence)

end DroneOperations

end DroneSim
