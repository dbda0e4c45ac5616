/-
  File:      DroneSim/Comp2026/ReleaseHold.lean
  Subject:   The hold before a payload release (control/drone_control.py,
             hold_waypoint_until_stable; control/stability.py).

  A hold reads one set of observations after another, each an evidence, and folds them into a
  window; while it holds, the waypoint is sent again from time to time, and each sending reads
  evidences of its own, which are folded after its MISSION_ACK.

  * `consumeEvidence` -- one evidence folded into the window;
  * `Sound` -- the window, while every evidence is folded at the time it was read, is a stretch of
    the evidences read;
  * `hold_continuous` -- **then a hold that returns True has seen a continuous stretch**;
  * `late_acknowledgement` -- one that has not.
-/
import DroneSim.Comp2026.FlightState
import Mathlib.Data.NNRat.Defs
import Mathlib.Tactic.Linarith

namespace DroneSim

variable (c : ReleaseStabilityConfig) (d : ReleaseSetup)

open Library Library.Attempt Library.Acting

/-! ## 1. Policy and evidence -/

/-- `math.pi / 2`. -/
def halfPi : ℚ := 884279719003555 / 562949953421312

/-- `ReleaseStabilityConfig`; seconds, metres, metres a second, radians. -/
structure ReleaseStabilityConfig where
  holdSeconds : ℚ
  timeoutSeconds : ℚ
  maxHorizontalSpeed : ℚ
  maxVerticalSpeed : ℚ
  maxRoll : ℚ
  maxPitch : ℚ
  horizontalPositionTolerance : ℚ
  verticalPositionTolerance : ℚ
  maxObservationSkew : ℚ
  maxObservationGap : ℚ
  pollInterval : ℚ
  waypointReissueInterval : ℚ
  positive : ∀ x ∈ [holdSeconds, timeoutSeconds, maxHorizontalSpeed, maxVerticalSpeed, maxRoll,
    maxPitch, horizontalPositionTolerance, verticalPositionTolerance, maxObservationSkew,
    maxObservationGap, pollInterval, waypointReissueInterval], 0 < x
  hold_lt_timeout : holdSeconds < timeoutSeconds
  poll_le_gap : pollInterval ≤ maxObservationGap
  roll_lt : maxRoll < halfPi
  pitch_lt : maxPitch < halfPi

/-- The four observations behind an evidence. -/
structure PerSource where
  location : ℤ
  velocity : ℤ
  attitude : ℤ
  range : ℤ
  deriving DecidableEq, Repr

/-- `any(current < previous ..)`. -/
def PerSource.anyBelow (current previous : PerSource) : Bool :=
  decide (current.location < previous.location) || decide (current.velocity < previous.velocity) ||
    decide (current.attitude < previous.attitude) || decide (current.range < previous.range)

/-- `all(current > previous ..)`. -/
def PerSource.allAbove (current previous : PerSource) : Bool :=
  decide (previous.location < current.location) && decide (previous.velocity < current.velocity) &&
    decide (previous.attitude < current.attitude) && decide (previous.range < current.range)

/-- `ReleaseEvidence`. -/
structure ReleaseEvidence where
  sequences : PerSource
  generations : PerSource
  observedAt : ℚ
  horizontalError : ℚ
  verticalError : ℚ
  projectedClearance : ℚ
  horizontalSpeed : ℚ
  verticalSpeed : ℚ
  roll : ℚ
  pitch : ℚ
  deriving DecidableEq, Repr

/-- `_release_evidence_is_stable`. -/
def evidenceIsStable (agl : ℚ) (e : ReleaseEvidence) : Bool :=
  decide (e.horizontalSpeed ≤ c.maxHorizontalSpeed) &&
    decide (e.verticalSpeed ≤ c.maxVerticalSpeed) &&
    decide (|e.roll| ≤ c.maxRoll) &&
    decide (|e.pitch| ≤ c.maxPitch) &&
    decide (e.horizontalError ≤ c.horizontalPositionTolerance) &&
    decide (e.verticalError ≤ c.verticalPositionTolerance) &&
    decide (agl ≤ e.projectedClearance)

/-! ## 2. One reading -/

/-- What the operation raises. -/
inductive ReleaseError where
  /-- `FlightOperationError`. -/
  | flight (reason : String)
  /-- `MissionAckError`, a `FlightOperationError` too. -/
  | ack (reason : String)
  | raised (error : String)
  deriving DecidableEq, Repr

/-- `isinstance(error, FlightOperationError)`. -/
def ReleaseError.isFlight : ReleaseError → Bool
  | .flight _ => true
  | .ack _ => true
  | .raised _ => false

/-- `isinstance(error, FlightOperationError) and not isinstance(error, MissionAckError)`. -/
def ReleaseError.isRetried : ReleaseError → Bool
  | .flight _ => true
  | .ack _ => false
  | .raised _ => false

structure GpsCoord where
  lat : FloatValue
  long : FloatValue
  alt : FloatValue
  deriving DecidableEq, Repr

/-- One field of a `FlightSnapshot`. -/
structure SnapshotField (α : Type) where
  fresh : Bool
  value : α
  receivedAt : ℚ
  sequence : ℤ
  invalidationGeneration : ℤ

/-- What of a snapshot is read here. A value of the wrong kind is `none`. -/
structure ReleaseSnapshot where
  mode : Option (SnapshotField String)
  armed : Option (SnapshotField Bool)
  /-- Degrees times 10⁷, twice, and millimetres above the sea; and the fourth item. -/
  location : Option (SnapshotField (Option (ℚ × ℚ × ℚ × ℚ)))
  /-- Centimetres a second, to the north, to the east, down. -/
  velocity : Option (SnapshotField (Option (ℚ × ℚ × ℚ)))
  /-- Roll, pitch and yaw. -/
  attitude : Option (SnapshotField (Option (ℚ × ℚ × ℚ)))

structure AttitudeSample where
  roll : ℚ
  pitch : ℚ
  yaw : ℚ
  sampledAt : ℚ
  sequence : ℤ

structure LidarSample where
  distance : ℚ
  sampledAt : ℚ
  sequence : ℤ
  invalidationGeneration : ℤ

/-- How `lidar.get_sample()` ends. -/
inductive LidarAnswer where
  | sample (sample : LidarSample)
  /-- `StaleSensorError`. -/
  | stale
  | raised (error : String)

/-- The observations there are at one moment. -/
structure Sighting where
  snapshot : ReleaseSnapshot
  lidar : LidarAnswer

/-- What the operation works with. `projectVerticalClearance` is `none` where it raises. -/
structure ReleaseSetup where
  configuration : Option ReleaseStabilityConfig
  /-- `mission_home.amsl_m`. -/
  homeAmsl : Option ℚ
  upper : String → String
  hypot : ℚ → ℚ → ℚ
  horizDistance : ℚ × ℚ → ℚ × ℚ → ℚ
  projectVerticalClearance : LidarSample → AttitudeSample → ℚ → Option ℚ

/-- `_release_configuration`. -/
def releaseConfiguration : Except ReleaseError ReleaseStabilityConfig :=
  match d.configuration with
  | some c => .ok c
  | none =>
    .error (.flight "release stability requires explicit policy and clearance calibration")

/-- `not _finite_number(required_agl_m) or required_agl_m <= 0`. -/
def requirePositiveAgl (required : FloatValue) : Except ReleaseError ℚ :=
  match required with
  | some agl =>
    if agl ≤ 0 then .error (.flight "required release AGL must be finite and positive")
    else .ok agl
  | none => .error (.flight "required release AGL must be finite and positive")

/-- `_release_target`. -/
def releaseTarget (coord : GpsCoord) (homeAmsl : ℚ) : Except ReleaseError (ℚ × ℚ × ℚ) :=
  match coord.lat, coord.long, coord.alt with
  | some lat, some long, some alt =>
    if !(decide (-90 ≤ lat) && decide (lat ≤ 90)) ||
        !(decide (-180 ≤ long) && decide (long ≤ 180)) then
      .error (.flight "release waypoint coordinates are out of bounds")
    else .ok (lat, long, homeAmsl + alt)
  | _, _, _ => .error (.flight "release waypoint must contain finite coordinates")

/-- `field is None or not field.fresh`. -/
def isMissing {α : Type} : Option (SnapshotField α) → Bool
  | some field => !field.fresh
  | none => true

/-- `_require_fresh` of what a release needs. -/
def missingFields (s : ReleaseSnapshot) : List String :=
  (if isMissing s.mode then ["mode"] else []) ++ (if isMissing s.armed then ["armed"] else []) ++
    (if isMissing s.location then ["location"] else []) ++
    (if isMissing s.velocity then ["velocity"] else []) ++
    (if isMissing s.attitude then ["attitude"] else [])

/-- `_attitude_sample`. -/
def attitudeSample (field : SnapshotField (Option (ℚ × ℚ × ℚ))) :
    Except ReleaseError AttitudeSample :=
  if !field.fresh then .error (.flight "release attitude is missing or stale")
  else match field.value with
    | some (roll, pitch, yaw) => .ok ⟨roll, pitch, yaw, field.receivedAt, field.sequence⟩
    | none => .error (.flight "release attitude is invalid")

/-- `lidar.get_sample()` and `project_vertical_clearance(..)`, with what they raise. -/
def projectedClearance (lidar : LidarAnswer) (attitude : AttitudeSample) (now : ℚ) :
    Except ReleaseError (LidarSample × ℚ) :=
  match lidar with
  | .stale => .error (.flight "release clearance is unavailable")
  | .raised error => .error (.raised error)
  | .sample sample =>
    match d.projectVerticalClearance sample attitude now with
    | none => .error (.flight "release clearance is unavailable")
    | some clearance => .ok (sample, clearance)

/-- `max(observed_times) - min(observed_times)`. -/
def skew (first : ℚ) (rest : List ℚ) : ℚ := rest.foldl max first - rest.foldl min first

/-- `_release_evidence`. -/
def releaseEvidence (coord : GpsCoord) (required : FloatValue) (reading : Sighting) (now : ℚ) :
    Except ReleaseError ReleaseEvidence := do
  let c ← releaseConfiguration d
  let _ ← requirePositiveAgl required
  let homeAmsl ← match d.homeAmsl with
    | some amsl => Except.ok amsl
    | none => Except.error (.flight "release stability requires a pinned mission home")
  let (latitude, longitude, targetAmsl) ← releaseTarget coord homeAmsl
  let s := reading.snapshot
  match s.mode, s.armed, s.location, s.velocity, s.attitude with
  | some mode, some armed, some location, some velocity, some attitudeField =>
    if missingFields s ≠ [] then
      .error (.flight ("missing or stale flight evidence: " ++ ", ".intercalate (missingFields s)))
    else if d.upper mode.value ≠ "GUIDED" || armed.value ≠ true then
      .error (.flight "release stability requires armed GUIDED flight")
    else match location.value with
      | none => .error (.flight "release location is invalid")
      | some (lat, long, amsl, _) =>
        match velocity.value with
        | none => .error (.flight "release velocity is invalid")
        | some (north, east, down) => do
          let attitude ← attitudeSample attitudeField
          let (sample, clearance) ← projectedClearance d reading.lidar attitude now
          if c.maxObservationSkew < skew location.receivedAt
              [velocity.receivedAt, attitudeField.receivedAt, sample.sampledAt] then
            .error (.flight "release observations are not coherent")
          else
            .ok {
              sequences := ⟨location.sequence, velocity.sequence, attitudeField.sequence,
                sample.sequence⟩
              generations := ⟨location.invalidationGeneration, velocity.invalidationGeneration,
                attitudeField.invalidationGeneration, sample.invalidationGeneration⟩
              observedAt := now
              horizontalError := d.horizDistance (lat / 10 ^ 7, long / 10 ^ 7) (latitude, longitude)
              verticalError := |amsl / 1000 - targetAmsl|
              projectedClearance := clearance
              horizontalSpeed := d.hypot (north / 100) (east / 100)
              verticalSpeed := |down / 100|
              roll := attitude.roll
              pitch := attitude.pitch }
  | _, _, _, _, _ =>
    .error (.flight ("missing or stale flight evidence: " ++ ", ".intercalate (missingFields s)))

theorem requirePositiveAgl_ok {required : FloatValue} {agl : ℚ}
    (h : requirePositiveAgl required = .ok agl) :
    required = some agl := by
  unfold requirePositiveAgl at h
  split at h
  · split at h
    · cases h
    · cases h
      rfl
  · cases h

theorem releaseConfiguration_ok {d : ReleaseSetup} {c : ReleaseStabilityConfig}
    (h : releaseConfiguration d = .ok c) : d.configuration = some c := by
  unfold releaseConfiguration at h
  split at h
  · rename_i c' hc
    cases h
    exact hc
  · cases h

theorem releaseConfiguration_error {d : ReleaseSetup} {error : ReleaseError}
    (h : releaseConfiguration d = .error error) : d.configuration = none := by
  unfold releaseConfiguration at h
  split at h
  · cases h
  · rename_i hc
    exact hc

/-! ## 3. The window -/

/-- The variables of `consume_evidence`. -/
structure HoldWindow where
  stableStartedAt : Option ℚ
  lastAcceptedAt : Option ℚ
  lastEvidence : Option ReleaseEvidence
  deriving DecidableEq, Repr

namespace HoldWindow

def empty : HoldWindow := ⟨none, none, none⟩

/-- `reset_window`. -/
def reset (w : HoldWindow) : HoldWindow := ⟨none, none, w.lastEvidence⟩

/-- A window that begins with the evidence. -/
def begun (e : ReleaseEvidence) (observedAt : ℚ) : HoldWindow :=
  ⟨some observedAt, some observedAt, some e⟩

end HoldWindow

/-- What `consume_evidence` leaves and returns. -/
structure Folded where
  window : HoldWindow
  reset : Bool
  ready : Bool

/-- `gap_exceeded`. -/
def gapExceeded (w : HoldWindow) (observedAt : ℚ) : Bool :=
  match w.lastAcceptedAt with
  | some accepted => decide (c.maxObservationGap < observedAt - accepted)
  | none => false

/-- The end of `consume_evidence`, where the evidence goes on with the window. -/
def continueWindow (w : HoldWindow) (e : ReleaseEvidence) (observedAt : ℚ) : Folded :=
  let started := w.stableStartedAt.getD observedAt
  ⟨⟨some started, some observedAt, some e⟩, false, decide (c.holdSeconds ≤ observedAt - started)⟩

/-- `consume_evidence`. -/
def consumeEvidence (agl : ℚ) (w : HoldWindow) (e : ReleaseEvidence) (observedAt : ℚ) : Folded :=
  if !evidenceIsStable c agl e then ⟨{ w.reset with lastEvidence := some e }, true, false⟩
  else match w.lastEvidence with
    | none => ⟨.begun e observedAt, false, false⟩
    | some last =>
      if e.sequences.anyBelow last.sequences then
        ⟨{ w.reset with lastEvidence := some e }, true, false⟩
      else if e.generations ≠ last.generations then ⟨.begun e observedAt, true, false⟩
      else if gapExceeded c w observedAt then
        if e.sequences.allAbove last.sequences then ⟨.begun e observedAt, true, false⟩
        else ⟨w.reset, true, false⟩
      else if !e.sequences.allAbove last.sequences then ⟨w, false, false⟩
      else continueWindow c w e observedAt

/-! ## 4. The call -/

/-- `ReleaseHoldConfirmation`; a lidar is known by its identity. -/
structure ReleaseHoldConfirmation where
  waypoint : GpsCoord
  lidarIdentity : ℕ
  requiredAgl : ℚ
  evidence : ReleaseEvidence
  deriving DecidableEq, Repr

/-- The controller's field and the variables of the call that is under way. -/
structure ReleaseControl where
  clock : ℚ
  confirmation : Option ReleaseHoldConfirmation
  window : HoldWindow
  nextReissueAt : ℚ
  lastBoundaryEvidence : Option ReleaseEvidence

/-- What is noted of holds and releases. -/
inductive ReleaseNote where
  | holdBegan (coord : GpsCoord) (lidar : ℕ) (required : FloatValue)
  | evidence (evidence : ReleaseEvidence)
  /-- An evidence is folded into a window. -/
  | folded (window : HoldWindow) (evidence : ReleaseEvidence) (time : ℚ)
  | holdReturned (stable : Bool)
  | releaseBegan (coord : GpsCoord) (lidar : ℕ) (required : FloatValue)
  /-- The release output runs, let through at this time on this evidence. -/
  | released (time : ℚ) (boundary : ReleaseEvidence)
  /-- An output that no evidence guards. -/
  | continued
  deriving DecidableEq, Repr

/-- A computation of the controller. -/
abbrev Releasing : Type → Type := Action ReleaseControl ReleaseNote ReleaseError

/-- A boundary validation: how far the clock went on before it, and what there is to be read. -/
structure Boundary where
  elapsed : ℚ≥0
  reading : Sighting

/-- One sending of the waypoint: the boundaries it passes, each with how far the clock went on
    before its evidence was folded, and how `_send_mission_acknowledged` ends after them. -/
structure Reissue where
  boundaries : List (Boundary × ℚ≥0)
  answer : Except ReleaseError Unit

/-- The last validation: its boundaries, and how `_validate_guarded` ends after them. -/
structure Handover where
  boundaries : List Boundary
  answer : Except ReleaseError Unit

/-- What one pass of the loop meets. -/
structure HoldRound where
  /-- How far the clock went on before the loop's test. -/
  elapsed : ℚ≥0
  permission : Except ReleaseError Unit
  polled : Boundary
  reissue : Reissue
  handover : Handover

/-- What a call meets. -/
structure HoldScript where
  permission : Except ReleaseError Unit
  started : ℚ≥0
  rounds : List HoldRound

namespace ReleaseControl

variable (d : ReleaseSetup) (c : ReleaseStabilityConfig) (coord : GpsCoord) (lidar : ℕ) (agl : ℚ)
  (required : FloatValue)

/-- `time.monotonic()`, after the clock went on. -/
def monotonic (elapsed : ℚ≥0) : Releasing ℚ := do
  update fun s => { s with clock := s.clock + elapsed }
  let s ← current
  return s.clock

def setWindow (window : HoldWindow) : Releasing Unit := update fun s => { s with window := window }

def resetWindow : Releasing Unit := update fun s => { s with window := s.window.reset }

/-- `except .. as error`: the window is reset where the error is one of those caught. -/
def retrying {α : Type} (caught : ReleaseError → Bool) (x : Releasing α) : Releasing (Option α) :=
  tryCatch (do
    let a ← x
    return some a) fun error => do
    if caught error then
      resetWindow
      return none
    else throw error

/-- The evidence there is now. -/
def readEvidence (reading : Sighting) (now : ℚ) : Releasing ReleaseEvidence := do
  let e ← ofExcept (releaseEvidence d coord (some agl) reading now)
  perform (.evidence e)
  return e

/-- `consume_evidence` on the window of the call. -/
def consume (e : ReleaseEvidence) (observedAt : ℚ) : Releasing Folded := do
  let s ← current
  let folded := consumeEvidence c agl s.window e observedAt
  perform (.folded s.window e observedAt)
  setWindow folded.window
  return folded

/-- `validate_boundary`, at one boundary after another. -/
def readBoundaries (d : ReleaseSetup) (coord : GpsCoord) (agl : ℚ) :
    List (Boundary × ℚ≥0) → Releasing (List (ReleaseEvidence × ℚ≥0))
  | [] => return []
  | (b, wait) :: boundaries => do
    let now ← monotonic b.elapsed
    let e ← readEvidence d coord agl b.reading now
    let rest ← readBoundaries d coord agl boundaries
    return (e, wait) :: rest

/-- The evidences of a sending folded, as `(reissue_reset, reissue_ready)`. -/
def foldReissue (c : ReleaseStabilityConfig) (agl : ℚ) :
    List (ReleaseEvidence × ℚ≥0) → Bool → Bool → Releasing (Bool × Bool)
  | [], reset, ready => return (reset, ready)
  | (e, wait) :: evidences, reset, ready => do
    let now ← monotonic wait
    let folded ← consume c agl e now
    foldReissue c agl evidences (reset || folded.reset)
      (if reset || folded.reset then ready else ready || folded.ready)

/-- `_send_mission_acknowledged(.., validate_snapshot=validate_boundary)`. -/
def sendWaypoint (r : Reissue) : Releasing (List (ReleaseEvidence × ℚ≥0)) := do
  let evidences ← readBoundaries d coord agl r.boundaries
  ofExcept r.answer
  return evidences

/-- The waypoint is sent again; `none` where the loop goes on. -/
def reissueWaypoint (r : Reissue) (now : ℚ) (ready : Bool) : Releasing (Option Bool) := do
  let sent ← retrying ReleaseError.isRetried (sendWaypoint d coord agl r)
  match sent with
  | none => return none
  | some [] => throw (.flight "release reissue evidence was not captured")
  | some evidences => do
    let (reset, reissueReady) ← foldReissue c agl evidences false false
    update fun s => { s with nextReissueAt := now + c.waypointReissueInterval }
    return some (if reset then false else ready || reissueReady)

/-- `validate_handover`, at one boundary after another. -/
def validateHandover (d : ReleaseSetup) (c : ReleaseStabilityConfig) (coord : GpsCoord) (agl : ℚ) :
    List Boundary → Option ReleaseEvidence → Bool → Releasing (Option ReleaseEvidence × Bool)
  | [], handover, ready => return (handover, ready)
  | b :: boundaries, _, ready => do
    let observedAt ← monotonic b.elapsed
    let e ← readEvidence d coord agl b.reading observedAt
    let folded ← consume c agl e observedAt
    validateHandover d c coord agl boundaries (some e)
      (if folded.reset then false else ready || folded.ready)

/-- `_validate_guarded(validate_handover)`. -/
def validateGuarded (h : Handover) : Releasing (Option ReleaseEvidence × Bool) := do
  let result ← validateHandover d c coord agl h.boundaries none true
  ofExcept h.answer
  return result

/-- `hold_waypoint_until_stable` is about to return. -/
def confirmHold (e : ReleaseEvidence) : Releasing (Option Bool) := do
  update fun s => { s with confirmation := some ⟨coord, lidar, agl, e⟩ }
  perform (.holdReturned true)
  return some true

/-- The handover; `none` where the loop goes on. -/
def handOver (h : Handover) : Releasing (Option Bool) := do
  let validated ← retrying ReleaseError.isFlight (validateGuarded d c coord agl h)
  match validated with
  | none => return none
  | some (none, _) => throw (.flight "release handover evidence was not captured")
  | some (some e, ready) => if ready then confirmHold coord lidar agl e else return none

/-- The sending of the waypoint where it is due. -/
def reissueDue (r : Reissue) (now : ℚ) (ready : Bool) : Releasing (Option Bool) := do
  let s ← current
  if s.nextReissueAt ≤ now then reissueWaypoint d c coord agl r now ready else return some ready

/-- The body of the loop; `none` where the loop goes on. -/
def holdPass (round : HoldRound) : Releasing (Option Bool) := do
  ofExcept round.permission
  let now ← monotonic round.polled.elapsed
  let polled ← retrying ReleaseError.isFlight (readEvidence d coord agl round.polled.reading now)
  match polled with
  | none => return none
  | some e => do
    let folded ← consume c agl e now
    let ready ← reissueDue d c coord agl round.reissue now folded.ready
    match ready with
    | some true => handOver d c coord lidar agl round.handover
    | _ => return none

/-- The loop; `none` where the call is still under way. -/
def holdLoop (d : ReleaseSetup) (c : ReleaseStabilityConfig) (coord : GpsCoord) (lidar : ℕ)
    (agl startedAt : ℚ) : List HoldRound → Releasing (Option Bool)
  | [] => return none
  | round :: rounds => do
    let time ← monotonic round.elapsed
    if time - startedAt < c.timeoutSeconds then
      let returned ← holdPass d c coord lidar agl round
      match returned with
      | some stable => return some stable
      | none => holdLoop d c coord lidar agl startedAt rounds
    else
      perform (.holdReturned false)
      return some false

/-- **`hold_waypoint_until_stable`.** A sleep is part of what goes by before the next reading of the
    clock. -/
def holdWaypointUntilStable (script : HoldScript) : Releasing (Option Bool) := do
  perform (.holdBegan coord lidar required)
  let c ← ofExcept (releaseConfiguration d)
  update fun s => { s with confirmation := none }
  let agl ← ofExcept (requirePositiveAgl required)
  ofExcept script.permission
  match d.homeAmsl with
  | none => throw (.flight "waypoint hold requires a pinned mission home")
  | some homeAmsl => do
    let _ ← ofExcept (releaseTarget coord homeAmsl)
    let startedAt ← monotonic script.started
    update fun s => { s with window := .empty, nextReissueAt := startedAt }
    holdLoop d c coord lidar agl startedAt script.rounds

/-! ## 5. What the results speak of -/

/-- The evidences read. -/
def evidences (log : List ReleaseNote) : List ReleaseEvidence :=
  log.filterMap fun n => match n with
    | .evidence e => some e
    | _ => none

theorem mem_evidences {e : ReleaseEvidence} {log : List ReleaseNote} :
    e ∈ evidences log ↔ ReleaseNote.evidence e ∈ log := by
  unfold evidences
  rw [List.mem_filterMap]
  refine ⟨fun h => ?_, fun h => ⟨_, h, rfl⟩⟩
  obtain ⟨n, hn, he⟩ := h
  cases n with
  | evidence e' =>
    cases he
    exact hn
  | _ => cases he

/-- One evidence goes on with another: all observations newer, none revoked in between, and the time
    between them within the gap. -/
structure Continues (c : ReleaseStabilityConfig) (last e : ReleaseEvidence) : Prop where
  newer : e.sequences.allAbove last.sequences = true
  unrevoked : e.generations = last.generations
  later : last.observedAt ≤ e.observedAt
  near : e.observedAt - last.observedAt ≤ c.maxObservationGap

/-- **A continuous stretch** from the first evidence to the last: evidences that were read, within
    the limits, each of which goes on with the one before. -/
inductive Stretch (c : ReleaseStabilityConfig) (agl : ℚ) (log : List ReleaseNote) :
    ReleaseEvidence → ReleaseEvidence → Prop
  | one {e : ReleaseEvidence} : ReleaseNote.evidence e ∈ log → evidenceIsStable c agl e = true →
      Stretch c agl log e e
  | next {first last e : ReleaseEvidence} : Stretch c agl log first last → ReleaseNote.evidence e ∈ log →
      evidenceIsStable c agl e = true → Continues c last e → Stretch c agl log first e

/-- There is a stretch that spans the hold, by the times of its evidences. -/
def Spanned (log : List ReleaseNote) : Prop :=
  ∃ first last, Stretch c agl log first last ∧ c.holdSeconds ≤ last.observedAt - first.observedAt

/-- The hold that the call asked for was continuous. -/
def HeldContinuously (log : List ReleaseNote) : Prop :=
  ∃ c ∈ d.configuration, ∃ agl ∈ required, Spanned c agl log

/-- The evidence becomes the last of the window. -/
def entersWindow (w : HoldWindow) (e : ReleaseEvidence) : Bool :=
  evidenceIsStable c agl e &&
    match w.lastEvidence with
    | none => true
    | some last => !e.sequences.anyBelow last.sequences &&
        (decide (e.generations ≠ last.generations) || e.sequences.allAbove last.sequences)

/-- Every evidence that enters a window is folded at the time it was read. -/
def FoldedInTime (log : List ReleaseNote) : Prop :=
  ∀ w e time, ReleaseNote.folded w e time ∈ log → entersWindow c agl w e = true → time = e.observedAt

/-- Whether one note is in order. -/
def foldedInTime : ReleaseNote → Bool
  | .folded w e time => !entersWindow c agl w e || decide (time = e.observedAt)
  | _ => true

theorem foldedInTime_iff {c : ReleaseStabilityConfig} {agl : ℚ} {log : List ReleaseNote} :
    (∀ n ∈ log, foldedInTime c agl n = true) ↔ FoldedInTime c agl log := by
  refine ⟨fun h w e time hn henters => ?_, fun h n hn => ?_⟩
  · have hnote := h _ hn
    simpa [foldedInTime, henters] using hnote
  · cases n with
    | folded w e time =>
      have hnote := h w e time hn
      cases henters : entersWindow c agl w e with
      | true => simp [foldedInTime, hnote henters]
      | false => simp [foldedInTime, henters]
    | _ => rfl

instance (c : ReleaseStabilityConfig) (agl : ℚ) (log : List ReleaseNote) :
    Decidable (FoldedInTime c agl log) := decidable_of_iff _ foldedInTime_iff

/-! ## 6. The window is a stretch -/

section Window

variable {c : ReleaseStabilityConfig} {agl : ℚ} {log new : List ReleaseNote}

theorem Stretch.append {first last : ReleaseEvidence} (h : Stretch c agl log first last) :
    Stretch c agl (log ++ new) first last := by
  induction h with
  | one hread hstable => exact .one (List.mem_append_left _ hread) hstable
  | next _ hread hstable hnext ih =>
    exact .next ih (List.mem_append_left _ hread) hstable hnext

theorem Spanned.append (h : Spanned c agl log) : Spanned c agl (log ++ new) := by
  obtain ⟨first, last, hstretch, hspan⟩ := h
  exact ⟨first, last, hstretch.append, hspan⟩

theorem FoldedInTime.before (h : FoldedInTime c agl (log ++ new)) : FoldedInTime c agl log :=
  fun w e time hfolded => h w e time (List.mem_append_left _ hfolded)

/-- The window is a stretch of the evidences read, and its times are theirs. -/
def WindowReal (c : ReleaseStabilityConfig) (agl : ℚ) (log : List ReleaseNote) (clock : ℚ)
    (w : HoldWindow) : Prop :=
  ∀ started, w.stableStartedAt = some started → ∃ first last,
    w.lastEvidence = some last ∧ w.lastAcceptedAt = some last.observedAt ∧
    started = first.observedAt ∧ last.observedAt ≤ clock ∧ Stretch c agl log first last

theorem WindowReal.append {clock later : ℚ} {w : HoldWindow} (h : WindowReal c agl log clock w)
    (hlater : clock ≤ later) : WindowReal c agl (log ++ new) later w := by
  intro started hstarted
  obtain ⟨first, last, hlast, haccepted, hfirst, hclock, hstretch⟩ := h started hstarted
  exact ⟨first, last, hlast, haccepted, hfirst, hclock.trans hlater, hstretch.append⟩

theorem WindowReal.none {clock : ℚ} {w : HoldWindow} (h : w.stableStartedAt = none) :
    WindowReal c agl log clock w := by
  intro started hstarted
  rw [h] at hstarted
  cases hstarted

theorem WindowReal.begun {e : ReleaseEvidence} (hread : ReleaseNote.evidence e ∈ log)
    (hstable : evidenceIsStable c agl e = true) :
    WindowReal c agl log e.observedAt (.begun e e.observedAt) := by
  intro started hstarted
  cases hstarted
  exact ⟨e, e, rfl, rfl, rfl, le_refl _, .one hread hstable⟩

/-- **An evidence folded at its own time** leaves the window real, and where the hold is over there
    is a stretch that spans it. -/
theorem consumeEvidence_real {w : HoldWindow} {e : ReleaseEvidence} {clock : ℚ}
    (h : WindowReal c agl log clock w) (hread : ReleaseNote.evidence e ∈ log)
    (htime : entersWindow c agl w e = true → clock = e.observedAt) :
    WindowReal c agl log clock (consumeEvidence c agl w e clock).window ∧
      ((consumeEvidence c agl w e clock).ready = true → Spanned c agl log) := by
  unfold consumeEvidence
  split
  · exact ⟨.none rfl, fun hready => by cases hready⟩
  rename_i hstable
  have hstable : evidenceIsStable c agl e = true := by simpa using hstable
  unfold entersWindow at htime
  rw [hstable, Bool.true_and] at htime
  split
  · rename_i hlast
    rw [hlast] at htime
    have hnow := htime rfl
    subst hnow
    exact ⟨.begun hread hstable, fun hready => by cases hready⟩
  rename_i last hlast
  rw [hlast] at htime
  split
  · exact ⟨.none rfl, fun hready => by cases hready⟩
  rename_i hbelow
  simp only [hbelow, Bool.not_false, Bool.true_and] at htime
  split
  · rename_i hrevoked
    have hnow := htime (by simp [hrevoked])
    subst hnow
    exact ⟨.begun hread hstable, fun hready => by cases hready⟩
  rename_i hunrevoked
  have hunrevoked : e.generations = last.generations := by simpa using hunrevoked
  split
  · split
    · rename_i habove
      have hnow := htime (by simp [habove])
      subst hnow
      exact ⟨.begun hread hstable, fun hready => by cases hready⟩
    · exact ⟨.none rfl, fun hready => by cases hready⟩
  rename_i hgap
  split
  · exact ⟨h, fun hready => by cases hready⟩
  rename_i habove
  have habove : e.sequences.allAbove last.sequences = true := by simpa using habove
  have hnow := htime (by simp [habove])
  subst hnow
  unfold continueWindow
  cases hstarted : w.stableStartedAt with
  | none =>
    refine ⟨.begun hread hstable, fun _ => ⟨e, e, .one hread hstable, ?_⟩⟩
    simp_all
  | some started =>
    obtain ⟨first, last', hlast', haccepted, hfirst, hclock, hstretch⟩ := h started hstarted
    rw [hlast] at hlast'
    cases hlast'
    have hnear : e.observedAt - last.observedAt ≤ c.maxObservationGap := by
      unfold gapExceeded at hgap
      rw [haccepted] at hgap
      simpa using hgap
    have hnext : Stretch c agl log first e :=
      hstretch.next hread hstable ⟨habove, hunrevoked, hclock, hnear⟩
    refine ⟨?_, fun hready => ⟨first, e, hnext, ?_⟩⟩
    · intro started' hstarted'
      cases hstarted'
      exact ⟨first, e, rfl, rfl, hfirst, le_refl _, hnext⟩
    · rw [← hfirst]
      simpa using hready

end Window

/-! ## 7. The run of a call -/

section Calls

variable {d : ReleaseSetup} {c : ReleaseStabilityConfig} {coord : GpsCoord} {lidar : ℕ} {agl : ℚ}
  {r : Acting ReleaseControl ReleaseNote}

/-- The call as far as it has come: while every evidence was folded in time, the window is real, and
    where the hold has been found over (`ready`) there is a stretch that spans it. -/
structure Progress (c : ReleaseStabilityConfig) (agl : ℚ) (ready : Bool)
    (r : Acting ReleaseControl ReleaseNote) : Prop where
  real : FoldedInTime c agl r.log → WindowReal c agl r.log r.state.clock r.state.window
  spanned : ready = true → FoldedInTime c agl r.log → Spanned c agl r.log

namespace Progress

variable {ready : Bool} {s : ReleaseControl} {log : List ReleaseNote}

theorem tick (h : Progress c agl ready ⟨s, log⟩) (elapsed : ℚ≥0) :
    Progress c agl ready ⟨{ s with clock := s.clock + elapsed }, log⟩ where
  real := fun htime => by
    have hreal : WindowReal c agl (log ++ []) (s.clock + elapsed) s.window :=
      (h.real htime).append (le_add_of_nonneg_right elapsed.coe_nonneg)
    rwa [List.append_nil] at hreal
  spanned := h.spanned

theorem note (h : Progress c agl ready ⟨s, log⟩) (n : ReleaseNote) :
    Progress c agl ready ⟨s, log ++ [n]⟩ where
  real := fun htime => (h.real htime.before).append (le_refl _)
  spanned := fun hready htime => (h.spanned hready htime.before).append

theorem reset (h : Progress c agl ready ⟨s, log⟩) :
    Progress c agl ready ⟨{ s with window := s.window.reset }, log⟩ where
  real := fun _ => .none rfl
  spanned := h.spanned

/-- An evidence that was read is folded. -/
theorem fold (h : Progress c agl ready ⟨s, log⟩) {e : ReleaseEvidence}
    (hread : ReleaseNote.evidence e ∈ log) :
    Progress c agl (ready || (consumeEvidence c agl s.window e s.clock).ready)
      ⟨{ s with window := (consumeEvidence c agl s.window e s.clock).window },
        log ++ [ReleaseNote.folded s.window e s.clock]⟩ := by
  have hfold : FoldedInTime c agl (log ++ [ReleaseNote.folded s.window e s.clock]) →
      WindowReal c agl log s.clock (consumeEvidence c agl s.window e s.clock).window ∧
        ((consumeEvidence c agl s.window e s.clock).ready = true → Spanned c agl log) :=
    fun htime => consumeEvidence_real (h.real htime.before) hread
      (htime _ _ _ (List.mem_append_right _ (List.mem_singleton.mpr rfl)))
  refine ⟨fun htime => (hfold htime).1.append (le_refl _), fun hready htime => ?_⟩
  rcases Bool.or_eq_true_iff.mp hready with hready | hready
  · exact (h.spanned hready htime.before).append
  · exact ((hfold htime).2 hready).append

theorem weaken {ready' : Bool} (h : Progress c agl ready r)
    (hready : ready' = true → ready = true) :
    Progress c agl ready' r := ⟨h.real, fun h' => h.spanned (hready h')⟩

end Progress

/-! ### The computations -/

section Rules

variable {α : Type} {Q : α → Acting ReleaseControl ReleaseNote → Prop}
  {E : ReleaseError → Acting ReleaseControl ReleaseNote → Prop}
  {r : Acting ReleaseControl ReleaseNote}

@[simp] theorem wp_monotonic {Q : ℚ → Acting ReleaseControl ReleaseNote → Prop} (elapsed : ℚ≥0) :
    wp (monotonic elapsed) Q E r ↔ Q (r.state.clock + elapsed)
      ⟨{ r.state with clock := r.state.clock + elapsed }, r.log⟩ := by
  unfold monotonic
  simp only [wp_bind, wp_update, wp_current, wp_pure]

@[simp] theorem wp_resetWindow {Q : Unit → Acting ReleaseControl ReleaseNote → Prop} :
    wp resetWindow Q E r ↔ Q () ⟨{ r.state with window := r.state.window.reset }, r.log⟩ := Iff.rfl

@[simp] theorem wp_consume {Q : Folded → Acting ReleaseControl ReleaseNote → Prop}
    (e : ReleaseEvidence) (observedAt : ℚ) :
    wp (consume c agl e observedAt) Q E r ↔ Q (consumeEvidence c agl r.state.window e observedAt)
      ⟨{ r.state with window := (consumeEvidence c agl r.state.window e observedAt).window },
        r.log ++ [ReleaseNote.folded r.state.window e observedAt]⟩ := by
  unfold consume setWindow
  simp only [wp_bind, wp_update, wp_current, wp_perform, wp_pure]

theorem wp_readEvidence {Q : ReleaseEvidence → Acting ReleaseControl ReleaseNote → Prop}
    (reading : Sighting) (now : ℚ) (hread : ∀ e, Q e ⟨r.state, r.log ++ [ReleaseNote.evidence e]⟩)
    (herror : ∀ error, E error r) : wp (readEvidence d coord agl reading now) Q E r := by
  unfold readEvidence
  rw [wp_bind]
  refine (wp_ofExcept _).mpr ⟨fun e _ => ?_, fun error _ => herror error⟩
  rw [wp_bind, wp_perform]
  exact hread e

/-- What a retried computation leaves; the window is reset where it was caught. -/
theorem wp_retrying {x : Releasing α} {caught : ReleaseError → Bool}
    {Q : Option α → Acting ReleaseControl ReleaseNote → Prop}
    (h : wp x (fun a => Q (some a)) (fun error t => E error t ∧
      Q none ⟨{ t.state with window := t.state.window.reset }, t.log⟩) r) :
    wp (retrying caught x) Q E r := by
  unfold retrying
  rw [wp_tryCatch, wp_bind]
  refine h.mono (fun a t ht => ht) fun error t ht => ?_
  split
  · rw [wp_bind, wp_resetWindow]
    exact ht.2
  · exact ht.1

end Rules

theorem readBoundaries_advances (boundaries : List (Boundary × ℚ≥0)) {ready : Bool}
    (h : Progress c agl ready r) :
    wp (readBoundaries d coord agl boundaries)
      (fun es t => Progress c agl ready t ∧ (∀ e ∈ es, ReleaseNote.evidence e.1 ∈ t.log) ∧
        ∀ n ∈ r.log, n ∈ t.log)
      (fun _ => Progress c agl ready) r := by
  induction boundaries generalizing r with
  | nil => exact ⟨h, fun e he => (List.not_mem_nil he).elim, fun n hn => hn⟩
  | cons b boundaries ih =>
    obtain ⟨b, wait⟩ := b
    unfold readBoundaries
    rw [wp_bind, wp_monotonic, wp_bind]
    refine wp_readEvidence _ _ (fun e => ?_) fun _ => h.tick b.elapsed
    rw [wp_bind]
    refine (ih ((h.tick b.elapsed).note (.evidence e))).mono (fun es t ht => ?_) fun _ _ ht => ht
    obtain ⟨hprogress, hread, hold⟩ := ht
    refine ⟨hprogress, fun e' he' => ?_, fun n hn => hold n (List.mem_append_left _ hn)⟩
    rcases List.mem_cons.mp he' with rfl | he'
    · exact hold _ (List.mem_append_right _ (List.mem_singleton.mpr rfl))
    · exact hread e' he'

theorem foldReissue_advances (es : List (ReleaseEvidence × ℚ≥0)) {reset ready before : Bool}
    (h : Progress c agl (before || ready) r) (hread : ∀ e ∈ es, ReleaseNote.evidence e.1 ∈ r.log) :
    wp (foldReissue c agl es reset ready) (fun result => Progress c agl (before || result.2))
      (fun _ _ => False) r := by
  induction es generalizing reset ready r with
  | nil => exact h
  | cons e es ih =>
    obtain ⟨e, wait⟩ := e
    unfold foldReissue
    rw [wp_bind, wp_monotonic, wp_bind, wp_consume]
    have hfolded := (h.tick wait).fold (hread _ List.mem_cons_self)
    refine ih (hfolded.weaken fun hready => ?_) fun e' he' =>
      List.mem_append_left _ (hread e' (List.mem_cons_of_mem _ he'))
    split at hready
    · simp [hready]
    · simpa [Bool.or_assoc] using hready

theorem reissueWaypoint_advances (reissue : Reissue) (now : ℚ) {ready : Bool}
    (h : Progress c agl ready r) :
    wp (reissueWaypoint d c coord agl reissue now ready)
      (fun result => Progress c agl (result.getD false)) (fun _ _ => True) r := by
  unfold reissueWaypoint
  rw [wp_bind]
  refine wp_retrying ?_
  unfold sendWaypoint
  rw [wp_bind]
  refine (readBoundaries_advances reissue.boundaries h).mono (fun es t ht => ?_)
    fun error t ht => ⟨trivial, (ht.weaken fun hready => by cases hready).reset⟩
  obtain ⟨hprogress, hread, -⟩ := ht
  rw [wp_bind]
  refine (wp_ofExcept _).mpr ⟨fun _ _ => ?_, fun error _ =>
    ⟨trivial, (hprogress.weaken fun hready => by cases hready).reset⟩⟩
  cases es with
  | nil => exact trivial
  | cons e es =>
    have hbefore : Progress c agl (ready || false) t := by rwa [Bool.or_false]
    show wp (foldReissue c agl (e :: es) false false >>= _) _ _ t
    rw [wp_bind]
    refine (foldReissue_advances (e :: es) hbefore hread).mono (fun result u hu => ?_)
      fun _ _ hf => hf.elim
    refine ⟨hu.real, fun hready => hu.spanned ?_⟩
    obtain ⟨reset, reissueReady⟩ := result
    cases reset with
    | true => cases hready
    | false => exact hready

theorem validateHandover_advances (boundaries : List Boundary) (handover : Option ReleaseEvidence)
    {current ready : Bool} (h : Progress c agl ready r) :
    wp (validateHandover d c coord agl boundaries handover current)
      (fun _ => Progress c agl ready) (fun _ => Progress c agl ready) r := by
  induction boundaries generalizing handover current r with
  | nil => exact h
  | cons b boundaries ih =>
    unfold validateHandover
    rw [wp_bind, wp_monotonic, wp_bind]
    refine wp_readEvidence _ _ (fun e => ?_) fun _ => h.tick b.elapsed
    rw [wp_bind, wp_consume]
    have hfolded := ((h.tick b.elapsed).note (.evidence e)).fold
      (List.mem_append_right _ (List.mem_singleton.mpr rfl))
    exact ih _ (hfolded.weaken fun hready => by rw [hready, Bool.true_or])

/-- What the loop may do with its result: go on, or return; True only where a stretch spans the
    hold. -/
def Concluded (c : ReleaseStabilityConfig) (agl : ℚ) (returned : Option Bool)
    (r : Acting ReleaseControl ReleaseNote) : Prop :=
  match returned with
  | none => Progress c agl false r
  | some stable => stable = true → FoldedInTime c agl r.log → Spanned c agl r.log

theorem handOver_concludes (h : Handover) (hready : Progress c agl true r) :
    wp (handOver d c coord lidar agl h) (Concluded c agl) (fun _ _ => True) r := by
  have hretried : ∀ {t : Acting ReleaseControl ReleaseNote}, Progress c agl true t →
      Progress c agl false ⟨{ t.state with window := t.state.window.reset }, t.log⟩ :=
    fun ht => (ht.weaken fun hfalse => by cases hfalse).reset
  unfold handOver
  rw [wp_bind]
  refine wp_retrying ?_
  unfold validateGuarded
  rw [wp_bind]
  refine (validateHandover_advances h.boundaries none hready).mono (fun result t ht => ?_)
    fun error t ht => ⟨trivial, hretried ht⟩
  rw [wp_bind]
  refine (wp_ofExcept _).mpr ⟨fun _ _ => ?_, fun error _ => ⟨trivial, hretried ht⟩⟩
  obtain ⟨_ | e, passed⟩ := result
  · exact trivial
  cases passed with
  | false => exact ht.weaken fun hfalse => by cases hfalse
  | true =>
    unfold confirmHold
    rw [wp_pure]
    dsimp only
    rw [if_pos rfl, wp_bind, wp_update, wp_bind, wp_perform]
    intro _ htime
    exact (ht.spanned rfl htime.before).append

theorem holdPass_concludes (round : HoldRound) (h : Progress c agl false r) :
    wp (holdPass d c coord lidar agl round) (Concluded c agl) (fun _ _ => True) r := by
  unfold holdPass
  rw [wp_bind]
  refine (wp_ofExcept _).mpr ⟨fun _ _ => ?_, fun _ _ => trivial⟩
  rw [wp_bind, wp_monotonic, wp_bind]
  refine wp_retrying (wp_readEvidence _ _ (fun e => ?_) fun _ =>
    ⟨trivial, (h.tick round.polled.elapsed).reset⟩)
  show wp (consume c agl e _ >>= _) _ _ _
  rw [wp_bind, wp_consume, wp_bind]
  have hfolded := ((h.tick round.polled.elapsed).note (.evidence e)).fold
    (List.mem_append_right _ (List.mem_singleton.mpr rfl))
  rw [Bool.false_or] at hfolded
  have hdone : ∀ {ready : Option Bool} {t : Acting ReleaseControl ReleaseNote},
      Progress c agl (ready.getD false) t → wp (match ready with
        | some true => handOver d c coord lidar agl round.handover
        | _ => pure none) (Concluded c agl) (fun _ _ => True) t := by
    intro ready t ht
    rcases ready with _ | _ | _
    · exact ht
    · exact ht
    · exact handOver_concludes round.handover ht
  unfold reissueDue
  rw [wp_bind, wp_current]
  split
  · exact (reissueWaypoint_advances round.reissue _ hfolded).mono (fun _ _ ht => hdone ht)
      fun _ _ ht => ht
  · exact hdone hfolded

theorem holdLoop_concludes (rounds : List HoldRound) (startedAt : ℚ) (h : Progress c agl false r) :
    wp (holdLoop d c coord lidar agl startedAt rounds) (Concluded c agl) (fun _ _ => True) r := by
  induction rounds generalizing r with
  | nil => exact h
  | cons round rounds ih =>
    unfold holdLoop
    rw [wp_bind, wp_monotonic]
    split
    · rw [wp_bind]
      refine (holdPass_concludes round (h.tick round.elapsed)).mono (fun returned t ht => ?_)
        fun _ _ ht => ht
      cases returned with
      | none => exact ih ht
      | some stable => exact ht
    · rw [wp_bind, wp_perform]
      exact fun hfalse => by cases hfalse

end Calls

/-! ## 8. The hold -/

/-- Every evidence that the call folded into its window was folded at the time it was read. -/
def InTime (log : List ReleaseNote) : Prop :=
  ∀ c ∈ d.configuration, ∀ agl ∈ required, FoldedInTime c agl log

theorem hold_concludes (script : HoldScript) (s : ReleaseControl) :
    wp (holdWaypointUntilStable d coord lidar required script)
      (fun returned t => returned = some true → InTime d required t.log →
        HeldContinuously d required t.log)
      (fun _ _ => True) ⟨s, []⟩ := by
  unfold holdWaypointUntilStable
  rw [wp_bind, wp_perform, wp_bind]
  refine (wp_ofExcept _).mpr ⟨fun c hc => ?_, fun _ _ => trivial⟩
  rw [wp_bind, wp_update, wp_bind]
  refine (wp_ofExcept _).mpr ⟨fun agl hagl => ?_, fun _ _ => trivial⟩
  rw [wp_bind]
  refine (wp_ofExcept _).mpr ⟨fun _ _ => ?_, fun _ _ => trivial⟩
  split
  · exact trivial
  rw [wp_bind]
  refine (wp_ofExcept _).mpr ⟨fun _ _ => ?_, fun _ _ => trivial⟩
  rw [wp_bind, wp_monotonic, wp_bind, wp_update]
  have hstart : ∀ u : ReleaseControl, u.window = .empty →
      Progress c agl false ⟨u, [.holdBegan coord lidar required]⟩ :=
    fun u hu => ⟨fun _ => .none (by rw [hu]; rfl), fun hfalse => by cases hfalse⟩
  refine (holdLoop_concludes script.rounds _ (hstart _ rfl)).mono (fun returned t ht => ?_)
    fun _ _ ht => ht
  rintro rfl htime
  have hconfigured : c ∈ d.configuration := releaseConfiguration_ok hc
  have hrequired : agl ∈ required := requirePositiveAgl_ok hagl
  exact ⟨c, hconfigured, agl, hrequired, ht rfl (htime c hconfigured agl hrequired)⟩

/-- **A hold that folds every evidence at the time it was read returns True only after a continuous
    stretch of evidences that spans the hold**, for every history of observations. -/
theorem hold_continuous {d : ReleaseSetup} {coord : GpsCoord} {lidar : ℕ} {required : FloatValue}
    {script : HoldScript} {s t : ReleaseControl} {log : List ReleaseNote}
    (hcall : call (holdWaypointUntilStable d coord lidar required script) s =
      (.ok (some true), t, log)) (htime : InTime d required log) :
    HeldContinuously d required log := by
  have hspec := @call_spec _ _ _ _ (holdWaypointUntilStable d coord lidar required script) s
    (fun outcome r => outcome = .ok (some true) → InTime d required r.log →
      HeldContinuously d required r.log)
    ((hold_concludes d coord lidar required script s).mono
      (fun returned t ht houtcome => ht (Except.ok.inj houtcome))
      fun error t _ houtcome => by cases houtcome)
  rw [hcall] at hspec
  exact hspec rfl htime

/-! ### Two calls -/

/-- Two seconds, with a second between evidences. -/
def lenient : ReleaseStabilityConfig where
  holdSeconds := 2
  timeoutSeconds := 10
  maxHorizontalSpeed := 1
  maxVerticalSpeed := 1
  maxRoll := 1
  maxPitch := 1
  horizontalPositionTolerance := 1
  verticalPositionTolerance := 1
  maxObservationSkew := 1
  maxObservationGap := 1
  pollInterval := 1
  waypointReissueInterval := 10
  positive := by decide +kernel
  hold_lt_timeout := by decide +kernel
  poll_le_gap := by decide +kernel
  roll_lt := by decide +kernel
  pitch_lt := by decide +kernel

/-- Distances along an axis, and a beam that looks straight down. -/
def above : ReleaseSetup where
  configuration := some lenient
  homeAmsl := some 0
  upper := id
  hypot := fun x y => |x| + |y|
  horizDistance := fun a b => |a.1 - b.1| + |a.2 - b.2|
  projectVerticalClearance := fun sample _ _ => some sample.distance

def tenMetres : GpsCoord := ⟨some 0, some 0, some 10⟩

/-- The vehicle stands over the waypoint; `n` numbers the observations. -/
def hovering (time : ℚ) (n : ℤ) : Sighting where
  snapshot := {
    mode := some ⟨true, "GUIDED", time, n, 0⟩
    armed := some ⟨true, true, time, n, 0⟩
    location := some ⟨true, some (0, 0, 10000, 10000), time, n, 0⟩
    velocity := some ⟨true, some (0, 0, 0), time, n, 0⟩
    attitude := some ⟨true, some (0, 0, 0), time, n, 0⟩ }
  lidar := .sample ⟨10, time, n, 0⟩

/-- A pass without a sending; the handover reads the same observations once more. -/
def pollAfter (elapsed : ℚ≥0) (time : ℚ) (n : ℤ) : HoldRound :=
  ⟨elapsed, .ok (), ⟨0, hovering time n⟩, ⟨[], .ok ()⟩, ⟨[⟨0, hovering time n⟩], .ok ()⟩⟩

/-- The first pass sends the waypoint; the acknowledgement takes a second, and the boundary reads
    the observations numbered `n`. -/
def sendFirst (n : ℤ) : HoldRound :=
  ⟨0, .ok (), ⟨0, hovering 0 1⟩, ⟨[(⟨0, hovering 0 n⟩, 1)], .ok ()⟩, ⟨[], .ok ()⟩⟩

def grounded : ReleaseControl := ⟨0, none, .empty, 0, none⟩

/-- The call over some passes. -/
def holdOver (rounds : List HoldRound) : Except ReleaseError (Option Bool) × ReleaseControl ×
    List ReleaseNote :=
  call (holdWaypointUntilStable above tenMetres 1 (some 10) ⟨.ok (), 0, rounds⟩) grounded

theorem hold_continuous_steady :
    HeldContinuously above (some 10)
      (holdOver [sendFirst 1, pollAfter 0 1 2, pollAfter 1 2 3]).2.2 := by
  have hcall : call (holdWaypointUntilStable above tenMetres 1 (some 10)
      ⟨.ok (), 0, [sendFirst 1, pollAfter 0 1 2, pollAfter 1 2 3]⟩) grounded =
      (.ok (some true), (holdOver [sendFirst 1, pollAfter 0 1 2, pollAfter 1 2 3]).2) :=
    Prod.ext (by decide +kernel) rfl
  refine hold_continuous hcall fun c hc agl hagl => ?_
  cases hc
  cases hagl
  decide +kernel

/-- Evidences read at two moments that are more than the gap apart make no stretch together. -/
theorem stretch_at_once {log : List ReleaseNote} {first last : ReleaseEvidence}
    (hlog : ∀ e ∈ evidences log, e.observedAt = 0 ∨ e.observedAt = 2)
    (h : Stretch lenient 10 log first last) :
    last ∈ evidences log ∧ first.observedAt = last.observedAt := by
  induction h with
  | one hread _ => exact ⟨mem_evidences.mpr hread, rfl⟩
  | @next last e _ hread _ hnext ih =>
    have hread := mem_evidences.mpr hread
    refine ⟨hread, ih.2.trans ?_⟩
    have hnear : e.observedAt - last.observedAt ≤ 1 := hnext.near
    have hlater := hnext.later
    rcases hlog last ih.1 with hl | hl
    · rcases hlog e hread with he | he
      · rw [hl, he]
      · rw [hl, he] at hnear
        norm_num at hnear
    · rcases hlog e hread with he | he
      · rw [hl, he] at hlater
        norm_num at hlater
      · rw [hl, he]

/-- **An acknowledgement that takes a second**: the evidence that was read when the waypoint was
    sent is folded a second later, and the hold returns True though two seconds lie between the
    evidences it goes by. -/
theorem late_acknowledgement :
    (holdOver [sendFirst 2, pollAfter 1 2 3]).1 = .ok (some true) ∧
      ¬ HeldContinuously above (some 10) (holdOver [sendFirst 2, pollAfter 1 2 3]).2.2 := by
  refine ⟨by decide +kernel, ?_⟩
  have hlog : ∀ e ∈ evidences (holdOver [sendFirst 2, pollAfter 1 2 3]).2.2,
      e.observedAt = 0 ∨ e.observedAt = 2 := by decide +kernel
  rintro ⟨c, hc, agl, hagl, first, last, hstretch, hspan⟩
  cases hc
  cases hagl
  have hsame := (stretch_at_once hlog hstretch).2
  rw [hsame, sub_self] at hspan
  exact absurd hspan (by decide +kernel)

end ReleaseControl

end DroneSim
