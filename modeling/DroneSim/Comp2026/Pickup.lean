/-
  File:      DroneSim/Comp2026/Pickup.lean
  Subject:   The pickup of a payload (mock_mission.py, _acquire_target_anchor and pickup_sequence).

  A pickup searches the marker over a grid of nine cells until five readings in a row agree on where
  it is, lands there, once more after a hold that ended without the marker, and attaches the payload.
-/
import DroneSim.Comp2026.ArucoLanding
import Mathlib.Data.List.Sort

namespace DroneSim

open Library Library.Attempt Library.Acting

/-! ## 1. The anchor -/

/-- `REQUIRED_CENTERED_OBSERVATIONS`. -/
def requiredCenteredObservations : ℕ := 5

/-- `MAX_OBSERVATIONS_PER_GRID_CELL`. -/
def maxObservationsPerGridCell : ℕ := requiredCenteredObservations * 2

/-- `statistics.median`; for no values at all zero. -/
def statisticsMedian (values : List ℚ) : ℚ :=
  let sorted := values.insertionSort (· ≤ ·)
  if values.length % 2 = 1 then sorted.getD (values.length / 2) 0
  else (sorted.getD (values.length / 2 - 1) 0 + sorted.getD (values.length / 2) 0) / 2

/-- The componentwise median. -/
def medianPoint (samples : List GpsPoint) : GpsPoint :=
  ⟨statisticsMedian (samples.map GpsPoint.lat), statisticsMedian (samples.map GpsPoint.long),
    statisticsMedian (samples.map GpsPoint.alt)⟩

/-- Two of the samples are too far apart. -/
def anyApart (m : MathFunctions) : List GpsPoint → Bool
  | [] => false
  | first :: rest =>
    rest.any (fun second => decide (anchorDriftLimit < m.horizontalDistance first second)) ||
      anyApart m rest

/-- `_median_anchor`. -/
def medianAnchor (m : MathFunctions) (samples : List GpsPoint) : Option GpsPoint :=
  if samples.length ≠ requiredCenteredObservations then none
  else if anyApart m samples then none
  else some (medianPoint samples)

/-! ## 2. The acquisition -/

/-- The variables of the search. -/
structure AcquireState where
  lastSequence : ℤ
  /-- `last_invalidation_generations`: range, location, attitude. -/
  generations : ℤ × ℤ × ℤ
  samples : List GpsPoint

/-- `anchor_samples.clear()`. -/
def AcquireState.cleared (v : AcquireState) : AcquireState := { v with samples := [] }

/-- The generations of an evidence. -/
def PrecisionEvidence.generations (e : PrecisionEvidence) : ℤ × ℤ × ℤ :=
  (e.clearance.range.invalidationGeneration, e.locationInvalidationGeneration,
    e.attitudeInvalidationGeneration)

/-- `grid_offsets_ne`. -/
def gridOffsetsNe : List (ℚ × ℚ) :=
  [(0, 0), (0, 1.5), (1.5, 1.5), (1.5, 0), (1.5, -1.5), (0, -1.5), (-1.5, -1.5), (-1.5, 0),
    (-1.5, 1.5)]

namespace PrecisionWorld

variable (m : MathFunctions) (p : PrecisionPolicy) (w : PrecisionWorld)
variable (deadline : ℚ) (v : AcquireState)

/-- The search goes on after a sleep, or it is over. -/
def resume : PrecisionCall (Except (Option GpsPoint) AcquireState) :=
  do
    let slept ← w.sleepBounded p deadline
    if slept then return .ok v
    else return .error none

/-- The same where the clock is looked at before. -/
def resumeInTime : PrecisionCall (Except (Option GpsPoint) AcquireState) := do
  let t ← w.now
  if deadline ≤ t then return .error none
  else w.resume p deadline v

/-- A move of the search; then the samples count no more. -/
def correct (operation : String) (move : ℚ → PrecisionCommand) :
    PrecisionCall (Except (Option GpsPoint) AcquireState) := do
  w.permission
  let t ← w.now
  if deadline - t ≤ 0 then return .error none
  else do
    w.requireZero operation (move (deadline - t))
    w.resumeInTime p deadline v.cleared

/-- A reading within the tolerances: an anchor, or one more sample, or the first of new ones. -/
def sample (projected : GpsPoint) : PrecisionCall (Except (Option GpsPoint) AcquireState) := do
  match medianAnchor m (v.samples ++ [projected]) with
  | some anchor => do
    perform (.anchored anchor)
    return .error (some anchor)
  | none =>
    if v.samples.any fun prior =>
        decide (anchorDriftLimit < m.horizontalDistance projected prior) then
      w.resume p deadline { v with samples := [projected] }
    else w.resume p deadline { v with samples := v.samples ++ [projected] }

/-- A reading with the marker below the vehicle. -/
def center (e : PrecisionEvidence) (vector : RelPosComplete) :
    PrecisionCall (Except (Option GpsPoint) AcquireState) := do
  let clearanceError := e.clearance.projected - p.targetHoverHeight
  if p.hoverTolerance < |clearanceError| then
    w.correct p deadline v "acquisition altitude correction"
      (.moveRelative ⟨0, 0, clearanceError⟩)
  else if p.centeredTolerance < m.horizontalError e vector then do
    let corrected ← ask (w.getLocationMetres e.location
      ((m.offsetOf e vector).1 * p.correctionGain) ((m.offsetOf e vector).2 * p.correctionGain))
    w.correct p deadline v "marker recenter waypoint" (.gotoWaypoint corrected)
  else w.sample m p deadline v (m.projectedTarget e vector)

/-- A reading that is an evidence. -/
def weigh (e : PrecisionEvidence) : PrecisionCall (Except (Option GpsPoint) AcquireState) := do
  w.permission
  let t ← w.now
  if deadline ≤ t then return .error none
  else if e.frameSequence ≤ v.lastSequence then w.resume p deadline v.cleared
  else if e.generations ≠ v.generations then
    w.resume p deadline ⟨e.frameSequence, e.generations, []⟩
  else
    let seen := { v with lastSequence := e.frameSequence }
    match e.vector with
    | none => w.resume p deadline seen.cleared
    | some vector =>
      if vector.z ≤ 0 then w.resume p deadline seen.cleared
      else w.center m p deadline seen e vector

/-- One pass of a cell. -/
def acquireRound (targetId : ℕ) (deadline : ℚ) (v : AcquireState) :
    PrecisionCall (Except (Option GpsPoint) AcquireState) := do
  let t ← w.now
  match ← w.attemptEvidence m p targetId v.lastSequence (min p.frameTimeout (deadline - t)) with
  | .error .noFrame => do
    w.permission
    w.resumeInTime p deadline v.cleared
  | .error .unavailableEvidence => w.resume p deadline v.cleared
  | .ok e => w.weigh m p deadline v e

/-- The passes of a cell, so many at most. -/
def cellLoop (targetId : ℕ) (deadline : ℚ) :
    ℕ → AcquireState → PrecisionCall (Except (Option GpsPoint) AcquireState)
  | 0, v => do
    let _ ← w.now
    return .ok v
  | passes + 1, v => do
    let t ← w.now
    if t < deadline then do
      match ← w.acquireRound m p targetId deadline v with
      | .error found => return .error found
      | .ok v => cellLoop targetId deadline passes v
    else return .ok v

/-- The cells one after another. -/
def gridLoop (targetId : ℕ) (deadline : ℚ) (middle : GpsPoint) :
    List (ℚ × ℚ) → AcquireState → PrecisionCall (Option GpsPoint)
  | [], _ => return none
  | (north, east) :: cells, v => do
    let t ← w.now
    if deadline ≤ t then return none
    else do
      w.permission
      let waypoint ← ask (w.getLocationMetres middle north east)
      let t ← w.now
      if deadline - t ≤ 0 then return none
      else do
        w.requireZero "grid waypoint" (.gotoWaypoint waypoint (deadline - t))
        let t ← w.now
        if deadline ≤ t then return none
        else do
          match ← w.cellLoop m p targetId deadline maxObservationsPerGridCell v.cleared with
          | .error found => return found
          | .ok v => gridLoop targetId deadline middle cells v

/-- `_acquire_target_anchor`. -/
def acquireTargetAnchor (targetId : ℕ) (deadline : ℚ)
    (initialClearance : Option ProjectedClearance) : PrecisionCall (Option GpsPoint) := do
  let read ← match initialClearance with
    | some clearance => pure (some clearance)
    | none => w.attemptClearance m p
  match read with
  | none => return none
  | some clearance => do
    let snapshot ← ask w.flightSnapshot
    let (middle, _) ← w.location snapshot
    w.gridLoop m p targetId deadline middle gridOffsetsNe
      ⟨0, (clearance.range.invalidationGeneration, generationOf snapshot.location,
        generationOf snapshot.attitude), []⟩

/-! ## 3. The pickup -/

/-- The wait for the hover height, for so many passes; `none` is its end without. -/
def hoverLoop (deadline : ℚ) : ℕ → PrecisionCall (Option ProjectedClearance)
  | 0 => throw .cut
  | rounds + 1 => do
    let t ← w.now
    if t < deadline then do
      match ← w.attemptClearance m p with
      | none => do
        let slept ← w.sleepBounded p deadline
        if slept then hoverLoop deadline rounds else return none
      | some clearance =>
        if |clearance.projected - p.targetHoverHeight| ≤ p.hoverTolerance then
          return some clearance
        else do
          let slept ← w.sleepBounded p deadline
          if slept then hoverLoop deadline rounds else return none
    else return none

/-- `profile_checked`, or the check. -/
def checkProfile (checked : Bool) : PrecisionCall Bool := do
  if checked then return true
  else do
    w.permission
    perform (.command .requireLandingProfile)
    let returned ← ask (w.command .requireLandingProfile)
    if returned = .bool true then do
      perform (.done .requireLandingProfile)
      return true
    else return false

/-- `aruco_land_precision` of a pickup. -/
def land (targetId rounds : ℕ) (deadline : ℚ) (anchor : GpsPoint) : PrecisionCall LandAnswer := do
  perform .attempted
  let answer ← w.arucoLandPrecision m p ⟨targetId, some anchor, some deadline, true⟩ rounds
  match answer with
  | .result result => perform (.landed result)
  | .bool touchdown => perform (.landed (if touchdown then .touchdown else .failed))
  return answer

/-- The hover between two landings; false is the end of the pickup. -/
def retryHover (anchor : GpsPoint) : PrecisionCall Bool := do
  w.permission
  w.requireZero "GUIDED mode" .setGuidedMode
  let hover ← ask (w.getLocationMetres anchor 0 0)
  let t ← w.now
  if deadline - t ≤ 0 then return false
  else do
    w.requireZero "retry search hover"
      (.gotoWaypoint { hover with alt := p.targetHoverHeight } (deadline - t))
    return true

/-- The acquisitions and landings, so many more of them; true is a touchdown. -/
def retryLoop (targetId rounds : ℕ) (deadline : ℚ) :
    ℕ → Bool → Option ProjectedClearance → PrecisionCall Bool
  | 0, _, _ => return false
  | retries + 1, checked, clearance => do
    match ← w.acquireTargetAnchor m p targetId deadline clearance with
    | none => return false
    | some anchor => do
      let profiled ← w.checkProfile checked
      if !profiled then return false
      else do
        let answer ← w.land m p targetId rounds deadline anchor
        if answer = .result .touchdown ∨ answer = .bool true then return true
        else if answer ≠ .result .retry ∨ retries = 0 then return false
        else do
          let hovering ← w.retryHover p deadline anchor
          if hovering then retryLoop targetId rounds deadline retries true none else return false

/-- The end of a pickup. -/
def attachPayload (targetId : ℕ) : PrecisionCall Unit := do
  w.permission
  w.requireZero "disarm" .disarm
  w.permission
  perform (.command (.attach targetId))
  let returned ← ask (w.command (.attach targetId))
  if returned = .bool true then perform (.done (.attach targetId))
  else throw (.raised "attachment was not independently confirmed")

/-- **`pickup_sequence`**, up to so many passes of each loop that has no bound. -/
def pickupSequence (targetId : ℕ) (supportsAttachment : Bool) (rounds : ℕ) : PrecisionCall Bool := do
  if !supportsAttachment then throw (.raised "FM3 requires explicit attachment capability")
  else do
    w.cameraReady
    let startedAt ← w.now
    perform (.pickup startedAt)
    w.permission
    w.requireZero "GUIDED mode" .setGuidedMode
    let deadline := startedAt + p.acquisitionTimeout
    let clearance ← w.readClearance m p
    w.permission
    let t ← w.now
    if deadline - t ≤ 0 then return false
    else do
      w.requireZero "acquisition altitude correction"
        (.moveRelative ⟨0, 0, clearance.projected - p.targetHoverHeight⟩ (deadline - t))
      let t ← w.now
      if deadline ≤ t then return false
      else do
        match ← w.hoverLoop m p deadline rounds with
        | none => return false
        | some clearance => do
          let down ← w.retryLoop m p targetId rounds deadline 2 false (some clearance)
          if down then do
            w.attachPayload targetId
            return true
          else return false

end PrecisionWorld

end DroneSim
