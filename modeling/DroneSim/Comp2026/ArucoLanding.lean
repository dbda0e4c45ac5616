/-
  File:      DroneSim/Comp2026/ArucoLanding.lean
  Subject:   The hosted precision landing (mock_mission.py, aruco_land_precision).

  A landing tracks the marker in LAND mode until no observation was accepted for some time, and then
  holds in GUIDED mode until it has the marker again or gives up. One pass of its loop reads the clock
  up to six times and compares five of them with something.
-/
import DroneSim.Comp2026.PrecisionEvidence

namespace DroneSim

open Library Library.Attempt Library.Acting

/-! ## 1. The call -/

/-- `PRECISION_LAND_DEADLINE_S`. -/
def precisionLandDeadline : ℚ := 60

/-- `PRECISION_LANDING_MIN_AGL_M`. -/
def precisionLandingMinAgl : ℚ := 0.75

/-- `TARGET_HEALTH_TIMEOUT_S`. -/
def targetHealthTimeout : ℚ := 0.50

/-- `HOLD_TIMEOUT_S`. -/
def holdTimeout : ℚ := 5

/-- `HOLD_COMMAND_PERIOD_S`. -/
def holdCommandPeriod : ℚ := 0.20

/-- `ANCHOR_DRIFT_LIMIT_M`. -/
def anchorDriftLimit : ℚ := 0.20

/-- `REACQUIRE_FRAME_COUNT`. -/
def reacquireFrameCount : ℕ := 5

/-- The variables of a hold. -/
structure LandHold where
  startedAt : ℚ
  waypoint : GpsPoint
  nextCommandAt : ℚ
  reacquiredFrames : ℕ

/-- The variables of the loop; `hold` is there in the state `HOLD_REACQUIRE`. -/
structure LandState where
  lastSequence : ℤ
  lastHealthyAt : ℚ
  hold : Option LandHold

/-- What the call is given. -/
structure LandCall where
  targetId : ℕ
  anchor : Option GpsPoint
  /-- The parameter `deadline`. -/
  given : Option ℚ
  returnResult : Bool

/-- What the call returns. -/
inductive LandAnswer where
  | result (result : LandingResult)
  | bool (touchdown : Bool)
  deriving DecidableEq, Repr

/-- `finish`. -/
def LandCall.finish (c : LandCall) (result : LandingResult) : LandAnswer :=
  if c.returnResult then .result result else .bool (decide (result = .touchdown))

/-- `deadline`, of a call that started then. -/
def LandCall.deadline (c : LandCall) (startedAt : ℚ) : ℚ :=
  match c.given with
  | none => startedAt + precisionLandDeadline
  | some given => min given (startedAt + precisionLandDeadline)

namespace PrecisionWorld

variable (m : MathFunctions) (p : PrecisionPolicy) (w : PrecisionWorld) (c : LandCall)
variable (deadline : ℚ) (v : LandState)

/-- `_landing_observation_reason`. -/
def landingObservationReason (e : PrecisionEvidence) (reacquiring : Bool) : Option String :=
  match e.vector with
  | none => some "target_absent"
  | some vector =>
    if vector.z ≤ 0 then some "non_positive_down"
    else if reacquiring && decide (p.centeredTolerance < m.horizontalError e vector) then
      some "horizontal_error"
    else if c.anchor.any fun anchor =>
        decide (anchorDriftLimit < m.horizontalDistance (m.projectedTarget e vector) anchor) then
      some "anchor_drift"
    else none

/-- What is made of a reading, and the last sequence after it. -/
def judge : Except Unread PrecisionEvidence → ℤ × Judgement
  | .error .noFrame => (v.lastSequence, ⟨none, some "no_frame"⟩)
  | .error .unavailableEvidence => (v.lastSequence, ⟨none, some "unavailable_evidence"⟩)
  | .ok e =>
    if e.frameSequence ≤ v.lastSequence then (v.lastSequence, ⟨some e, some "not_new"⟩)
    else (e.frameSequence, ⟨some e, landingObservationReason m p c e v.hold.isSome⟩)

/-- `_touchdown_candidate`. -/
def touchdownCandidate : PrecisionCall Bool := do
  let snapshot ← ask w.flightSnapshot
  let explicitGround := snapshot.landedState.any fun landed =>
    landed.fresh && decide (landed.value = some 1)
  let freshAutoDisarm := snapshot.armed.any fun armed =>
    armed.fresh && decide (armed.value = some false)
  return explicitGround || freshAutoDisarm

/-- `_confirm_current_land`. -/
def confirmCurrentLand : PrecisionCall Unit := do
  w.permission
  let t ← w.now
  if deadline - t ≤ 0 then throw (.timeout "precision landing touchdown deadline expired")
  else w.requireZero "landing confirmation" (.confirmLanding (deadline - t))

/-- Raises where the deadline has come. -/
def requireTime : PrecisionCall Unit := do
  w.permission
  let t ← w.now
  if deadline ≤ t then throw (.timeout "precision landing touchdown deadline expired")
  else return ()

/-- The range guard of the tracking state: when the vehicle was seen near the ground. -/
def nearGround (v : LandState) : PrecisionCall (Option ℚ) := do
  if v.hold.isSome then return none
  else do
    match ← w.attemptClearance m p with
    | none => return none
    | some clearance =>
      if clearance.projected ≤ precisionLandingMinAgl then do
        let t ← w.now
        perform (.nearGround t)
        return some t
      else return none

/-- The reading of a pass, judged. -/
def observe (timeout : ℚ) : PrecisionCall (LandState × Judgement × ℚ) :=
  do
    let reading ← w.attemptEvidence m p c.targetId v.lastSequence timeout
    match reading with
    | .error _ => w.requireTime deadline
    | .ok _ => pure ()
    w.requireTime deadline
    let t ← w.now
    perform (.judged (judge m p c v reading).2 t)
    return ({ v with lastSequence := (judge m p c v reading).1 }, (judge m p c v reading).2, t)

/-- The end of a pass in the tracking state. -/
def track (j : Judgement) (t : ℚ) : PrecisionCall LandState := do
  match j.accepted with
  | some e => do
    w.permission
    w.requireZero "landing target" (.landingTarget e.vector)
    return { v with lastHealthyAt := t }
  | none =>
    if targetHealthTimeout ≤ t - v.lastHealthyAt then do
      w.permission
      w.requireZero "GUIDED mode" .setGuidedMode
      let snapshot ← ask w.flightSnapshot
      let (waypoint, _) ← w.location snapshot
      perform (.held t waypoint)
      return { v with hold := some ⟨t, waypoint, t, 0⟩ }
    else return v

/-- The waypoint of the hold, if it is due. -/
def sendHold (h : LandHold) (t : ℚ) : PrecisionCall LandHold := do
  if h.nextCommandAt ≤ t then do
    w.permission
    w.requireZero "GUIDED hold waypoint" (.guidedWaypoint h.waypoint)
    return { h with nextCommandAt := t + holdCommandPeriod }
  else return h

/-- The frames of the hold, and whether they are enough; then LAND mode again. -/
def countFrames (h : LandHold) (j : Judgement) (t : ℚ) : PrecisionCall (Option LandHold) := do
  match j.accepted with
  | some _ =>
    if reacquireFrameCount ≤ h.reacquiredFrames + 1 then do
      w.permission
      w.requireZero "LAND mode" .setLandMode
      perform (.reacquired t)
      return none
    else return some { h with reacquiredFrames := h.reacquiredFrames + 1 }
  | none => return some { h with reacquiredFrames := 0 }

/-- The end of a pass in the hold: the hold after it, or the end of the call. -/
def reacquire (h : LandHold) (j : Judgement) (t : ℚ) :
    PrecisionCall (Except LandingResult (Option LandHold)) := do
  let sent ← w.sendHold h t
  match ← w.countFrames sent j t with
  | none => return .ok none
  | some counted =>
    if holdTimeout ≤ t - counted.startedAt then return .error .retry
    else return .ok (some counted)

/-- The end of a pass. -/
def settle (j : Judgement) (t : ℚ) : PrecisionCall (Except LandingResult LandState) :=
  do
    match v.hold with
    | none => do
      let tracked ← w.track v j t
      return .ok tracked
    | some h =>
      match ← w.reacquire h j t with
      | .error result => return .error result
      | .ok none => return .ok { v with hold := none, lastHealthyAt := t }
      | .ok (some counted) => return .ok { v with hold := some counted }

/-- The touchdown. -/
def touchDown : PrecisionCall (Except LandingResult LandState) := do
  w.confirmCurrentLand deadline
  return .error .touchdown

/-- One pass of the loop: what the call returns, or the variables after it. -/
def landRound : PrecisionCall (Except LandingResult LandState) := do
  w.permission
  let t ← w.now
  if deadline - t ≤ 0 then throw (.timeout "precision landing touchdown deadline expired")
  else do
    let candidate ← w.touchdownCandidate
    if candidate then w.touchDown deadline
    else if deadline - t ≤ p.observationPeriod then w.touchDown deadline
    else do
      match ← w.nearGround m p v with
      | some healthyAt => do
        let _ ← w.sleepBounded p deadline
        return .ok { v with lastHealthyAt := healthyAt }
      | none => do
        let (seen, judgement, at') ← w.observe m p c deadline v (min p.frameTimeout (deadline - t))
        match ← w.settle seen judgement at' with
        | .error result => return .error result
        | .ok settled => do
          let _ ← w.sleepBounded p deadline
          return .ok settled

/-- The loop, for so many passes. -/
def landLoop (deadline : ℚ) : ℕ → LandState → PrecisionCall LandingResult
  | 0, _ => throw .cut
  | rounds + 1, v => do
    match ← w.landRound m p c deadline v with
    | .error result => return result
    | .ok settled => landLoop deadline rounds settled

/-- **`aruco_land_precision`**, up to so many passes of its loop. -/
def arucoLandPrecision (rounds : ℕ) : PrecisionCall LandAnswer := do
  w.cameraReady
  let startedAt ← w.now
  perform (.started startedAt)
  w.permission
  w.requireZero "LAND mode" .setLandMode
  let result ← w.landLoop m p c (c.deadline startedAt) rounds ⟨0, startedAt, none⟩
  return c.finish result

end PrecisionWorld

end DroneSim
