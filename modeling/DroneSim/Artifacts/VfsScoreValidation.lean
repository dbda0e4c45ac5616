/-
  File:      DroneSim/Artifacts/VfsScoreValidation.lean
  Subject:   The independent replay of a recorded run (artifacts/vfs_score_validation.py).

  After a run the validator reads the recording back and computes clock and eligibility again, by
  code of its own, from the physical rows alone. `eligibleFromPhysics` walks the payload states
  of a marker, `activeElapsedFromPhysics` the truths, statuses and started phases in the order of
  their stamps. Neither reads what the judge decided.

  A row of the recording has the fields of the message it records; the run id, which the decoder
  of the recording checks, is that of the run. Contact points are sorted by the angle around
  their mean; over the rationals the angles are compared by half plane and cross product.
-/
import DroneSim.Scorekeeper.Footprint

namespace DroneSim

open Library

/-! ## 1. The recording -/

structure PhysicalBagEvidence where
  groundTruth : List GroundTruthSample
  payloadStates : List PayloadStateSample
  missionEvents : List MissionEventSample
  vehicleStatuses : List VehicleStatusSample

/-! ## 2. Contact -/

/-- The quarter an angle of `atan2(y, x)` lies in: below, zero, above, straight back. -/
def angleClass (v : Point) : ℕ :=
  if v.2 < 0 then 0 else if 0 < v.2 then 2 else if 0 ≤ v.1 then 1 else 3

/-- `atan2` of the first vector is at most that of the second. -/
def angleLe (a b : Point) : Prop :=
  angleClass a < angleClass b ∨ angleClass a = angleClass b ∧ 0 ≤ a.1 * b.2 - a.2 * b.1

instance : DecidableRel angleLe := fun a b =>
  inferInstanceAs (Decidable (angleClass a < angleClass b ∨
    angleClass a = angleClass b ∧ 0 ≤ a.1 * b.2 - a.2 * b.1))

/-- The points by their angle around their mean. -/
def orderedByAngle (points : List Point) : List Point :=
  let n : ℚ := points.length
  let mean : Point := ((points.map Prod.fst).sum / n, (points.map Prod.snd).sum / n)
  points.insertionSort fun p q =>
    angleLe (p.1 - mean.1, p.2 - mean.2) (q.1 - mean.1, q.2 - mean.2)

/-- The point of the side closest to the centre is within the bound. -/
def sideWithin (center first second : Point) (bound : ℚ) : Bool :=
  let dx := second.1 - first.1
  let dy := second.2 - first.2
  let lengthSquared := dx * dx + dy * dy
  let fraction := if lengthSquared = 0 then 0 else
    max 0 (min 1 (((center.1 - first.1) * dx + (center.2 - first.2) * dy) / lengthSquared))
  hypotLe (first.1 + fraction * dx - center.1) (first.2 + fraction * dy - center.2) bound

/-- `contact_xy` of `_payload_contacts_waypoint`, nothing where the box is not on the ground. -/
def contactXy (sample : PayloadStateSample) (course : VfsCourse) (scenario : VfsScenario) :
    List Point :=
  let corners := boxCorners sample scenario.payloadGeometry.sizeM
  let minimumZ := lowestZ corners
  let epsilon := course.attempt.groundContactEpsilonM
  if |minimumZ - course.groundZM| > epsilon then []
  else (corners.filter fun p =>
      p.z ≤ minimumZ + epsilon && |p.z - course.groundZM| ≤ epsilon).map fun p => (p.x, p.y)

/-- `_payload_contacts_waypoint`. -/
def payloadContactsWaypoint (sample : PayloadStateSample) (waypoint : VfsWaypoint)
    (course : VfsCourse) (scenario : VfsScenario) : Bool :=
  let points := contactXy sample course scenario
  sample.grounded &&
    match waypoint.radius with
    | none => points.any fun p => waypoint.contains p.1 p.2 0
    | some radius =>
      let bound := radius + containmentSlack
      let ordered := orderedByAngle points
      (points.any fun p => hypotLe (p.1 - waypoint.x) (p.2 - waypoint.y) bound) ||
        points.length != 1 &&
          (ordered.zip (ordered.tail ++ ordered.take 1)).any fun s =>
            sideWithin (waypoint.x, waypoint.y) s.1 s.2 bound

/-- `_payload_contacts_target`, for a sample whose marker has a target. -/
def payloadContactsTarget (sample : PayloadStateSample) (course : VfsCourse)
    (scenario : VfsScenario) : Bool :=
  (scenario.targets.get sample.arucoId).any fun target =>
    payloadContactsWaypoint sample (course.waypoint target.zone) course scenario

/-! ## 3. Eligibility -/

/-- `stable` of the loop over the payload states. -/
def stableOnTarget (course : VfsCourse) (scenario : VfsScenario) (sample : PayloadStateSample) :
    Bool :=
  sqrtLe sample.linearVelocityXyz.normSq (1 / 10) && payloadContactsTarget sample course scenario

/-- The loop body: `stable_since` and `latest`. -/
def followMarker (course : VfsCourse) (scenario : VfsScenario) (decisionNs marker : ℕ)
    (r : Option ℕ × Option PayloadStateSample) (sample : PayloadStateSample) :
    Option ℕ × Option PayloadStateSample :=
  if sample.arucoId ≠ marker ∨ sample.simTimestampNs > decisionNs then r
  else if stableOnTarget course scenario sample then
    (match r.1 with
      | none => some sample.simTimestampNs
      | some since => some since, some sample)
  else (none, some sample)

/-- The test after the loop. -/
def settledOnTarget (scenario : VfsScenario) (decisionNs : ℕ)
    (r : Option ℕ × Option PayloadStateSample) : Bool :=
  match r with
  | (some since, some latest) =>
    fresh decisionNs latest.simTimestampNs evidenceFreshnessNs &&
      decide ((latest.simTimestampNs : ℤ) - since ≥ scenario.settleNs)
  | _ => false

/-- `_eligible_from_physics`. -/
def eligibleFromPhysics (decisionNs : ℕ) (evidence : PhysicalBagEvidence) (course : VfsCourse)
    (scenario : VfsScenario) : List ℕ :=
  scenario.markers.filter fun marker =>
    settledOnTarget scenario decisionNs
      (evidence.payloadStates.foldl (followMarker course scenario decisionNs marker) (none, none))

/-! ## 4. The active clock -/

/-- A row the clock reads. -/
inductive PhysicsEvent where
  | truth (row : GroundTruthSample)
  | status (row : VehicleStatusSample)
  | phase (row : MissionEventSample)

namespace PhysicsEvent

def stamp : PhysicsEvent → ℕ
  | .truth row => row.simTimestampNs
  | .status row => row.simTimestampNs
  | .phase row => row.simTimestampNs

/-- At one stamp truth comes before status, status before phase. -/
def priority : PhysicsEvent → ℕ
  | .truth _ => 0
  | .status _ => 1
  | .phase _ => 2

/-- The order of the sort key. -/
def le (a b : PhysicsEvent) : Prop :=
  a.stamp < b.stamp ∨ a.stamp = b.stamp ∧ a.priority ≤ b.priority

instance : DecidableRel le := fun a b =>
  inferInstanceAs (Decidable (a.stamp < b.stamp ∨ a.stamp = b.stamp ∧ a.priority ≤ b.priority))

end PhysicsEvent

/-- `events`, sorted by stamp and priority. -/
def physicsEvents (evidence : PhysicalBagEvidence) : List PhysicsEvent :=
  let starts := evidence.missionEvents.filter fun row => row.state == "STARTED"
  (evidence.groundTruth.map PhysicsEvent.truth ++ (evidence.vehicleStatuses.map PhysicsEvent.status
    ++ starts.map PhysicsEvent.phase)).insertionSort PhysicsEvent.le

/-- The local variables of `_active_elapsed_from_physics`. -/
structure ActiveClock where
  previousTruth : Option GroundTruthSample
  latestTruth : Option GroundTruthSample
  activeSince : Option ℕ
  accumulated : ℤ
  paused : Bool
  status : Option VehicleStatusSample
  phase : String
  fm2Airborne : Bool

namespace ActiveClock

variable (course : VfsCourse) (r : ActiveClock)

def start : ActiveClock := ⟨none, none, none, 0, false, none, "", false⟩

/-- `course.waypoints["H"].contains(row.position_xyz[:2], course.attempt.aircraft_radius_m)`. -/
def insideHome (row : GroundTruthSample) : Bool :=
  (course.waypoint .H).contains row.positionXyz.x row.positionXyz.y course.attempt.aircraftRadiusM

/-- The truth branch. -/
def noteTruth (row : GroundTruthSample) : ActiveClock :=
  let r := { r with latestTruth := some row }
  let r :=
    if r.previousTruth.any fun previous => previous.inContact && !row.inContact then
      let r := { r with fm2Airborne := r.fm2Airborne || r.phase == "FM2" }
      match r.activeSince with
      | none => { r with activeSince := some row.simTimestampNs, paused := false }
      | some _ => r
    else
      match r.activeSince with
      | none => r
      | some since =>
        if (r.previousTruth.any fun previous => !previous.inContact && row.inContact) &&
            r.phase == "FM3" && insideHome course row then
          { r with
            accumulated := r.accumulated + row.simTimestampNs - since
            activeSince := none
            paused := true }
        else r
  { r with previousTruth := some row }

/-- The status branch and the pause it may bring. -/
def noteStatus (row : VehicleStatusSample) : ActiveClock :=
  let r := { r with status := some row }
  match r.activeSince with
  | none => r
  | some since =>
    if r.phase == "FM2" && r.fm2Airborne && !row.armed &&
        r.latestTruth.any fun truth => truth.inContact && insideHome course truth &&
          decide ((row.simTimestampNs : ℤ) - truth.simTimestampNs ≤ 500000000) then
      { r with
        accumulated := r.accumulated + row.simTimestampNs - since
        activeSince := none
        paused := true }
    else r

/-- The phase branch. -/
def notePhase (row : MissionEventSample) : ActiveClock :=
  { r with
    phase := row.phase
    fm2Airborne := if row.phase == "FM2" then r.latestTruth.any fun truth => !truth.inContact
      else r.fm2Airborne }

/-- The loop body. -/
def note : PhysicsEvent → ActiveClock
  | .truth row => r.noteTruth course row
  | .status row => r.noteStatus course row
  | .phase row => r.notePhase row

/-- What the function returns after the loop. -/
def elapsed : Except String ℤ :=
  match r.latestTruth with
  | none => .error "VFS active clock lacks physical truth"
  | some truth =>
    match r.activeSince with
    | some since =>
      if r.paused then .ok r.accumulated else .ok (r.accumulated + truth.simTimestampNs - since)
    | none => .ok r.accumulated

end ActiveClock

/-- `_active_elapsed_from_physics`. -/
def activeElapsedFromPhysics (timestampNs : ℕ) (evidence : PhysicalBagEvidence)
    (course : VfsCourse) : Except String ℤ :=
  (((physicsEvents evidence).takeWhile fun event => decide (event.stamp ≤ timestampNs)).foldl
    (ActiveClock.note course) .start).elapsed

end DroneSim
