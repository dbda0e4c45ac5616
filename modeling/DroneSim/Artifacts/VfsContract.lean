/-
  File:      DroneSim/Artifacts/VfsContract.lean
  Subject:   The frozen VFS 2027 configuration (artifacts/vfs_contract.py).

  Judge, scorer and independent validator read one course and one scenario. The values are the
  dataclasses of the source over exact rationals: the binary fractions a run computes with are
  rationals, and every use the evaluators make of them is a comparison.

  A `VfsCourse` carries in the field `zones` that the seven zones the evaluators look up are
  among its waypoints, so `course.waypoint z` is total where the source indexes a mapping.
-/
import DroneSim.Library.Dict
import DroneSim.Library.Exact
import Mathlib.Data.List.Sort

namespace DroneSim

open Library

/-! ## 1. Vectors -/

structure Xyz where
  x : ℚ
  y : ℚ
  z : ℚ
  deriving DecidableEq, Repr

structure Xyzw where
  x : ℚ
  y : ℚ
  z : ℚ
  w : ℚ
  deriving DecidableEq, Repr

/-- The sum of the squared components. -/
def Xyz.normSq (v : Xyz) : ℚ := v.x * v.x + v.y * v.y + v.z * v.z

def Xyzw.normSq (q : Xyzw) : ℚ := q.x * q.x + q.y * q.y + q.z * q.z + q.w * q.w

/-- The orientation of a body that is not turned has a norm. -/
theorem Xyzw.unit_normSq : Xyzw.normSq ⟨0, 0, 0, 1⟩ ≠ 0 := by decide +kernel

/-- `int(seconds * 1e9)`. -/
def toNanoseconds (seconds : ℚ) : ℤ := truncate (seconds * 1000000000)

/-- The slack `1e-9` of every containment test. -/
def containmentSlack : ℚ := 1 / 1000000000

/-! ## 2. The course -/

structure VfsWaypoint where
  name : String
  x : ℚ
  y : ℚ
  role : String
  width : Option ℚ
  height : Option ℚ
  radius : Option ℚ
  deriving DecidableEq, Repr

/-- `VfsWaypoint.contains`: the point keeps `margin` from the zone's rim. -/
def VfsWaypoint.contains (w : VfsWaypoint) (x y margin : ℚ) : Bool :=
  match w.radius with
  -- hypot(x - self.x, y - self.y) + margin <= radius + 1e-9
  | some radius => hypotLe (x - w.x) (y - w.y) (radius + containmentSlack - margin)
  | none =>
    match w.width, w.height with
    | some width, some height =>
      decide (|x - w.x| + margin ≤ width / 2 + containmentSlack) &&
        decide (|y - w.y| + margin ≤ height / 2 + containmentSlack)
    | _, _ => hypotLe (x - w.x) (y - w.y) containmentSlack && decide (margin = 0)

structure VfsAttempt where
  durationSeconds : ℚ
  acquisitionAglM : ℚ
  transitAglM : ℚ
  releaseAglM : ℚ
  minimumAglM : ℚ
  inspectionTimeoutS : ℚ
  approvalTimeoutS : ℚ
  initialWaitTimeoutS : ℚ
  recoveryTimeoutS : ℚ
  groundContactEpsilonM : ℚ
  aircraftRadiusM : ℚ
  deriving DecidableEq, Repr

/-- The zones the evaluators look up by name. -/
inductive Zone where
  | H | S | D | L | A | B | C
  deriving DecidableEq, Repr

def Zone.all : List Zone := [.H, .S, .D, .L, .A, .B, .C]

theorem Zone.mem_all (z : Zone) : z ∈ Zone.all := by cases z <;> decide

def Zone.name : Zone → String
  | .H => "H"
  | .S => "S"
  | .D => "D"
  | .L => "L"
  | .A => "A"
  | .B => "B"
  | .C => "C"

structure VfsCourse where
  waypoints : Dict String VfsWaypoint
  attempt : VfsAttempt
  groundZM : ℚ
  zones : ∀ z ∈ Zone.all, (waypoints.get z.name).isSome = true

/-- `course.waypoints[name]` for the name of a zone. -/
def VfsCourse.waypoint (course : VfsCourse) (z : Zone) : VfsWaypoint :=
  (course.waypoints.get z.name).get (course.zones z z.mem_all)

/-- `int(float(course.attempt.duration_seconds) * 1e9)`. -/
def VfsCourse.durationNs (course : VfsCourse) : ℤ := toNanoseconds course.attempt.durationSeconds

/-! ## 3. The scenario -/

structure VfsPayloadGeometry where
  sizeM : Xyz
  waterMassKg : ℚ
  tareMassKg : ℚ
  markerSizeM : ℚ
  deriving DecidableEq, Repr

structure VfsPayloadInteraction where
  pickupMaxCenterErrorM : ℚ
  settlePositionToleranceM : ℚ
  settleTimeS : ℚ
  deriving DecidableEq, Repr

structure VfsPayload where
  arucoId : ℕ
  color : String
  initial : String
  delivery : String
  releaseOffsetXyM : ℚ × ℚ
  deriving DecidableEq, Repr

/-- The circles a payload can be assigned to. -/
inductive Target where
  | A | B | C
  deriving DecidableEq, Repr

def Target.zone : Target → Zone
  | .A => .A
  | .B => .B
  | .C => .C

structure VfsScenario where
  aircraftEmptyMassKg : ℚ
  payloadInteraction : VfsPayloadInteraction
  payloadGeometry : VfsPayloadGeometry
  payloads : List VfsPayload
  targets : Dict ℕ Target

/-- `int(scenario.payload_interaction.settle_time_s * 1e9)`. -/
def VfsScenario.settleNs (scenario : VfsScenario) : ℤ :=
  toNanoseconds scenario.payloadInteraction.settleTimeS

/-- `sorted(scenario.targets)`: the markers, smallest first. -/
def VfsScenario.markers (scenario : VfsScenario) : List ℕ :=
  scenario.targets.keys.insertionSort (· ≤ ·)

end DroneSim
