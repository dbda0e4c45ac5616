/-
  File:      DroneSim/Artifacts/VfsValidators.lean
  Subject:   The checks of the VFS configuration (artifacts/vfs_contract.py, `validate_vfs_course`,
             `validate_vfs_scenario`, `validate_vfs_configuration`).

  The validators take a decoded YAML document apart and refuse what is missing, unknown or out of
  range. The types of `VfsContract` hold what is left once the shapes are right, so each validator
  is here the test it makes of the values; the fields no evaluator reads (seed, camera, range
  sensor, assumptions) are left out. A margin is half the diagonal of the payload and no fraction,
  so it is passed on by its square.
-/
import DroneSim.Artifacts.VfsContract

namespace DroneSim

open Library

/-! ## 1. The course -/

/-- A waypoint has a radius, or width and height, or neither, and all of them positive. -/
def VfsWaypoint.wellShaped (w : VfsWaypoint) : Bool :=
  w.name != "" && w.role != "" &&
    match w.radius, w.width, w.height with
    | none, none, none => true
    | some radius, none, none => decide (0 < radius)
    | none, some width, some height => decide (0 < width) && decide (0 < height)
    | _, _, _ => false

def requiredWaypoints : List String :=
  ["H", "S", "D", "L", "A", "B", "C", "P2", "P3", "P4", "L2", "L3", "L4"]

/-- Every limit of the attempt is positive; the duration and the minimum altitude are fixed. -/
def VfsAttempt.valid (a : VfsAttempt) : Bool :=
  ([a.durationSeconds, a.acquisitionAglM, a.transitAglM, a.releaseAglM, a.minimumAglM,
      a.inspectionTimeoutS, a.approvalTimeoutS, a.initialWaitTimeoutS, a.recoveryTimeoutS,
      a.groundContactEpsilonM, a.aircraftRadiusM].all fun value => decide (0 < value)) &&
    a.durationSeconds == 600 && a.minimumAglM == 9.144 &&
    decide (a.minimumAglM ≤ min a.transitAglM a.releaseAglM)

/-- `validate_vfs_course`. -/
def validateVfsCourse (course : VfsCourse) : Bool :=
  (requiredWaypoints.all fun name => (course.waypoints.get name).isSome) &&
    (course.waypoints.items.all fun p => p.2.wellShaped && p.1 == p.2.name) &&
    ([Zone.H, .A, .B, .C].all fun z => (course.waypoint z).radius.isSome) &&
    ([Zone.S, .D, .L].all fun z => (course.waypoint z).width.isSome) &&
    (course.waypoint .H).x == 0 && (course.waypoint .H).y == 0 &&
    (course.waypoint .S).contains 0 0 ((course.waypoint .H).radius.getD 0) &&
    ([Zone.A, .B, .C].all fun z => (course.waypoint .D).contains (course.waypoint z).x
      (course.waypoint z).y ((course.waypoint z).radius.getD 0)) &&
    course.attempt.valid && course.groundZM == 0

/-! ## 2. The scenario -/

/-- `VFS_PAYLOAD_IDS`. -/
def vfsPayloadIds : List ℕ := [2, 3, 4]

def VfsPayloadInteraction.valid (i : VfsPayloadInteraction) : Bool :=
  [i.pickupMaxCenterErrorM, i.settlePositionToleranceM, i.settleTimeS].all fun value =>
    decide (0 < value)

def VfsPayloadGeometry.valid (g : VfsPayloadGeometry) : Bool :=
  ([g.sizeM.x, g.sizeM.y, g.sizeM.z, g.waterMassKg, g.tareMassKg, g.markerSizeM].all fun value =>
      decide (0 < value)) &&
    decide (1.36077711 ≤ g.waterMassKg) &&
    decide (max (max g.sizeM.x g.sizeM.y) g.sizeM.z ≤ 1.2192) &&
    g.markerSizeM == 0.1 && decide (g.markerSizeM ≤ min g.sizeM.x g.sizeM.y)

def VfsPayload.valid (p : VfsPayload) : Bool :=
  vfsPayloadIds.contains p.arucoId && ["red", "yellow", "blue"].contains p.color &&
    p.initial != "" && p.delivery != ""

/-- `validate_vfs_scenario`. -/
def validateVfsScenario (scenario : VfsScenario) : Bool :=
  scenario.payloadInteraction.valid && scenario.payloadGeometry.valid &&
    scenario.payloads.length == 3 && scenario.payloads.all VfsPayload.valid &&
    (scenario.payloads.map VfsPayload.arucoId).insertionSort (· ≤ ·) == vfsPayloadIds &&
    scenario.markers == vfsPayloadIds && decide (0 < scenario.aircraftEmptyMassKg)

/-! ## 3. Course and scenario -/

/-- `contains` with a margin given by its square. -/
def VfsWaypoint.containsRoot (w : VfsWaypoint) (x y marginSq : ℚ) : Bool :=
  match w.radius with
  | some radius =>
    sqrtAddLe ((x - w.x) * (x - w.x) + (y - w.y) * (y - w.y)) marginSq (radius + containmentSlack)
  | none =>
    match w.width, w.height with
    | some width, some height =>
      sqrtLe marginSq (width / 2 + containmentSlack - |x - w.x|) &&
        sqrtLe marginSq (height / 2 + containmentSlack - |y - w.y|)
    | _, _ => hypotLe (x - w.x) (y - w.y) containmentSlack && decide (marginSq = 0)

/-- `contains` of a circle, with the negative of a margin given by its square. -/
def VfsWaypoint.reaches (w : VfsWaypoint) (x y marginSq : ℚ) : Bool :=
  w.radius.any fun radius =>
    sqrtSubLe ((x - w.x) * (x - w.x) + (y - w.y) * (y - w.y)) marginSq (radius + containmentSlack)

/-- The square of half the payload's diagonal. -/
def VfsPayloadGeometry.marginSq (g : VfsPayloadGeometry) : ℚ :=
  (g.sizeM.x * g.sizeM.x + g.sizeM.y * g.sizeM.y) / 4

/-- What the loop of `validate_vfs_configuration` asks of one payload. -/
def placedInCourse (course : VfsCourse) (scenario : VfsScenario) (p : VfsPayload) : Bool :=
  let margin := scenario.payloadGeometry.marginSq
  match course.waypoints.get p.initial, course.waypoints.get p.delivery,
      scenario.targets.get p.arucoId with
  | some initial, some delivery, some target =>
    let zone := course.waypoint target.zone
    (course.waypoint .S).containsRoot initial.x initial.y margin &&
      !(course.waypoint .H).reaches initial.x initial.y margin &&
      (course.waypoint .L).containsRoot delivery.x delivery.y margin &&
      zone.containsRoot (zone.x + p.releaseOffsetXyM.1) (zone.y + p.releaseOffsetXyM.2) margin
  | _, _, _ => false

/-- `validate_vfs_configuration`. -/
def validateVfsConfiguration (course : VfsCourse) (scenario : VfsScenario) : Bool :=
  scenario.payloads.all (placedInCourse course scenario)

/-- **Course and scenario are accepted** by the three validators. -/
structure AcceptedConfiguration (course : VfsCourse) (scenario : VfsScenario) : Prop where
  courseValid : validateVfsCourse course = true
  scenarioValid : validateVfsScenario scenario = true
  configurationValid : validateVfsConfiguration course scenario = true

/-- An accepted home circle is a circle. -/
theorem AcceptedConfiguration.home {course : VfsCourse} {scenario : VfsScenario}
    (h : AcceptedConfiguration course scenario) : (course.waypoint .H).radius.isSome = true := by
  have hc := h.courseValid
  simp only [validateVfsCourse, Bool.and_eq_true, List.all_eq_true] at hc
  exact hc.1.1.1.1.1.1.1.2 .H (by simp)

end DroneSim
