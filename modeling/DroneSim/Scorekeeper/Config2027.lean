/-
  File:      DroneSim/Scorekeeper/Config2027.lean
  Subject:   The committed configuration (config/course-2027.yaml, config/scenario-2027.yaml,
             scorekeeper/rules/competition_2027_v1.json) and short forms for samples of a run.

  The concrete runs of the other files are runs of `setup2027` and `runtime2027`. Their decoder reads the texts of
  a given table of check requests, as `json.loads` reads them, and no other text.
-/
import DroneSim.Scorekeeper.Runtime

namespace DroneSim

open Library

/-! ## 1. Configuration -/

def circle (name : String) (x y radius : ℚ) (role : String) : String × VfsWaypoint :=
  (name, ⟨name, x, y, role, none, none, some radius⟩)

def rectangle (name : String) (x y width height : ℚ) (role : String) : String × VfsWaypoint :=
  (name, ⟨name, x, y, role, some width, some height, none⟩)

def spot (name : String) (x y : ℚ) (role : String) : String × VfsWaypoint :=
  (name, ⟨name, x, y, role, none, none, none⟩)

def waypoints2027 : Dict String VfsWaypoint := Dict.ofList
  [circle "H" 0 0 2.286 "home",
    rectangle "S" 0 0 15.24 19.812 "source",
    rectangle "D" (-91.44) 0 15.24 19.812 "drop",
    rectangle "L" (-30.48) 0 15.24 19.812 "landing",
    circle "A" (-86.106) 3.048 1.0668 "drop_target",
    circle "B" (-86.106) 0 0.762 "drop_target",
    circle "C" (-86.106) (-3.048) 0.4572 "drop_target",
    spot "P2" (-3) (-3) "payload_initial",
    spot "P3" (-3) 0 "payload_initial",
    spot "P4" (-3) 3 "payload_initial",
    spot "L2" (-30.48) (-3) "payload_delivery",
    spot "L3" (-30.48) 0 "payload_delivery",
    spot "L4" (-30.48) 3 "payload_delivery"]

def attempt2027 : VfsAttempt where
  durationSeconds := 600
  acquisitionAglM := 4.572
  transitAglM := 10
  releaseAglM := 10
  minimumAglM := 9.144
  inspectionTimeoutS := 30
  approvalTimeoutS := 60
  initialWaitTimeoutS := 30
  recoveryTimeoutS := 60
  groundContactEpsilonM := 0.002
  aircraftRadiusM := 0.45

def course2027 : VfsCourse where
  waypoints := waypoints2027
  attempt := attempt2027
  groundZM := 0
  zones := by decide +kernel

def scenario2027 : VfsScenario where
  aircraftEmptyMassKg := 1.66001
  payloadInteraction := ⟨0.075, 0.01, 1⟩
  payloadGeometry := ⟨⟨0.1524, 0.1524, 0.0762⟩, 1.36077711, 0.1, 0.1⟩
  payloads :=
    [⟨2, "red", "P2", "L2", (0, 0.28)⟩, ⟨3, "yellow", "P3", "L3", (-0.242, -0.14)⟩,
      ⟨4, "blue", "P4", "L4", (0.242, -0.14)⟩]
  targets := Dict.ofList [(2, .C), (3, .C), (4, .C)]

def rules2027 : VfsRules where
  rulesetId := "competition_2027_v1"
  scoringChecksum := "c9ee75c7f25e1f4aa70a3f984115b6d64184db74e0499a59fb4df7075fd1601c"
  pointAManual := 55
  pointAAutonomous := 65
  targetPoints := fun target => match target with
    | .A => 5
    | .B => 10
    | .C => 30
  recoveryPoints := 30
  autonomyBonus := 15
  timeBonuses := [(0, 0), (30, 1), (60, 3), (90, 5), (120, 7), (150, 9), (180, 11), (210, 13),
    (240, 15)]
  weightMultipliers := [(10, 1.5), (12, 1.4), (14, 1.3), (16, 1.2), (18, 1.1), (20, 1.05),
    (10 ^ 300, 1)]
  deductionPoints := 25
  weightMultipliers_ne := List.cons_ne_nil _ _

/-- The weight of the aircraft and one empty payload in pounds. -/
def unloadedWeightLb (scenario : VfsScenario) : ℚ :=
  (scenario.aircraftEmptyMassKg + scenario.payloadGeometry.tareMassKg) * 2.2046226218487757

/-! ## 2. Samples -/

def runId2027 : String := "00000000-0000-4000-8000-000000002027"

namespace Sample2027

/-- Milliseconds. -/
def ms (n : ℕ) : ℕ := n * 1000000

/-- A truth sample at `ns`. -/
def truthAt (ns : ℕ) (x y z : ℚ) (inContact : Bool) : GroundTruthSample :=
  ⟨runId2027, ns, ⟨x, y, z⟩, inContact⟩

/-- On the ground at the origin, inside the home circle. -/
def homeAt (ns : ℕ) : GroundTruthSample := truthAt ns 0 0 0 true

/-- Ten metres above the origin. -/
def aloftAt (ns : ℕ) : GroundTruthSample := truthAt ns 0 0 10 false

def statusAt (ns sequenceId : ℕ) (armed : Bool) : VehicleStatusSample :=
  ⟨runId2027, ns, sequenceId, armed, "GUIDED", false⟩

/-- A payload that rests upright and detached at a point of the ground. -/
def restingAt (ns marker : ℕ) (x y : ℚ) : PayloadStateSample where
  runId := runId2027
  simTimestampNs := ns
  arucoId := marker
  positionXyz := ⟨x, y, 0.0381⟩
  orientationXyzw := ⟨0, 0, 0, 1⟩
  linearVelocityXyz := ⟨0, 0, 0⟩
  grounded := true
  attached := false
  orientation_ne := Xyzw.unit_normSq

/-- The payload waits at its initial place in the source zone. -/
def waitingAt (ns marker : ℕ) : PayloadStateSample := restingAt ns marker (-3) (3 * (marker - 3))

/-- The payload rests at the middle of its target circle C. -/
def deliveredAt (ns marker : ℕ) : PayloadStateSample := restingAt ns marker (-86.106) (-3.048)

def startedAt (ns eventId : ℕ) (phase : String) : MissionEventSample :=
  ⟨runId2027, ns, eventId, phase, "STARTED", ""⟩

/-- The text of a check request. -/
def requestText (checkpoint requestId : String) : String :=
  "\x7b\"checkpoint\":\"" ++ checkpoint ++ "\",\"request_id\":\"" ++ requestId ++ "\"\x7d"

def checkAt (ns eventId : ℕ) (phase checkpoint requestId : String) : MissionEventSample :=
  ⟨runId2027, ns, eventId, phase, "CHECK_REQUESTED", requestText checkpoint requestId⟩

/-- What `json.loads` answers on the texts of the given requests. -/
def loads (requests : List (String × String)) : JsonLoads := fun text =>
  (requests.find? fun r => requestText r.1 r.2 = text).map fun r =>
    .obj [("checkpoint", .str r.1), ("request_id", .str r.2)]

end Sample2027

/-- A judge of the committed configuration that can read the given requests. -/
def setup2027 (requests : List (String × String)) : JudgeSetup :=
  ⟨runId2027, course2027, scenario2027, Sample2027.loads requests⟩

/-- A runtime of the committed configuration. -/
def runtime2027 (requests : List (String × String)) : RuntimeSetup :=
  ⟨setup2027 requests, ⟨runId2027, rules2027, course2027, scenario2027,
    unloadedWeightLb scenario2027⟩⟩

end DroneSim
