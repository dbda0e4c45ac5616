/-
  File:      DroneSim/Companion/PrecisionLanding.lean
  Subject:   Geometry and policy values of precision landing (companion/precision_landing.py).

  The formulas are the source's, on the machine's numbers.
-/
import DroneSim.Library.Dict
import DroneSim.Library.MachineFloat

namespace DroneSim

open Library MachineFloat

/-! ## 1. Policy values -/

def targetHealthNs : ℤ := 500000000
def holdTimeoutNs : ℤ := 5000000000
def holdRefreshNs : ℤ := 200000000
def precisionTimeoutNs : ℤ := 60000000000
def reacquireFrames : ℕ := 5

section

variable {R : Type} [MachineFloat R]

def nearGroundM : R := 0.75
def anchorDriftM : R := 0.20

/-- An entry of `PRECISION_PARAMETERS`; `exact` where the expected value is an integer. -/
structure ProfileParameter (R : Type) where
  name : String
  expected : R
  exact : Bool

/-- `PRECISION_PARAMETERS`. -/
def precisionParameters : List (ProfileParameter R) :=
  [⟨"LAND_SPD_MS", 0.50, false⟩, ⟨"PLND_ENABLED", 1.0, true⟩, ⟨"PLND_TYPE", 1.0, true⟩,
    ⟨"PLND_EST_TYPE", 0.0, true⟩, ⟨"PLND_LAG", 0.08, false⟩, ⟨"PLND_XY_DIST_MAX", 0.50, false⟩,
    ⟨"PLND_STRICT", 2.0, true⟩, ⟨"PLND_RET_MAX", 1.0, true⟩, ⟨"PLND_TIMEOUT", 0.50, false⟩,
    ⟨"PLND_ALT_MIN", 0.75, false⟩, ⟨"PLND_ALT_MAX", 8.0, false⟩, ⟨"PLND_OPTIONS", 4.0, true⟩]

/-- `profile_matches`. -/
def profileMatches (values : Dict String R) : Bool :=
  precisionParameters.all fun parameter =>
    match values.get parameter.name with
    | none => false
    | some actual =>
      isFinite actual &&
        if parameter.exact then equals actual parameter.expected
        else isClose actual parameter.expected

end

/-! ## 2. Geometry -/

structure MarkerAnchor (R : Type) where
  arucoId : ℤ
  latitudeDeg : R
  longitudeDeg : R
  acquiredAtNs : ℤ
  frameSequence : ℤ

structure BodyFrd (R : Type) where
  forwardM : R
  rightM : R
  downM : R
  deriving DecidableEq

/-- `MarkerObservation` (companion/configured_vision.py). -/
structure MarkerObservation (R : Type) where
  arucoId : ℤ
  sequence : ℤ
  exposureTimestampNs : ℤ
  receiptTimestampNs : ℤ
  vector : BodyFrd R

/-- `RangeObservation` (companion/configured_vision.py). -/
structure RangeObservation (R : Type) where
  timestampNs : ℤ
  distanceM : R

/-- Where the vehicle was and how it stood. -/
structure Pose (R : Type) where
  latitudeDeg : R
  longitudeDeg : R
  rollRad : R
  pitchRad : R
  yawRad : R

section

variable {R : Type} [MachineFloat R]

/-- `marker_offset_ne`. -/
def markerOffsetNe (v : BodyFrd R) (rollRad pitchRad yawRad : R) : R × R :=
  let cr := cos rollRad
  let sr := sin rollRad
  let cp := cos pitchRad
  let sp := sin pitchRad
  let cy := cos yawRad
  let sy := sin yawRad
  (cy * cp * v.forwardM + (cy * sp * sr - sy * cr) * v.rightM + (cy * sp * cr + sy * sr) * v.downM,
    sy * cp * v.forwardM + (sy * sp * sr + cy * cr) * v.rightM + (sy * sp * cr - cy * sr) * v.downM)

/-- `offset_gps`. -/
def offsetGps (latitudeDeg longitudeDeg northM eastM : R) : R × R :=
  let radius : R := 6378137.0
  (latitudeDeg + degrees (northM / radius),
    longitudeDeg + degrees (eastM / (radius * cos (radians latitudeDeg))))

/-- `horizontal_distance_m`. -/
def horizontalDistanceM (first second : R × R) : R :=
  let latitude := radians ((first.1 + second.1) / 2.0)
  let north := radians (second.1 - first.1) * 6378137.0
  let east := radians (second.2 - first.2) * cos latitude * 6378137.0
  hypot north east

end

end DroneSim
