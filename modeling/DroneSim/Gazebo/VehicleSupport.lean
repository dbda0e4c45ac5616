/-
  File:      DroneSim/Gazebo/VehicleSupport.lean
  Subject:   The join of vehicle support (ros_adapter/aggregation.py, VehicleSupportTracker).

  Leg contacts, odometry and payload support come in on topics of their own. The tracker holds
  them by public epoch and puts out, epoch after epoch, the odometry and whether the vehicle is
  supported: a leg touches the ground in the epoch's interval, or a payload that is attached does
  at the epoch. A sample that does not fit raises, and the run ends.

  * `acceptLegContact`, `acceptOdometry`, `acceptPayload` -- the intake, each followed by `drain`;
  * `drainEpochs` -- the loop over the epochs with payload support, oldest first.
-/
import DroneSim.Artifacts.VfsContract
import DroneSim.Library.Dict
import DroneSim.Library.Run
import Mathlib.Data.List.Sort

namespace DroneSim

open Library

/-! ## 1. Data -/

structure NativeOdometry where
  simTimestampNs : ℕ
  positionXyz : Xyz
  orientationXyzw : Xyzw
  linearVelocityXyz : Xyz
  angularVelocityXyz : Xyz
  deriving DecidableEq, Repr

/-- `_COMPLETED_CAPACITY`. -/
def completedCapacity : ℕ := 20

/-- The state of `VehicleSupportTracker`; the last three fields are what the constructor checks. -/
structure VehicleSupportTracker where
  payloadIds : List ℕ
  intervalNs : ℕ
  legEpochs : Dict ℕ Bool
  lastLegStamp : Option ℕ
  lastOdometryStamp : Option ℕ
  odometryEpochs : Dict ℕ NativeOdometry
  payloadEpochs : Dict ℕ (Dict ℕ Bool)
  lastPayloadStamps : Dict ℕ ℕ
  payloadIds_ne : payloadIds ≠ []
  payloadIds_nodup : payloadIds.Nodup
  intervalNs_pos : 0 < intervalNs

/-- An epoch's odometry and whether the vehicle is supported. -/
abbrev Support := NativeOdometry × Bool

inductive SupportInput where
  | legContact (simTimestampNs : ℕ) (inContact : Bool)
  | odometry (sample : NativeOdometry)
  | payload (arucoId simTimestampNs : ℕ) (grounded attached : Bool)

namespace VehicleSupportTracker

variable (s : VehicleSupportTracker)

/-- `VehicleSupportTracker.__init__`. -/
def initial (payloadIds : List ℕ) (intervalNs : ℕ) (hne : payloadIds ≠ [])
    (hnodup : payloadIds.Nodup) (hpos : 0 < intervalNs) : VehicleSupportTracker where
  payloadIds := payloadIds
  intervalNs := intervalNs
  legEpochs := .empty
  lastLegStamp := none
  lastOdometryStamp := none
  odometryEpochs := .empty
  payloadEpochs := .empty
  lastPayloadStamps := .empty
  payloadIds_ne := hne
  payloadIds_nodup := hnodup
  intervalNs_pos := hpos

/-! ## 2. The drain -/

/-- `_epoch`: the end of the interval a stamp lies in. -/
def epochOf (intervalNs stampNs : ℕ) : ℕ := (stampNs + intervalNs - 1) / intervalNs * intervalNs

def epoch (stampNs : ℕ) : ℕ := epochOf s.intervalNs stampNs

/-- `set(payloads) == self._payload_ids`. -/
def coversIds (payloads : Dict ℕ Bool) : Bool :=
  payloads.keys.all s.payloadIds.contains && s.payloadIds.all payloads.keys.contains

/-- A later leg contact or a later odometry sample closes the epoch. -/
def closes (epoch : ℕ) : Bool :=
  (s.lastLegStamp.any fun stamp => epoch < s.epoch stamp) ||
    s.lastOdometryStamp.any fun stamp => epoch < stamp

/-- `leg_contact` of an epoch, `none` where it is still open. -/
def legContact (epoch : ℕ) : Option Bool :=
  match s.legEpochs.get epoch with
  | some contact => some contact
  | none => if s.closes epoch then some false else none

/-- What `_drain` puts out for an epoch, `none` where it breaks off. -/
def completed (epoch : ℕ) : Option Support :=
  match s.payloadEpochs.get epoch with
  | none => none
  | some payloads =>
    if !s.coversIds payloads then none
    else
      match s.odometryEpochs.get epoch, s.legContact epoch with
      | some odometry, some leg => some (odometry, leg || payloads.items.any fun p => p.2)
      | _, _ => none

/-- The state once the epoch is put out. -/
def pop (epoch : ℕ) : VehicleSupportTracker :=
  { s with
    odometryEpochs := s.odometryEpochs.erase epoch
    payloadEpochs := s.payloadEpochs.erase epoch
    legEpochs := s.legEpochs.filterKeys fun stamp => epoch < stamp }

/-- The loop of `_drain`. -/
def drainEpochs (s : VehicleSupportTracker) : List ℕ → VehicleSupportTracker × List Support
  | [] => (s, [])
  | epoch :: epochs =>
    match s.completed epoch with
    | none => (s, [])
    | some support =>
      let (t, output) := (s.pop epoch).drainEpochs epochs
      (t, support :: output)

/-- `_drain`. -/
def drain : Except String (VehicleSupportTracker × List Support) :=
  let (t, output) := s.drainEpochs (s.payloadEpochs.keys.insertionSort (· ≤ ·))
  if completedCapacity < t.payloadEpochs.keys.length ||
      completedCapacity < t.odometryEpochs.keys.length then
    .error "payload support lookahead is full"
  else .ok (t, output)

/-! ## 3. Intake -/

/-- `accept_leg_contact` up to its drain. -/
def acceptLegContact (stamp : ℕ) (inContact : Bool) : Except String VehicleSupportTracker :=
  if stamp = 0 then .error "native timestamp must be a positive integer"
  else if s.lastLegStamp.any fun last => stamp ≤ last then
    .error "leg contact timestamps must advance"
  else
    .ok { s with
      lastLegStamp := some stamp
      legEpochs := s.legEpochs.set (s.epoch stamp)
        ((s.legEpochs.get (s.epoch stamp)).getD false || inContact) }

/-- `accept_odometry` up to its drain. -/
def acceptOdometry (odometry : NativeOdometry) : Except String VehicleSupportTracker :=
  if odometry.simTimestampNs = 0 then .error "native timestamp must be a positive integer"
  else if odometry.simTimestampNs % s.intervalNs ≠ 0 then
    .error "support odometry must align with a public epoch"
  else if s.lastOdometryStamp.any fun last => odometry.simTimestampNs ≤ last then
    .error "support odometry timestamps must advance"
  else
    .ok { s with
      lastOdometryStamp := some odometry.simTimestampNs
      odometryEpochs := s.odometryEpochs.set odometry.simTimestampNs odometry }

/-- `accept_payload` up to its drain. -/
def acceptPayload (marker stamp : ℕ) (grounded attached : Bool) :
    Except String VehicleSupportTracker :=
  if !s.payloadIds.contains marker then .error "payload support ID is unknown"
  else if stamp = 0 then .error "native timestamp must be a positive integer"
  else
    let kept : VehicleSupportTracker :=
      { s with
        lastPayloadStamps := s.lastPayloadStamps.set marker stamp
        payloadEpochs := s.payloadEpochs.set stamp
          (((s.payloadEpochs.get stamp).getD .empty).set marker (grounded && attached)) }
    match s.lastPayloadStamps.get marker with
    | none =>
      if stamp ≠ s.intervalNs then
        .error "first payload support must match the first public epoch"
      else .ok kept
    | some previous =>
      if (stamp : ℤ) - previous ≠ s.intervalNs then
        .error "payload support timestamps must advance by one public epoch"
      else .ok kept

/-- The intake of one sample, before the drain. -/
def accept : SupportInput → Except String VehicleSupportTracker
  | .legContact stamp inContact => s.acceptLegContact stamp inContact
  | .odometry sample => s.acceptOdometry sample
  | .payload marker stamp grounded attached => s.acceptPayload marker stamp grounded attached

/-- **One sample**: the intake and the drain. -/
def step (i : SupportInput) : Except String (VehicleSupportTracker × List Support) :=
  s.accept i >>= drain

end VehicleSupportTracker

end DroneSim
