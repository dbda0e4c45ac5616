/-
  File:      DroneSim/Gazebo/PayloadTracker.lean
  Subject:   The join of one payload's truth (ros_adapter/payload.py, PayloadTracker).

  Poses, joint states and contacts of a payload come in on topics of their own. The tracker holds
  them and puts out one public state per pose tick, once the joint fact of the tick is there and a
  contact at the tick or behind it says that no earlier one can come. A sample that does not fit
  raises, and the first fault stays: every later call raises it again.

  * `acceptContact`, `acceptAttachment`, `acceptPose` -- the intake, each followed by `drain`;
  * `drainPoses` -- the loop over the poses held, oldest first;
  * `accept` -- one call, with the latch around it.

  What the machine's arithmetic makes of vectors is a parameter (`VectorRules`): which ones
  `_validate_vector` takes, and the velocity between two positions, which may overflow.
-/
import DroneSim.Artifacts.VfsContract
import DroneSim.Library.Dict

namespace DroneSim

open Library

variable {V Q : Type}

/-! ## 1. Data -/

structure VectorRules (V Q : Type) where
  zero : V
  finiteVector : V → Bool
  finiteQuaternion : Q → Bool
  /-- `(current - previous) / seconds`, `none` where a component is not finite. -/
  velocity : ℕ → V → V → Option V

/-- Vectors of exact numbers. -/
def exactVectors : VectorRules Xyz Xyzw where
  zero := ⟨0, 0, 0⟩
  finiteVector := fun _ => true
  finiteQuaternion := fun _ => true
  velocity := fun intervalNs current previous =>
    let seconds : ℚ := intervalNs / 1000000000
    some ⟨(current.x - previous.x) / seconds, (current.y - previous.y) / seconds,
      (current.z - previous.z) / seconds⟩

@[ext]
structure PublicPayloadState (V Q : Type) where
  runId : String
  simTimestampNs : ℕ
  arucoId : ℕ
  position : V
  orientation : Q
  linearVelocity : V
  grounded : Bool
  attached : Bool
  deriving DecidableEq

/-- `physical_state: bool | str`. -/
inductive PhysicalState where
  | flag (attached : Bool)
  | text (state : String)
  deriving DecidableEq

def PhysicalState.attached : PhysicalState → Option Bool
  | .flag attached => some attached
  | .text state =>
    if state = "attached" then some true
    else if state = "detached" then some false
    else none

inductive PayloadInput (V Q : Type) where
  | contact (simTimestampNs : ℕ) (grounded : Bool)
  | attachment (simTimestampNs : ℕ) (physicalState : PhysicalState)
  | pose (simTimestampNs : ℕ) (position : V) (orientation : Q)

/-- The state of `PayloadTracker`; the last two fields are what the constructor checks. -/
structure PayloadTracker (V Q : Type) where
  runId : String
  arucoId : ℕ
  intervalNs : ℕ
  lastPoseInputTimestampNs : Option ℕ
  lastPosition : Option V
  lastContactTimestampNs : Option ℕ
  lastAttachmentTimestampNs : Option ℕ
  contacts : Dict ℕ Bool
  attachments : Dict ℕ Bool
  poses : Dict ℕ (V × Q)
  acceptedPoses : ℕ
  faultReason : Option String
  arucoId_le : arucoId ≤ 65535
  intervalNs_pos : 0 < intervalNs

namespace PayloadTracker

variable (rules : VectorRules V Q) (s : PayloadTracker V Q) (timestampNs : ℕ)

/-- `PayloadTracker.__init__`. -/
def initial (runId : String) (arucoId intervalNs : ℕ) (hid : arucoId ≤ 65535)
    (hpos : 0 < intervalNs) : PayloadTracker V Q where
  runId := runId
  arucoId := arucoId
  intervalNs := intervalNs
  lastPoseInputTimestampNs := none
  lastPosition := none
  lastContactTimestampNs := none
  lastAttachmentTimestampNs := none
  contacts := .empty
  attachments := .empty
  poses := .empty
  acceptedPoses := 0
  faultReason := none
  arucoId_le := hid
  intervalNs_pos := hpos

/-! ## 2. The drain -/

/-- The newest contact at or before the tick, of those that are held. -/
def eligibleContact : Option ℕ :=
  (s.contacts.keys.filter fun stamp => stamp ≤ timestampNs).max?

/-- The contact that decides a tick, `none` where a better one may still come. -/
def contactAt : Except String (Option ℕ) :=
  match s.eligibleContact timestampNs with
  | none =>
    if s.lastContactTimestampNs.any fun last => timestampNs < last then
      .error "payload contact state is unknown"
    else .ok none
  | some stamp =>
    if stamp = timestampNs then .ok (some stamp)
    else if !s.lastContactTimestampNs.any fun last => timestampNs < last then .ok none
    else if s.intervalNs < timestampNs - stamp then
      .error "payload contact is older than one sample"
    else .ok (some stamp)

/-- Attached and grounded at a tick, `none` where the loop breaks off. -/
def factsAt : Except String (Option (Bool × Bool)) :=
  match s.attachments.get timestampNs with
  | none =>
    if s.lastAttachmentTimestampNs.any fun last => timestampNs < last then
      .error "payload joint truth is missing for pose tick"
    else .ok none
  | some attached => do
    match ← s.contactAt timestampNs with
    | none => pure none
    | some stamp => pure (some (attached, (s.contacts.get stamp).getD false))

/-- The oldest pose that is held. -/
def nextPose : Option (ℕ × V × Q) := do
  let timestampNs ← s.poses.keys.min?
  let pose ← s.poses.get timestampNs
  some (timestampNs, pose)

/-- The linear velocity at a position: zero at the first one. -/
def velocityAt (position : V) : Option V :=
  match s.lastPosition with
  | none => some rules.zero
  | some previous => rules.velocity s.intervalNs position previous

/-- `self._poses.pop` and `self._attachments.pop`. -/
def pop : PayloadTracker V Q :=
  { s with
    poses := s.poses.erase timestampNs
    attachments := s.attachments.erase timestampNs }

/-- The state once the tick is out: contacts older than one interval are forgotten. -/
def advance (position : V) : PayloadTracker V Q :=
  { s with
    lastPosition := some position
    acceptedPoses := s.acceptedPoses + 1
    contacts := s.contacts.filterKeys fun stamp => !decide (stamp + s.intervalNs < timestampNs) }

/-- The loop of `_drain`. -/
def drainPoses : ℕ → PayloadTracker V Q →
    PayloadTracker V Q × Except String (List (PublicPayloadState V Q))
  | 0, s => (s, .ok [])
  | n + 1, s =>
    match s.nextPose with
    | none => (s, .ok [])
    | some (timestampNs, position, orientation) =>
      match s.factsAt timestampNs with
      | .error reason => (s, .error reason)
      | .ok none => (s, .ok [])
      | .ok (some (attached, grounded)) =>
        match s.velocityAt rules position with
        | none => (s.pop timestampNs, .error "linear_velocity_xyz values must be finite numbers")
        | some velocity =>
          let (t, output) := drainPoses n ((s.pop timestampNs).advance timestampNs position)
          (t, output.map (⟨s.runId, timestampNs, s.arucoId, position, orientation, velocity,
            grounded, attached⟩ :: ·))

/-- `_drain`. -/
def drain : PayloadTracker V Q × Except String (List (PublicPayloadState V Q)) :=
  s.drainPoses rules s.poses.keys.length

/-! ## 3. Intake -/

/-- The stamp follows the last one at exactly one interval, or is the first one. -/
def paces (last : Option ℕ) (timestampNs : ℕ) : Bool :=
  match last with
  | none => timestampNs = s.intervalNs
  | some previous => (timestampNs : ℤ) - previous = s.intervalNs

/-- `accept_contact` up to its drain. -/
def acceptContact (grounded : Bool) : Except String (PayloadTracker V Q) :=
  if timestampNs = 0 then .error "sim_timestamp_ns must be a positive integer"
  else if s.lastContactTimestampNs.any fun last => timestampNs ≤ last then
    .error "contact timestamps must increase"
  else
    .ok { s with
      lastContactTimestampNs := some timestampNs
      contacts := s.contacts.set timestampNs grounded }

/-- `accept_attachment` up to its drain. -/
def acceptAttachment (physicalState : PhysicalState) : Except String (PayloadTracker V Q) :=
  if timestampNs = 0 then .error "sim_timestamp_ns must be a positive integer"
  else
    match physicalState.attached with
    | none => .error "physical joint state must be exactly attached or detached"
    | some attached =>
      if !s.paces s.lastAttachmentTimestampNs timestampNs then
        .error ((if s.lastAttachmentTimestampNs.isNone then "first joint truth must be exactly "
          else "joint truth timestamps must advance by exactly ") ++ toString s.intervalNs ++ " ns")
      else
        .ok { s with
          lastAttachmentTimestampNs := some timestampNs
          attachments := s.attachments.set timestampNs attached }

/-- `accept_pose` up to its drain. -/
def acceptPose (position : V) (orientation : Q) : Except String (PayloadTracker V Q) :=
  if timestampNs = 0 then .error "sim_timestamp_ns must be a positive integer"
  else if !rules.finiteVector position then
    .error "position_xyz values must be finite numbers"
  else if !rules.finiteQuaternion orientation then
    .error "orientation_xyzw values must be finite numbers"
  else if !s.paces s.lastPoseInputTimestampNs timestampNs then
    .error ((if s.lastPoseInputTimestampNs.isNone then "first payload pose must be exactly "
      else "payload pose timestamps must advance by exactly ") ++ toString s.intervalNs ++ " ns")
  else
    .ok { s with
      lastPoseInputTimestampNs := some timestampNs
      poses := s.poses.set timestampNs (position, orientation) }

/-- The intake of one sample, before the drain. -/
def intake : PayloadInput V Q → Except String (PayloadTracker V Q)
  | .contact timestampNs grounded => s.acceptContact timestampNs grounded
  | .attachment timestampNs physicalState => s.acceptAttachment timestampNs physicalState
  | .pose timestampNs position orientation => s.acceptPose rules timestampNs position orientation

/-- `_latch`. -/
def latch (reason : String) : PayloadTracker V Q × Except String (List (PublicPayloadState V Q)) :=
  let fault := "payload " ++ toString s.arucoId ++ " tracker faulted: " ++ reason
  ({ s with faultReason := some fault }, .error fault)

/-- **One call**: the intake and the drain, where nothing has faulted yet. -/
def accept (input : PayloadInput V Q) :
    PayloadTracker V Q × Except String (List (PublicPayloadState V Q)) :=
  match s.faultReason with
  | some fault => (s, .error fault)
  | none =>
    match s.intake rules input with
    | .error reason => s.latch reason
    | .ok t =>
      match t.drain rules with
      | (t, .error reason) => t.latch reason
      | (t, .ok output) => (t, .ok output)

end PayloadTracker

end DroneSim
