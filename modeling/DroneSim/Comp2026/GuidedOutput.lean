/-
  File:      DroneSim/Comp2026/GuidedOutput.lean
  Subject:   The output of GUIDED mission items (control/drone_control.py).

  Operations in threads of their own send MISSION_ITEM_INT current=2 to one flight controller, whose
  MISSION_ACKs arrive at any time. Four of them send in the transaction of
  `_send_mission_acknowledged`; `send_guided_waypoint` sends outside of it. One step is one thing
  that a thread does to what the threads share, or an ACK that arrives. Validation, permission,
  deadlines and interruptions are the choice between a step and the one that raises in its place.
-/
import DroneSim.Library.Run
import Mathlib.Data.Int.Notation
import Mathlib.Logic.Function.Basic

namespace DroneSim

open Library

/-! ## 1. MISSION_ACKs -/

/-- `MissionAck`. -/
structure MissionAck where
  sequence : ℕ
  result : ℤ
  deriving DecidableEq, Repr

/-- `MissionAckTracker`; the last ACK comes last. -/
structure MissionAckTracker where
  sequence : ℕ
  acks : List MissionAck

/-- The peers and the mission type that a tracker is pinned to. -/
structure MissionAckIdentity where
  sourceSystem : ℤ
  sourceComponent : ℤ
  targetSystem : ℤ
  targetComponent : ℤ
  missionType : ℤ

/-- A MISSION_ACK; `result` is `none` where it is no integer, `source` where asking for it raises. -/
structure MissionAckMessage where
  result : Option ℤ
  source : Option (ℤ × ℤ)
  targetSystem : Option ℤ
  targetComponent : Option ℤ
  missionType : ℤ

/-- `MAV_MISSION_ACCEPTED`. -/
def missionAccepted : ℤ := 0

namespace MissionAckTracker

def created : MissionAckTracker := ⟨0, []⟩

/-- `deque(maxlen=256)`. -/
@[irreducible] def maxAcks : ℕ := 256

/-- What the deque keeps. -/
def trimmed (acks : List MissionAck) : List MissionAck := acks.drop (acks.length - maxAcks)

/-- The result that `observe_message` takes from a message. -/
def accepts (c : MissionAckIdentity) (message : MissionAckMessage) : Option ℤ :=
  if message.source = some (c.sourceSystem, c.sourceComponent) ∧
      message.targetSystem = some c.targetSystem ∧
      message.targetComponent = some c.targetComponent ∧ message.missionType = c.missionType then
    message.result
  else none

/-- `observe_message`, for a message that was accepted. -/
def observed (result : ℤ) (tracker : MissionAckTracker) : MissionAckTracker :=
  ⟨tracker.sequence + 1, trimmed (tracker.acks ++ [⟨tracker.sequence + 1, result⟩])⟩

/-- `result_after`. -/
def resultAfter (tracker : MissionAckTracker) (boundary : ℕ) : Option ℤ :=
  (tracker.acks.find? fun ack => decide (boundary < ack.sequence)).map MissionAck.result

end MissionAckTracker

/-! ## 2. The operations -/

/-- The operations that send MISSION_ITEM_INT current=2. -/
inductive Emitter where
  | gotoWaypoint
  | gotoRecoveryWaypoint
  | climb
  | holdWaypointUntilStable
  | sendGuidedWaypoint
  deriving DecidableEq, Repr

/-- What an operation raises: a `MissionAckError`, another `FlightOperationError`, or anything else. -/
inductive OutputError where
  | missionAck
  | flightOperation
  | other
  deriving DecidableEq, Repr

/-- How far a thread has come. `sending` and `awaiting` are inside the transaction, before and after
    its boundary; `unguarded` is `send_guided_waypoint` after its packet. -/
inductive EmitterPhase where
  | idle
  | running (emitter : Emitter) (sent : Bool)
  | sending (emitter : Emitter)
  | awaiting (emitter : Emitter) (boundary : ℕ)
  | unguarded
  deriving DecidableEq, Repr

/-- The operation may enter the transaction: once, and again while it holds a waypoint. -/
def Emitter.mayTransact : Emitter → Bool → Bool
  | .sendGuidedWaypoint, _ => false
  | .holdWaypointUntilStable, _ => true
  | _, sent => !sent

/-- Where an exception in the transaction leaves the operation: `hold_waypoint_until_stable` goes on
    after a `FlightOperationError` that is no `MissionAckError`. -/
def Emitter.afterError : Emitter → OutputError → EmitterPhase
  | .holdWaypointUntilStable, .flightOperation => .running .holdWaypointUntilStable false
  | _, _ => .idle

/-- What the threads of one `DroneControl` share, and their phases. -/
structure DroneOutput where
  tracker : MissionAckTracker
  missionAckFailed : Bool
  holder : Option ℕ
  phase : ℕ → EmitterPhase

inductive OutputNote where
  | enqueued (thread : ℕ)
  | acknowledged (result : ℤ)
  | succeeded (thread : ℕ)
  | failed (thread : ℕ)
  deriving DecidableEq, Repr

/-- What happens next. -/
inductive OutputInput where
  | call (thread : ℕ) (emitter : Emitter)
  | leave (thread : ℕ)
  | acquire (thread : ℕ)
  | abandon (thread : ℕ) (error : OutputError)
  | enqueue (thread : ℕ)
  | enqueueRaises (thread : ℕ) (error : OutputError)
  | poll (thread : ℕ)
  | fail (thread : ℕ) (error : OutputError)
  | sendUnguarded (thread : ℕ)
  | returnUnguarded (thread : ℕ)
  | failUnguarded (thread : ℕ)
  | ack (message : MissionAckMessage)

namespace DroneOutput

def created : DroneOutput := ⟨.created, false, none, fun _ => .idle⟩

/-- A thread in another phase. -/
def setPhase (thread : ℕ) (phase : EmitterPhase) (s : DroneOutput) : DroneOutput :=
  { s with phase := Function.update s.phase thread phase }

/-- The transaction is left. -/
def released (thread : ℕ) (phase : EmitterPhase) (s : DroneOutput) : DroneOutput :=
  { s.setPhase thread phase with holder := none }

/-- The transaction is left after a failure past its boundary. -/
def latched (thread : ℕ) (phase : EmitterPhase) (s : DroneOutput) : DroneOutput :=
  { s.released thread phase with missionAckFailed := true }

/-! ## 3. Steps -/

/-- **The steps.** -/
inductive Step (c : MissionAckIdentity) :
    DroneOutput → OutputInput → List OutputNote → DroneOutput → Prop where
  | call {s thread} (emitter : Emitter) (h : s.phase thread = .idle) :
    Step c s (.call thread emitter) [] (s.setPhase thread (.running emitter false))
  | leave {s thread emitter sent} (h : s.phase thread = .running emitter sent) :
    Step c s (.leave thread) [] (s.setPhase thread .idle)
  -- `_send_mission_acknowledged`: the lock, and the latch under it
  | refused {s thread emitter sent} (h : s.phase thread = .running emitter sent)
    (hmay : emitter.mayTransact sent = true) (hfree : s.holder = none)
    (hfailed : s.missionAckFailed = true) : Step c s (.acquire thread) [] (s.setPhase thread .idle)
  | acquired {s thread emitter sent} (h : s.phase thread = .running emitter sent)
    (hmay : emitter.mayTransact sent = true) (hfree : s.holder = none)
    (hopen : s.missionAckFailed = false) :
    Step c s (.acquire thread) [] { s.setPhase thread (.sending emitter) with holder := some thread }
  -- `_send_guarded` up to the boundary
  | abandoned {s thread emitter} (h : s.phase thread = .sending emitter) (error : OutputError) :
    Step c s (.abandon thread error) [] (s.released thread (emitter.afterError error))
  | enqueued {s thread emitter} (h : s.phase thread = .sending emitter) :
    Step c s (.enqueue thread) [.enqueued thread]
      (s.setPhase thread (.awaiting emitter s.tracker.sequence))
  | enqueueRaised {s thread emitter} (h : s.phase thread = .sending emitter) (error : OutputError) :
    Step c s (.enqueueRaises thread error) [.failed thread]
      (s.latched thread (emitter.afterError error))
  -- the wait for an ACK past the boundary
  | pending {s thread emitter boundary} (h : s.phase thread = .awaiting emitter boundary)
    (hresult : s.tracker.resultAfter boundary = none) : Step c s (.poll thread) [] s
  | succeeded {s thread emitter boundary} (h : s.phase thread = .awaiting emitter boundary)
    (hresult : s.tracker.resultAfter boundary = some missionAccepted) :
    Step c s (.poll thread) [.succeeded thread] (s.released thread (.running emitter true))
  | rejected {s thread emitter boundary result} (h : s.phase thread = .awaiting emitter boundary)
    (hresult : s.tracker.resultAfter boundary = some result) (hrejected : result ≠ missionAccepted) :
    Step c s (.poll thread) [.failed thread] (s.latched thread (emitter.afterError .missionAck))
  | failed {s thread emitter boundary} (h : s.phase thread = .awaiting emitter boundary)
    (error : OutputError) :
    Step c s (.fail thread error) [.failed thread] (s.latched thread (emitter.afterError error))
  -- `send_guided_waypoint`
  | sentUnguarded {s thread} (h : s.phase thread = .running .sendGuidedWaypoint false) :
    Step c s (.sendUnguarded thread) [.enqueued thread] (s.setPhase thread .unguarded)
  | returnedUnguarded {s thread} (h : s.phase thread = .unguarded) :
    Step c s (.returnUnguarded thread) [.succeeded thread] (s.setPhase thread .idle)
  | failedUnguarded {s thread} (h : s.phase thread = .unguarded) :
    Step c s (.failUnguarded thread) [.failed thread] (s.setPhase thread .idle)
  -- the listener of MISSION_ACK
  | ignored {s message} (h : MissionAckTracker.accepts c message = none) :
    Step c s (.ack message) [] s
  | acknowledged {s message result} (h : MissionAckTracker.accepts c message = some result) :
    Step c s (.ack message) [.acknowledged result] { s with tracker := s.tracker.observed result }

end DroneOutput

end DroneSim
