/-
  File:      DroneSim/Comp2026/CommandListener.lean
  Subject:   The QGC packet callbacks and everything that runs beside the execution owner
             (control/listener.py, QGCCommandListener).

  A callback takes its steps between those of other callbacks, of the owner and of abort requests:
  `callbackStep` is one of them, up to the next lock that it takes or gives back. `otherStep` is a
  step of any thread but the owner's. An acknowledgement is noted with what the supervisor has
  recorded for its command at that moment, and with what it had when the answer was found.
-/
import DroneSim.Comp2026.FlightState
import DroneSim.Comp2026.MissionRecovery
import DroneSim.Comp2026.SupervisorOrder

namespace DroneSim

open Library Library.Attempt Library.Acting QgcCommand

/-! ## 1. Packets -/

/-- A packet as the callback reads it. What is absent, or raises, is `none`. -/
structure QgcPacket where
  srcSystem : Option PyValue
  srcComponent : Option PyValue
  targetSystem : Option PyValue
  targetComponent : Option PyValue
  messageType : Option PyValue
  command : Option PyValue
  params : List (Option PyValue)
  seven : params.length = 7

/-- What of the flight profile the listener goes by. -/
structure QgcProfile where
  qgcSource : SourceIdentity
  companionTarget : SourceIdentity

/-- What an acknowledgement says. -/
inductive AckText where
  | accepted
  | temporarilyRejected
  | denied
  | unsupported
  | inProgress
  | succeeded
  | failed
  | aborted
  deriving DecidableEq, Repr

/-- The code of the text that a rejection carries: `_RESULT_CODES.get(result, ACK_DENIED)`. -/
def AckText.ofText (text : String) : AckText :=
  if text = "TEMPORARILY_REJECTED" then .temporarilyRejected
  else if text = "UNSUPPORTED" then .unsupported
  else .denied

def AckText.ofResult : TerminalResult → AckText
  | .succeeded => .succeeded
  | .failed => .failed
  | .aborted => .aborted

/-- What `admission_result` says, `None` as a denial. -/
def AckText.ofAdmission : Option AdmissionResult → AckText
  | some .inProgress => .inProgress
  | some .accepted => .accepted
  | some (.result result) => .ofResult result
  | none => .denied

namespace QgcPacket

/-- `_exact_id`. -/
def exactId : Option PyValue → Option ℤ
  | some (.int value) => if 1 ≤ value ∧ value ≤ 255 then some value else none
  | _ => none

/-- `_exact_command`. -/
def exactCommand : Option PyValue → Option ℤ
  | some (.int value) => if 0 ≤ value ∧ value ≤ 65535 then some value else none
  | _ => none

/-- `_trusted_identity`. -/
def trusted (profile : QgcProfile) (p : QgcPacket) : Bool :=
  exactId p.srcSystem = some profile.qgcSource.systemId &&
    exactId p.srcComponent = some profile.qgcSource.componentId &&
    exactId p.targetSystem = some profile.companionTarget.systemId &&
    exactId p.targetComponent = some profile.companionTarget.componentId

/-- `_message_type` is this text. -/
def hasType (p : QgcPacket) (name : String) : Bool :=
  match p.messageType with
  | some (.str value) => value = name
  | _ => false

/-- `float(value)` of a finite number. -/
def finiteFloat : Option PyValue → Option ℚ
  | some (.int value) => double value
  | some (.float value) => some value
  | _ => none

/-- The envelope of these parameters. -/
def envelopeOf (profile : QgcProfile) (command : ℤ) (values : List ℚ) (receivedAt : ℚ) :
    Option CommandEnvelope :=
  match values with
  | [] => none
  | token :: rest =>
    if token.den = 1 ∧ rest.all (fun value => value = 0) = true then
      some
        { sourceSystem := profile.qgcSource.systemId
          sourceComponent := profile.qgcSource.componentId
          targetSystem := profile.companionTarget.systemId
          targetComponent := profile.companionTarget.componentId
          command := command
          attemptId := token.num
          params := values.map .float
          receivedAt := .float receivedAt }
    else none

/-- `_decode_long`; the clock gives no finite number where it is `none`. -/
def decodeLong (profile : QgcProfile) (p : QgcPacket) (command : ℤ) (receivedAt : Option ℚ) :
    Option CommandEnvelope := do
  let values ← p.params.mapM finiteFloat
  let now ← receivedAt
  envelopeOf profile command values now

end QgcPacket

/-- `_same_request`. -/
def sameRequest (a b : CommandEnvelope) : Bool :=
  decide (a.sourceSystem = b.sourceSystem ∧ a.sourceComponent = b.sourceComponent ∧
    a.targetSystem = b.targetSystem ∧ a.targetComponent = b.targetComponent ∧
    a.command = b.command ∧ a.attemptId = b.attemptId ∧
    a.params.map PyValue.number = b.params.map PyValue.number)

/-! ## 2. The system -/

/-- An item of the command queue. What is no envelope may have a command all the same. -/
inductive QueueItem where
  | envelope (envelope : CommandEnvelope)
  | foreign (command : Option ℤ)

/-- Where a callback stands. From `deciding` to `recorded` it holds the admission lock. -/
inductive CallbackPhase where
  | idle
  | decoded (packet : QgcPacket) (envelope : CommandEnvelope)
  | entering (packet : QgcPacket) (envelope : CommandEnvelope)
  | deciding (packet : QgcPacket) (envelope : CommandEnvelope)
  /-- In `admit` of the abort command. -/
  | reserved (packet : QgcPacket) (envelope : CommandEnvelope)
  | latched (packet : QgcPacket) (envelope : CommandEnvelope)
  | admitted (packet : QgcPacket) (envelope : CommandEnvelope) (enqueue : Bool)
  | recorded (packet : QgcPacket) (envelope : CommandEnvelope)
  /-- The answer to a packet that no record plays a part in. -/
  | refusing (packet : QgcPacket) (command : ℤ) (text : AckText)
  /-- The answer, and the record that it was found with. -/
  | answering (packet : QgcPacket) (envelope : CommandEnvelope) (text : AckText)
      (seen : Option AdmissionResult)

/-- The supervisor with its recovery outcome, the listener, the queue, and the fields of the owner. -/
structure CommandSystem where
  supervisor : MissionSupervisor
  recoveryOutcome : Option RecoveryOutcome
  accepted : Dict ℤ CommandEnvelope
  queue : List QueueItem
  admitting : Option ℕ
  callback : ℕ → CallbackPhase
  missionStart : Option ℚ
  deadline : Option ℚ
  recoveryStarted : Bool

/-- What code outside raises, by the handler that it meets in the owner. -/
inductive OwnerRaised where
  | missionAbort
  | timeout
  | clock
  | authorityLost (reason : String)
  /-- Any other `Exception`. -/
  | exception
  deriving DecidableEq, Repr

/-- Where the owner reads the clock. -/
inductive ClockPlace where
  /-- To bound the wait for the queue. -/
  | wait
  /-- With the queue empty. -/
  | idle
  /-- With a command in hand. -/
  | command
  deriving DecidableEq, Repr

inductive PhaseState where
  | started
  | complete
  deriving DecidableEq, Repr

/-- `permission_check`, which returns or raises one of these. -/
inductive PermissionAnswer where
  | granted
  /-- It returns something but `None`. -/
  | something
  | authorityLost (reason : String)
  | missionAbort
  | timeout
  | clock
  deriving DecidableEq, Repr

/-- What is noted. -/
inductive OwnerNote where
  | turn
  | clock (place : ClockPlace) (answer : Except OwnerRaised (Option ℚ))
  | taken (item : Option QueueItem)
  | observed (command : ℤ) (state : PhaseState) (answer : Except OwnerRaised Unit)
  | handled (command : ℤ) (answer : Except OwnerRaised Bool)
  | permission (answer : PermissionAnswer)
  | recovery (answer : Except OwnerRaised Unit)
  | finalized (command : ℤ) (result : Option AdmissionResult)
  /-- `acknowledge_terminal` of an accepted command. -/
  | terminal (envelope : CommandEnvelope) (text : AckText) (recorded : Option AdmissionResult)
  /-- The answer of a callback. -/
  | answered (packet : QgcPacket) (envelope : CommandEnvelope) (text : AckText)
      (seen recorded : Option AdmissionResult)
  | refused (packet : QgcPacket) (command : ℤ) (text : AckText)
  /-- An item that no callback put into the queue. -/
  | put (item : QueueItem)

/-! ## 3. Callbacks -/

/-- The next step of a callback, with what it finds. -/
inductive CallbackStep where
  | receive (packet : QgcPacket) (receivedAt : Option ℚ)
  /-- The look at the abort command without the lock. -/
  | look
  | enter
  /-- `admit`, for the abort command up to its first release of the state lock. -/
  | admitEnvelope (check consumer : CheckAnswer) (authorityLost : Bool)
  | latch (gate : Option String)
  | accept
  | record
  | read
  | send

namespace CommandSystem

variable (c : SupervisorConfig) (profile : QgcProfile)
variable (s : CommandSystem) (thread : ℕ) (packet : QgcPacket) (envelope : CommandEnvelope)

/-- The callback goes on. -/
def enter (phase : CallbackPhase) : CommandSystem :=
  { s with callback := Function.update s.callback thread phase }

/-- It goes on without the admission lock. -/
def leave (phase : CallbackPhase) : CommandSystem :=
  { s.enter thread phase with admitting := none }

/-- A section of the supervisor. -/
def supervised {α : Type} (s : CommandSystem) (x : MissionSupervisor.Op α) : CommandSystem :=
  { s with supervisor := (call x s.supervisor).2.1 }

/-- What the supervisor has recorded for a command. -/
def record (command : ℤ) : Option AdmissionResult :=
  s.supervisor.admissionResult command

/-- The packet up to the admission. -/
def received (receivedAt : Option ℚ) : CallbackPhase :=
  if packet.trusted profile then
    match QgcPacket.exactCommand packet.command with
    | none => .idle
    | some command =>
      if packet.hasType "COMMAND_INT" then .refusing packet command .unsupported
      else if packet.hasType "COMMAND_LONG" then
        match packet.decodeLong profile command receivedAt with
        | none => .refusing packet command .denied
        | some envelope => .decoded packet envelope
      else .idle
  else .idle

/-- The answer to a command that is recorded. -/
def priorText (prior : Option CommandEnvelope) (envelope : CommandEnvelope)
    (result : AdmissionResult) : AckText :=
  match prior with
  | none => .denied
  | some prior => if sameRequest prior envelope then .ofAdmission (some result) else .denied

/-- The first branch of `_admit_or_status`. -/
def look : CommandSystem :=
  if envelope.command = abortAndRecover then
    match s.record envelope.command, s.supervisor.envelopes.get envelope.command with
    | some result, some reserved =>
      s.enter thread (.answering packet envelope (priorText (some reserved) envelope result)
        (s.record envelope.command))
    | _, _ => s.enter thread (.entering packet envelope)
  else s.enter thread (.entering packet envelope)

/-- With the admission lock: the record and the accepted envelope. -/
def lookUp : CommandSystem :=
  if s.admitting = none then
    match s.record envelope.command with
    | some result =>
      s.enter thread (.answering packet envelope
        (priorText (s.accepted.get envelope.command) envelope result) (s.record envelope.command))
    | none => { s.enter thread (.deciding packet envelope) with admitting := some thread }
  else s

/-- The answer to what `admit` raised; `none` where nothing is answered. -/
def refusedAs (authorityLost : Bool) : SupervisorError → Option AckText
  | .rejected _ result => some (.ofText result)
  | .raised _ => if authorityLost then some .denied else none
  | _ => none

/-- After `admit` raised. -/
def refuse (authorityLost : Bool) (error : SupervisorError) : CommandSystem :=
  match refusedAs authorityLost error with
  | none => s.leave thread .idle
  | some text => s.leave thread (.answering packet envelope text (s.record envelope.command))

/-- `admit` of the abort command up to its reservation. -/
def reserving (check : CheckAnswer) : MissionSupervisor.Op Bool := do
  ofExcept (validateEnvelope c envelope)
  ofExcept (MissionSupervisor.checkAdmission check)
  MissionSupervisor.reserveAbort envelope

/-- `self.supervisor.admit(envelope)`. -/
def admitEnvelope (check consumer : CheckAnswer) (authorityLost : Bool) : CommandSystem :=
  if envelope.command = abortAndRecover then
    match (call (reserving c envelope check) s.supervisor).1 with
    | .error error =>
      (s.supervised (reserving c envelope check)).refuse thread packet envelope authorityLost error
    | .ok reserved =>
      (s.supervised (reserving c envelope check)).enter thread
        (if reserved then .reserved packet envelope else .admitted packet envelope false)
  else
    match (call (MissionSupervisor.admitCommand c envelope check consumer) s.supervisor).1 with
    | .error error =>
      (s.supervised (MissionSupervisor.admitCommand c envelope check consumer)).refuse thread packet
        envelope authorityLost error
    | .ok enqueue =>
      (s.supervised (MissionSupervisor.admitCommand c envelope check consumer)).enter thread
        (.admitted packet envelope enqueue)

/-- The output gate in `admit` of the abort command, which may raise. -/
def latch (gate : Option String) : CommandSystem :=
  match gate with
  | some _ => (s.supervised (MissionSupervisor.abandonAbort envelope)).leave thread .idle
  | none => (s.supervised MissionSupervisor.latchAbort).enter thread (.latched packet envelope)

/-- The accepted envelope is kept, and enqueued where it is to be. -/
def keep (enqueue : Bool) : CommandSystem :=
  { s.enter thread (.recorded packet envelope) with
    accepted := s.accepted.set envelope.command envelope
    queue := if enqueue then s.queue ++ [QueueItem.envelope envelope] else s.queue }

/-- **One step of a callback**; a callback that is not at it does nothing. -/
def callbackStep (step : CallbackStep) : CommandSystem × List OwnerNote :=
  match step, s.callback thread with
  | .receive packet receivedAt, .idle => (s.enter thread (received profile packet receivedAt), [])
  | .look, .decoded packet envelope => (s.look thread packet envelope, [])
  | .enter, .entering packet envelope => (s.lookUp thread packet envelope, [])
  | .admitEnvelope check consumer authorityLost, .deciding packet envelope =>
    (s.admitEnvelope c thread packet envelope check consumer authorityLost, [])
  | .latch gate, .reserved packet envelope => (s.latch thread packet envelope gate, [])
  | .accept, .latched packet envelope =>
    ((s.supervised (MissionSupervisor.acceptAbort envelope)).enter thread
      (.admitted packet envelope false), [])
  | .record, .admitted packet envelope enqueue => (s.keep thread packet envelope enqueue, [])
  | .read, .recorded packet envelope =>
    (s.leave thread (.answering packet envelope (.ofAdmission (s.record envelope.command))
      (s.record envelope.command)), [])
  | .send, .refusing packet command text =>
    (s.enter thread .idle, [.refused packet command text])
  | .send, .answering packet envelope text seen =>
    (s.enter thread .idle,
      [.answered packet envelope text seen (s.record envelope.command)])
  | _, _ => (s, [])

/-! ## 4. Everyone but the owner -/

end CommandSystem

/-- A step of a thread other than the owner's, or of what the owner calls. -/
inductive OtherStep where
  | callback (thread : ℕ) (step : CallbackStep)
  | requestAbort (reason : String) (site : MissionSupervisor.AbortSite)
  /-- The rest of an abort request, and what every reader of the attempt's state does first. -/
  | applyAbort
  | recordRecovery (outcome : RecoveryOutcome)
  | put (item : QueueItem)

namespace CommandSystem

/-- The recovery outcome, recorded once. -/
def withRecovery (s : CommandSystem) (outcome : Option RecoveryOutcome) : CommandSystem :=
  { s with recoveryOutcome := s.recoveryOutcome <|> outcome }

/-- **One step beside the owner's.** -/
def otherStep (c : SupervisorConfig) (profile : QgcProfile) (s : CommandSystem) :
    OtherStep → CommandSystem × List OwnerNote
  | .callback thread step => s.callbackStep c profile thread step
  | .requestAbort reason site => (s.supervised (MissionSupervisor.requestAbort reason site), [])
  | .applyAbort => (s.supervised MissionSupervisor.applyOutputAbort, [])
  | .recordRecovery outcome => (s.withRecovery (some outcome), [])
  | .put item => ({ s with queue := s.queue ++ [item] }, [.put item])

end CommandSystem

end DroneSim
