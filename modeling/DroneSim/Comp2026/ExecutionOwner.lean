/-
  File:      DroneSim/Comp2026/ExecutionOwner.lean
  Subject:   The owner that runs queued commands and the recovery (control/listener.py,
             CommandExecutionOwner).

  The handlers, the phase observer, the recovery, the permission check and the clock are a world that
  may return or raise at any question, by how much was noted before. Before each question, and before
  each look at the supervisor or the queue, all other threads have their turn (`turn`).
-/
import DroneSim.Comp2026.CommandListener

namespace DroneSim

open Library Library.Attempt Library.Acting QgcCommand

/-- What the constructor of the owner and of what it works with fixes. -/
structure OwnerSetup where
  config : SupervisorConfig
  profile : QgcProfile
  /-- There is a handler. -/
  handles : ℤ → Bool
  observes : Bool
  attemptTimeoutS : ℚ

/-- Everything outside, by how much was noted before. `none` of the clock is no finite number. -/
structure OwnerWorld where
  others : ℕ → List OtherStep
  clock : ClockPlace → ℕ → Except OwnerRaised (Option ℚ)
  handler : ℕ → Except OwnerRaised Bool
  observer : ℕ → Except OwnerRaised Unit
  permission : ℕ → PermissionAnswer
  /-- The outcome that it records, if any, and how it ends. -/
  recovery : ℕ → Option RecoveryOutcome × Except OwnerRaised Unit
  /-- An abort request finds the state lock free. -/
  lockFree : ℕ → Bool

/-- What the owner raises: what it met, or a failure of the phase observer. -/
inductive OwnerError where
  | raised (error : OwnerRaised)
  | observer (error : OwnerRaised)
  deriving DecidableEq, Repr

/-- The text of a result. -/
def TerminalResult.name : TerminalResult → String
  | .succeeded => "SUCCEEDED"
  | .failed => "FAILED"
  | .aborted => "ABORTED"

@[simp] theorem TerminalResult.ofText_name (result : TerminalResult) :
    TerminalResult.ofText result.name = some result := by
  cases result with
  | succeeded => rfl
  | failed => rfl
  | aborted => rfl

abbrev Owning : Type → Type := Action CommandSystem OwnerNote OwnerError

namespace ExecutionOwner

variable {α : Type} (c : OwnerSetup) (w : OwnerWorld)
variable (e : CommandEnvelope)

/-! ## 1. Turns and questions -/

/-- A step of another thread. -/
def other (i : OtherStep) : Owning Unit :=
  modify fun r => ⟨(r.state.otherStep c.config c.profile i).1,
    r.log ++ (r.state.otherStep c.config c.profile i).2⟩

def takeTurns : List OtherStep → Owning Unit
  | [] => pure ()
  | i :: is => do
    other c i
    takeTurns is

/-- All other threads have their turn. -/
def turn : Owning Unit := do
  let r ← get
  perform .turn
  takeTurns c (w.others r.log.length)

/-- A question to the outside, noted with its answer. -/
def ask (answer : ℕ → Except OwnerRaised α) (note : Except OwnerRaised α → OwnerNote) :
    Owning α := do
  turn c w
  let r ← get
  perform (note (answer r.log.length))
  ofExcept ((answer r.log.length).mapError .raised)

/-- A section of the supervisor, and how it ends. -/
def supervise (x : MissionSupervisor.Op α) : Owning (Except SupervisorError α) := do
  turn c w
  let s ← current
  update fun s => s.supervised x
  return (call x s.supervisor).1

def raise (error : OwnerRaised) : Owning α := throw (.raised error)

/-- `supervisor.request_abort(reason)` from the owner's thread, outside of any output. -/
def requestAbort (reason : String) : Owning Unit := do
  let r ← get
  let _ ← supervise c w
    (MissionSupervisor.requestAbort reason ⟨false, false, w.lockFree r.log.length⟩)

/-- `supervisor.abort_reason is not None`. -/
def aborting : Owning Bool := do
  let _ ← supervise c w MissionSupervisor.applyOutputAbort
  let s ← current
  return s.supervisor.abortReason.isSome

/-- `supervisor.terminal_result`. -/
def terminalResult : Owning (Option TerminalResult) := do
  let _ ← supervise c w MissionSupervisor.applyOutputAbort
  let s ← current
  return s.supervisor.terminalResult

/-- `supervisor.recovery_outcome`. -/
def recoveryOutcome : Owning (Option RecoveryOutcome) := do
  turn c w
  let s ← current
  return s.recoveryOutcome

/-- `_now`. -/
def now (place : ClockPlace) : Owning ℚ := do
  let value ← ask c w (w.clock place) (.clock place)
  match value with
  | some value => return value
  | none => raise .clock

/-! ## 2. Recovery -/

/-- The recovery callable: it may record an outcome before it returns or raises. -/
def invokeRecovery : Owning Unit := do
  turn c w
  let r ← get
  update fun s => s.withRecovery (w.recovery r.log.length).1
  perform (.recovery (w.recovery r.log.length).2)
  ofExcept ((w.recovery r.log.length).2.mapError .raised)

/-- `_recover_once`. -/
def recoverOnce : Owning Unit := do
  let s ← current
  if s.recoveryStarted then pure ()
  else do
    let outcome ← recoveryOutcome c w
    update fun s => { s with recoveryStarted := true }
    if outcome.isSome then pure () else invokeRecovery c w

/-- `_recover_preserving`. -/
def recoverPreserving (error : OwnerRaised) : Owning α := do
  tryCatch (recoverOnce c w) fun _ => raise error
  raise error

/-! ## 3. Deadlines -/

/-- The deadline has passed by the clock. -/
def expired (place : ClockPlace) : Owning Bool := do
  let s ← current
  match s.deadline with
  | none => return false
  | some deadline => do
    let time ← now c w place
    return decide (deadline ≤ time)

/-- `_interruption_result(recover=False)`: whether it is `"ABORTED"`. -/
def interrupted (place : ClockPlace) : Owning Bool := do
  let abort ← aborting c w
  if abort then return true
  else do
    let late ← expired c w place
    if late then do
      requestAbort c w "attempt deadline expired"
      return true
    else return false

/-- `_require_before_deadline`. -/
def requireBeforeDeadline : Owning Unit := do
  let late ← expired c w .command
  if late then do
    requestAbort c w "attempt deadline expired"
    raise .missionAbort
  else pure ()

/-! ## 4. One command -/

/-- How the `try` statement of a command ends: the result, and what it leaves to be raised. -/
structure Verdict where
  result : TerminalResult
  cancellation : Option OwnerRaised
  startObserver : Option OwnerRaised
  deriving DecidableEq, Repr

/-- `"ABORTED" if supervisor.abort_reason is not None else "FAILED"`. -/
def failedOrAborted : Owning TerminalResult := do
  let abort ← aborting c w
  return if abort then .aborted else .failed

/-- The handlers of the `try` statement. -/
def judge : OwnerError → Owning Verdict
  | .raised .missionAbort => return ⟨.aborted, none, none⟩
  | .raised .timeout => do
    requestAbort c w "attempt deadline expired"
    return ⟨.aborted, none, none⟩
  | .raised .clock => return ⟨.failed, some .clock, none⟩
  | .observer error => do
    let result ← failedOrAborted c w
    return ⟨result, none, some error⟩
  | .raised _ => do
    let result ← failedOrAborted c w
    return ⟨result, none, none⟩

/-- `_send_terminal_ack`, through `acknowledge_terminal`; what it raises is dropped. -/
def sendTerminalAck (result : TerminalResult) : Owning Unit := do
  turn c w
  let s ← current
  match s.accepted.get e.command with
  | none => pure ()
  | some accepted =>
    if sameRequest accepted e then
      perform (.terminal e (.ofResult result) (s.record e.command))
    else pure ()

/-- How the part before the command runs ends. -/
inductive Opening where
  | began
  | dropped
  | judged (verdict : Verdict)

/-- `supervisor.begin(command)`. -/
def beginCommand : Owning Unit := do
  let answer ← supervise c w (MissionSupervisor.begin e.command)
  match answer with
  | .ok _ => pure ()
  | .error _ => raise .exception

/-- Up to `began = True`; an interruption drops the command. -/
def openEnvelope : Owning Opening := do
  let drop ← interrupted c w .command
  if drop then do
    sendTerminalAck c w e .aborted
    recoverOnce c w
    return .dropped
  else do
    beginCommand c w e
    return .began

/-- Of an item that is no envelope: `raise TypeError(..)`. -/
def openCommand : QueueItem → Owning Opening
  | .envelope e => openEnvelope c w e
  | .foreign _ => raise .exception

/-- The deadline of the attempt begins with `FM1`. -/
def startAttempt : Owning Unit := do
  let s ← current
  if e.command = fm1 ∧ s.deadline = none then do
    let time ← now c w .command
    update fun s => { s with missionStart := some time, deadline := some (time + c.attemptTimeoutS) }
  else pure ()

/-- A phase that the observer is told of. -/
def isObserved (command : ℤ) : Bool := c.observes && decide (command = fm1 ∨ command = fm2)

/-- `_observe_phase_start`. -/
def observePhaseStart (command : ℤ) : Owning Unit :=
  if isObserved c command then
    tryCatch (ask c w w.observer (.observed command .started)) fun error =>
      match error with
      | .raised error => throw (.observer error)
      | .observer error => throw (.observer error)
  else pure ()

/-- `self.supervisor.enabled_phases[-1] == FM2`. -/
def fm2IsFinal : Bool := c.config.enabledPhases.getLast? = some fm2

/-- The recovery of a final `FM2`; a `TimeoutError` cancels. -/
def recoverFinal : Owning (Option OwnerRaised) :=
  tryCatch
    (do
      recoverOnce c w
      return none)
    fun error => if error = .raised .timeout then return some .timeout else throw error

/-- After a handler that returned `True` in time. -/
def closeCommand : Owning Verdict :=
  if e.command = fm2 ∧ fm2IsFinal c = true then do
    let cancellation ← recoverFinal c w
    match cancellation with
    | some error => return ⟨.failed, some error, none⟩
    | none => do
      let outcome ← recoveryOutcome c w
      if outcome = some .homeLanded then return ⟨.succeeded, none, none⟩
      else raise .exception
  else return ⟨.succeeded, none, none⟩

/-- From `began = True` to the end of the `try` block. -/
def flyCommand : Owning Verdict := do
  startAttempt c w e
  requireBeforeDeadline c w
  if c.handles e.command then do
    observePhaseStart c w e.command
    let literalTrue ← ask c w w.handler (.handled e.command)
    if literalTrue then do
      requireBeforeDeadline c w
      closeCommand c w e
    else raise .exception
  else raise .exception

/-- The result of a finished command: `admission_result`, where it is terminal. -/
def finalizedResult (result : TerminalResult) : Option AdmissionResult → TerminalResult
  | some (.result recorded) => recorded
  | _ => result

/-- `supervisor.finish(command, result)`, rejected or not, and what is recorded then. -/
def finishCommand (result : TerminalResult) : Owning TerminalResult := do
  let _ ← supervise c w (MissionSupervisor.finish c.config e.command result.name)
  turn c w
  let s ← current
  perform (.finalized e.command (s.record e.command))
  return finalizedResult result (s.record e.command)

/-- The phase observer at the end of a phase: what it raises. -/
def observeCompletion (command : ℤ) (result : TerminalResult) : Owning (Option OwnerRaised) :=
  if isObserved c command && decide (result = .succeeded) then
    tryCatch
      (do
        ask c w w.observer (.observed command .complete)
        return none)
      fun error =>
        match error with
        | .raised error => return some error
        | .observer error => return some error
  else return none

/-- The `finally` clause of a command that began. -/
def settle (result : TerminalResult) : Owning (TerminalResult × Option OwnerRaised) := do
  let finalized ← finishCommand c w e result
  let completionObserver ← observeCompletion c w e.command finalized
  sendTerminalAck c w e finalized
  return (finalized, completionObserver)

/-- `envelope.command`. -/
def commandOf : QueueItem → Except OwnerError ℤ
  | .envelope e => .ok e.command
  | .foreign (some command) => .ok command
  | .foreign none => .error (.raised .exception)

/-- After the `try` statement. -/
def conclude (item : QueueItem) (verdict : Verdict) (result : TerminalResult)
    (completionObserver : Option OwnerRaised) : Owning TerminalResult :=
  match verdict.startObserver, completionObserver, verdict.cancellation with
  | some error, _, _ => recoverPreserving c w error
  | none, some error, _ => recoverPreserving c w error
  | none, none, some error => recoverPreserving c w error
  | none, none, none => do
    let command ← ofExcept (commandOf item)
    if command ∈ phaseCommands ∧ result ≠ .succeeded then do
      recoverOnce c w
      return result
    else return result

/-- A command that began. -/
def runCommand : Owning TerminalResult := do
  let verdict ← tryCatch (flyCommand c w e) (judge c w)
  let settled ← settle c w e verdict.result
  conclude c w (.envelope e) verdict settled.1 settled.2

/-- An opening that raised ends with a verdict. -/
def opened (item : QueueItem) : Owning Opening :=
  tryCatch (openCommand c w item) fun error => do
    let verdict ← judge c w error
    return .judged verdict

/-- `process_next` with an item in hand. -/
def processItem (item : QueueItem) : Owning TerminalResult := do
  let opening ← opened c w item
  match opening, item with
  | .dropped, _ => return .aborted
  | .judged verdict, item => conclude c w item verdict verdict.result none
  | .began, .envelope e => runCommand c w e
  | .began, .foreign _ => raise .exception

/-! ## 5. The queue -/

/-- The handlers of `_process_idle`. -/
def judgeIdle : OwnerError → Owning Bool
  | .raised (.authorityLost reason) => do
    requestAbort c w ("authority lost: " ++ reason)
    return true
  | .raised .missionAbort => return true
  | .raised .timeout => do
    requestAbort c w "listener timing cancelled"
    recoverPreserving c w .timeout
  | .raised .clock => do
    requestAbort c w "listener clock unavailable"
    recoverPreserving c w .clock
  | error => throw error

/-- What a permission check comes to. -/
def permitted : PermissionAnswer → Except OwnerError Unit
  | .granted => .ok ()
  | .something => .error (.raised (.authorityLost "permission_check must return None"))
  | .authorityLost reason => .error (.raised (.authorityLost reason))
  | .missionAbort => .error (.raised .missionAbort)
  | .timeout => .error (.raised .timeout)
  | .clock => .error (.raised .clock)

/-- `supervisor.check_permission()`. -/
def checkPermission : Owning Unit := do
  turn c w
  let r ← get
  perform (.permission (w.permission r.log.length))
  ofExcept (permitted (w.permission r.log.length))
  let abort ← aborting c w
  if abort then raise .missionAbort else pure ()

/-- The `try` block of `_process_idle`. -/
def watch : Owning Bool := do
  let interruption ← interrupted c w .idle
  if interruption then return true
  else do
    let s ← current
    if s.deadline.isSome then do
      checkPermission c w
      return false
    else return false

/-- `_process_idle`. -/
def processIdle : Owning (Option TerminalResult) := do
  let interruption ← tryCatch (watch c w) (judgeIdle c w)
  if interruption then do
    recoverOnce c w
    return some .aborted
  else return none

/-- The wait is bounded by the deadline. -/
def boundWait : Owning Unit := do
  let s ← current
  if s.deadline.isSome then
    tryCatch
      (do
        let _ ← now c w .wait
        return ())
      fun error =>
        if error = .raised .clock then do
          requestAbort c w "listener clock unavailable"
          recoverPreserving c w .clock
        else throw error
  else pure ()

/-- `command_queue.get(timeout=wait)`; `none` is `queue.Empty`. -/
def takeItem : Owning (Option QueueItem) := do
  turn c w
  let s ← current
  update fun s => { s with queue := s.queue.tail }
  perform (.taken s.queue.head?)
  return s.queue.head?

/-- `process_next`. -/
def processNext : Owning (Option TerminalResult) := do
  boundWait c w
  let item ← takeItem c w
  match item with
  | none => processIdle c w
  | some item => do
    let result ← processItem c w item
    return some result

/-- The body of the loop of `run`: the result with which it returns. -/
def iterate : Owning (Option TerminalResult) := do
  let _ ← processNext c w
  let terminal ← terminalResult c w
  match terminal with
  | none => return none
  | some .succeeded => return some .succeeded
  | some result => do
    recoverOnce c w
    return some result

/-- `run`, with a world for each turn of its loop; `none` where it is still running. -/
def run : List OwnerWorld → Owning (Option TerminalResult)
  | [] => return none
  | w :: ws => do
    let returned ← iterate c w
    match returned with
    | none => run ws
    | some result => return some result

/-- At the beginning. -/
def started : CommandSystem where
  supervisor := MissionSupervisor.created c.config
  recoveryOutcome := none
  accepted := .empty
  queue := []
  admitting := none
  callback _ := .idle
  missionStart := none
  deadline := none
  recoveryStarted := false

/-! ## 6. An attempt -/

/-- The seventh attempt, flown by handlers of both phases. -/
def seventh : OwnerSetup where
  config := MissionSupervisor.twoPhases
  profile := ⟨⟨200, 190⟩, ⟨1, 191⟩⟩
  handles _ := true
  observes := true
  attemptTimeoutS := 600

/-- The ground station's packet for a command. -/
def packetOf (command : ℤ) : QgcPacket where
  srcSystem := some (.int 200)
  srcComponent := some (.int 190)
  targetSystem := some (.int 1)
  targetComponent := some (.int 191)
  messageType := some (.str "COMMAND_LONG")
  command := some (.int command)
  params := [some (.int 7), some (.int 0), some (.int 0), some (.int 0), some (.int 0),
    some (.int 0), some (.int 0)]
  seven := rfl

/-- A callback from the packet to its answer. -/
def callbackOf (command : ℤ) : List OtherStep :=
  [.callback 0 (.receive (packetOf command) (some 1)), .callback 0 .look, .callback 0 .enter,
    .callback 0 (.admitEnvelope .nothing .nothing false), .callback 0 .record, .callback 0 .read,
    .callback 0 .send]

/-- The others do these steps first; the handler returns this, and nothing is wrong. -/
def worldOf (others : List OtherStep) (handled : Bool) : OwnerWorld where
  others n := if n = 0 then others else []
  clock _ _ := .ok (some 1)
  handler _ := .ok handled
  observer _ := .ok ()
  permission _ := .granted
  recovery _ := (some .homeLanded, .ok ())
  lockFree _ := true

end ExecutionOwner

end DroneSim
