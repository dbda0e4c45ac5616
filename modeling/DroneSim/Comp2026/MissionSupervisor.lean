/-
  File:      DroneSim/Comp2026/MissionSupervisor.lean
  Subject:   Command admission and the state of one attempt (control/mission_supervisor.py).

  The calls of a `MissionSupervisor` on a state with its fields. What the injected checks answer
  during a call, and what the calling thread finds of the two locks, comes in with the call. Each
  section under the state lock is one computation; `admit` of the abort command has three, since
  it lets go of the lock between them.
-/
import DroneSim.Library.Acting
import DroneSim.Library.Dict
import DroneSim.Library.Double
import DroneSim.Library.PyValue

namespace DroneSim

open Library Library.Attempt Library.Acting

/-! ## 1. Commands -/

namespace QgcCommand

def fm1 : ℤ := 31000
def fm2 : ℤ := 31001
def fm3 : ℤ := 31002
def updateWa : ℤ := 31003
def clearAll : ℤ := 31013
def retiredCommand : ℤ := 31014
def abortAndRecover : ℤ := 31015

/-- `PHASE_COMMANDS`. -/
def phaseCommands : List ℤ := [fm1, fm2, fm3]

/-- `MUTATION_COMMANDS`: every command from `UPDATE_WA` through `CLEAR_ALL`. -/
def mutationCommands : List ℤ :=
  (List.range (clearAll + 1 - updateWa).toNat).map fun i => updateWa + i

/-- `SUPPORTED_COMMANDS`. -/
def supportedCommands : List ℤ := phaseCommands ++ mutationCommands ++ [abortAndRecover]

end QgcCommand

open QgcCommand

/-- `TERMINAL_RESULTS`. -/
inductive TerminalResult where
  | succeeded
  | failed
  | aborted
  deriving DecidableEq, Repr

/-- The result under its name. -/
def TerminalResult.ofText (text : String) : Option TerminalResult :=
  if text = "SUCCEEDED" then some .succeeded
  else if text = "FAILED" then some .failed
  else if text = "ABORTED" then some .aborted
  else none

inductive CommandState where
  | queued
  | running
  | terminal
  deriving DecidableEq, Repr

/-- What `_immediate_results` holds. -/
inductive ImmediateResult where
  | inProgress
  | accepted
  deriving DecidableEq, Repr

/-- What `admission_result` returns. -/
inductive AdmissionResult where
  | inProgress
  | accepted
  | result (result : TerminalResult)
  deriving DecidableEq, Repr

structure CommandEnvelope where
  sourceSystem : ℤ
  sourceComponent : ℤ
  targetSystem : ℤ
  targetComponent : ℤ
  command : ℤ
  attemptId : ℤ
  params : List PyValue
  receivedAt : PyValue

/-- What a call raises. -/
inductive SupervisorError where
  | rejected (reason result : String)
  | valueError (reason : String)
  | overflowError (reason : String)
  | missionAbort (reason : String)
  | flightOperation (reason : String)
  | raised (error : String)
  deriving DecidableEq, Repr

def denied (reason : String) : SupervisorError := .rejected reason "DENIED"

/-- What an injected check does: it returns `None`, returns something else, or raises, an
    ordinary exception or one that only the interpreter handles. -/
inductive CheckAnswer where
  | nothing
  | something
  | raised (error : String)
  | interrupted (error : String)
  deriving DecidableEq, Repr

def minAttemptId : ℤ := 1
def maxAttemptId : ℤ := 16777215

/-- `_valid_attempt_id`. -/
def validAttemptId (value : ℤ) : Bool := decide (minAttemptId ≤ value ∧ value ≤ maxAttemptId)

/-- What the constructor of a `MissionSupervisor` accepts. -/
structure SupervisorConfig where
  attemptId : ℤ
  enabledPhases : List ℤ
  validId : validAttemptId attemptId = true
  supported : enabledPhases = phaseCommands.take 2 ∨ enabledPhases = phaseCommands

/-! ## 2. The envelope -/

/-- `math.isfinite(value)` for an integer: it raises where no float is near. -/
def finiteInteger (n : ℤ) : Except SupervisorError Bool :=
  if isFloatable n then .ok true
  else .error (.overflowError "int too large to convert to float")

/-- `isinstance(value, (int, float)) and not isinstance(value, bool) and math.isfinite(value)`. -/
def finiteNumber : PyValue → Except SupervisorError Bool
  | .int n => finiteInteger n
  | .float _ => .ok true
  | _ => .ok false

/-- `all(.. for value in values)`. -/
def allFinite : List PyValue → Except SupervisorError Bool
  | [] => .ok true
  | value :: values =>
    match finiteNumber value with
    | .ok true => allFinite values
    | .ok false => .ok false
    | .error e => .error e

/-- `float(token).is_integer() and int(token) == attempt_id`. -/
def isToken (attemptId : ℤ) : Option PyValue → Bool
  | some (.int n) => n = attemptId
  | some (.float x) => x = attemptId
  | _ => false

/-- `_validate_envelope`. -/
def validateEnvelope (c : SupervisorConfig) (e : CommandEnvelope) : Except SupervisorError Unit :=
  if e.command = retiredCommand ∨ e.command ∉ supportedCommands then
    .error (.rejected ("unsupported command " ++ toString e.command) "UNSUPPORTED")
  else if e.attemptId ≠ c.attemptId ∨ validAttemptId e.attemptId = false then
    .error (denied "attempt ID does not match the active session")
  else if e.params.length ≠ 7 then
    .error (denied "command parameters must be seven finite numbers")
  else do
    let finite ← allFinite e.params
    if finite = false then .error (denied "command parameters must be seven finite numbers")
    else if isToken c.attemptId e.params.head? = false then
      .error (denied "param1 must contain the exact attempt ID")
    else do
      let received ← finiteNumber e.receivedAt
      if received then .ok () else .error (denied "received_at must be finite")

/-! ## 3. The state -/

structure MissionSupervisor where
  states : Dict ℤ CommandState
  results : Dict ℤ TerminalResult
  envelopes : Dict ℤ CommandEnvelope
  immediateResults : Dict ℤ ImmediateResult
  expectedPhase : ℤ
  attemptActive : Bool
  attemptTerminal : Bool
  abortReason : Option String
  terminalResult : Option TerminalResult
  outputAbortReason : Option String

/-- What a call does, in the order in which it does it. -/
inductive SupervisorNote where
  | consumed (attemptId : ℤ)
  | queued (command : ℤ)
  | began (command : ℤ)
  | finished (command : ℤ) (result : TerminalResult)
  | abortApplied
  | abortReserved
  | abortAccepted
  deriving DecidableEq, Repr

/-- `enabled_phases[0]`. -/
def SupervisorConfig.firstPhase (c : SupervisorConfig) : ℤ := c.enabledPhases.headD fm1

namespace MissionSupervisor

variable (c : SupervisorConfig) (envelope : CommandEnvelope) (s : MissionSupervisor)

/-- `MissionSupervisor(...)`. -/
def created : MissionSupervisor where
  states := .empty
  results := .empty
  envelopes := .empty
  immediateResults := .empty
  expectedPhase := c.firstPhase
  attemptActive := false
  attemptTerminal := false
  abortReason := none
  terminalResult := none
  outputAbortReason := none

/-- `admission_result`. -/
def admissionResult (command : ℤ) : Option AdmissionResult :=
  match s.immediateResults.get command with
  | some .inProgress => some .inProgress
  | some .accepted => some .accepted
  | none =>
    match s.states.get command with
    | some .queued => some .inProgress
    | some .running => some .inProgress
    | some .terminal => (s.results.get command).map .result
    | none => none

/-- A call under way. -/
abbrev Op : Type → Type := Action MissionSupervisor SupervisorNote SupervisorError

/-- `_admission_check(envelope)`, whose result must be `None`. -/
def checkAdmission : CheckAnswer → Except SupervisorError Unit
  | .nothing => .ok ()
  | .something => .error (denied "admission_check must return None")
  | .raised error => .error (.raised error)
  | .interrupted error => .error (.raised error)

/-- `_attempt_consumer(attempt_id)`, whose result must be `None`. -/
def consumeAttempt : CheckAnswer → Except SupervisorError Unit
  | .nothing => .ok ()
  | .something => .error (denied "attempt_consumer must return None")
  | .raised error => .error (denied ("attempt ledger consumption failed: " ++ error))
  | .interrupted error => .error (.raised error)

/-! ## 4. The abort -/

/-- The body of the loop of `_apply_output_abort_locked`. -/
def abortQueued (command : ℤ) : MissionSupervisor :=
  if s.states.get command = some .queued then
    { s with
      states := s.states.set command .terminal
      results := s.results.set command .aborted }
  else s

/-- The state with the abort applied. -/
def withAbort (reason : String) (s : MissionSupervisor) : MissionSupervisor :=
  phaseCommands.foldl abortQueued
    { s with
      abortReason := some reason
      attemptTerminal := true
      terminalResult := some .aborted }

/-- `_apply_output_abort_locked`. -/
def applyOutputAbort : Op Unit := do
  let s ← current
  match s.outputAbortReason with
  | none => pure ()
  | some reason =>
    if s.attemptTerminal then pure ()
    else if s.abortReason = none then do
      update (withAbort reason)
      perform .abortApplied
    else pure ()

/-- `_output_abort_reason`, set once. -/
def withReason (reason : String) (s : MissionSupervisor) : MissionSupervisor :=
  if s.outputAbortReason = none then { s with outputAbortReason := some reason } else s

/-- `admit` of the abort command, its first section. `false`: it was admitted before. -/
def reserveAbort : Op Bool := do
  applyOutputAbort
  let s ← current
  if (s.immediateResults.get envelope.command).isSome then return false
  else if s.attemptActive = false ∨ s.attemptTerminal = true then
    throw (denied "no active attempt to abort")
  else do
    update fun s => { s with
      immediateResults := s.immediateResults.set envelope.command .inProgress
      envelopes := s.envelopes.set envelope.command envelope }
    perform .abortReserved
    return true

/-- The section under the output gate. -/
def latchAbort : Op Unit := update (withReason "QGC abort command")

/-- The handler of an exception in that section. -/
def abandonAbort : Op Unit := do
  let s ← current
  if s.immediateResults.get envelope.command = some .inProgress then
    update fun s => { s with
      immediateResults := s.immediateResults.erase envelope.command
      envelopes := s.envelopes.erase envelope.command }
  else pure ()

/-- The last section. -/
def acceptAbort : Op Unit := do
  applyOutputAbort
  update fun s => { s with
    immediateResults := s.immediateResults.set envelope.command .accepted }
  perform .abortAccepted

/-- `admit` of the abort command. `gate` is what taking the output gate raises. -/
def admitAbort (check : CheckAnswer) (gate : Option String) : Op Bool := do
  ofExcept (validateEnvelope c envelope)
  ofExcept (checkAdmission check)
  let reserved ← reserveAbort envelope
  if reserved then
    match gate with
    | some error => do
      abandonAbort envelope
      throw (.raised error)
    | none => do
      latchAbort
      acceptAbort envelope
      return false
  else return false

/-! ## 5. The other calls -/

/-- What keeps a phase command out. -/
def phaseRefusal (command : ℤ) : Option SupervisorError :=
  if command ∉ c.enabledPhases then
    some (denied ("phase command " ++ toString command ++ " is disabled"))
  else if command ≠ s.expectedPhase then
    some (.rejected ("expected command " ++ toString s.expectedPhase ++ ", got " ++
      toString command) "TEMPORARILY_REJECTED")
  else if phaseCommands.any fun phase =>
      s.states.get phase = some .queued ∨ s.states.get phase = some .running then
    some (.rejected "another phase is busy" "TEMPORARILY_REJECTED")
  else if command = fm1 ∧ s.states.items.any fun p => p.2 = .queued ∨ p.2 = .running then
    some (.rejected "another command is busy" "TEMPORARILY_REJECTED")
  else none

/-- What keeps a command out that was not admitted before. -/
def refusal (command : ℤ) : Option SupervisorError :=
  if s.attemptTerminal then some (denied "attempt is terminal")
  else if command ∈ mutationCommands ∧ s.attemptActive = true then
    some (denied "coordinate mutation denied during active attempt")
  else if command ∈ phaseCommands then phaseRefusal c s command
  else none

/-- The state with the command enqueued. -/
def withQueued : MissionSupervisor :=
  { s with
    states := s.states.set envelope.command .queued
    envelopes := s.envelopes.set envelope.command envelope }

/-- The consumption of the attempt that the admission of `FM1` stands on. -/
def consumeFor (command : ℤ) (consumer : CheckAnswer) : Op Unit :=
  if command = fm1 then do
    ofExcept (consumeAttempt consumer)
    perform (.consumed c.attemptId)
    update fun s => { s with attemptActive := true }
  else pure ()

/-- `admit` of any other command. -/
def admitCommand (check consumer : CheckAnswer) : Op Bool := do
  ofExcept (validateEnvelope c envelope)
  ofExcept (checkAdmission check)
  let s ← current
  if (s.states.get envelope.command).isSome then return false
  else
    match refusal c s envelope.command with
    | some error => throw error
    | none => do
      consumeFor c envelope.command consumer
      update (withQueued envelope)
      perform (.queued envelope.command)
      return true

/-- `admit`. -/
def admitEnvelope (check consumer : CheckAnswer) (gate : Option String) : Op Bool :=
  if envelope.command = abortAndRecover then admitAbort c envelope check gate
  else admitCommand c envelope check consumer

/-- `begin`. -/
def begin (command : ℤ) : Op Unit := do
  let s ← current
  if s.states.get command = some .queued then do
    update fun s => { s with states := s.states.set command .running }
    perform (.began command)
  else throw (denied ("command " ++ toString command ++ " is not queued"))

/-- The result that `finish` records. -/
def recordedResult (command : ℤ) (result : TerminalResult) : TerminalResult :=
  if command ∈ phaseCommands ∧ s.abortReason.isSome then .aborted else result

/-- What a finished phase does to the attempt. -/
def settlePhase (command : ℤ) (result : TerminalResult) (s : MissionSupervisor) :
    MissionSupervisor :=
  if command ∉ phaseCommands then s
  else if s.terminalResult.isSome then s
  else if result ≠ .succeeded then
    { s with attemptTerminal := true, terminalResult := some result }
  else if c.enabledPhases.idxOf command = c.enabledPhases.length - 1 then
    { s with attemptTerminal := true, terminalResult := some result }
  else
    { s with expectedPhase := c.enabledPhases.getD (c.enabledPhases.idxOf command + 1) fm1 }

/-- The state with the command finished. -/
def withFinished (command : ℤ) (result : TerminalResult) (s : MissionSupervisor) :
    MissionSupervisor :=
  settlePhase c command result
    { s with
      states := s.states.set command .terminal
      results := s.results.set command result }

/-- `finish`. -/
def finish (command : ℤ) (text : String) : Op Unit :=
  match TerminalResult.ofText text with
  | none => throw (.valueError ("invalid terminal result: " ++ text))
  | some result => do
    applyOutputAbort
    let s ← current
    if s.states.get command = some .running then do
      update (withFinished c command (recordedResult s command result))
      perform (.finished command (recordedResult s command result))
    else throw (denied ("command " ++ toString command ++ " is not running"))

/-- `request_abort`, its section under the output gate. -/
def latchRequest (reason : String) : Op Unit :=
  if reason = "" then throw (.valueError "abort reason must be a non-empty string")
  else update (withReason reason)

/-- What the thread that calls `request_abort` finds: it is inside an output of its own, it has a
    recovery deadline, the state lock is free. -/
structure AbortSite where
  ownOutput : Bool
  recovering : Bool
  lockFree : Bool
  deriving DecidableEq, Repr

/-- `request_abort`. -/
def requestAbort (reason : String) (site : AbortSite) : Op Unit := do
  latchRequest reason
  let s ← current
  if site.ownOutput = true ∧ site.recovering = false then
    throw (.missionAbort (s.outputAbortReason.getD ""))
  else if site.lockFree then applyOutputAbort
  else pure ()

end MissionSupervisor

/-! ## 6. Runs of calls -/

/-- The calls, with what the checks and the locks answer. -/
inductive SupervisorCall where
  | admitEnvelope (envelope : CommandEnvelope) (check consumer : CheckAnswer) (gate : Option String)
  | begin (command : ℤ)
  | finish (command : ℤ) (result : String)
  | requestAbort (reason : String) (site : MissionSupervisor.AbortSite)

namespace MissionSupervisor

/-- The body of a call, its result dropped. -/
def body (c : SupervisorConfig) : SupervisorCall → Op Unit
  | .admitEnvelope envelope check consumer gate => do
    let _ ← admitEnvelope c envelope check consumer gate
    return ()
  | .begin command => begin command
  | .finish command result => finish c command result
  | .requestAbort reason site => requestAbort reason site

/-- The calls as the steps of a machine, each under the lock from its beginning to its end. -/
def Called (c : SupervisorConfig) :
    MissionSupervisor → SupervisorCall → List SupervisorNote → MissionSupervisor → Prop :=
  Calling (body c)

end MissionSupervisor

end DroneSim
