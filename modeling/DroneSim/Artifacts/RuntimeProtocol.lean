/-
  File:      DroneSim/Artifacts/RuntimeProtocol.lean
  Subject:   Reading the durable files of one run (artifacts/runtime_protocol.py).

  Each reader takes what the file holds: nothing, or the decoded document. A file that cannot be
  read raises before the reader sees it.
-/
import DroneSim.Artifacts.RuntimeStatus
import DroneSim.Orchestration.Lifecycle

namespace DroneSim

open Library

/-- The terminal state of this text: `value in _TERMINAL_STATES`. -/
def TerminalState.ofValue (value : String) : Option TerminalState :=
  [TerminalState.completed, .failed, .aborted].find? fun state => state.value == value

/-- A text field of a document. -/
def textField (items : List (PyKey × PyValue)) (name : String) : Option String :=
  (PyValue.field items name).bind text

/-! ## 1. Statuses and quiescence markers -/

/-- `RuntimeProtocol.read_status`. -/
def readStatus (runId : String) (t : StatusType) :
    Option PyValue → Except String (Option (RuntimeStatus t))
  | none => .ok none
  | some document => (parseStatus t document runId).map some

/-- `document == {"run_id": run_id, "module": module, "quiescent": True}`. -/
def isQuiescenceMarker (runId module : String) : PyValue → Bool
  | .mapping _ items =>
    hasKeys items ["run_id", "module", "quiescent"] &&
      (textField items "run_id" == some runId && textField items "module" == some module &&
        (PyValue.field items "quiescent").bind PyValue.number == some 1)
  | _ => false

/-- `RuntimeProtocol.read_quiescence`. -/
def readQuiescence (runId module : String) : Option PyValue → Except String (Option PyValue)
  | none => .ok none
  | some document =>
    if isQuiescenceMarker runId module document then .ok (some document)
    else .error "quiescence marker has an invalid schema"

/-! ## 2. Host controls -/

/-- The fields of a `finalize-request` control. -/
@[ext] structure FinalizeRequest where
  requestedTerminal : TerminalState
  reason : String
  reasoned : reason ≠ ""

instance : DecidableEq FinalizeRequest := fun _ _ => decidable_of_iff' _ FinalizeRequest.ext_iff

/-- The fields of a `terminal-committed` control. -/
structure TerminalCommitted where
  terminalStatus : TerminalState
  reason : String
  deriving DecidableEq

/-- `_validate_control("finalize-request", document, run_id)`. -/
def validateFinalizeRequest (runId : String) : PyValue → Except String FinalizeRequest
  | .mapping true items =>
    if textField items "run_id" = some runId then
      if hasKeys items ["run_id", "requested_terminal", "reason"] then
        match (textField items "requested_terminal").bind TerminalState.ofValue,
          textField items "reason" with
        | some requestedTerminal, some reason =>
          if reasoned : reason ≠ "" then .ok ⟨requestedTerminal, reason, reasoned⟩
          else .error "finalize-request has an invalid schema"
        | _, _ => .error "finalize-request has an invalid schema"
      else .error "finalize-request has an invalid schema"
    else .error "finalize-request has the wrong run_id"
  | _ => .error "finalize-request has the wrong run_id"

/-- `_validate_control("terminal-committed", document, run_id)`. -/
def validateTerminalCommitted (runId : String) : PyValue → Except String TerminalCommitted
  | .mapping true items =>
    if textField items "run_id" = some runId then
      if hasKeys items ["run_id", "terminal_status", "reason", "manifest_path"] then
        match (textField items "terminal_status").bind TerminalState.ofValue,
          textField items "reason" with
        | some terminalStatus, some reason =>
          if textField items "manifest_path" = some "manifest.json" then
            .ok ⟨terminalStatus, reason⟩
          else .error "terminal-committed has an invalid schema"
        | _, _ => .error "terminal-committed has an invalid schema"
      else .error "terminal-committed has an invalid schema"
    else .error "terminal-committed has the wrong run_id"
  | _ => .error "terminal-committed has the wrong run_id"

/-- `RuntimeProtocol.read_finalize_request`. -/
def readFinalizeRequest (runId : String) :
    Option PyValue → Except String (Option FinalizeRequest)
  | none => .ok none
  | some document => (validateFinalizeRequest runId document).map some

/-- `RuntimeProtocol.read_terminal_committed`. -/
def readTerminalCommitted (runId : String) :
    Option PyValue → Except String (Option TerminalCommitted)
  | none => .ok none
  | some document => (validateTerminalCommitted runId document).map some

end DroneSim
