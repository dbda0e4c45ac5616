/-
  File:      DroneSim/Orchestration/Lifecycle.lean
  Subject:   The states of a run (orchestration/lifecycle.py).

  A run starts, becomes ready, runs, and finalizes towards a terminal state.
-/
import Mathlib.Data.List.Basic

namespace DroneSim

/-- The states in which a run ends. -/
inductive TerminalState where
  | completed
  | failed
  | aborted
  deriving DecidableEq, Repr

/-- `TerminalState.value`: the text on the wire. -/
def TerminalState.value : TerminalState → String
  | .completed => "COMPLETED"
  | .failed => "FAILED"
  | .aborted => "ABORTED"

/-- `LifecycleState`, the terminal states in one constructor. -/
inductive LifecycleState where
  | created
  | starting
  | ready
  | running
  | finalizing
  | terminal (state : TerminalState)
  deriving DecidableEq, Repr

/-- `LifecycleState.value`: the text on the wire. -/
def LifecycleState.value : LifecycleState → String
  | .created => "CREATED"
  | .starting => "STARTING"
  | .ready => "READY"
  | .running => "RUNNING"
  | .finalizing => "FINALIZING"
  | .terminal state => state.value

/-- How far a run has come. -/
def LifecycleState.rank : LifecycleState → ℕ
  | .created => 0
  | .starting => 1
  | .ready => 2
  | .running => 3
  | .finalizing => 4
  | .terminal _ => 5

/-- The run was ready before. -/
def LifecycleState.pastReady : LifecycleState → Bool
  | .created => false
  | .starting => false
  | .ready => false
  | .running => true
  | .finalizing => true
  | .terminal _ => true

end DroneSim
