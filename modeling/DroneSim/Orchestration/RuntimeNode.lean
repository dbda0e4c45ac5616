/-
  File:      DroneSim/Orchestration/RuntimeNode.lean
  Subject:   The lifecycle handshake of a run (orchestration/runtime_node.py).

  An `OrchestrationRuntime` is driven by four calls: `start`, `accept_artifact_status`,
  `accept_clock` and `poll`. During a call the publisher, the protocol files and their writers
  answer, each at most once, and each may raise; `NodeBoundary` is what they answer. What the call
  does is written down in the order in which it is done, a call that raises included.
-/
import DroneSim.Artifacts.RuntimeProtocol
import DroneSim.Library.Attempt
import DroneSim.Library.Run

namespace DroneSim

open Library Library.Attempt

/-! ## 1. Configuration and state -/

/-- `allowed_readiness`. -/
def allowedReadiness : List StatusType := [.arduPilotReady, .companionReady, .missionReady]

/-- `_QUIESCENCE_PEERS`. -/
def quiescencePeers : List String :=
  ["companion", "ardupilot_sitl", "gazebo", "electromagnet", "scorekeeper"]

/-- What the constructor of an `OrchestrationRuntime` accepts. -/
structure OrchestrationConfig where
  runId : String
  configSha256 : Sha256
  requiredDurableReadiness : List StatusType
  requireGazeboReady : Bool
  canonical : isCanonicalUuid runId = true
  distinct : requiredDurableReadiness.Nodup
  allowed : ∀ t ∈ requiredDurableReadiness, t ∈ allowedReadiness

structure RuntimeStateEvent where
  runId : String
  state : LifecycleState
  simTimestampNs : ℕ
  reason : String
  configSha256 : Sha256
  deriving DecidableEq

structure OrchestrationRuntime where
  artifactsReady : Bool
  state : LifecycleState
  lastSimTimestampNs : ℕ
  clockObserved : Bool
  terminal : Bool
  quiescenceWritten : Bool
  freezeWritten : Bool
  deriving DecidableEq

/-- `OrchestrationRuntime(...)`. -/
def OrchestrationRuntime.created : OrchestrationRuntime where
  artifactsReady := false
  state := .created
  lastSimTimestampNs := 0
  clockObserved := false
  terminal := false
  quiescenceWritten := false
  freezeWritten := false

/-- `_PRETERMINAL`. -/
def LifecycleState.preterminal : LifecycleState → Bool
  | .starting => true
  | .ready => true
  | .running => true
  | _ => false

/-! ## 2. What a call does -/

/-- The actions of a call. A publication is noted when it is tried, a write with whether it
    returned, a reading when it found what it looks for. -/
inductive NodeAction where
  | published (event : RuntimeStateEvent)
  | diagnosed (message : String)
  | clockAccepted (simTimestampNs : ℕ)
  | statusSeen (t : StatusType)
  | finalizeRequestSeen (request : FinalizeRequest)
  | quiescenceSeen (module : String) (document : PyValue)
  | terminalSeen (committed : TerminalCommitted)
  | quiescenceWrite (module : String) (returned : Bool)
  | statusWrite (t : StatusType) (status : RuntimeStatus t) (returned : Bool)

/-- What the world answers during one call. -/
structure NodeBoundary where
  publish : Except String Unit
  diagnostic : Except String Unit
  statusFile : StatusType → Except String (Option PyValue)
  quiescenceFile : String → Except String (Option PyValue)
  controlFile : String → Except String (Option PyValue)
  writeStatus : StatusType → Except String Unit
  writeQuiescence : Except String Unit

/-- A call under way: the node, and what the call did so far. -/
structure NodeRun where
  node : OrchestrationRuntime
  actions : List NodeAction

namespace OrchestrationRuntime

/-- A step of a call. -/
abbrev Call : Type → Type := Attempt NodeRun String

def perform (action : NodeAction) : Call Unit :=
  modify fun r => { r with actions := r.actions ++ [action] }

def update (change : OrchestrationRuntime → OrchestrationRuntime) : Call Unit :=
  modify fun r => { r with node := change r.node }

section

variable (c : OrchestrationConfig) (w : NodeBoundary)

/-- `_emit`. -/
def emit (state : LifecycleState) (reason : String) : Call Unit := do
  update fun s => { s with state := state }
  let r ← get
  perform (.published ⟨c.runId, state, r.node.lastSimTimestampNs, reason, c.configSha256⟩)
  ofExcept w.publish

/-- `self._protocol.read_status(status_type) is not None`. -/
def statusPresent (t : StatusType) : Call Bool := do
  let file ← ofExcept (w.statusFile t)
  let status ← ofExcept (readStatus c.runId t file)
  if status.isSome then do
    perform (.statusSeen t)
    return true
  else return false

/-- `self._protocol.read_quiescence(module) is not None`. -/
def quiescencePresent (module : String) : Call Bool := do
  let file ← ofExcept (w.quiescenceFile module)
  let marker ← ofExcept (readQuiescence c.runId module file)
  match marker with
  | some document => do
    perform (.quiescenceSeen module document)
    return true
  | none => return false

/-- `self._protocol.write_status(status)`. -/
def writeStatus (t : StatusType) (status : RuntimeStatus t) : Call Unit := do
  perform (.statusWrite t status (w.writeStatus t).isOk)
  ofExcept (w.writeStatus t)

/-- `self._protocol.write_quiescence(module)`. -/
def writeQuiescence (module : String) : Call Unit := do
  perform (.quiescenceWrite module w.writeQuiescence.isOk)
  ofExcept w.writeQuiescence

/-! ## 3. The calls -/

/-- `start`. -/
def start : Call Unit := do
  let r ← get
  if r.node.state = .created then emit c w .starting ""
  else throw "runtime has already started"

/-- `_maybe_ready`. -/
def maybeReady : Call Unit := do
  let r ← get
  if r.node.state ≠ .starting ∨ r.node.artifactsReady = false then pure ()
  else if c.requireGazeboReady then do
    let present ← statusPresent c w .gazeboReady
    if present then emit c w .ready "" else pure ()
  else emit c w .ready ""

/-- `accept_artifact_status`. -/
def acceptArtifactStatus (runId : String) (ready : Bool) : Call Unit := do
  let r ← get
  if r.node.state ≠ .starting then pure ()
  else if runId ≠ c.runId then do
    perform (.diagnosed "ignored stale artifact status")
    ofExcept w.diagnostic
  else if ready then do
    update fun s => { s with artifactsReady := true }
    maybeReady c w
  else pure ()

theorem stamp_any (n : ℕ) : ∀ m, none = some m → n ≤ m := by
  intro m h
  cases h

/-- `RuntimeRunningStatus(run_id, sim_timestamp_ns)`. -/
def runningStatus (simTimestampNs : ℕ) : RuntimeStatus .runtimeRunning :=
  ⟨c.runId, (⟨simTimestampNs, stamp_any simTimestampNs⟩ : StatusShape.Stamp none), c.canonical⟩

/-- `RuntimeFrozenStatus(run_id)`. -/
def frozenStatus : RuntimeStatus .runtimeFrozen := ⟨c.runId, (), c.canonical⟩

/-- `_start_running`. -/
def startRunning : Call Unit := do
  emit c w .running ""
  let r ← get
  writeStatus w .runtimeRunning (runningStatus c r.node.lastSimTimestampNs)

/-- `accept_clock`. -/
def acceptClock (simTimestampNs : PyValue) : Call Unit :=
  match simTimestampNs with
  | .int n => do
    if n < 0 then throw "clock timestamp must be nonnegative"
    else do
      let r ← get
      if r.node.state ≠ .ready ∧ r.node.state ≠ .running then pure ()
      else do
        update fun s => { s with lastSimTimestampNs := n.toNat, clockObserved := true }
        perform (.clockAccepted n.toNat)
        if r.node.state = .ready ∧ c.requiredDurableReadiness = [] then startRunning c w
        else pure ()
  | _ => throw "clock timestamp must be an integer"

/-- `_flight_peers_ready`. -/
def flightPeersReady : Call Bool := all (statusPresent c w) c.requiredDurableReadiness

/-- The first part of `poll`: the finalize request, the readiness and the start. -/
def observeRequest : Call Unit := do
  let r ← get
  if r.node.state.preterminal then do
    let file ← ofExcept (w.controlFile "finalize-request")
    let request ← ofExcept (readFinalizeRequest c.runId file)
    match request with
    | some request => do
      perform (.finalizeRequestSeen request)
      emit c w .finalizing request.reason
      writeQuiescence w "orchestration"
      update fun s => { s with quiescenceWritten := true }
    | none =>
      if r.node.state = .starting then maybeReady c w
      else if r.node.state = .ready then do
        let ready ← flightPeersReady c w
        if ready then startRunning c w else pure ()
      else pure ()
  else pure ()

/-- The last part of `poll`: the terminal control. -/
def observeTerminal : Call Bool := do
  let file ← ofExcept (w.controlFile "terminal-committed")
  let committed ← ofExcept (readTerminalCommitted c.runId file)
  match committed with
  | some committed => do
    perform (.terminalSeen committed)
    update fun s => { s with state := .terminal committed.terminalStatus, terminal := true }
    return true
  | none => return false

/-- `poll` while the run is finalizing. -/
def observeFreeze : Call Bool := do
  let r ← get
  if r.node.quiescenceWritten = false then
    throw "orchestration quiescence marker was not written"
  else if r.node.freezeWritten then observeTerminal c w
  else do
    let quiescent ← all (quiescencePresent c w) quiescencePeers
    if quiescent then do
      writeStatus w .runtimeFrozen (frozenStatus c)
      update fun s => { s with freezeWritten := true }
      observeTerminal c w
    else return false

/-- `poll`. -/
def poll : Call Bool := do
  let r ← get
  if r.node.terminal then return true
  else do
    observeRequest c w
    let r ← get
    if r.node.state = .finalizing then observeFreeze c w else return false

end

end OrchestrationRuntime

/-! ## 4. Runs -/

/-- The calls of the node's adapters. -/
inductive NodeInput where
  | start
  | acceptArtifactStatus (runId : String) (ready : Bool)
  | acceptClock (simTimestampNs : PyValue)
  | poll

namespace OrchestrationRuntime

/-- The body of a call, its result dropped. -/
def body (c : OrchestrationConfig) (w : NodeBoundary) : NodeInput → Call Unit
  | .start => start c w
  | .acceptArtifactStatus runId ready => acceptArtifactStatus c w runId ready
  | .acceptClock simTimestampNs => acceptClock c w simTimestampNs
  | .poll => do
    let _ ← poll c w
    return ()

/-- One call: the node after it, and what it did. -/
def call (c : OrchestrationConfig) (s : OrchestrationRuntime) (input : NodeInput × NodeBoundary) :
    OrchestrationRuntime × List NodeAction :=
  let r := ((body c input.2 input.1).exec ⟨s, []⟩).2
  (r.node, r.actions)

/-- The calls as the steps of a machine. -/
def Called (c : OrchestrationConfig) (s : OrchestrationRuntime) (input : NodeInput × NodeBoundary)
    (actions : List NodeAction) (t : OrchestrationRuntime) : Prop :=
  call c s input = (t, actions)

/-- The calls one after another. -/
def calls (c : OrchestrationConfig) :
    OrchestrationRuntime → List (NodeInput × NodeBoundary) → OrchestrationRuntime × List NodeAction
  | s, [] => (s, [])
  | s, input :: inputs =>
    let r := call c s input
    let rest := calls c r.1 inputs
    (rest.1, r.2 ++ rest.2)

theorem calls_run (inputs : List (NodeInput × NodeBoundary)) (s : OrchestrationRuntime) :
    Run (Called c) s inputs (calls c s inputs).2 (calls c s inputs).1 := by
  induction inputs generalizing s with
  | nil => exact .start
  | cons input inputs ih =>
    have hfirst : Run (Called c) s [input] (call c s input).2 (call c s input).1 := .single rfl
    exact hfirst.append (ih (call c s input).1)

end OrchestrationRuntime

end DroneSim
