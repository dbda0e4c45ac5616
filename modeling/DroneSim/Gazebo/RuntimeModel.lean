/-
  File:      DroneSim/Gazebo/RuntimeModel.lean
  Subject:   The transition model of one Gazebo run (gazebo/runtime/model.py).

  The model takes one fact after another and answers each with the side effects to perform, in
  order. A call may raise; it has changed nothing then. What an event must satisfy to be built is
  part of its type where it matters here, and `NativeArtifactSummary` is not trusted: the model
  builds it again.
-/
import DroneSim.Artifacts.RuntimeStatus
import DroneSim.Gazebo.AdapterModel
import DroneSim.Orchestration.Lifecycle
import DroneSim.Library.Latch

namespace DroneSim

open Library

/-! ## 1. Values -/

/-- An absolute path by its components below the root. -/
abbrev AbsolutePath := List String

/-- `path.name`. -/
def pathName (path : AbsolutePath) : String := path.getLast?.getD ""

/-- `path.parent`. -/
def pathParent (path : AbsolutePath) : AbsolutePath := path.dropLast

structure NativeArtifactSummary where
  serverLogPath : AbsolutePath
  stateLogPath : AbsolutePath
  serverReturncode : ℤ
  graceful : Bool
  deriving DecidableEq

/-- `NativeArtifactSummary(...)`, with the reason it raises with. -/
def NativeArtifactSummary.make (serverLog stateLog : AbsolutePath) (returncode : ℤ)
    (graceful : Bool) : Except String NativeArtifactSummary :=
  if serverLog.contains ".." then
    .error "server_log_path must not contain parent traversal"
  else if stateLog.contains ".." then
    .error "state_log_path must not contain parent traversal"
  else if pathName serverLog ≠ "server.log" ∨ pathName (pathParent serverLog) ≠ "gazebo" then
    .error "server_log_path must be the canonical Gazebo server log"
  else if pathName stateLog ≠ "state.tlog.zst" ∨ pathName (pathParent stateLog) ≠ "state" ∨
      pathParent (pathParent stateLog) ≠ pathParent serverLog then
    .error "state_log_path must be the canonical Gazebo native state log"
  else if isCanonicalUuid (pathName (pathParent (pathParent serverLog))) then
    .ok ⟨serverLog, stateLog, returncode, graceful⟩
  else .error "run_id must be a canonical UUID"

/-- `_MAX_REASON_BYTES`. -/
def maxReasonBytes : ℕ := 1024

/-- `_bounded_text`, as a test. -/
def boundedText (value : String) (maximum : ℕ) : Bool :=
  value != "" && value.utf8ByteSize ≤ maximum

/-- A reason that an event or an effect may carry. -/
abbrev BoundedReason := { reason : String // boundedText reason maxReasonBytes = true }

/-- A diagnostic path of a runtime failure. -/
abbrev DiagnosticPath := String

/-- `_SERVER_DIAGNOSTIC`. -/
def serverDiagnostic : List DiagnosticPath := ["gazebo/server.log.partial"]

/-- `_SERVER_EXIT_DIAGNOSTICS`. -/
def serverExitDiagnostics : List DiagnosticPath := ["gazebo/server.log.partial", "gazebo/state"]

/-! ## 2. Effects and events -/

/-- `RuntimeAction`. A deadline is a number of seconds. -/
inductive RuntimeAction where
  | publishGazeboReady (flightExchange : FlightExchange)
  | requestSteps (count : ℕ)
  | setPaused (paused : Bool)
  | activateOutput
  | writeSourceFinished (simTimestampNs : ℕ)
  | writeRuntimeFailure (reason : String) (diagnosticPaths : List DiagnosticPath)
  | beginFinalization (requestedTerminal : TerminalState) (reason : String)
  | stopServer (deadlineMonotonic : ℚ)
  | writeQuiescence (nativeArtifacts : NativeArtifactSummary)
  deriving DecidableEq

structure FinalizationRequested where
  requestedTerminal : TerminalState
  reason : BoundedReason
  deadlineMonotonic : ℚ
  deriving DecidableEq

/-- `RuntimeEvent` without its run id. -/
inductive RuntimeFact where
  | artifactsReady
  | gazeboReady (flightExchange : FlightExchange)
  | runState (state : LifecycleState)
  | adapterCompleted (summary : AdapterSummary)
  | childExited (childName : String) (returncode : ℤ)
  | endpointTimeout (endpoint : String)
  | finalizationRequested (request : FinalizationRequested)
  | serverStopFailed (reason : BoundedReason) (diagnosticPaths : List DiagnosticPath)
  | serverStopped (nativeArtifacts : NativeArtifactSummary)
  deriving DecidableEq

/-- What `accept` is called with: an event, or a value of another type. -/
inductive RuntimeInput where
  | event (runId : String) (fact : RuntimeFact)
  | unsupported
  deriving DecidableEq

/-! ## 3. The model -/

structure RuntimeModel where
  runId : String
  expectedFrames : ℕ
  artifactsReady : Bool
  flightExchange : Option FlightExchange
  gazeboReadyPublished : Bool
  warmupStarted : Bool
  lifecycleState : LifecycleState
  paused : Bool
  sourceSummary : Option AdapterSummary
  failureReason : Option String
  finalizationPreempted : Bool
  beginFinalizationEmitted : Bool
  stopRequested : Bool
  finalizationRequest : Option FinalizationRequested
  serverStopFailed : Bool
  nativeArtifacts : Option NativeArtifactSummary
  frozen : Bool

namespace RuntimeModel

variable (m : RuntimeModel)

/-- `RuntimeModel.__init__`. -/
def initial (runId : String) (expectedFrames : ℕ) : RuntimeModel where
  runId := runId
  expectedFrames := expectedFrames
  artifactsReady := false
  flightExchange := none
  gazeboReadyPublished := false
  warmupStarted := false
  lifecycleState := .starting
  paused := true
  sourceSummary := none
  failureReason := none
  finalizationPreempted := false
  beginFinalizationEmitted := false
  stopRequested := false
  finalizationRequest := none
  serverStopFailed := false
  nativeArtifacts := none
  frozen := false

/-- The model after a call, and the effects it returns. -/
abbrev Effects := RuntimeModel × List RuntimeAction

/-- A pause, unless the world is paused. -/
def pauseActions : List RuntimeAction :=
  if m.paused then [] else [.setPaused true]

/-- `_failure`. -/
def failure (reason : String) (diagnosticPaths : List DiagnosticPath) : Except String Effects :=
  if m.failureReason.isSome then .ok (m, [])
  else if boundedText reason maxReasonBytes then
    .ok ({ m with
        failureReason := some reason
        finalizationPreempted := true
        paused := true
        beginFinalizationEmitted := true },
      [RuntimeAction.writeRuntimeFailure reason diagnosticPaths] ++ m.pauseActions ++
        if m.beginFinalizationEmitted then [] else [RuntimeAction.beginFinalization .failed reason])
  else .error "reason must be nonempty and at most 1024 UTF-8 bytes"

/-- `_ready`. -/
def ready : Effects :=
  match m.flightExchange with
  | some flightExchange =>
    if m.artifactsReady && !m.gazeboReadyPublished then
      ({ m with gazeboReadyPublished := true }, [.publishGazeboReady flightExchange])
    else (m, [])
  | none => (m, [])

/-- `_native_stop_failure`. -/
def nativeStopFailure (reason : String) : Except String Effects :=
  (m.failure reason serverExitDiagnostics).map fun r => ({ r.1 with serverStopFailed := true }, r.2)

/-- `_accept_run_state`. -/
def acceptRunState (state : LifecycleState) : Except String Effects :=
  match state with
  | .starting =>
    if m.lifecycleState = .starting then .ok (m, [])
    else m.failure ("invalid lifecycle transition " ++ m.lifecycleState.value ++ " -> " ++
      state.value) serverDiagnostic
  | .ready =>
    if m.lifecycleState = .ready ∧ m.warmupStarted = true then .ok (m, [])
    else if m.gazeboReadyPublished = false then
      m.failure "READY received before Gazebo readiness publication" serverDiagnostic
    else if m.lifecycleState ≠ .starting then
      m.failure ("invalid lifecycle transition " ++ m.lifecycleState.value ++ " -> READY")
        serverDiagnostic
    else
      let m := { m with lifecycleState := .ready, warmupStarted := true }
      if m.paused then .ok ({ m with paused := false }, [.setPaused false]) else .ok (m, [])
  | .running =>
    if m.lifecycleState = .running then .ok (m, [])
    else if m.warmupStarted = false ∨ m.lifecycleState ≠ .ready then
      m.failure "RUNNING received before the controlled readiness step" serverDiagnostic
    else .ok ({ m with lifecycleState := .running }, [.activateOutput])
  | .finalizing =>
    .ok ({ m with
        lifecycleState := .finalizing
        finalizationPreempted := true
        paused := true }, m.pauseActions)
  | .terminal terminal =>
    m.failure ("premature terminal lifecycle state received: " ++ terminal.value) serverDiagnostic
  | .created =>
    m.failure ("invalid lifecycle transition " ++ m.lifecycleState.value ++ " -> " ++ state.value)
      serverDiagnostic

/-- `_FRAME_INTERVAL_NS`. -/
def frameIntervalNs : ℕ := 50000000

/-- `_validated_completion`. That the counts are integers and not negative is in their type. -/
def validatedCompletion (summary : AdapterSummary) : Option String :=
  let counts := [summary.onboardFrames, summary.observerFrames, summary.pairedFrames,
    summary.groundTruthSamples]
  if counts.any fun value => m.expectedFrames < value then
    some "adapter summary exceeds the configured frame count"
  else if counts.dedup.length ≠ 1 then
    some "adapter summary requires aligned camera and ground-truth counts"
  else if summary.onboardFrames ≠ m.expectedFrames then
    some ("adapter completion requires exactly " ++ toString m.expectedFrames ++
      " aligned samples")
  else if summary.firstSimTimestampNs ≠ some frameIntervalNs ∨
      summary.lastSimTimestampNs ≠ some (m.expectedFrames * frameIntervalNs) then
    some "adapter completion timestamp does not match the public frame cadence"
  else none

/-- `_accept_completion`. -/
def acceptCompletion (summary : AdapterSummary) : Except String Effects :=
  match m.sourceSummary with
  | some source =>
    if summary = source then .ok (m, [])
    else m.failure "adapter completion changed after source-finished" serverDiagnostic
  | none =>
    if m.failureReason.isSome || m.finalizationPreempted then .ok (m, [])
    else if m.lifecycleState ≠ .running then
      m.failure "adapter completed before the run reached RUNNING" serverDiagnostic
    else
      match m.validatedCompletion summary with
      | some invalid => m.failure invalid serverDiagnostic
      | none =>
        .ok ({ m with sourceSummary := some summary, paused := true },
          m.pauseActions ++ [RuntimeAction.writeSourceFinished (summary.lastSimTimestampNs.getD 0)])

/-- The first part of `_accept_finalization`: a run that is requested to complete too early
    fails. -/
def failEarly (request : FinalizationRequested) : Except String Effects :=
  if request.requestedTerminal = .completed ∧ m.sourceSummary = none ∧ m.failureReason = none then
    m.failure "COMPLETED finalization requested before exact source-finished" serverDiagnostic
  else .ok (m, [])

/-- The rest of `_accept_finalization`: a failed run finalizes as failed, for its own reason. -/
def finalize (request : FinalizationRequested) : Effects :=
  let requestedTerminal := if m.failureReason.isSome then .failed else request.requestedTerminal
  let reason := m.failureReason.getD request.reason.val
  ({ m with
      finalizationPreempted := true
      lifecycleState := .finalizing
      paused := true
      beginFinalizationEmitted := true
      finalizationRequest := some request
      stopRequested := true },
    m.pauseActions ++
      (if m.beginFinalizationEmitted then [] else [RuntimeAction.beginFinalization requestedTerminal reason]) ++
      [RuntimeAction.stopServer request.deadlineMonotonic])

/-- `_accept_finalization`. -/
def acceptFinalization (request : FinalizationRequested) : Except String Effects :=
  if m.stopRequested then .ok (m, [])
  else (m.failEarly request).map fun r =>
    ((r.1.finalize request).1, r.2 ++ (r.1.finalize request).2)

/-- `_accept_stopped`, the summary already known left to `accept`. -/
def acceptStopped (native : NativeArtifactSummary) : Except String Effects :=
  match m.nativeArtifacts with
  | some known =>
    if native = known then .ok (m, [])
    else .error "native artifact summary changed after quiescence"
  | none =>
    if m.serverStopFailed then .ok (m, [])
    else
      match NativeArtifactSummary.make native.serverLogPath native.stateLogPath
        native.serverReturncode native.graceful with
      | .error _ => m.nativeStopFailure "native artifact summary is malformed"
      | .ok validated =>
        if validated ≠ native then
          m.nativeStopFailure "native artifact summary is inconsistent"
        else if m.stopRequested = false then
          m.nativeStopFailure "Gazebo server stopped before finalization requested"
        else if pathName (pathParent (pathParent native.serverLogPath)) ≠ m.runId then
          m.nativeStopFailure "native artifact summary belongs to another run"
        else
          .ok ({ m with nativeArtifacts := some native, frozen := true },
            [.writeQuiescence native])

/-- `_is_frozen_duplicate`. -/
def isFrozenDuplicate : RuntimeFact → Bool
  | .serverStopped native => m.nativeArtifacts == some native
  | .runState .finalizing => true
  | .runState (.terminal _) => true
  | .finalizationRequested request => m.finalizationRequest == some request
  | _ => false

/-- The branches of `accept` on an event of this run that is not frozen. -/
def acceptFact : RuntimeFact → Except String Effects
  | .finalizationRequested request => m.acceptFinalization request
  | .serverStopFailed reason diagnosticPaths =>
    (m.failure reason.val diagnosticPaths).map fun r =>
      ({ r.1 with serverStopFailed := true }, r.2)
  | .serverStopped native => m.acceptStopped native
  | .childExited childName returncode =>
    m.failure ("runtime child " ++ childName ++ " exited unexpectedly with return code " ++
      toString returncode) serverExitDiagnostics
  | .endpointTimeout endpoint =>
    if m.finalizationPreempted then .ok (m, [])
    else m.failure ("Gazebo endpoint readiness timed out: " ++ endpoint) serverDiagnostic
  | .runState state =>
    if m.failureReason.isSome then .ok (m, []) else m.acceptRunState state
  | .artifactsReady =>
    if m.failureReason.isSome || m.finalizationPreempted || m.artifactsReady then .ok (m, [])
    else .ok { m with artifactsReady := true }.ready
  | .gazeboReady flightExchange =>
    if m.failureReason.isSome || m.finalizationPreempted || m.flightExchange.isSome then .ok (m, [])
    else .ok { m with flightExchange := some flightExchange }.ready
  | .adapterCompleted summary =>
    if m.failureReason.isSome || m.finalizationPreempted then .ok (m, [])
    else m.acceptCompletion summary

/-- `accept`, as the model and the effects of a call that returns. -/
def acceptOk : RuntimeInput → Except String Effects
  | .unsupported =>
    if m.frozen then .error "runtime model is frozen"
    else m.failure "unsupported runtime input" serverDiagnostic
  | .event runId fact =>
    if runId ≠ m.runId then .ok (m, [])
    else if m.frozen then
      if m.isFrozenDuplicate fact then .ok (m, []) else .error "runtime model is frozen"
    else m.acceptFact fact

/-- `accept`. A call that raises leaves the model as it was. -/
def accept (input : RuntimeInput) : RuntimeModel × Except String (List RuntimeAction) :=
  match m.acceptOk input with
  | .ok (m, actions) => (m, .ok actions)
  | .error text => (m, .error text)

end RuntimeModel

end DroneSim
