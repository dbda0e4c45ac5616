/-
  File:      DroneSim/Scorekeeper/ScoreFinalizer.lean
  Subject:   The end of a scoring (_finalization.py, output.py; runtime.py at its end).

  What a finalization reaches into -- the scorer, the directory, the publisher and the protocol -- is a
  parameter that may answer anything or raise anything whenever it is asked: each answer is a function
  of how much was noted before. The state holds the fields of `_ScoreFinalizer` and the two files;
  every effect is noted, with whether it returned.
-/
import DroneSim.Library.Acting
import DroneSim.Library.Json
import DroneSim.Scorekeeper.Scorer

namespace DroneSim

open Library Library.Attempt Library.Acting

/-! ## 1. Documents -/

/-- The fields of a document. -/
def documentOf (fields : List (String × Library.Json)) : Library.Json :=
  .obj (fields.map fun f => (ofString f.1, f.2))

def RuleResult.toDocument (r : RuleResult) : Library.Json :=
  documentOf [("rule_id", .str (ofString r.ruleId)), ("passed", .bool r.passed),
    ("awarded_points", .float r.awardedPoints), ("available_points", .float r.availablePoints),
    ("evidence_ref", .str (ofString r.evidenceRef))]

def ScoreEvent.toDocument (e : ScoreEvent) : Library.Json :=
  documentOf [("run_id", .str (ofString e.runId)), ("sim_timestamp_ns", .int e.simTimestampNs),
    ("event_id", .int e.eventId), ("event_type", .str (ofString e.eventType)),
    ("value", .float e.value), ("evidence_ref", .str (ofString e.evidenceRef))]

namespace ScoreResult

def resultDocument (r : ScoreResult) : Library.Json :=
  documentOf [("run_id", .str (ofString r.runId)), ("ruleset_id", .str (ofString r.rulesetId)),
    ("complete", .bool r.complete), ("achieved_score", .float r.achievedScore),
    ("maximum_available_score", .float r.maximumAvailableScore),
    ("scoring_checksum", .str (ofString r.scoringChecksum)),
    ("evidence_paths", .arr (r.evidencePaths.map fun path => .str (ofString path))),
    ("rule_results", .arr (r.ruleResults.map RuleResult.toDocument)),
    ("diagnostic", match r.diagnostic with
      | none => .null
      | some diagnostic => .str (ofString diagnostic))]

end ScoreResult

/-- `_json_line`. -/
def jsonLine (printer : FloatPrinter) (document : Library.Json) : Except EncodeError (List UInt8) :=
  (Library.Json.encode printer document).map fun line => line ++ [10]

/-- `b"".join(_json_line(event.to_document()) for event in result.events)`. -/
def eventsPayload (printer : FloatPrinter) : List ScoreEvent → Except EncodeError (List UInt8)
  | [] => .ok []
  | event :: events => do
    let line ← jsonLine printer event.toDocument
    let lines ← eventsPayload printer events
    return line ++ lines

/-! ## 2. The events of a result -/

/-- The events are numbered from 0. -/
def EventsNumbered (events : List ScoreEvent) : Prop :=
  events.map ScoreEvent.eventId = List.range events.length

theorem EventsNumbered.nodup {events : List ScoreEvent} (h : EventsNumbered events) :
    (events.map ScoreEvent.eventId).Nodup := by
  unfold EventsNumbered at h
  rw [h]
  exact List.nodup_range

/-! ## 3. What a finalization does -/

/-- The files under `scoring/`. -/
inductive ScoreFile where
  /-- `events.jsonl`. -/
  | events
  /-- `result.json`. -/
  | result
  deriving DecidableEq, Repr

inductive FinalStatus where
  | scoreFinished (runId : String) (simTimestampNs : ℕ)
  | runtimeFailure (runId module reason : String) (diagnosticPaths : List String)
  deriving DecidableEq, Repr

/-- What is noted; of what may raise also whether it returned. -/
inductive FinalizerNote where
  | created (file : ScoreFile)
  | stored (file : ScoreFile) (payload : List UInt8) (returned : Bool)
  | published (event : ScoreEvent) (returned : Bool)
  | flushed (returned : Bool)
  | status (status : FinalStatus) (returned : Bool)
  | quiescence (module : String) (returned : Bool)
  deriving DecidableEq

inductive FinalizerError (ε : Type) where
  | outside (error : ε)
  | encoding (error : EncodeError)
  | fileExists (file : ScoreFile)
  /-- `ValueError`, of an empty reason or of a result without events. -/
  | value (message : String)

/-- Everything outside, by how much was noted before. What raises in the writing of a file leaves that
    many bytes of it. -/
structure FinalizerWorld (ε : Type) where
  scorerFail : ℕ → Except ε Unit
  lastSimTimestampNs : ℕ → ℕ
  scorerFinalize : ℕ → Except ε ScoreResult
  mkdir : ℕ → Except ε Unit
  exist : ScoreFile → ℕ → Except ε Unit
  create : ScoreFile → ℕ → Except ε Unit
  store : ScoreFile → ℕ → Except (ℕ × ε) Unit
  syncDirectory : ℕ → Except ε Unit
  publish : ScoreEvent → ℕ → Except ε Unit
  flush : ℕ → Except ε Unit
  writeStatus : FinalStatus → ℕ → Except ε Unit
  writeQuiescence : String → ℕ → Except ε Unit

structure FinalizerState where
  result : Option ScoreResult
  failureWritten : Bool
  quiescent : Bool
  disk : ScoreFile → Option (List UInt8)

/-- `_ScoreFinalizer` at the beginning. -/
def FinalizerState.initial (disk : ScoreFile → Option (List UInt8)) : FinalizerState :=
  ⟨none, false, false, disk⟩

abbrev Finalizing (ε : Type) : Type → Type := Action FinalizerState FinalizerNote (FinalizerError ε)

namespace ScoreFinalizer

variable {ε α : Type}
variable (printer : FloatPrinter) (runId : String) (w : FinalizerWorld ε)

/-! ## 4. The outside -/

/-- Asks the outside. -/
def ask (answer : ℕ → Except ε α) : Finalizing ε α := do
  let r ← get
  ofExcept ((answer r.log.length).mapError .outside)

/-- Asks the outside for an effect, and notes it. -/
def attempt (answer : ℕ → Except ε Unit) (note : Bool → FinalizerNote) : Finalizing ε Unit := do
  let r ← get
  match answer r.log.length with
  | .ok _ => perform (note true)
  | .error error => do
    perform (note false)
    throw (.outside error)

/-- The file holds these bytes. -/
def put (file : ScoreFile) (bytes : List UInt8) (s : FinalizerState) : FinalizerState :=
  { s with disk := Function.update s.disk file (some bytes) }

/-- `path.exists()`, and what is raised where it does. -/
def refuseExisting (file : ScoreFile) : Finalizing ε Unit := do
  ask (w.exist file)
  let s ← current
  if (s.disk file).isSome then throw (.fileExists file) else pure ()

/-- The body of the `with` statement and its end. -/
def storePayload (file : ScoreFile) (payload : List UInt8) : Finalizing ε Unit := do
  let r ← get
  match w.store file r.log.length with
  | .ok _ => do
    update (put file payload)
    perform (.stored file payload true)
  | .error (kept, error) => do
    update (put file (payload.take kept))
    perform (.stored file payload false)
    throw (.outside error)

/-- `_write_new`. -/
def writeNew (file : ScoreFile) (payload : List UInt8) : Finalizing ε Unit := do
  let s ← current
  if (s.disk file).isSome then throw (.fileExists file)
  else do
    ask (w.create file)
    update (put file [])
    perform (.created file)
    storePayload w file payload

/-! ## 5. Finalization -/

/-- The writing of the result, which a `finally` follows. -/
def writeResult (result : ScoreResult) : Finalizing ε Unit := do
  tryCatch
    (do
      let payload ← ofExcept ((jsonLine printer result.resultDocument).mapError .encoding)
      writeNew w .result payload)
    fun error => do
      ask w.syncDirectory
      throw error
  ask w.syncDirectory

/-- `persist_score_outputs`. -/
def persistScoreOutputs (result : ScoreResult) : Finalizing ε Unit := do
  ask w.mkdir
  refuseExisting w .events
  refuseExisting w .result
  let payload ← ofExcept ((eventsPayload printer result.events).mapError .encoding)
  writeNew w .events payload
  writeResult printer w result

/-- One event after another. -/
def publishAll (w : FinalizerWorld ε) : List ScoreEvent → Finalizing ε Unit
  | [] => pure ()
  | event :: events => do
    attempt (w.publish event) (.published event)
    publishAll w events

/-- The status of a result that is not complete. -/
def failureStatus (result : ScoreResult) : FinalStatus :=
  .runtimeFailure runId "scorekeeper"
    (match result.diagnostic with
      | some diagnostic => if diagnostic = "" then "score_incomplete" else diagnostic
      | none => "score_incomplete")
    ["scoring/events.jsonl", "scoring/result.json"]

/-- The status that ends a finalization. -/
def writeFinalStatus (result : ScoreResult) : Finalizing ε Unit :=
  if result.complete then
    match result.events.getLast? with
    | none => throw (.value "score result has no final event timestamp")
    | some event =>
      attempt (w.writeStatus (.scoreFinished runId event.simTimestampNs))
        (.status (.scoreFinished runId event.simTimestampNs))
  else do
    let s ← current
    if s.failureWritten then pure ()
    else do
      attempt (w.writeStatus (failureStatus runId result)) (.status (failureStatus runId result))
      update fun s => { s with failureWritten := true }

/-- What the scorer is told where the source ended at another time than it did. -/
def checkSource (sourceTimestampNs : Option ℕ) : Finalizing ε Unit :=
  match sourceTimestampNs with
  | none => pure ()
  | some stamp => do
    let r ← get
    if w.lastSimTimestampNs r.log.length ≠ stamp then ask w.scorerFail else pure ()

/-- `finalize` of a result that was come to. -/
def settle (result : ScoreResult) : Finalizing ε ScoreResult := do
  persistScoreOutputs printer w result
  publishAll w result.events
  attempt w.flush .flushed
  writeFinalStatus runId w result
  update fun s => { s with result := some result }
  return result

/-- `finalize`. -/
def finalize (sourceTimestampNs : Option ℕ) : Finalizing ε ScoreResult := do
  let s ← current
  match s.result with
  | some result => return result
  | none => do
    checkSource w sourceTimestampNs
    let result ← ask w.scorerFinalize
    settle printer runId w result

/-- `fail`. -/
def fail (reason : String) : Finalizing ε Unit := do
  if reason = "" then throw (.value "failure reason must be nonempty")
  else do
    let s ← current
    if s.quiescent || s.result.isSome then pure () else ask w.scorerFail

/-- `quiesce`. -/
def quiesce : Finalizing ε Unit := do
  let s ← current
  if s.quiescent then pure ()
  else do
    let _ ← finalize printer runId w none
    update fun s => { s with quiescent := true }
    attempt (w.writeQuiescence "scorekeeper") (.quiescence "scorekeeper")

/-! ## 6. The runtime -/

/-- `ScorekeeperRuntime._finalize`: the scorer may be told of the scenario before. -/
def runtimeFinalize (scenarioFailed : Bool) (sourceTimestampNs : Option ℕ) :
    Finalizing ε ScoreResult := do
  let s ← current
  match s.result with
  | some result => return result
  | none => do
    if scenarioFailed then ask w.scorerFail else pure ()
    finalize printer runId w sourceTimestampNs

/-- `ScorekeeperRuntime.begin_finalization`. -/
def beginFinalization (scenarioFailed : Bool) : Finalizing ε Unit := do
  let s ← current
  if s.quiescent then pure ()
  else do
    let _ ← runtimeFinalize printer runId w scenarioFailed none
    quiesce printer runId w

/-- The calls, each in a world of its own. -/
inductive Input (ε : Type) where
  | fail (w : FinalizerWorld ε) (reason : String)
  | finalize (w : FinalizerWorld ε) (sourceTimestampNs : Option ℕ)
  | quiesce (w : FinalizerWorld ε)
  | sourceFinished (w : FinalizerWorld ε) (scenarioFailed : Bool) (simTimestampNs : ℕ)
  | beginFinalization (w : FinalizerWorld ε) (scenarioFailed : Bool)

def Input.world : Input ε → FinalizerWorld ε
  | .fail w _ => w
  | .finalize w _ => w
  | .quiesce w => w
  | .sourceFinished w _ _ => w
  | .beginFinalization w _ => w

/-- One call, and the result where it returns one. -/
def answer : Input ε → Finalizing ε (Option ScoreResult)
  | .fail w reason => do
    fail w reason
    return none
  | .finalize w sourceTimestampNs => do
    let result ← finalize printer runId w sourceTimestampNs
    return some result
  | .quiesce w => do
    quiesce printer runId w
    return none
  | .sourceFinished w scenarioFailed simTimestampNs => do
    let result ← runtimeFinalize printer runId w scenarioFailed (some simTimestampNs)
    return some result
  | .beginFinalization w scenarioFailed => do
    beginFinalization printer runId w scenarioFailed
    return none

end ScoreFinalizer

end DroneSim
