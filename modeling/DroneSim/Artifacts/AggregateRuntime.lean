/-
  File:      DroneSim/Artifacts/AggregateRuntime.lean
  Subject:   The artifacts of a run, from the start of its recorders to the notified terminal
             (runtime_node.py, AggregateArtifactsRuntime).

  The recorders, the validators, the clock and the files that are read are a world that may answer
  anything or raise anything whenever it is asked: each answer is a function of how much was noted
  before, and every question is noted. The writing of a status succeeds.
-/
import DroneSim.Artifacts.RuntimeStatus
import DroneSim.Library.Acting
import DroneSim.Library.StableSort

namespace DroneSim

open Library Library.Attempt Library.Acting

/-! ## 1. What comes from outside -/

/-- The recorded streams. -/
inductive VideoStream where
  | onboard
  | observer
  deriving DecidableEq, Repr

def VideoStream.name : VideoStream → String
  | .onboard => "onboard"
  | .observer => "observer"

/-- What is raised. -/
structure Raised where
  /-- `isinstance(error, Exception)`. -/
  isException : Bool
  /-- `type(error).__name__`. -/
  typeName : String
  /-- `str(error)`. -/
  message : String
  deriving DecidableEq, Repr

/-- `f"{type(error).__name__}: {error}"`. -/
def Raised.text (error : Raised) : String := error.typeName ++ ": " ++ error.message

/-- What the recorder of the bag says of its end. -/
structure BagFinalization where
  exited : Except Raised Bool
  shutdownRequested : Except Raised Bool
  detail : Except Raised String

/-- What a validator returns: its attributes, and what it lists. A status of another type is `none`. -/
structure ValidatorResult where
  status : Except Raised (Option ValidationStatus)
  getattr : String → Except Raised PyValue
  /-- Event and detail of each. -/
  diagnostics : Except Raised (List (PyValue × PyValue))
  /-- The five fields of each. -/
  topics : Except Raised (List (PyValue × PyValue × PyValue × PyValue × PyValue))

/-- A failure that a recorder reports while it is called. -/
structure FailureReport where
  reason : String
  diagnosticPaths : List String
  deriving DecidableEq, Repr

/-- A question whose answer no result is about. -/
inductive ArtifactsQuestion where
  | bagStart
  | videoStart (deadline : ℚ)
  | bagAlive
  | recorderReady (stream : VideoStream)
  | bagReady
  | initialStatusDelivered
  | videoReady
  | backpressureReady
  | lifecycleReady
  | freeze (stream : VideoStream)
  | failedByFault
  deriving DecidableEq, Repr

/-- The statuses that are written. -/
inductive ArtifactsStatus where
  | ready
  | final (records : FinalRecords)
  | notified
  | failure (failure : RuntimeFailure)

/-- The document that is published. -/
structure ArtifactStatusDocument where
  ready : Bool
  complete : PyValue
  missing : List String
  manifestPath : String

/-- What is noted. -/
inductive ArtifactsNote where
  | asked (question : ArtifactsQuestion)
  | clock (now : Except Raised ℚ)
  | published (document : ArtifactStatusDocument)
  /-- `finalize` is called. -/
  | finalizing (outcome : String) (deadline : ℚ)
  /-- `read_status(RuntimeFrozenStatus)`, and whether there is one. -/
  | frozen (answer : Except Raised Bool)
  | finalizedVideo (stream : VideoStream) (deadline : ℚ) (outcome : String)
  | finalizedBag (deadline : ℚ) (answer : Except Raised BagFinalization)
  | validatedVideo (stream : VideoStream) (path : String) (frames : ℕ) (outcome : String)
      (deadline : ℚ) (answer : Except Raised ValidatorResult)
  /-- The thread of the bag's validator, after the wait: `none` where it is not through. -/
  | waitedForBag (deadline : ℚ) (answer : Option (Except Raised ValidatorResult))
  | committed (answer : Except Raised (Option (List (PyKey × PyValue))))
  | manifest (answer : Except Raised (List (PyKey × PyValue)))
  | wrote (status : ArtifactsStatus)

/-- Everything outside, by how much was noted before; a recorder may report failures first. -/
structure ArtifactsWorld where
  ask : ArtifactsQuestion → ℕ → Except Raised Bool
  reports : ArtifactsQuestion → ℕ → List FailureReport
  clock : ℕ → Except Raised ℚ
  publish : ℕ → Except Raised Unit
  frozen : ℕ → Except Raised Bool
  finalizeVideo : VideoStream → ℕ → Except Raised Unit
  videoReports : VideoStream → ℕ → List FailureReport
  finalizeBag : ℕ → Except Raised BagFinalization
  validateVideo : VideoStream → ℕ → Except Raised ValidatorResult
  waitForBag : ℕ → Option (Except Raised ValidatorResult)
  committed : ℕ → Except Raised (Option (List (PyKey × PyValue)))
  manifest : ℕ → Except Raised (List (PyKey × PyValue))

/-- What the constructor fixes. -/
structure ArtifactsSetup where
  runId : String
  canonical : isCanonicalUuid runId = true
  expectedCameraFrames : ℕ

structure ArtifactsState where
  started : Bool
  ready : Bool
  initialStatusPublished : Bool
  startupDeadline : Option ℚ
  finalReport : Option PyValue
  failureWritten : Bool
  terminal : Bool
  finalizationStarted : Bool
  finalizationBlocked : Bool
  prematureBagExit : Bool

/-- As the constructor leaves it. -/
def ArtifactsState.initial : ArtifactsState :=
  ⟨false, false, false, none, none, false, false, false, false, false⟩

abbrev Artifacts : Type → Type := Action ArtifactsState ArtifactsNote Raised

namespace AggregateRuntime

variable {α : Type}
variable (w : ArtifactsWorld) (c : ArtifactsSetup) (deadline : ℚ)

/-! ## 2. Questions -/

/-- Asks the outside, and notes it. -/
def ask (answer : ℕ → Except Raised α) (note : Except Raised α → ArtifactsNote) : Artifacts α := do
  let r ← get
  perform (note (answer r.log.length))
  ofExcept (answer r.log.length)

/-- Reads what was returned. -/
def look (x : Except Raised α) : Artifacts α := ofExcept x

/-- `except Exception as error`. -/
def exceptException (x : Artifacts α) (h : Raised → Artifacts α) : Artifacts α :=
  tryCatch x fun error => if error.isException then h error else throw error

/-- A question that is answered with a truth value. -/
def inquire (question : ArtifactsQuestion) : Artifacts Bool :=
  ask (w.ask question) fun _ => .asked question

/-- `_publish`. -/
def publish (w : ArtifactsWorld) (document : ArtifactStatusDocument) : Artifacts Unit :=
  ask w.publish fun _ => .published document

def now : Artifacts ℚ := ask w.clock .clock

/-! ## 3. Failures -/

def statusError (text : String) : Raised := ⟨true, "RuntimeStatusError", text⟩

/-- `RuntimeFailureStatus(self.run_id, "artifacts", reason, tuple(diagnostic_paths))`. -/
def failureStatus (reason : String) (diagnosticPaths : List String) :
    Except Raised RuntimeFailure :=
  if reasoned : reason ≠ "" then
    if pathsValid : diagnosticPaths.all validDiagnosticPath = true then
      if pathsUnique : diagnosticPaths.Nodup then
        .ok ⟨"artifacts", reason, diagnosticPaths, by decide, reasoned, pathsValid, pathsUnique⟩
      else .error (statusError "diagnostic paths must be unique")
    else .error (statusError "diagnostic path must be relative POSIX syntax")
  else .error (statusError "failure reason must be a nonempty string")

/-- `report_failure`. -/
def reportFailure (reason : String) (diagnosticPaths : List String) : Artifacts Unit := do
  let s ← current
  if s.failureWritten then pure ()
  else do
    let failure ← look (failureStatus reason diagnosticPaths)
    perform (.wrote (.failure failure))
    update fun s => { s with failureWritten := true }

/-- The failures that a recorder reports on its way; what their reporting raises is its own affair. -/
def takeReports : List FailureReport → Artifacts Unit
  | [] => pure ()
  | report :: reports => do
    tryCatch (reportFailure report.reason report.diagnosticPaths) fun _ => pure ()
    takeReports reports

/-- A question to a recorder that may report failures before it answers. -/
def inquireReporting (question : ArtifactsQuestion) : Artifacts Unit := do
  let r ← get
  takeReports (w.reports question r.log.length)
  let _ ← inquire w question

def bagLog : List String := ["logs/docker/rosbag2.log.partial"]

def streamLog (stream : VideoStream) : List String :=
  ["logs/docker/ffmpeg-" ++ stream.name ++ ".log.partial"]

/-- `_report_premature_bag_exit`. -/
def reportPrematureBagExit (reason : String) : Artifacts Unit := do
  update fun s => { s with prematureBagExit := true }
  reportFailure reason bagLog

/-! ## 4. Start, health and readiness -/

/-- `start`. -/
def start : Artifacts Bool := do
  let s ← current
  if s.started then throw ⟨true, "RuntimeError", "artifact runtime has already started"⟩
  else do
    update fun s => { s with started := true, startupDeadline := some deadline }
    exceptException
      (do
        let _ ← inquire w .bagStart
        inquireReporting w (.videoStart deadline)
        return true)
      fun error => do
        reportFailure ("recorder startup failed: " ++ error.text) bagLog
        return false

/-- One recorder after another is ready. -/
def recordersReady (w : ArtifactsWorld) : List VideoStream → Artifacts Bool
  | [] => return true
  | stream :: streams => do
    let ready ← inquire w (.recorderReady stream)
    if ready then recordersReady w streams
    else do
      reportFailure (stream.name ++ " FFmpeg exited after recorder readiness") (streamLog stream)
      return false

def streams : List VideoStream := [.onboard, .observer]

/-- `check_health`. -/
def checkHealth : Artifacts Bool := do
  let s ← current
  if !s.started || s.finalizationBlocked then return false
  else do
    let alive ← inquire w .bagAlive
    if alive then recordersReady w streams
    else do
      reportPrematureBagExit "rosbag recorder exited after recorder readiness"
      return false

/-- The first published document. -/
def initialDocument : ArtifactStatusDocument := ⟨false, .bool false, ["onboard", "observer", "rosbag"], ""⟩

def readyDocument : ArtifactStatusDocument := ⟨true, .bool false, [], ""⟩

/-- Not acknowledged: a failure once the deadline has passed. -/
def undelivered : Artifacts Bool := do
  let s ← current
  match s.startupDeadline with
  | none => return false
  | some deadline => do
    let now ← now w
    if deadline ≤ now then do
      reportFailure ("initial artifact status delivery was not acknowledged " ++
        "before startup deadline") bagLog
      return false
    else return false

/-- All of these hold, asked one after another. -/
def allHold (w : ArtifactsWorld) : List ArtifactsQuestion → Artifacts Bool
  | [] => return true
  | question :: questions => do
    let holds ← inquire w question
    if holds then allHold w questions else return false

/-- The last steps of `check_ready`. -/
def announceReady : Artifacts Bool := do
  let ready ← allHold w [.videoReady, .backpressureReady, .lifecycleReady]
  if ready then do
    publish w readyDocument
    perform (.wrote .ready)
    update fun s => { s with ready := true }
    return true
  else return false

/-- `check_ready` once the recorders are well. -/
def checkDelivery : Artifacts Bool := do
  let s ← current
  if s.initialStatusPublished then do
    let delivered ← inquire w .initialStatusDelivered
    if delivered then announceReady w else undelivered w
  else do
    publish w initialDocument
    update fun s => { s with initialStatusPublished := true }
    return false

/-- `check_ready`. -/
def checkReady : Artifacts Bool := do
  let s ← current
  if !s.started || s.failureWritten || s.ready then return s.ready
  else do
    let healthy ← checkHealth w
    if healthy then do
      let bagReady ← inquire w .bagReady
      if bagReady then checkDelivery w else return false
    else return false

/-! ## 5. Results and records -/

/-- `getattr(result, name, None)`. -/
def attributeOrNone (result : ValidatorResult) (name : String) : Except Raised PyValue :=
  match result.getattr name with
  | .ok value => .ok value
  | .error error => if error.typeName = "AttributeError" then .ok .none else .error error

def videoAttributes : List String :=
  ["codec_name", "pix_fmt", "avg_frame_rate", "width", "height", "frame_count"]

/-- `_video_semantic`. -/
def videoSemantic (result : ValidatorResult) : Except Raised PyValue := do
  let values ← videoAttributes.mapM (attributeOrNone result)
  let diagnostics ← result.diagnostics
  return .mapping true (document (videoAttributes.zip values ++
    [("diagnostics", PyValue.list (diagnostics.map fun item =>
      .mapping true (document [("event", item.1), ("detail", item.2)])))]))

/-- `_bag_semantic`. -/
def bagSemantic (result : ValidatorResult) : Except Raised PyValue := do
  let status ← result.status
  let topics ← result.topics
  return .mapping true (document
    [("storage_id", if status = some .valid then .str "mcap" else .none),
      ("topics", .list (topics.map fun (name, kind, count, first, last) =>
        .mapping true (document [("name", name), ("message_type", kind), ("message_count", count),
          ("first_sim_timestamp_ns", first), ("last_sim_timestamp_ns", last)])))])

/-- `_invalid_result`. -/
def invalidResult (detail : String) : ValidatorResult where
  status := .ok (some .invalid)
  getattr name :=
    if name = "detail" then .ok (.str detail)
    else if name = "size_bytes" ∨ name = "sha256" then .ok .none
    else .error ⟨true, "AttributeError", name⟩
  diagnostics := .ok []
  topics := .ok []

/-- The proxy for a stream that failed by an injected fault. -/
def faultProxy (result : ValidatorResult) : Except Raised ValidatorResult := do
  let size ← result.getattr "size_bytes"
  let digest ← result.getattr "sha256"
  let values ← videoAttributes.mapM (attributeOrNone result)
  let diagnostics ← result.diagnostics
  return {
    status := .ok (some .invalid)
    getattr := fun name =>
      if name = "detail" then .ok (.str "observer encoder fault injected after frame 4")
      else if name = "size_bytes" then .ok size
      else if name = "sha256" then .ok digest
      else .ok (((videoAttributes.zip values).lookup name).getD .none)
    diagnostics := .ok diagnostics
    topics := .ok [] }

/-- `_record`. -/
def record (path : String) (result : ValidatorResult) (semantic : PyValue) :
    Except Raised ArtifactFinalRecord := do
  let status ← result.status
  let detail ← result.getattr "detail"
  let sizeBytes ← result.getattr "size_bytes"
  let sha256 ← result.getattr "sha256"
  match status with
  | none => .error (statusError "artifact status must be a ValidationStatus")
  | some status =>
    (ArtifactFinalRecord.make (.str path) status detail sizeBytes sha256 semantic).mapError
      statusError

def videoPath (stream : VideoStream) : String := "video/" ++ stream.name ++ ".mp4"

/-- The validator's result, or an invalid one where it raises. -/
def validated (stream : VideoStream) (outcome : String) (deadline : ℚ) :
    Artifacts ValidatorResult :=
  exceptException
    (ask (w.validateVideo stream)
      (.validatedVideo stream (videoPath stream) c.expectedCameraFrames outcome deadline))
    fun error => return invalidResult (stream.name ++ " video validation failed: " ++ error.text)

/-- `_video_result`. -/
def videoResult (stream : VideoStream) (outcome : String) (deadline : ℚ) :
    Artifacts ValidatorResult := do
  let result ← validated w c stream outcome deadline
  if stream = .observer then do
    let failed ← inquire w .failedByFault
    if failed then look (faultProxy result) else return result
  else return result

/-- `results[0]`, of what the thread appended. -/
def threadResult : Except Raised ValidatorResult → Except Raised ValidatorResult
  | .ok result => .ok result
  | .error error =>
    if error.isException then .ok (invalidResult ("bag validation failed: " ++ error.text))
    else .error ⟨true, "IndexError", "list index out of range"⟩

/-- `_bounded_bag_validation`. -/
def boundedBagValidation : Artifacts ValidatorResult := do
  let _ ← now w
  let r ← get
  let waited := w.waitForBag r.log.length
  perform (.waitedForBag deadline waited)
  match waited with
  | none => return invalidResult "bag validation exceeded finalization deadline"
  | some answer => do
    let now ← now w
    if deadline ≤ now then
      return invalidResult "bag validation exceeded finalization deadline"
    else look (threadResult answer)

/-! ## 6. Finalization -/

/-- `recorder.freeze()` of every recorder. -/
def freezeAll (w : ArtifactsWorld) : List VideoStream → Artifacts Unit
  | [] => pure ()
  | stream :: streams => do
    inquireReporting w (.freeze stream)
    freezeAll w streams

/-- `recorder.finalize(..)` of one stream. -/
def finalizeRecorder (outcome : String) (deadline : ℚ) (stream : VideoStream) : Artifacts Unit :=
  exceptException
    (do
      let r ← get
      takeReports (w.videoReports stream r.log.length)
      ask (w.finalizeVideo stream) fun _ => .finalizedVideo stream deadline outcome)
    fun error => reportFailure
      (stream.name ++ " recorder finalization failed: " ++ error.text) (streamLog stream)

def finalizeRecorders (w : ArtifactsWorld) (outcome : String) (deadline : ℚ) :
    List VideoStream → Artifacts Unit
  | [] => pure ()
  | stream :: streams => do
    finalizeRecorder w outcome deadline stream
    finalizeRecorders w outcome deadline streams

def block : Artifacts Unit := update fun s => { s with finalizationBlocked := true }

/-- `bag_recorder.finalize(deadline)`: `none` where it raised. -/
def finalizeBagRecorder : Artifacts (Option BagFinalization) :=
  exceptException
    (do
      let finalization ← ask w.finalizeBag (.finalizedBag deadline)
      return some finalization)
    fun error => do
      reportFailure ("bag recorder finalization failed: " ++ error.text) bagLog
      block
      return none

/-- Whether the bag came to its end by the shutdown that was requested. -/
def bagEnded : Artifacts Bool := do
  let finalization ← finalizeBagRecorder w deadline
  match finalization with
  | none => return false
  | some finalization => do
    let exited ← look finalization.exited
    if exited then do
      let requested ← look finalization.shutdownRequested
      if requested then return true
      else do
        reportPrematureBagExit
          "bag recorder finalization failed: recorder exited before shutdown was requested"
        block
        return false
    else do
      let detail ← look finalization.detail
      reportFailure ("bag recorder finalization failed: " ++ detail) bagLog
      block
      return false

/-- `ArtifactsFinalStatus(self.run_id, tuple(records))`. -/
def finalRecords (records : List ArtifactFinalRecord) : Except Raised FinalRecords :=
  if inventory : records.map ArtifactFinalRecord.relativePath = artifactFinalPaths then
    .ok ⟨records, inventory⟩
  else .error (statusError "artifacts-final records have the wrong paths or order")

/-- `status_document(status)`. -/
def finalDocument (records : FinalRecords) : Except Raised PyValue :=
  let status : RuntimeStatus .artifactsFinal := ⟨c.runId, records, c.canonical⟩
  (statusDocument status).mapError statusError

/-- The record of a video. -/
def videoRecord (stream : VideoStream) (result : ValidatorResult) :
    Except Raised ArtifactFinalRecord := do
  let semantic ← videoSemantic result
  record (videoPath stream) result semantic

/-- The record of the bag. -/
def bagRecord (result : ValidatorResult) : Except Raised ArtifactFinalRecord := do
  let semantic ← bagSemantic result
  record "rosbag" result semantic

/-- The last steps of `finalize`. -/
def writeFinal (outcome : String) (deadline : ℚ) : Artifacts (Option PyValue) := do
  let onboard ← videoResult w c .onboard outcome deadline
  let observer ← videoResult w c .observer outcome deadline
  let bag ← boundedBagValidation w deadline
  let onboardRecord ← look (videoRecord .onboard onboard)
  let observerRecord ← look (videoRecord .observer observer)
  let bagRecord ← look (bagRecord bag)
  let records ← look (finalRecords [onboardRecord, observerRecord, bagRecord])
  let report ← look (finalDocument c records)
  perform (.wrote (.final records))
  update fun s => { s with finalReport := some report }
  return some report

/-- `finalize` once the runtime is frozen. -/
def finalizeFrozen (outcome : String) (deadline : ℚ) : Artifacts (Option PyValue) := do
  update fun s => { s with finalizationStarted := true }
  let alive ← inquire w .bagAlive
  if alive then pure ()
  else reportPrematureBagExit "rosbag recorder exited before shutdown was requested"
  freezeAll w streams
  finalizeRecorders w outcome deadline streams
  let s ← current
  if s.prematureBagExit then do
    block
    return none
  else do
    let ended ← bagEnded w deadline
    if ended then writeFinal w c outcome deadline else return none

/-- `finalize`. -/
def finalize (outcome : String) (deadline : ℚ) : Artifacts (Option PyValue) := do
  perform (.finalizing outcome deadline)
  let s ← current
  match s.finalReport with
  | some report => return some report
  | none =>
    if s.finalizationBlocked then return none
    else do
      let frozen ← ask w.frozen .frozen
      if frozen then finalizeFrozen w c outcome deadline else return none

/-! ## 7. The terminal -/

/-- `document.get(name) == value`. -/
def names (items : List (PyKey × PyValue)) (name value : String) : Bool :=
  (PyValue.field items name).bind text = some value

/-- The texts of a list. -/
def textsOf : PyValue → Option (List String)
  | .list values => values.mapM text
  | _ => none

/-- `sorted(..)`, of a list of texts. -/
def sortedTexts (value : Option PyValue) : Except Raised (List String) :=
  match value.bind textsOf with
  | some texts => .ok (texts.insertionSort (· ≤ ·))
  | none => .error ⟨true, "TypeError", "missing"⟩

/-- The committed document and the manifest are of this run. -/
def agrees (committed manifest : List (PyKey × PyValue)) : Bool :=
  names committed "run_id" c.runId && names committed "manifest_path" "manifest.json" &&
    names manifest "run_id" c.runId && names manifest "manifest_path" "manifest.json"

/-- The document of the terminal. -/
def terminalDocument (ready : Bool) (manifest : List (PyKey × PyValue)) :
    Except Raised ArtifactStatusDocument := do
  match PyValue.field manifest "complete" with
  | none => .error ⟨true, "KeyError", "complete"⟩
  | some complete => do
    let missing ← sortedTexts (PyValue.field manifest "missing")
    return ⟨ready, complete, missing, "manifest.json"⟩

/-- `poll_terminal` with the document that was committed. -/
def notify (committed : List (PyKey × PyValue)) : Artifacts Bool := do
  let manifest ← ask w.manifest .manifest
  if agrees c committed manifest then do
    let s ← current
    let document ← look (terminalDocument s.ready manifest)
    publish w document
    perform (.wrote .notified)
    update fun s => { s with terminal := true }
    return true
  else throw ⟨true, "RuntimeError", "terminal manifest authority is inconsistent"⟩

/-- `poll_terminal`. -/
def pollTerminal : Artifacts Bool := do
  let s ← current
  if s.terminal then return true
  else if s.finalReport.isNone then return false
  else do
    let committed ← ask w.committed .committed
    match committed with
    | none => return false
    | some committed => notify w c committed

/-! ## 8. The calls -/

/-- The calls, each in a world of its own. -/
inductive Input where
  | start (w : ArtifactsWorld) (deadline : ℚ)
  | checkReady (w : ArtifactsWorld)
  | checkHealth (w : ArtifactsWorld)
  | finalize (w : ArtifactsWorld) (outcome : String) (deadline : ℚ)
  | pollTerminal (w : ArtifactsWorld)
  | reportFailure (reason : String) (diagnosticPaths : List String)

/-- One call; what it returns plays no part. -/
def answer : Input → Artifacts Unit
  | .start w deadline => do
    let _ ← start w deadline
  | .checkReady w => do
    let _ ← checkReady w
  | .checkHealth w => do
    let _ ← checkHealth w
  | .finalize w outcome deadline => do
    let _ ← finalize w c outcome deadline
  | .pollTerminal w => do
    let _ ← pollTerminal w c
  | .reportFailure reason diagnosticPaths => reportFailure reason diagnosticPaths

/-- Calls one after another; what one raises does not keep the next from being made. -/
def session (c : ArtifactsSetup) : List Input → Artifacts Unit
  | [] => pure ()
  | i :: is => do
    tryCatch (answer c i) fun _ => pure ()
    session c is

/-- What the calls note, from the constructor on. -/
def noted (is : List Input) : List ArtifactsNote :=
  (call (session c is) .initial).2.2

end AggregateRuntime

end DroneSim
