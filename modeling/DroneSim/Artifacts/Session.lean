/-
  File:      DroneSim/Artifacts/Session.lean
  Subject:   The finalization of a run (artifacts/session.py).

  `ArtifactSession` validates the required paths, discovers the optional ones, and commits the
  manifest. What the session meets is given: the run directory, what the deadline check answers at
  each point where it is called, and what each validator returns or raises. The deadline of the
  commit does not expire.
-/
import DroneSim.Artifacts.ManifestBytes
import DroneSim.Library.FileTree

namespace DroneSim

open Library

/-! ## 1. What a session meets -/

/-- A run directory: its entries, what a path in it leads to when links are followed, and the bytes
    of `manifest.json`. -/
structure RunDirectory where
  entries : List (FileName × FileNode)
  leads : List FileName → Option FileNode
  manifest : Option (List UInt8)
  -- a path without links leads where it says
  plain : ∀ path node, FileNode.lookup entries path = some node → (∀ b, node ≠ .link b) →
    leads path = some node

/-- Where `_check_deadline` is called. -/
inductive CheckPoint where
  | beforeRequired (path : PyText)
  | afterRequired (path : PyText)
  | logFolder (path : List FileName)
  | logFile (path : List FileName)
  | partialFile (path : List FileName)
  | beforeOptional (path : PyText)

/-- `TimeoutError`. -/
inductive TimeoutExpired where
  | timeout

abbrev ArtifactValidator := PyText → Except TimeoutExpired ValidationResult

/-- `ArtifactSession`: its directory, its deadline check, its registry of validators, and
    `validate_regular_file` for the optional paths. -/
structure ArtifactSession where
  runDirectory : RunDirectory
  passes : CheckPoint → Bool
  validators : ArtifactValidator
  validateRegularFile : ArtifactValidator

structure FinalizationInput where
  runId : PyText
  requestedTerminal : PyText
  reason : PyText
  simStartNs : Option ℤ
  simEndNs : Option ℤ
  wallStartedAt : DateTime
  wallEndedAt : DateTime
  sourceRevisions : List SourceRevision
  imageDigests : List ImageDigest
  configurationRecords : List ConfigurationRecord
  achievedScore : Option PyNumber
  maximumAvailableScore : Option PyNumber
  scoringChecksum : Option PyText
  evidencePaths : List PyText

/-- `_artifact_record`. -/
def artifactRecord (relativePath : PyText) (result : ValidationResult) : ArtifactRecord where
  relativePath := relativePath
  sizeBytes := result.sizeBytes
  sha256 := result.sha256
  validation := result.status.text
  detail := result.detail

namespace ArtifactSession

variable (s : ArtifactSession)

/-- `_check_deadline`. -/
def checkDeadline (point : CheckPoint) : Except TimeoutExpired Unit :=
  if s.passes point then .ok () else .error .timeout

/-! ## 2. The required paths -/

/-- A validator between its two checks of the deadline. -/
def validateRequired (path : PyText) : Except TimeoutExpired ValidationResult := do
  s.checkDeadline (.beforeRequired path)
  let result ← s.validators path
  s.checkDeadline (.afterRequired path)
  return result

/-- `_required_records` over the paths that are left. -/
def requiredRecords (exhausted : Bool) : List PyText → List ArtifactRecord
  | [] => []
  | path :: rest =>
    if exhausted then
      artifactRecord path
        (.invalid (ofString "finalization deadline exhausted before validation")) ::
          requiredRecords true rest
    else
      match s.validateRequired path with
      | .ok result => artifactRecord path result :: requiredRecords false rest
      | .error _ =>
        artifactRecord path
          (.invalid (ofString "finalization deadline exhausted during validation")) ::
            requiredRecords true rest

/-! ## 3. The optional paths -/

/-- A loop that checks the deadline before each item. -/
def eachChecked {α : Type} (point : α → CheckPoint)
    (body : α → Except TimeoutExpired (List PyText)) :
    List α → Except TimeoutExpired (List PyText)
  | [] => .ok []
  | x :: rest => do
    s.checkDeadline (point x)
    let found ← body x
    let others ← eachChecked point body rest
    return found ++ others

/-- `"ardupilot_sitl/autotune-roll.parm"`. -/
def autotuneParameters : List FileName :=
  [⟨ofString "ardupilot_sitl", by decide, by decide, by decide⟩,
    ⟨ofString "autotune-roll.parm", by decide, by decide, by decide⟩]

/-- `"logs/docker"`. -/
def dockerLogs : List FileName :=
  [⟨ofString "logs", by decide, by decide, by decide⟩,
    ⟨ofString "docker", by decide, by decide, by decide⟩]

/-- The pattern `"*.partial"`. -/
def isPartial (name : FileName) : Bool := (ofString ".partial").isSuffixOf name.name

/-- The loops over `os.walk(docker_logs)`; the order of the names decides nothing. -/
def dockerLogFiles : Except TimeoutExpired (List PyText) :=
  match s.runDirectory.leads dockerLogs with
  | none => .ok []
  | some node =>
    s.eachChecked (fun visit => .logFolder visit.1)
      (fun visit => s.eachChecked (fun name => .logFile (visit.1 ++ [name]))
        (fun name => .ok [joinPath (visit.1 ++ [name])]) visit.2)
      (FileNode.walk dockerLogs node)

/-- The path is `.control` or `.status`, or lies in one of them. -/
def inControl (path : List FileName) : Bool :=
  path.head?.any fun name => name.name = ofString ".control" || name.name = ofString ".status"

/-- The loop over `run_directory.rglob("*.partial")`. -/
def partialFiles : Except TimeoutExpired (List PyText) :=
  s.eachChecked (fun candidate => .partialFile candidate.1)
    (fun candidate =>
      .ok (if inControl candidate.1 || candidate.2.isFolder then [] else [joinPath candidate.1]))
    (FileNode.globEntries isPartial [] s.runDirectory.entries)

/-- What is left out of the sorted paths. -/
def isOptionalPath (path : PyText) : Bool :=
  !requiredArtifactPaths.contains path && !(ofString ".control/").isPrefixOf path &&
    !(ofString ".status/").isPrefixOf path

/-- The end of `_optional_paths`: a set, sorted. -/
def sortedOptional (discovered : List PyText) : List PyText :=
  ((discovered.filter fun path => path ≠ ofString "manifest.json").dedup.insertionSort
    (· ≤ ·)).filter isOptionalPath

/-- `_optional_paths`. -/
def optionalPaths : Except TimeoutExpired (List PyText) := do
  let autotune := if (s.runDirectory.leads autotuneParameters).isSome then
      [joinPath autotuneParameters] else []
  let logs ← s.dockerLogFiles
  let partials ← s.partialFiles
  return sortedOptional (autotune ++ (logs ++ partials))

/-- `validate_regular_file` after a check of the deadline. -/
def validateOptional (path : PyText) : Except TimeoutExpired ValidationResult := do
  s.checkDeadline (.beforeOptional path)
  s.validateRegularFile path

/-- The loop of `_optional_records`: a `TimeoutError` ends it with the records so far. -/
def recordOptional : List PyText → List ArtifactRecord
  | [] => []
  | path :: rest =>
    match s.validateOptional path with
    | .ok result => artifactRecord path result :: recordOptional rest
    | .error _ => []

/-- `_optional_records`. -/
def optionalRecords : List ArtifactRecord :=
  match s.optionalPaths with
  | .ok paths => s.recordOptional paths
  | .error _ => []

end ArtifactSession

/-! ## 4. The manifest -/

namespace FinalizationInput

variable (request : FinalizationInput)

/-- `_simulation_timing`. -/
def simulationTiming : SimulationTiming :=
  ⟨request.simStartNs, request.simEndNs, expectedDuration request.simStartNs request.simEndNs⟩

/-- `_wall_timing`. -/
def wallTiming : WallTiming where
  startedAt := request.wallStartedAt
  endedAt := request.wallEndedAt
  durationSeconds :=
    match request.wallEndedAt.minus request.wallStartedAt with
    | some microseconds => .float (totalSeconds microseconds)
    | none => .nonfinite

/-- The manifest of a request, with this terminal status and these artifacts. -/
def manifest (terminalStatus : PyText) (artifacts : List ArtifactRecord)
    (incompletePaths : List PyText) : RunManifest where
  runId := request.runId
  terminalStatus := terminalStatus
  reason := request.reason
  simulationTiming := request.simulationTiming
  wallTiming := request.wallTiming
  sourceRevisions := request.sourceRevisions
  imageDigests := request.imageDigests
  configurations := request.configurationRecords
  artifacts := artifacts
  incompletePaths := incompletePaths
  achievedScore := request.achievedScore
  maximumAvailableScore := request.maximumAvailableScore
  scoringChecksum := request.scoringChecksum
  evidencePaths := request.evidencePaths
  schemaVersion := 1

/-- `effective_terminal`. -/
def effectiveTerminal (incompletePaths : List PyText) : PyText :=
  if request.requestedTerminal = completedStatus ∧ incompletePaths ≠ [] then failedStatus
  else request.requestedTerminal

end FinalizationInput

/-- What a finalization leaves: the manifest, and the bytes in `manifest.json`. -/
structure Finalized where
  manifest : RunManifest
  content : List UInt8

namespace ArtifactSession

/-- The paths of the records that are not valid. -/
def incompletePaths (records : List ArtifactRecord) : List PyText :=
  (records.filter fun record => record.validation ≠ ValidationStatus.valid.text).map
    (·.relativePath)

/-- The manifest that `finalize_with_result` builds. -/
def builtManifest (s : ArtifactSession) (request : FinalizationInput) : RunManifest :=
  let required := s.requiredRecords false requiredArtifactPaths
  let incomplete := incompletePaths required
  request.manifest (request.effectiveTerminal incomplete) (required ++ s.optionalRecords) incomplete

/-- **`finalize_with_result`.** -/
def finalizeWithResult (s : ArtifactSession) (printer : ManifestPrinter)
    (request : FinalizationInput) : Except ManifestError Finalized := do
  let manifest := s.builtManifest request
  validateManifest manifest
  let content ← writeManifestAtomic printer s.runDirectory.manifest manifest
  return ⟨manifest, content⟩

end ArtifactSession

end DroneSim
