/-
  File:      DroneSim/Artifacts/ManifestReaders.lean
  Subject:   The two readers of a manifest: `StatusStore.validated_manifest_result`
             (orchestration/status_store.py) and `RuntimeProtocol.read_manifest_status`
             (artifacts/runtime_protocol.py).

  Both read the bytes of `manifest.json` as a JSON object of at most four mebibytes. The first
  checks every record that says `valid` against the run directory and builds the manifest again,
  which `validate_manifest` has to accept; the second reads what a live status needs.
-/
import DroneSim.Artifacts.ManifestBytes
import DroneSim.Artifacts.RuntimeProtocol

namespace DroneSim

open Library

/-! ## 1. Values of a document -/

/-- A check of a reader. -/
def accept (condition : Bool) (message : String) : Except String Unit :=
  if condition then .ok () else .error message

/-- `document[name]`, read. -/
def readField {α : Type} (items : List (PyKey × PyValue)) (name : String)
    (read : PyValue → Except String α) : Except String α :=
  match PyValue.field items name with
  | some v => read v
  | none => .error name

/-- An object with exactly these keys. -/
def exactObject (names : List String) : PyValue → Except String (List (PyKey × PyValue))
  | .mapping true items => if hasKeys items names then .ok items else .error "keys"
  | _ => .error "keys"

def asText : PyValue → Except String PyText
  | .str s => .ok (ofString s)
  | _ => .error "text"

def asBool : PyValue → Except String Bool
  | .bool b => .ok b
  | _ => .error "flag"

def asInt : PyValue → Except String ℤ
  | .int n => .ok n
  | _ => .error "integer"

def asNumber : PyValue → Except String PyNumber
  | .int n => .ok (.int n)
  | .float x => .ok (.float x)
  | .nonfinite _ => .ok .nonfinite
  | _ => .error "number"

/-- `None`, or a value. -/
def asOptional {α : Type} (read : PyValue → Except String α) : PyValue → Except String (Option α)
  | .none => .ok none
  | v => (read v).map some

def asList : PyValue → Except String (List PyValue)
  | .list items => .ok items
  | _ => .error "array"

/-- What a loop or `tuple` takes from a value: the items of a list, the characters of a string, the
    keys of an object. -/
def asItems : PyValue → Except String (List PyValue)
  | .list items => .ok items
  | .str s => .ok (s.toList.map fun c => .str (String.singleton c))
  | .mapping _ items => .ok (items.map fun p =>
      match p.1 with
      | .str name => .str name
      | .other id => .other id)
  | _ => .error "not iterable"

/-- Every item of a value, read. -/
def eachOf {α : Type} (read : PyValue → Except String α) (v : PyValue) :
    Except String (List α) := do
  let items ← asItems v
  items.mapM read

def SourceRevision.ofValue (v : PyValue) : Except String SourceRevision := do
  let items ← exactObject ["name", "revision", "dirty"] v
  let name ← readField items "name" asText
  let revision ← readField items "revision" asText
  let dirty ← readField items "dirty" asBool
  return ⟨name, revision, dirty⟩

def ImageDigest.ofValue (v : PyValue) : Except String ImageDigest := do
  let items ← exactObject ["name", "digest"] v
  let name ← readField items "name" asText
  let digest ← readField items "digest" asText
  return ⟨name, digest⟩

def ConfigurationRecord.ofValue (v : PyValue) : Except String ConfigurationRecord := do
  let items ← exactObject ["relative_path", "sha256"] v
  let relativePath ← readField items "relative_path" asText
  let sha256 ← readField items "sha256" asText
  return ⟨relativePath, sha256⟩

def ArtifactRecord.ofValue (v : PyValue) : Except String ArtifactRecord := do
  let items ← exactObject ["relative_path", "size_bytes", "sha256", "validation", "detail"] v
  let relativePath ← readField items "relative_path" asText
  let sizeBytes ← readField items "size_bytes" (asOptional asInt)
  let sha256 ← readField items "sha256" (asOptional asText)
  let validation ← readField items "validation" asText
  let detail ← readField items "detail" asText
  return ⟨relativePath, sizeBytes, sha256, validation, detail⟩

def SimulationTiming.ofValue (v : PyValue) : Except String SimulationTiming := do
  let items ← exactObject ["start_ns", "end_ns", "duration_ns"] v
  let startNs ← readField items "start_ns" (asOptional asInt)
  let endNs ← readField items "end_ns" (asOptional asInt)
  let durationNs ← readField items "duration_ns" (asOptional asInt)
  return ⟨startNs, endNs, durationNs⟩

/-- A timestamp: `datetime.fromisoformat(value)`. -/
def asDateTime (fromisoformat : PyText → Option DateTime) (v : PyValue) :
    Except String DateTime := do
  let t ← asText v
  match fromisoformat t with
  | some d => return d
  | none => throw "timestamp"

def WallTiming.ofValue (fromisoformat : PyText → Option DateTime) (v : PyValue) :
    Except String WallTiming := do
  let items ← exactObject ["started_at", "ended_at", "duration_seconds"] v
  let startedAt ← readField items "started_at" (asDateTime fromisoformat)
  let endedAt ← readField items "ended_at" (asDateTime fromisoformat)
  let durationSeconds ← readField items "duration_seconds" asNumber
  return ⟨startedAt, endedAt, durationSeconds⟩

/-- The fields of a manifest that stand under `"scoring"`. -/
structure ScoringFields where
  achievedScore : Option PyNumber
  maximumAvailableScore : Option PyNumber
  scoringChecksum : Option PyText
  evidencePaths : List PyText

def ScoringFields.ofValue (v : PyValue) : Except String ScoringFields := do
  let items ← exactObject
    ["achieved_score", "maximum_available_score", "scoring_checksum", "evidence_paths"] v
  let achievedScore ← readField items "achieved_score" (asOptional asNumber)
  let maximumAvailableScore ← readField items "maximum_available_score" (asOptional asNumber)
  let scoringChecksum ← readField items "scoring_checksum" (asOptional asText)
  let evidencePaths ← readField items "evidence_paths" (eachOf asText)
  return ⟨achievedScore, maximumAvailableScore, scoringChecksum, evidencePaths⟩

/-! ## 2. `StatusStore.validated_manifest_result` -/

/-- What a reader meets: the JSON decoder, `datetime.fromisoformat`, and the run directory. -/
structure RunReader where
  loads : List UInt8 → Except String PyValue
  fromisoformat : PyText → Option DateTime
  isDir : PyText → Bool
  validateTree : PyText → ValidationResult
  validateRegularFile : PyText → ValidationResult

/-- `read_json_object_at` of a file with these bytes. -/
def readProtocolDocument (loads : List UInt8 → Except String PyValue) :
    Option (List UInt8) → Except String (Option (List (PyKey × PyValue)))
  | none => .ok none
  | some content =>
    if content.length ≤ maxBytes then
      match loads content with
      | .ok (.mapping true items) => .ok (some items)
      | .ok _ => .error "protocol file must contain a JSON object"
      | .error message => .error message
    else .error "protocol file is too large"

/-- `FinalizationResult`, its path apart. -/
structure FinalizationResult where
  runId : PyText
  terminalStatus : PyText
  reason : PyText
  deriving DecidableEq

namespace RunReader

variable (r : RunReader)

/-- What the run directory says of a path now. -/
def validate (path : PyText) : ValidationResult :=
  if r.isDir path then r.validateTree path else r.validateRegularFile path

/-- The record matches what the run directory says. -/
def confirms (record : ArtifactRecord) : Bool :=
  let result := r.validate record.relativePath
  decide (result.status = .valid) && decide (result.sizeBytes = record.sizeBytes) &&
    decide (result.sha256 = record.sha256)

/-- The loop over the records. -/
def checkRecords : List PyText → List ArtifactRecord → Except String Unit
  | _, [] => .ok ()
  | seen, record :: rest => do
    accept (isManifestRelativePath record.relativePath && !seen.contains record.relativePath)
      "manifest artifact path is invalid or duplicated"
    if record.validation = ValidationStatus.valid.text then
      accept (r.confirms record) "manifest artifact no longer matches its checksum"
    else
      accept (decide (record.validation = ValidationStatus.missing.text) ||
          decide (record.validation = ValidationStatus.invalid.text))
        "manifest artifact validation is invalid"
    checkRecords (record.relativePath :: seen) rest

/-- The keys of `RunManifest.to_dict`. -/
def manifestKeys : List String :=
  ["schema_version", "run_id", "terminal_status", "reason", "simulation_timing", "wall_timing",
    "source_revisions", "image_digests", "configurations", "artifacts", "incomplete_paths",
    "scoring"]

/-- `validated_manifest_result` of a document. -/
def manifestResult (runId : String) (document : List (PyKey × PyValue)) :
    Except String FinalizationResult := do
  accept (hasKeys document manifestKeys &&
      (PyValue.field document "schema_version").bind PyValue.number == some 1)
    "manifest has an invalid schema"
  accept (textField document "run_id" == some runId) "manifest run_id does not match requested run"
  accept ((textField document "terminal_status").bind TerminalState.ofValue).isSome
    "manifest terminal status is invalid"
  let simulationTiming ← readField document "simulation_timing" SimulationTiming.ofValue
  let wallTiming ← readField document "wall_timing" (WallTiming.ofValue r.fromisoformat)
  let scoring ← readField document "scoring" ScoringFields.ofValue
  let sourceRevisions ← readField document "source_revisions" (eachOf SourceRevision.ofValue)
  let imageDigests ← readField document "image_digests" (eachOf ImageDigest.ofValue)
  let configurations ← readField document "configurations" (eachOf ConfigurationRecord.ofValue)
  let values ← readField document "artifacts" asList
  let artifacts ← values.mapM ArtifactRecord.ofValue
  r.checkRecords [] artifacts
  accept (requiredArtifactPaths.all fun path =>
      artifacts.any fun artifact => artifact.relativePath = path)
    "manifest required inventory is incomplete"
  let named ← readField document "incomplete_paths" asList
  let incompletePaths ← named.mapM asText
  accept (decide (incompletePaths = expectedIncomplete artifacts))
    "manifest incomplete_paths disagrees with required inventory"
  let terminalStatus ← readField document "terminal_status" asText
  accept (!(decide (terminalStatus = completedStatus) && decide (incompletePaths ≠ [])))
    "completed manifest has incomplete required inventory"
  let documentRunId ← readField document "run_id" asText
  let reason ← readField document "reason" asText
  let manifest : RunManifest := {
    runId := documentRunId
    terminalStatus := terminalStatus
    reason := reason
    simulationTiming := simulationTiming
    wallTiming := wallTiming
    sourceRevisions := sourceRevisions
    imageDigests := imageDigests
    configurations := configurations
    artifacts := artifacts
    incompletePaths := incompletePaths
    achievedScore := scoring.achievedScore
    maximumAvailableScore := scoring.maximumAvailableScore
    scoringChecksum := scoring.scoringChecksum
    evidencePaths := scoring.evidencePaths
    schemaVersion := 1 }
  accept (validateManifest manifest).isOk "manifest domain validation failed"
  return ⟨documentRunId, terminalStatus, reason⟩

/-- **`validated_manifest_result`.** -/
def validatedManifestResult (runId : String) (content : Option (List UInt8)) :
    Except String (Option FinalizationResult) := do
  accept (isCanonicalUuid runId) "run_id must be a canonical UUID"
  match ← readProtocolDocument r.loads content with
  | none => return none
  | some document => (r.manifestResult runId document).map some

end RunReader

/-! ## 3. `RuntimeProtocol.read_manifest_status` -/

/-- What `read_manifest_status` returns, the run id and the path apart. -/
structure ManifestStatus where
  complete : Bool
  missing : List PyText
  deriving DecidableEq

/-- The path and the validation of a record. -/
def recordValidation (v : PyValue) : Except String (PyText × PyText) :=
  match v with
  | .mapping true items => do
    let relativePath ← readField items "relative_path" asText
    let validation ← readField items "validation" asText
    return (relativePath, validation)
  | _ => .error "manifest status artifact record is invalid"

/-- The loop over the records: their validations by path. -/
def recordValidations : List (PyText × PyText) → List (PyText × PyText) →
    Except String (List (PyText × PyText))
  | validations, [] => .ok validations
  | validations, record :: rest => do
    accept (isManifestRelativePath record.1 && !(validations.any fun v => v.1 = record.1) &&
        [ValidationStatus.valid, .missing, .invalid].any fun status =>
          decide (status.text = record.2))
      "manifest status artifact record is invalid"
    recordValidations (validations ++ [record]) rest

/-- `read_manifest_status` of a document. -/
def manifestStatus (runId : String) (document : List (PyKey × PyValue)) :
    Except String ManifestStatus := do
  accept ((["schema_version", "run_id", "terminal_status", "artifacts",
        "incomplete_paths"].all fun name => (PyValue.field document name).isSome) &&
      (PyValue.field document "schema_version").bind PyValue.number == some 1)
    "manifest status schema is invalid"
  accept (textField document "run_id" == some runId) "manifest status has the wrong run_id"
  accept ((textField document "terminal_status").bind TerminalState.ofValue).isSome
    "manifest status has an invalid terminal state"
  let values ← readField document "artifacts" asList
  let named ← readField document "incomplete_paths" asList
  let records ← values.mapM recordValidation
  let validations ← recordValidations [] records
  let incomplete ← named.mapM asText
  accept (incomplete.all isManifestRelativePath && decide incomplete.Nodup &&
      incomplete.all fun path => (validations.find? fun v => v.1 = path).any fun v =>
        decide (v.2 = ValidationStatus.missing.text) ||
          decide (v.2 = ValidationStatus.invalid.text))
    "manifest incomplete paths are invalid"
  return ⟨incomplete.isEmpty, incomplete.insertionSort (· ≤ ·)⟩

/-- **`read_manifest_status`.** -/
def readManifestStatus (loads : List UInt8 → Except String PyValue) (runId : String)
    (content : Option (List UInt8)) : Except String ManifestStatus := do
  match ← readProtocolDocument loads content with
  | none => throw "manifest.json is missing after terminal commit"
  | some document => manifestStatus runId document

end DroneSim
