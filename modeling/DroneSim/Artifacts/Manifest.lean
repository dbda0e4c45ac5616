/-
  File:      DroneSim/Artifacts/Manifest.lean
  Subject:   The manifest of a run, its validation and its bytes (artifacts/manifest.py).

  `validateManifest` makes the checks of the source in their order; a loop over records is one
  definition, `eachUnique`, at the checks of its records. `validateManifest_ok` says what an
  accepted manifest satisfies, part by part. The checks of a deadline are left out: they raise or
  do nothing.
-/
import DroneSim.Artifacts.RuntimeStatus
import DroneSim.Library.Fallible
import DroneSim.Library.Json
import Mathlib.Algebra.Group.Nat.Defs

namespace DroneSim

open Library

/-! ## 1. Times and numbers -/

/-- A `datetime`: the microseconds its clock shows, which `tzinfo` it has, and the microseconds
    this `tzinfo` answers for its offset. -/
structure DateTime where
  clock : ℤ
  tzinfo : Option ℕ
  utcoffset : Option ℤ
  naive : tzinfo = none → utcoffset = none
  deriving DecidableEq

/-- An aware time has its own offset. -/
theorem DateTime.aware {zone : ℕ} {offset : Option ℤ} (h : some zone = none) : offset = none := by
  cases h

theorem DateTime.aware_zero : (some 0 : Option ℕ) = none → (some 0 : Option ℤ) = none :=
  DateTime.aware

/-- `later - earlier` in microseconds; `none` is the `TypeError` of an aware and a naive one. -/
def DateTime.minus (later earlier : DateTime) : Option ℤ :=
  -- one `tzinfo`: the clocks are compared, whatever the offsets
  if later.tzinfo = earlier.tzinfo then some (later.clock - earlier.clock)
  else
    match later.utcoffset, earlier.utcoffset with
    | some x, some y => some ((later.clock - x) - (earlier.clock - y))
    | none, none => some (later.clock - earlier.clock)
    | _, _ => none

/-- `timedelta.total_seconds()`. -/
def totalSeconds (microseconds : ℤ) : ℚ := microseconds / 1000000

/-- An `int` or a `float`. -/
inductive PyNumber where
  | int (n : ℤ)
  | float (x : ℚ)
  | nonfinite
  deriving DecidableEq

/-- What the validator and the writer of a manifest raise. -/
inductive ManifestError where
  | value (message : String)
  | type
  | overflow
  | encode (error : EncodeError)
  | conflict
  deriving DecidableEq

/-- The greatest number of a format with so many bits for the exponent and the last place, and
    half a unit of that place. -/
def roundingBound (top half : ℕ) : ℕ := 2 ^ top - 2 ^ half

/-- The integers from here on have no float. -/
@[irreducible] def floatLimit : ℕ := roundingBound 1024 970

namespace PyNumber

def value : PyNumber → Option ℚ
  | .int n => some n
  | .float x => some x
  | .nonfinite => none

/-- `math.isfinite`. -/
def isFinite : PyNumber → Except ManifestError Bool
  | .int n => if floatLimit ≤ n.natAbs then .error .overflow else .ok true
  | .float _ => .ok true
  | .nonfinite => .ok false

def toJson : PyNumber → Json
  | .int n => .int n
  | .float x => .float x
  | .nonfinite => .nonfinite

end PyNumber

/-! ## 2. The manifest -/

/-- `REQUIRED_ARTIFACT_PATHS`. -/
def requiredArtifactPaths : List PyText :=
  ["configuration", "gazebo/server.log", "gazebo/state", "video/onboard.mp4",
    "video/observer.mp4", "rosbag",
    -- `MODULE_LOGS`
    "logs/orchestration.jsonl", "logs/artifacts.jsonl", "logs/companion.jsonl",
    "logs/ardupilot_sitl.jsonl", "logs/gazebo.jsonl", "logs/electromagnet.jsonl",
    "logs/scorekeeper.jsonl", "scoring/events.jsonl", "scoring/result.json"].map ofString

/-- `TERMINAL_STATUSES`. -/
def terminalStatuses : List PyText := ["COMPLETED", "FAILED", "ABORTED"].map ofString

/-- `"COMPLETED"`. -/
def completedStatus : PyText := ofString "COMPLETED"

/-- `"FAILED"`. -/
def failedStatus : PyText := ofString "FAILED"

/-- The text of a validation status. -/
def ValidationStatus.text (status : ValidationStatus) : PyText := ofString status.value

structure SourceRevision where
  name : PyText
  revision : PyText
  dirty : Bool
  deriving DecidableEq

structure ImageDigest where
  name : PyText
  digest : PyText
  deriving DecidableEq

structure ConfigurationRecord where
  relativePath : PyText
  sha256 : PyText
  deriving DecidableEq

structure SimulationTiming where
  startNs : Option ℤ
  endNs : Option ℤ
  durationNs : Option ℤ
  deriving DecidableEq

structure WallTiming where
  startedAt : DateTime
  endedAt : DateTime
  durationSeconds : PyNumber
  deriving DecidableEq

structure ArtifactRecord where
  relativePath : PyText
  sizeBytes : Option ℤ
  sha256 : Option PyText
  validation : PyText
  detail : PyText
  deriving DecidableEq

structure RunManifest where
  runId : PyText
  terminalStatus : PyText
  reason : PyText
  simulationTiming : SimulationTiming
  wallTiming : WallTiming
  sourceRevisions : List SourceRevision
  imageDigests : List ImageDigest
  configurations : List ConfigurationRecord
  artifacts : List ArtifactRecord
  incompletePaths : List PyText
  achievedScore : Option PyNumber
  maximumAvailableScore : Option PyNumber
  scoringChecksum : Option PyText
  evidencePaths : List PyText
  schemaVersion : ℤ
  deriving DecidableEq

/-! ## 3. Checks -/

/-- `if not condition: raise ValueError(message)`. -/
def require (condition : Bool) (message : String) : Except ManifestError Unit :=
  if condition then .ok () else .error (.value message)

@[simp] theorem require_ok {condition : Bool} {message : String} :
    require condition message = .ok () ↔ condition = true := by
  unfold require
  split
  · rename_i h
    exact ⟨fun _ => h, fun _ => rfl⟩
  · rename_i h
    exact ⟨fun e => (by cases e), fun e => absurd e h⟩

/-- `_require_finite_score`. -/
def requireFiniteScore (fieldName : String) : Option PyNumber → Except ManifestError Unit
  | none => .ok ()
  | some value => do
    let finite ← value.isFinite
    require finite (fieldName ++ " must be finite or None for JSON compliant output")

/-- A digit of a lower-case hexadecimal number. -/
def isHexDigit (c : CodePoint) : Bool :=
  (codePoint '0' ≤ c && c ≤ codePoint '9') || (codePoint 'a' ≤ c && c ≤ codePoint 'f')

/-- `_SHA256_PATTERN.fullmatch(value)`. -/
def isSha256Text (value : PyText) : Bool := value.length == 64 && value.all isHexDigit

/-- `_require_digest`. -/
def requireDigest (fieldName : String) (value : Option PyText) (mayBeNone : Bool) :
    Except ManifestError Unit :=
  require (value.elim mayBeNone isSha256Text)
    (fieldName ++ " must be an exact lowercase SHA-256 digest")

/-- `is_manifest_relative_path`. -/
def isManifestRelativePath (value : PyText) : Bool :=
  decide (value ≠ []) && !value.contains backslash && !isAbsolute value &&
    decide (pathParts value ≠ []) && !(pathParts value).contains dotDot

/-- `_require_relative_path`. -/
def requireRelativePath (fieldName : String) (value : PyText) : Except ManifestError Unit :=
  require (isManifestRelativePath value)
    (fieldName ++ " must be a portable path inside the run directory")

/-- The difference of two times, where both are there. -/
def expectedDuration : Option ℤ → Option ℤ → Option ℤ
  | some start, some stop => some (stop - start)
  | _, _ => none

/-- `_validate_timing`. -/
def validateTiming (simulation : SimulationTiming) (wall : WallTiming) :
    Except ManifestError Unit := do
  require (simulation.startNs.isSome == simulation.endNs.isSome)
    "simulation start and end must both be present or absent"
  require (simulation.startNs.all (0 ≤ ·) && simulation.endNs.all (0 ≤ ·))
    "simulation times must be nonnegative integers or None"
  require ((expectedDuration simulation.startNs simulation.endNs).all (0 ≤ ·))
    "simulation end must not precede start"
  require (simulation.durationNs = expectedDuration simulation.startNs simulation.endNs)
    "simulation duration does not match start and end"
  require (wall.startedAt.utcoffset.isSome && wall.endedAt.utcoffset.isSome)
    "wall timestamps must be timezone-aware datetimes"
  match wall.endedAt.minus wall.startedAt with
  | none => .error .type
  | some expected =>
    require (0 ≤ expected) "wall end must not precede start"
    let finite ← wall.durationSeconds.isFinite
    require (finite && wall.durationSeconds.value.any fun x =>
        0 ≤ x && x = totalSeconds expected)
      "wall duration must be finite, nonnegative, and match timestamps"

/-! ## 4. Results of validators -/

abbrev Digest := { value : PyText // isSha256Text value = true }

/-- `ValidationResult`, measured when it is valid. -/
inductive ValidationResult where
  | valid (sizeBytes : ℕ) (sha256 : Digest) (detail : PyText)
  | missing (detail : PyText)
  | invalid (detail : PyText)

namespace ValidationResult

def status : ValidationResult → ValidationStatus
  | .valid _ _ _ => .valid
  | .missing _ => .missing
  | .invalid _ => .invalid

def sizeBytes : ValidationResult → Option ℤ
  | .valid size _ _ => some size
  | _ => none

def sha256 : ValidationResult → Option PyText
  | .valid _ digest _ => some digest
  | _ => none

def detail : ValidationResult → PyText
  | .valid _ _ detail => detail
  | .missing detail => detail
  | .invalid detail => detail

end ValidationResult

/-! ## 5. Records -/

section Unique

variable {α : Type} (key : α → PyText) (before after : α → Except ManifestError Unit)
  (duplicate : String)

/-- A loop over records: the checks before a record's key is known to be new, that it is new, and
    the checks after that. -/
def eachUnique : List PyText → List α → Except ManifestError Unit
  | _, [] => .ok ()
  | seen, x :: xs => do
    before x
    require (!seen.contains (key x)) duplicate
    after x
    eachUnique (key x :: seen) xs

variable {key before after duplicate}

theorem eachUnique_seen {seen : List PyText} {xs : List α} :
    eachUnique key before after duplicate seen xs = .ok () ↔
      (xs.map key).Nodup ∧ (∀ x ∈ xs, key x ∉ seen) ∧
        ∀ x ∈ xs, before x = .ok () ∧ after x = .ok () := by
  induction xs generalizing seen with
  | nil => simp [eachUnique]
  | cons x xs ih =>
    unfold eachUnique
    rw [seq_ok, seq_ok, seq_ok, ih, require_ok, List.map_cons, List.nodup_cons]
    simp only [List.mem_cons, forall_eq_or_imp, Bool.not_eq_true', List.contains_eq_mem,
      decide_eq_false_iff_not, not_or, List.mem_map, not_exists, not_and]
    constructor
    · rintro ⟨hbefore, hnew, hafter, hnodup, hseen, hrest⟩
      exact ⟨⟨fun y hy => (hseen y hy).1, hnodup⟩, ⟨hnew, fun y hy => (hseen y hy).2⟩,
        ⟨hbefore, hafter⟩, hrest⟩
    · rintro ⟨⟨hnew, hnodup⟩, ⟨hkey, hseen⟩, ⟨hbefore, hafter⟩, hrest⟩
      exact ⟨hbefore, hkey, hafter, hnodup, fun y hy => ⟨hnew y hy, hseen y hy⟩, hrest⟩

/-- **Such a loop passes when the keys are distinct and every record passes its checks.** -/
theorem eachUnique_ok {xs : List α} :
    eachUnique key before after duplicate [] xs = .ok () ↔
      (xs.map key).Nodup ∧ ∀ x ∈ xs, before x = .ok () ∧ after x = .ok () := by
  rw [eachUnique_seen]
  constructor
  · rintro ⟨hnodup, -, hall⟩
    exact ⟨hnodup, hall⟩
  · rintro ⟨hnodup, hall⟩
    exact ⟨hnodup, fun x _ => List.not_mem_nil, hall⟩

end Unique

/-- The loop over `manifest.source_revisions`. -/
def validateSources : List SourceRevision → Except ManifestError Unit :=
  eachUnique (·.name)
    (fun source => require (decide (source.name ≠ []) && decide (source.revision ≠ []))
      "source revisions require a name, revision, and dirty flag")
    (fun _ => .ok ()) "source revision names must be unique" []

/-- The loop over `manifest.image_digests`. -/
def validateImages : List ImageDigest → Except ManifestError Unit :=
  eachUnique (·.name)
    (fun image => require (decide (image.name ≠ [])) "image digest names must be nonempty")
    (fun image => requireDigest "image digest" (some image.digest) false)
    "image digest names must be unique" []

/-- The loop over `manifest.configurations`. -/
def validateConfigurations : List ConfigurationRecord → Except ManifestError Unit :=
  eachUnique (·.relativePath)
    (fun configuration => requireRelativePath "configuration path" configuration.relativePath)
    (fun configuration => requireDigest "configuration sha256" (some configuration.sha256) false)
    "configuration paths must be unique" []

/-- What the loop over `manifest.artifacts` checks of one record once its path is new. -/
def validateArtifact (artifact : ArtifactRecord) : Except ManifestError Unit := do
  require ([ValidationStatus.valid, .missing, .invalid].any fun status =>
      decide (status.text = artifact.validation))
    "artifact validation must be valid, missing, or invalid"
  require (decide (artifact.detail ≠ [])) "artifact detail must be nonempty"
  if artifact.validation = ValidationStatus.valid.text then
    require (artifact.sizeBytes.any (0 ≤ ·)) "valid artifacts require a nonnegative size"
    requireDigest "artifact sha256" artifact.sha256 false
  else
    require (artifact.sizeBytes.isNone && artifact.sha256.isNone)
      "missing and invalid artifacts cannot carry size or sha256"

/-- What an accepted record carries. -/
def Measured (artifact : ArtifactRecord) : Prop :=
  if artifact.validation = ValidationStatus.valid.text then
    artifact.sizeBytes.any (0 ≤ ·) = true ∧ artifact.sha256.any isSha256Text = true
  else artifact.sizeBytes = none ∧ artifact.sha256 = none

theorem validateArtifact_ok {artifact : ArtifactRecord} :
    validateArtifact artifact = .ok () ↔
      (∃ status : ValidationStatus, status.text = artifact.validation) ∧
        artifact.detail ≠ [] ∧ Measured artifact := by
  have hstatus : ([ValidationStatus.valid, .missing, .invalid].any fun status =>
      decide (status.text = artifact.validation)) = true ↔
        ∃ status : ValidationStatus, status.text = artifact.validation := by
    rw [List.any_eq_true]
    constructor
    · rintro ⟨status, -, h⟩
      exact ⟨status, of_decide_eq_true h⟩
    · rintro ⟨status, h⟩
      refine ⟨status, ?_, decide_eq_true h⟩
      cases status <;> simp
  unfold validateArtifact Measured
  rw [seq_ok, seq_ok, require_ok, require_ok, hstatus, decide_eq_true_eq]
  split
  · rw [seq_ok, require_ok, requireDigest, require_ok]
    cases artifact.sha256 <;> simp
  · rw [require_ok, Bool.and_eq_true, Option.isNone_iff_eq_none, Option.isNone_iff_eq_none]

/-- The loop over `manifest.artifacts`. -/
def validateArtifacts : List ArtifactRecord → Except ManifestError Unit :=
  eachUnique (·.relativePath)
    (fun artifact => requireRelativePath "artifact path" artifact.relativePath) validateArtifact
    "artifact paths must be unique" []

/-- The required paths whose record is not valid. -/
def expectedIncomplete (artifacts : List ArtifactRecord) : List PyText :=
  requiredArtifactPaths.filter fun path =>
    (artifacts.find? fun artifact => artifact.relativePath = path).any fun artifact =>
      decide (artifact.validation ≠ ValidationStatus.valid.text)

/-- What is checked of `manifest.incomplete_paths`. -/
def validateIncomplete (manifest : RunManifest) : Except ManifestError Unit := do
  require (decide manifest.incompletePaths.Nodup) "incomplete_paths must be unique"
  require (manifest.incompletePaths.all fun path =>
      isManifestRelativePath path && requiredArtifactPaths.contains path)
    "incomplete_paths must name required artifact paths"
  require (requiredArtifactPaths.all fun path =>
      manifest.artifacts.any fun artifact => artifact.relativePath = path)
    "artifacts must contain every required artifact path"
  require (decide (manifest.incompletePaths = expectedIncomplete manifest.artifacts))
    "incomplete_paths must exactly match non-valid required artifacts"
  require (!(decide (manifest.terminalStatus = completedStatus) &&
      decide (manifest.incompletePaths ≠ [])))
    "COMPLETED manifests require every required artifact to be valid"

/-- `evidence_path.split("#", 1)[0]`. -/
def withoutFragment (path : PyText) : PyText := path.takeWhile (· ≠ codePoint '#')

/-- What is checked of `manifest.evidence_paths`. -/
def validateEvidence (paths : List PyText) : Except ManifestError Unit := do
  require (decide paths.Nodup) "evidence paths must be unique"
  require (paths.all fun path => isManifestRelativePath (withoutFragment path))
    "evidence path must be a portable path inside the run directory"

/-- **`validate_manifest`.** -/
def validateManifest (manifest : RunManifest) : Except ManifestError Unit := do
  require (manifest.schemaVersion = 1) "schema_version must be 1"
  require (decide (manifest.runId ≠ [])) "run_id must be nonempty"
  require (terminalStatuses.contains manifest.terminalStatus)
    "terminal_status must be one of ['ABORTED', 'COMPLETED', 'FAILED']"
  validateTiming manifest.simulationTiming manifest.wallTiming
  requireFiniteScore "achieved_score" manifest.achievedScore
  requireFiniteScore "maximum_available_score" manifest.maximumAvailableScore
  requireDigest "scoring_checksum" manifest.scoringChecksum true
  validateSources manifest.sourceRevisions
  validateImages manifest.imageDigests
  validateConfigurations manifest.configurations
  validateArtifacts manifest.artifacts
  validateIncomplete manifest
  validateEvidence manifest.evidencePaths

/-- The clauses about what a manifest says of its run, its artifacts apart. -/
structure MetadataValid (manifest : RunManifest) : Prop where
  runId : manifest.runId ≠ []
  terminalStatus : manifest.terminalStatus ∈ terminalStatuses
  timing : validateTiming manifest.simulationTiming manifest.wallTiming = .ok ()
  achieved : requireFiniteScore "achieved_score" manifest.achievedScore = .ok ()
  available : requireFiniteScore "maximum_available_score" manifest.maximumAvailableScore = .ok ()
  checksum : requireDigest "scoring_checksum" manifest.scoringChecksum true = .ok ()
  sources : validateSources manifest.sourceRevisions = .ok ()
  images : validateImages manifest.imageDigests = .ok ()
  configurations : validateConfigurations manifest.configurations = .ok ()
  evidence : validateEvidence manifest.evidencePaths = .ok ()

/-- **What `validate_manifest` accepts.** -/
theorem validateManifest_ok {manifest : RunManifest} :
    validateManifest manifest = .ok () ↔ manifest.schemaVersion = 1 ∧ MetadataValid manifest ∧
      validateArtifacts manifest.artifacts = .ok () ∧ validateIncomplete manifest = .ok () := by
  unfold validateManifest
  simp only [seq_ok, require_ok, decide_eq_true_eq, List.contains_eq_mem]
  constructor
  · rintro ⟨hschema, hrun, hterminal, htiming, hachieved, havailable, hchecksum, hsources, himages,
      hconfigurations, hartifacts, hincomplete, hevidence⟩
    exact ⟨hschema, ⟨hrun, hterminal, htiming, hachieved, havailable, hchecksum, hsources, himages,
      hconfigurations, hevidence⟩, hartifacts, hincomplete⟩
  · rintro ⟨hschema, hmeta, hartifacts, hincomplete⟩
    exact ⟨hschema, hmeta.runId, hmeta.terminalStatus, hmeta.timing, hmeta.achieved,
      hmeta.available, hmeta.checksum, hmeta.sources, hmeta.images, hmeta.configurations,
      hartifacts, hincomplete, hmeta.evidence⟩

end DroneSim
