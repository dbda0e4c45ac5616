/-
  File:      DroneSim/Artifacts/ManifestBytes.lean
  Subject:   The document and the bytes of a manifest (artifacts/manifest.py).

  `toDict` is the document of a manifest, `canonicalManifestBytes` validates the manifest and
  encodes it, `writeManifestAtomic` is the commit where no call of the file system fails.

  `validate_manifest` lets texts with surrogates and integers of any size through, the encoder
  does not: `toDict_writable` says which accepted manifests are written.
-/
import DroneSim.Artifacts.Manifest

namespace DroneSim

variable (printer : ManifestPrinter)

open Library

/-! ## 1. Documents -/

/-- How floats and datetimes are written: in ASCII. -/
structure ManifestPrinter where
  float : FloatPrinter
  isoformat : DateTime → PyText
  isoformatAscii : ∀ d, encodable (isoformat d) = true

/-- `None`, or a value. -/
def orNull {α : Type} (write : α → Json) : Option α → Json
  | none => .null
  | some a => write a

/-- A JSON object of these fields. -/
def jsonObject (fields : List (String × Json)) : Json :=
  .obj (fields.map fun f => (ofString f.1, f.2))

def SourceRevision.toDict (source : SourceRevision) : Json :=
  jsonObject [("name", .str source.name), ("revision", .str source.revision),
    ("dirty", .bool source.dirty)]

def ImageDigest.toDict (image : ImageDigest) : Json :=
  jsonObject [("name", .str image.name), ("digest", .str image.digest)]

def ConfigurationRecord.toDict (configuration : ConfigurationRecord) : Json :=
  jsonObject [("relative_path", .str configuration.relativePath),
    ("sha256", .str configuration.sha256)]

def SimulationTiming.toDict (timing : SimulationTiming) : Json :=
  jsonObject [("start_ns", orNull .int timing.startNs), ("end_ns", orNull .int timing.endNs),
    ("duration_ns", orNull .int timing.durationNs)]

def WallTiming.toDict (timing : WallTiming) : Json :=
  jsonObject [("started_at", .str (printer.isoformat timing.startedAt)),
    ("ended_at", .str (printer.isoformat timing.endedAt)),
    ("duration_seconds", timing.durationSeconds.toJson)]

def ArtifactRecord.toDict (artifact : ArtifactRecord) : Json :=
  jsonObject [("relative_path", .str artifact.relativePath),
    ("size_bytes", orNull .int artifact.sizeBytes), ("sha256", orNull .str artifact.sha256),
    ("validation", .str artifact.validation), ("detail", .str artifact.detail)]

/-- The entry under `"scoring"`. -/
def RunManifest.scoringDict (manifest : RunManifest) : Json :=
  jsonObject [("achieved_score", orNull PyNumber.toJson manifest.achievedScore),
    ("maximum_available_score", orNull PyNumber.toJson manifest.maximumAvailableScore),
    ("scoring_checksum", orNull .str manifest.scoringChecksum),
    ("evidence_paths", .arr (manifest.evidencePaths.map .str))]

/-- `RunManifest.to_dict`. -/
def RunManifest.toDict (printer : ManifestPrinter) (manifest : RunManifest) : Json :=
  jsonObject [("schema_version", .int manifest.schemaVersion), ("run_id", .str manifest.runId),
    ("terminal_status", .str manifest.terminalStatus), ("reason", .str manifest.reason),
    ("simulation_timing", manifest.simulationTiming.toDict),
    ("wall_timing", manifest.wallTiming.toDict printer),
    ("source_revisions", .arr (manifest.sourceRevisions.map SourceRevision.toDict)),
    ("image_digests", .arr (manifest.imageDigests.map ImageDigest.toDict)),
    ("configurations", .arr (manifest.configurations.map ConfigurationRecord.toDict)),
    ("artifacts", .arr (manifest.artifacts.map ArtifactRecord.toDict)),
    ("incomplete_paths", .arr (manifest.incompletePaths.map .str)),
    ("scoring", manifest.scoringDict)]

/-! ## 2. Writing -/

/-- `canonical_manifest_bytes`. -/
def canonicalManifestBytes (manifest : RunManifest) : Except ManifestError (List UInt8) := do
  validateManifest manifest
  match Json.encode printer.float (manifest.toDict printer) with
  | .ok payload => return payload
  | .error error => throw (.encode error)

/-- `write_manifest_atomic` where no call of the file system fails: what `manifest.json` holds
    before it and after it. -/
def writeManifestAtomic (existing : Option (List UInt8)) (manifest : RunManifest) :
    Except ManifestError (List UInt8) := do
  let payload ← canonicalManifestBytes printer manifest
  match existing with
  | none => return payload
  | some present => if present = payload then return present else throw .conflict

/-! ## 3. Manifests that can be written -/

/-- **What the encoder asks of a manifest that `validate_manifest` accepts.** -/
structure Writable (manifest : RunManifest) : Prop where
  runId : encodable manifest.runId = true
  reason : encodable manifest.reason = true
  startNs : manifest.simulationTiming.startNs.all printable = true
  endNs : manifest.simulationTiming.endNs.all printable = true
  sources : ∀ source ∈ manifest.sourceRevisions,
    encodable source.name = true ∧ encodable source.revision = true
  images : ∀ image ∈ manifest.imageDigests, encodable image.name = true
  configurations : ∀ configuration ∈ manifest.configurations,
    encodable configuration.relativePath = true
  artifacts : ∀ artifact ∈ manifest.artifacts, encodable artifact.relativePath = true ∧
    artifact.sizeBytes.all printable = true ∧ encodable artifact.detail = true
  evidence : ∀ path ∈ manifest.evidencePaths, encodable path = true

theorem fieldsWritable_iff {fields : List (String × Json)} :
    (jsonObject fields).writable = true ↔ ∀ f ∈ fields, f.2.writable = true := by
  show Json.fieldsWritable _ = true ↔ _
  induction fields with
  | nil => simp [Json.fieldsWritable]
  | cons f rest ih =>
    show ((encodable (ofString f.1) && f.2.writable) && Json.fieldsWritable _) = true ↔ _
    rw [Bool.and_eq_true, ih, List.forall_mem_cons, encodable_ofString, Bool.true_and]

theorem arr_writable {α : Type} {write : α → Json} {items : List α} :
    (Json.arr (items.map write)).writable = true ↔ ∀ a ∈ items, (write a).writable = true := by
  show Json.allWritable _ = true ↔ _
  rw [Json.allWritable_iff]
  exact List.forall_mem_map

theorem orNull_writable {α : Type} {write : α → Json} {o : Option α} :
    (orNull write o).writable = true ↔ ∀ a, o = some a → (write a).writable = true := by
  cases o with
  | none => exact ⟨fun _ a h => (by cases h), fun _ => rfl⟩
  | some a =>
    constructor
    · intro h b hb
      cases hb
      exact h
    · intro h
      exact h a rfl

theorem isHexDigit_encodable {c : CodePoint} (h : isHexDigit c = true) : isSurrogate c = false := by
  have hsmall : c.val ≤ (codePoint 'f').val := by
    unfold isHexDigit at h
    rw [Bool.or_eq_true, Bool.and_eq_true, Bool.and_eq_true] at h
    rcases h with ⟨-, h⟩ | ⟨-, h⟩
    · exact Nat.le_trans (of_decide_eq_true h) (by decide)
    · exact of_decide_eq_true h
  have hf : (codePoint 'f').val = 102 := by decide
  unfold isSurrogate
  rw [Bool.and_eq_false_iff]
  exact .inl (decide_eq_false (by omega))

theorem isSha256Text_encodable {value : PyText} (h : isSha256Text value = true) :
    encodable value = true := by
  unfold isSha256Text at h
  rw [Bool.and_eq_true, List.all_eq_true] at h
  rw [encodable_iff]
  exact fun c hc => isHexDigit_encodable (h.2 c hc)

theorem requireDigest_some {fieldName : String} {value : PyText} {mayBeNone : Bool} :
    requireDigest fieldName (some value) mayBeNone = .ok () ↔ isSha256Text value = true :=
  require_ok

theorem terminalStatus_encodable {status : PyText} (h : status ∈ terminalStatuses) :
    encodable status = true := by
  obtain ⟨s, -, rfl⟩ := List.mem_map.mp h
  exact encodable_ofString s

theorem roundingBound_le {top half digits : ℕ} (h : top ≤ digits) :
    roundingBound top half ≤ digitBound digits :=
  calc 2 ^ top - 2 ^ half ≤ 2 ^ top := Nat.sub_le _ _
    _ ≤ 10 ^ top := Nat.pow_le_pow_left (by decide) top
    _ ≤ 10 ^ digits := Nat.pow_le_pow_right (by decide) h

theorem floatLimit_le : floatLimit ≤ printLimit := by
  unfold floatLimit printLimit
  exact roundingBound_le (by decide)

/-- A number that passes `math.isfinite` can be written. -/
theorem PyNumber.writable_of_finite {x : PyNumber} (h : x.isFinite = .ok true) :
    x.toJson.writable = true := by
  cases x with
  | int n =>
    by_cases hlimit : floatLimit ≤ n.natAbs
    · rw [show isFinite (.int n) = .error .overflow from if_pos hlimit] at h
      cases h
    · have hle := floatLimit_le
      show decide (n.natAbs < printLimit) = true
      exact decide_eq_true (by omega)
  | float x => rfl
  | nonfinite => cases h

theorem requireFiniteScore_writable {fieldName : String} {score : Option PyNumber}
    (h : requireFiniteScore fieldName score = .ok ()) :
    (orNull PyNumber.toJson score).writable = true := by
  cases score with
  | none => rfl
  | some x =>
    obtain ⟨finite, hfinite, h⟩ := bind_ok h
    rw [require_ok] at h
    rw [h] at hfinite
    exact x.writable_of_finite hfinite

theorem str_writable {t : PyText} : (Json.str t).writable = encodable t := rfl

theorem int_writable {n : ℤ} : (Json.int n).writable = printable n := rfl

theorem ints_writable {o : Option ℤ} :
    (orNull Json.int o).writable = true ↔ o.all printable = true := by
  cases o with
  | none => exact ⟨fun _ => rfl, fun _ => rfl⟩
  | some n => exact Iff.rfl

theorem artifact_writable {artifact : ArtifactRecord} (h : validateArtifact artifact = .ok ()) :
    artifact.toDict.writable = true ↔ encodable artifact.relativePath = true ∧
      artifact.sizeBytes.all printable = true ∧ encodable artifact.detail = true := by
  obtain ⟨⟨status, hstatus⟩, -, hmeasured⟩ := validateArtifact_ok.mp h
  have hvalidation : encodable artifact.validation = true := by
    rw [← hstatus]
    exact encodable_ofString _
  have hsha : (orNull Json.str artifact.sha256).writable = true := by
    rw [orNull_writable]
    intro digest hdigest
    unfold Measured at hmeasured
    split at hmeasured
    · rw [hdigest] at hmeasured
      exact isSha256Text_encodable hmeasured.2
    · rw [hmeasured.2] at hdigest
      cases hdigest
  unfold ArtifactRecord.toDict
  rw [fieldsWritable_iff]
  simp only [List.forall_mem_cons, str_writable, ints_writable, hsha, hvalidation, true_and,
    List.not_mem_nil, false_implies, implies_true, and_true]

/-- The duration of printable times is printable. -/
theorem timing_writable {timing : SimulationTiming} {wall : WallTiming}
    (h : validateTiming timing wall = .ok ()) :
    timing.toDict.writable = true ↔
      timing.startNs.all printable = true ∧ timing.endNs.all printable = true := by
  unfold validateTiming at h
  simp only [seq_ok, require_ok, Bool.and_eq_true, decide_eq_true_eq] at h
  obtain ⟨-, ⟨hstart, hend⟩, hnonneg, hduration, -⟩ := h
  unfold SimulationTiming.toDict
  rw [fieldsWritable_iff]
  simp only [List.forall_mem_cons, ints_writable, List.not_mem_nil, false_implies, implies_true,
    and_true]
  constructor
  · rintro ⟨h1, h2, -⟩
    exact ⟨h1, h2⟩
  · rintro ⟨h1, h2⟩
    refine ⟨h1, h2, ?_⟩
    rw [hduration]
    revert hstart hend hnonneg h1 h2
    cases timing.startNs with
    | none => intros; rfl
    | some a =>
      cases timing.endNs with
      | none => intros; rfl
      | some b =>
        simp only [expectedDuration, Option.all_some, printable, decide_eq_true_eq]
        omega

theorem wall_writable {timing : SimulationTiming} {wall : WallTiming}
    (h : validateTiming timing wall = .ok ()) : (wall.toDict printer).writable = true := by
  unfold validateTiming at h
  simp only [seq_ok] at h
  obtain ⟨-, -, -, -, -, h⟩ := h
  split at h
  · cases h
  · rw [seq_ok] at h
    obtain ⟨finite, hfinite, h⟩ := bind_ok h.2
    rw [require_ok, Bool.and_eq_true] at h
    rw [h.1] at hfinite
    unfold WallTiming.toDict
    rw [fieldsWritable_iff]
    simp only [List.forall_mem_cons, str_writable, printer.isoformatAscii,
      PyNumber.writable_of_finite hfinite, List.not_mem_nil, false_implies, implies_true, and_true]

theorem scoring_writable {manifest : RunManifest} (h : MetadataValid manifest) :
    manifest.scoringDict.writable = true ↔
      ∀ path ∈ manifest.evidencePaths, encodable path = true := by
  have hchecksum : (orNull Json.str manifest.scoringChecksum).writable = true := by
    rw [orNull_writable]
    intro digest hdigest
    have hvalid := h.checksum
    rw [hdigest, requireDigest_some] at hvalid
    exact isSha256Text_encodable hvalid
  unfold RunManifest.scoringDict
  rw [fieldsWritable_iff]
  simp only [List.forall_mem_cons, requireFiniteScore_writable h.achieved,
    requireFiniteScore_writable h.available, hchecksum, arr_writable, str_writable, true_and,
    List.not_mem_nil, false_implies, implies_true, and_true]

/-- **An accepted manifest is encoded exactly when it can be written.** -/
theorem toDict_writable {manifest : RunManifest} (h : validateManifest manifest = .ok ()) :
    (manifest.toDict printer).writable = true ↔ Writable manifest := by
  obtain ⟨hschema, hmeta, hartifacts, hincomplete⟩ := validateManifest_ok.mp h
  have hversion : printable manifest.schemaVersion = true := by
    rw [hschema]
    decide +kernel
  have hstatus := terminalStatus_encodable hmeta.terminalStatus
  have hpaths : ∀ path ∈ manifest.incompletePaths, encodable path = true := by
    intro path hpath
    unfold validateIncomplete at hincomplete
    rw [seq_ok, seq_ok, require_ok, require_ok, List.all_eq_true] at hincomplete
    have hrequired := hincomplete.2.1 path hpath
    rw [Bool.and_eq_true, List.contains_eq_mem, decide_eq_true_eq] at hrequired
    obtain ⟨s, -, rfl⟩ := List.mem_map.mp hrequired.2
    exact encodable_ofString s
  have hsources : ∀ source : SourceRevision, source.toDict.writable = true ↔
      encodable source.name = true ∧ encodable source.revision = true := by
    intro source
    unfold SourceRevision.toDict
    rw [fieldsWritable_iff]
    simp [Json.writable]
  have himages : ∀ image ∈ manifest.imageDigests,
      (image.toDict.writable = true ↔ encodable image.name = true) := by
    intro image himage
    have hdigest := requireDigest_some.mp ((eachUnique_ok.mp hmeta.images).2 image himage).2
    unfold ImageDigest.toDict
    rw [fieldsWritable_iff]
    simp [str_writable, isSha256Text_encodable hdigest]
  have hconfigurations : ∀ configuration ∈ manifest.configurations,
      (configuration.toDict.writable = true ↔ encodable configuration.relativePath = true) := by
    intro configuration hmem
    have hdigest := requireDigest_some.mp
      ((eachUnique_ok.mp hmeta.configurations).2 configuration hmem).2
    unfold ConfigurationRecord.toDict
    rw [fieldsWritable_iff]
    simp [str_writable, isSha256Text_encodable hdigest]
  have hrecords : ∀ artifact ∈ manifest.artifacts, (artifact.toDict.writable = true ↔
      encodable artifact.relativePath = true ∧ artifact.sizeBytes.all printable = true ∧
        encodable artifact.detail = true) :=
    fun artifact hmem => artifact_writable ((eachUnique_ok.mp hartifacts).2 artifact hmem).2
  unfold RunManifest.toDict
  rw [fieldsWritable_iff]
  simp only [List.forall_mem_cons, str_writable, int_writable, hversion, hstatus, arr_writable,
    timing_writable hmeta.timing, wall_writable printer hmeta.timing, scoring_writable hmeta,
    true_and, List.not_mem_nil, false_implies, implies_true, and_true]
  constructor
  · rintro ⟨hrun, hreason, ⟨hstart, hend⟩, hs, hi, hc, ha, -, he⟩
    exact ⟨hrun, hreason, hstart, hend, fun x hx => (hsources x).mp (hs x hx),
      fun x hx => (himages x hx).mp (hi x hx), fun x hx => (hconfigurations x hx).mp (hc x hx),
      fun x hx => (hrecords x hx).mp (ha x hx), he⟩
  · intro hw
    exact ⟨hw.runId, hw.reason, ⟨hw.startNs, hw.endNs⟩,
      fun x hx => (hsources x).mpr (hw.sources x hx),
      fun x hx => (himages x hx).mpr (hw.images x hx),
      fun x hx => (hconfigurations x hx).mpr (hw.configurations x hx),
      fun x hx => (hrecords x hx).mpr (hw.artifacts x hx), hpaths, hw.evidence⟩

/-- **Writing an accepted manifest where there is none.** -/
theorem writeManifestAtomic_isOk {manifest : RunManifest} (h : validateManifest manifest = .ok ()) :
    (∃ payload, writeManifestAtomic printer none manifest = .ok payload) ↔ Writable manifest := by
  rw [← toDict_writable printer h, ← Json.encode_isOk printer.float]
  unfold writeManifestAtomic canonicalManifestBytes
  rw [h]
  cases Json.encode printer.float (manifest.toDict printer) with
  | error e =>
    constructor
    · rintro ⟨payload, hpayload⟩
      cases hpayload
    · intro hok
      cases hok
  | ok payload => exact ⟨fun _ => rfl, fun _ => ⟨payload, rfl⟩⟩

end DroneSim
