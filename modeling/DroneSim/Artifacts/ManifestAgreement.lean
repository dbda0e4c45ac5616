/-
  File:      DroneSim/Artifacts/ManifestAgreement.lean
  Subject:   What the two readers make of a published manifest.

  Each part of a manifest is read back as it was written (`ofValue_toDict`). With them the two
  readers take a published manifest apart: `manifestResult_published`, `manifestStatus_published`.
  The readers ask more than the writer: a canonical run id, at most four mebibytes, and that the
  run directory confirms every record that says `valid`.
-/
import DroneSim.Artifacts.ManifestReaders
import DroneSim.Artifacts.StatusFields

namespace DroneSim

open Library

/-! ## 1. Parts, written and read -/

theorem value_jsonObject (fields : List (String × Json)) :
    (jsonObject fields).value = .mapping true (document (fields.map fun f => (f.1, f.2.value))) := by
  show PyValue.mapping true (Json.fieldValues _) = _
  rw [Json.fieldValues_eq]
  unfold document
  rw [List.map_map, List.map_map]
  congr 1
  refine List.map_congr_left fun f _ => ?_
  show (PyKey.str (textString (ofString f.1)), _) = _
  rw [textString_ofString]
  rfl

theorem value_arr (items : List Json) : (Json.arr items).value = .list (items.map Json.value) :=
  congrArg PyValue.list (Json.itemValues_eq items)

theorem exactObject_document {fields : List (String × PyValue)} {names : List String}
    (h : fields.map Prod.fst = names) :
    exactObject names (.mapping true (document fields)) = .ok (document fields) :=
  if_pos (hasKeys_document h)

theorem readField_cons {α : Type} (k name : String) (v : PyValue)
    (fields : List (String × PyValue)) (read : PyValue → Except String α) :
    readField (document ((k, v) :: fields)) name read =
      if k = name then read v else readField (document fields) name read := by
  unfold readField
  rw [field_document_cons]
  by_cases h : k = name
  · rw [if_pos h, if_pos h]
  · rw [if_neg h, if_neg h]

theorem asList_value (items : List Json) :
    asList (Json.arr items).value = .ok (items.map Json.value) := by
  rw [value_arr]
  rfl

theorem asText_string {t : PyText} (h : encodable t = true) :
    asText (.str (textString t)) = .ok t := congrArg Except.ok (ofString_textString h)

theorem asText_value {t : PyText} (h : encodable t = true) :
    asText (Json.value (.str t)) = .ok t := asText_string h

theorem asInts_value (o : Option ℤ) : asOptional asInt (orNull Json.int o).value = .ok o := by
  cases o with
  | none => rfl
  | some n => rfl

theorem asTexts_value {o : Option PyText} (h : ∀ t, o = some t → encodable t = true) :
    asOptional asText (orNull Json.str o).value = .ok o := by
  cases o with
  | none => rfl
  | some t =>
    show (asText (Json.value (.str t))).map some = _
    rw [asText_value (h t rfl)]
    rfl

theorem asNumber_value (x : PyNumber) : asNumber x.toJson.value = .ok x := by
  cases x with
  | int n => rfl
  | float x => rfl
  | nonfinite => rfl

theorem asNumbers_value (o : Option PyNumber) :
    asOptional asNumber (orNull PyNumber.toJson o).value = .ok o := by
  cases o with
  | none => rfl
  | some x =>
    cases x with
    | int n => rfl
    | float x => rfl
    | nonfinite => rfl

/-- **A list is read back when each of its items is.** -/
theorem mapM_value {α : Type} {read : PyValue → Except String α} {write : α → Json} {xs : List α}
    (h : ∀ x ∈ xs, read (write x).value = .ok x) :
    ((xs.map write).map Json.value).mapM read = .ok xs := by
  rw [mapM_ok, List.map_map]
  induction xs with
  | nil => exact .nil
  | cons x rest ih =>
    exact .cons (h x List.mem_cons_self) (ih fun y hy => h y (List.mem_cons_of_mem x hy))

theorem eachOf_value {α : Type} {read : PyValue → Except String α} {write : α → Json}
    {xs : List α} (h : ∀ x ∈ xs, read (write x).value = .ok x) :
    eachOf read (Json.arr (xs.map write)).value = .ok xs := by
  rw [value_arr]
  exact mapM_value h

theorem SourceRevision.ofValue_toDict {source : SourceRevision}
    (hname : encodable source.name = true) (hrevision : encodable source.revision = true) :
    ofValue source.toDict.value = .ok source := by
  unfold toDict ofValue
  simp only [value_jsonObject, List.map_cons, List.map_nil, exactObject_document, ok_bind,
    readField_cons, String.reduceEq, if_true, if_false, asText_value hname,
    asText_value hrevision]
  rfl

theorem ImageDigest.ofValue_toDict {image : ImageDigest} (hname : encodable image.name = true)
    (hdigest : encodable image.digest = true) : ofValue image.toDict.value = .ok image := by
  unfold toDict ofValue
  simp only [value_jsonObject, List.map_cons, List.map_nil, exactObject_document, ok_bind,
    readField_cons, String.reduceEq, if_true, if_false, asText_value hname, asText_value hdigest]
  rfl

theorem ConfigurationRecord.ofValue_toDict {configuration : ConfigurationRecord}
    (hpath : encodable configuration.relativePath = true)
    (hdigest : encodable configuration.sha256 = true) :
    ofValue configuration.toDict.value = .ok configuration := by
  unfold toDict ofValue
  simp only [value_jsonObject, List.map_cons, List.map_nil, exactObject_document, ok_bind,
    readField_cons, String.reduceEq, if_true, if_false, asText_value hpath, asText_value hdigest]
  rfl

variable {started ended : DateTime} {printer : ManifestPrinter} {artifact : ArtifactRecord}
  {manifest : RunManifest}

theorem ArtifactRecord.ofValue_toDict (hpath : encodable artifact.relativePath = true)
    (hdigest : ∀ t, artifact.sha256 = some t → encodable t = true)
    (hvalidation : encodable artifact.validation = true)
    (hdetail : encodable artifact.detail = true) :
    ofValue artifact.toDict.value = .ok artifact := by
  unfold toDict ofValue
  simp only [value_jsonObject, List.map_cons, List.map_nil, exactObject_document, ok_bind,
    readField_cons, String.reduceEq, if_true, if_false, asText_value hpath, asInts_value,
    asTexts_value hdigest, asText_value hvalidation, asText_value hdetail]
  rfl

theorem SimulationTiming.ofValue_toDict (timing : SimulationTiming) :
    ofValue timing.toDict.value = .ok timing := by
  unfold toDict ofValue
  simp only [value_jsonObject, List.map_cons, List.map_nil, exactObject_document, ok_bind,
    readField_cons, String.reduceEq, if_true, if_false, asInts_value]
  rfl

theorem ScoringFields.ofValue_scoringDict
    (hchecksum : ∀ t, manifest.scoringChecksum = some t → encodable t = true)
    (hevidence : ∀ path ∈ manifest.evidencePaths, encodable path = true) :
    ofValue manifest.scoringDict.value = .ok ⟨manifest.achievedScore,
      manifest.maximumAvailableScore, manifest.scoringChecksum, manifest.evidencePaths⟩ := by
  have hpaths : eachOf asText (Json.arr (manifest.evidencePaths.map Json.str)).value =
      .ok manifest.evidencePaths := eachOf_value fun path hpath => asText_value (hevidence path hpath)
  unfold RunManifest.scoringDict ofValue
  simp only [value_jsonObject, List.map_cons, List.map_nil, exactObject_document, ok_bind,
    readField_cons, String.reduceEq, if_true, if_false, asNumbers_value, asTexts_value hchecksum,
    hpaths]
  rfl

/-- A timestamp read back: the same clock and the same offset. -/
structure ReadsBack (printer : ManifestPrinter) (fromisoformat : PyText → Option DateTime)
    (d read : DateTime) : Prop where
  reads : fromisoformat (printer.isoformat d) = some read
  clock : read.clock = d.clock
  utcoffset : read.utcoffset = d.utcoffset

theorem WallTiming.ofValue_toDict {fromisoformat : PyText → Option DateTime} {wall : WallTiming}
    (hstarted : ReadsBack printer fromisoformat wall.startedAt started)
    (hended : ReadsBack printer fromisoformat wall.endedAt ended) :
    ofValue fromisoformat (wall.toDict printer).value =
      .ok ⟨started, ended, wall.durationSeconds⟩ := by
  have hdate {d read : DateTime} (h : ReadsBack printer fromisoformat d read) :
      asDateTime fromisoformat (Json.value (.str (printer.isoformat d))) = .ok read := by
    unfold asDateTime
    rw [asText_value (printer.isoformatAscii d), ok_bind, h.reads]
    rfl
  unfold toDict ofValue
  simp only [value_jsonObject, List.map_cons, List.map_nil, exactObject_document, ok_bind,
    readField_cons, String.reduceEq, if_true, if_false, hdate hstarted, hdate hended,
    asNumber_value]
  rfl

/-! ## 2. The checks of the readers on an accepted manifest -/

theorem accept_ok {condition : Bool} {message : String} :
    accept condition message = .ok () ↔ condition = true := by
  unfold accept
  split
  · rename_i h
    exact ⟨fun _ => h, fun _ => rfl⟩
  · rename_i h
    exact ⟨fun e => (by cases e), fun e => absurd e h⟩

theorem accept_bind {α : Type} {condition : Bool} {message : String} {y : Except String α}
    (h : condition = true) : (accept condition message >>= fun _ => y) = y := by
  rw [accept_ok.mpr h]
  rfl

/-- Aware timestamps are subtracted as instants, unless one `tzinfo` has two offsets. -/
theorem DateTime.minus_instants {later earlier : DateTime} {x y : ℤ}
    (hx : later.utcoffset = some x) (hy : earlier.utcoffset = some y)
    (hfixed : later.tzinfo = earlier.tzinfo → x = y) :
    later.minus earlier = some ((later.clock - x) - (earlier.clock - y)) := by
  unfold minus
  split
  · rename_i heq
    have h := hfixed heq
    congr 1
    omega
  · rw [hx, hy]

/-- One `tzinfo` has one offset at both ends of the run. -/
def FixedOffset (earlier later : DateTime) : Prop :=
  earlier.tzinfo = later.tzinfo → earlier.utcoffset = later.utcoffset

/-- **The timestamps that were read are as far apart as those that were written.** -/
theorem validateTiming_read {fromisoformat : PyText → Option DateTime}
    {simulation : SimulationTiming} {wall : WallTiming}
    (h : validateTiming simulation wall = .ok ())
    (hstarted : ReadsBack printer fromisoformat wall.startedAt started)
    (hended : ReadsBack printer fromisoformat wall.endedAt ended)
    (hwritten : FixedOffset wall.startedAt wall.endedAt) (hread : FixedOffset started ended) :
    validateTiming simulation ⟨started, ended, wall.durationSeconds⟩ = .ok () := by
  unfold validateTiming at h ⊢
  simp only [seq_ok, require_ok, Bool.and_eq_true] at h ⊢
  obtain ⟨h1, h2, h3, h4, ⟨hstart, hend⟩, h5⟩ := h
  refine ⟨h1, h2, h3, h4, ?_, ?_⟩
  · rw [hstarted.utcoffset, hended.utcoffset]
    exact ⟨hstart, hend⟩
  · obtain ⟨y, hy⟩ := Option.isSome_iff_exists.mp hstart
    obtain ⟨x, hx⟩ := Option.isSome_iff_exists.mp hend
    have hy' : started.utcoffset = some y := hstarted.utcoffset.trans hy
    have hx' : ended.utcoffset = some x := hended.utcoffset.trans hx
    have hminus := DateTime.minus_instants hx hy fun e => by
      have hsame := hwritten e.symm
      rw [hy, hx] at hsame
      exact (Option.some.inj hsame).symm
    have hminus' := DateTime.minus_instants hx' hy' fun e => by
      have hsame := hread e.symm
      rw [hy', hx'] at hsame
      exact (Option.some.inj hsame).symm
    rw [hminus] at h5
    rw [hminus', hstarted.clock, hended.clock]
    exact h5

/-- What the records of an accepted manifest are. -/
theorem validateArtifacts_ok {artifacts : List ArtifactRecord} :
    validateArtifacts artifacts = .ok () ↔ (artifacts.map (·.relativePath)).Nodup ∧
      ∀ artifact ∈ artifacts, isManifestRelativePath artifact.relativePath = true ∧
        validateArtifact artifact = .ok () := by
  unfold validateArtifacts
  rw [eachUnique_ok]
  simp only [requireRelativePath, require_ok]

/-- A record that is not valid is missing or invalid. -/
theorem validation_other (h : validateArtifact artifact = .ok ())
    (hne : artifact.validation ≠ ValidationStatus.valid.text) :
    artifact.validation = ValidationStatus.missing.text ∨
      artifact.validation = ValidationStatus.invalid.text := by
  obtain ⟨⟨status, hstatus⟩, -, -⟩ := validateArtifact_ok.mp h
  cases status with
  | valid => exact absurd hstatus.symm hne
  | missing => exact .inl hstatus.symm
  | invalid => exact .inr hstatus.symm

/-- **The loop over the records passes where the run directory confirms those that are valid.** -/
theorem checkRecords_ok (r : RunReader) {seen : List PyText} {records : List ArtifactRecord}
    (hnodup : (records.map (·.relativePath)).Nodup)
    (hseen : ∀ record ∈ records, record.relativePath ∉ seen)
    (hall : ∀ record ∈ records, isManifestRelativePath record.relativePath = true ∧
      validateArtifact record = .ok ())
    (hconfirms : ∀ record ∈ records, record.validation = ValidationStatus.valid.text →
      r.confirms record = true) :
    r.checkRecords seen records = .ok () := by
  induction records generalizing seen with
  | nil => rfl
  | cons record rest ih =>
    rw [List.map_cons, List.nodup_cons] at hnodup
    obtain ⟨hrelative, hvalid⟩ := hall record List.mem_cons_self
    have hnew : (isManifestRelativePath record.relativePath &&
        !seen.contains record.relativePath) = true := by
      rw [hrelative, List.contains_eq_mem, decide_eq_false (hseen record List.mem_cons_self)]
      rfl
    have hrest : r.checkRecords (record.relativePath :: seen) rest = .ok () := by
      refine ih hnodup.2 (fun other hother hmem => ?_)
        (fun other hother => hall other (List.mem_cons_of_mem record hother))
        fun other hother => hconfirms other (List.mem_cons_of_mem record hother)
      rcases List.mem_cons.mp hmem with heq | hmem
      · exact hnodup.1 (List.mem_map.mpr ⟨other, hother, heq⟩)
      · exact hseen other (List.mem_cons_of_mem record hother) hmem
    unfold RunReader.checkRecords
    rw [accept_bind hnew]
    split
    · rename_i hstatus
      rw [accept_bind (hconfirms record List.mem_cons_self hstatus)]
      exact hrest
    · rename_i hstatus
      rw [accept_bind (by simpa using validation_other hvalid hstatus)]
      exact hrest

/-- The loop over the records passes nowhere else. -/
theorem confirms_of_checkRecords {r : RunReader} {seen : List PyText}
    {records : List ArtifactRecord} (h : r.checkRecords seen records = .ok ()) :
    ∀ record ∈ records, record.validation = ValidationStatus.valid.text →
      r.confirms record = true := by
  induction records generalizing seen with
  | nil =>
    intro record hmem
    cases hmem
  | cons first rest ih =>
    unfold RunReader.checkRecords at h
    rw [seq_ok] at h
    obtain ⟨-, h⟩ := h
    intro record hmem hstatus
    split at h
    · rw [seq_ok, accept_ok] at h
      rcases List.mem_cons.mp hmem with rfl | hmem
      · exact h.1
      · exact ih h.2 record hmem hstatus
    · rename_i hother
      rw [seq_ok] at h
      rcases List.mem_cons.mp hmem with rfl | hmem
      · exact absurd hstatus hother
      · exact ih h.2 record hmem hstatus

/-- **The second reader keeps the validations as they are.** -/
theorem recordValidations_ok {acc records : List (PyText × PyText)}
    (hnodup : (records.map Prod.fst).Nodup) (hseen : ∀ record ∈ records, ∀ v ∈ acc, v.1 ≠ record.1)
    (hall : ∀ record ∈ records, isManifestRelativePath record.1 = true ∧
      ∃ status : ValidationStatus, status.text = record.2) :
    recordValidations acc records = .ok (acc ++ records) := by
  induction records generalizing acc with
  | nil =>
    rw [List.append_nil]
    rfl
  | cons record rest ih =>
    rw [List.map_cons, List.nodup_cons] at hnodup
    obtain ⟨hrelative, status, hstatus⟩ := hall record List.mem_cons_self
    have hnew : (acc.any fun v => v.1 = record.1) = false := by
      rw [List.any_eq_false]
      exact fun v hv => by simpa using hseen record List.mem_cons_self v hv
    have hknown : ([ValidationStatus.valid, .missing, .invalid].any fun status =>
        decide (status.text = record.2)) = true := by
      rw [List.any_eq_true]
      refine ⟨status, ?_, decide_eq_true hstatus⟩
      cases status <;> simp
    unfold recordValidations
    rw [accept_bind (by rw [hrelative, hnew, hknown]; rfl), ih hnodup.2]
    · rw [List.append_assoc]
      rfl
    · intro other hother v hv
      rcases List.mem_append.mp hv with hv | hv
      · exact hseen other (List.mem_cons_of_mem record hother) v hv
      · rw [List.mem_singleton.mp hv]
        exact fun heq => hnodup.1 (List.mem_map.mpr ⟨other, hother, heq.symm⟩)
    · exact fun other hother => hall other (List.mem_cons_of_mem record hother)

/-! ## 3. The readers on a published manifest -/

/-- A published manifest was accepted, and can be written. -/
theorem published_writable {existing : Option (List UInt8)} {payload : List UInt8}
    (h : writeManifestAtomic printer existing manifest = .ok payload) :
    validateManifest manifest = .ok () ∧ Writable manifest := by
  unfold writeManifestAtomic canonicalManifestBytes at h
  obtain ⟨bytes, hbytes, -⟩ := bind_ok h
  rw [seq_ok] at hbytes
  obtain ⟨hvalid, hencoded⟩ := hbytes
  refine ⟨hvalid, (toDict_writable printer hvalid).mp ?_⟩
  rw [← Json.encode_isOk printer.float]
  split at hencoded
  · rename_i hpayload
    rw [hpayload]
    rfl
  · cases hencoded

/-- The fields of the document of a manifest, read. -/
def manifestFields (printer : ManifestPrinter) (manifest : RunManifest) :
    List (String × PyValue) :=
  [("schema_version", .int manifest.schemaVersion), ("run_id", .str (textString manifest.runId)),
    ("terminal_status", .str (textString manifest.terminalStatus)),
    ("reason", .str (textString manifest.reason)),
    ("simulation_timing", manifest.simulationTiming.toDict.value),
    ("wall_timing", (manifest.wallTiming.toDict printer).value),
    ("source_revisions", (Json.arr (manifest.sourceRevisions.map SourceRevision.toDict)).value),
    ("image_digests", (Json.arr (manifest.imageDigests.map ImageDigest.toDict)).value),
    ("configurations", (Json.arr (manifest.configurations.map ConfigurationRecord.toDict)).value),
    ("artifacts", (Json.arr (manifest.artifacts.map ArtifactRecord.toDict)).value),
    ("incomplete_paths", (Json.arr (manifest.incompletePaths.map .str)).value),
    ("scoring", manifest.scoringDict.value)]

theorem value_toDict (printer : ManifestPrinter) (manifest : RunManifest) :
    (manifest.toDict printer).value = .mapping true (document (manifestFields printer manifest)) :=
  value_jsonObject _

theorem field_manifest {name : String} {v : PyValue}
    (h : (name, v) ∈ manifestFields printer manifest) :
    PyValue.field (document (manifestFields printer manifest)) name = some v := by
  have hkeys : (manifestFields printer manifest).map Prod.fst = RunReader.manifestKeys := rfl
  refine field_document ?_ h
  rw [hkeys]
  decide

/-- A terminal status is one of the states of the readers. -/
theorem terminalStatus_known {status : PyText} (h : status ∈ terminalStatuses) :
    (TerminalState.ofValue (textString status)).isSome = true := by
  obtain ⟨name, hname, rfl⟩ := List.mem_map.mp h
  rw [textString_ofString]
  revert name
  decide

section Published

variable {printer : ManifestPrinter} {manifest : RunManifest}

theorem sources_read (h : Writable manifest) :
    eachOf SourceRevision.ofValue
        (Json.arr (manifest.sourceRevisions.map SourceRevision.toDict)).value =
      .ok manifest.sourceRevisions :=
  eachOf_value fun source hsource =>
    SourceRevision.ofValue_toDict (h.sources source hsource).1 (h.sources source hsource).2

theorem images_read (hmeta : MetadataValid manifest) (h : Writable manifest) :
    eachOf ImageDigest.ofValue (Json.arr (manifest.imageDigests.map ImageDigest.toDict)).value =
      .ok manifest.imageDigests := by
  refine eachOf_value fun image himage => ImageDigest.ofValue_toDict (h.images image himage) ?_
  exact isSha256Text_encodable
    (requireDigest_some.mp ((eachUnique_ok.mp hmeta.images).2 image himage).2)

theorem configurations_read (hmeta : MetadataValid manifest) (h : Writable manifest) :
    eachOf ConfigurationRecord.ofValue
        (Json.arr (manifest.configurations.map ConfigurationRecord.toDict)).value =
      .ok manifest.configurations := by
  refine eachOf_value fun configuration hmem =>
    ConfigurationRecord.ofValue_toDict (h.configurations configuration hmem) ?_
  exact isSha256Text_encodable
    (requireDigest_some.mp ((eachUnique_ok.mp hmeta.configurations).2 configuration hmem).2)

/-- The texts of an accepted record, apart from its path and its detail, can be encoded. -/
theorem record_encodable (h : validateArtifact artifact = .ok ()) :
    (∀ t, artifact.sha256 = some t → encodable t = true) ∧
      encodable artifact.validation = true := by
  obtain ⟨⟨status, hstatus⟩, -, hmeasured⟩ := validateArtifact_ok.mp h
  refine ⟨fun digest hdigest => ?_, ?_⟩
  · unfold Measured at hmeasured
    split at hmeasured
    · rw [hdigest] at hmeasured
      exact isSha256Text_encodable hmeasured.2
    · rw [hmeasured.2] at hdigest
      cases hdigest
  · rw [← hstatus]
    exact encodable_ofString _

theorem artifacts_read (hartifacts : validateArtifacts manifest.artifacts = .ok ())
    (h : Writable manifest) :
    ((manifest.artifacts.map ArtifactRecord.toDict).map Json.value).mapM ArtifactRecord.ofValue =
      .ok manifest.artifacts := by
  refine mapM_value fun artifact hmem => ?_
  obtain ⟨hpath, -, hdetail⟩ := h.artifacts artifact hmem
  obtain ⟨hdigest, hvalidation⟩ :=
    record_encodable ((validateArtifacts_ok.mp hartifacts).2 artifact hmem).2
  exact ArtifactRecord.ofValue_toDict hpath hdigest hvalidation hdetail

/-- What `validate_manifest` says of the incomplete paths. -/
theorem validateIncomplete_ok : validateIncomplete manifest = .ok () ↔
    manifest.incompletePaths.Nodup ∧
      (∀ path ∈ manifest.incompletePaths,
        isManifestRelativePath path = true ∧ path ∈ requiredArtifactPaths) ∧
      (requiredArtifactPaths.all fun path =>
        manifest.artifacts.any fun artifact => artifact.relativePath = path) = true ∧
      manifest.incompletePaths = expectedIncomplete manifest.artifacts ∧
      (!(decide (manifest.terminalStatus = completedStatus) &&
        decide (manifest.incompletePaths ≠ []))) = true := by
  unfold validateIncomplete
  simp only [seq_ok, require_ok, decide_eq_true_eq, List.all_eq_true, Bool.and_eq_true,
    List.contains_eq_mem]

theorem incomplete_read (hincomplete : validateIncomplete manifest = .ok ()) :
    ((manifest.incompletePaths.map Json.str).map Json.value).mapM asText =
      .ok manifest.incompletePaths := by
  refine mapM_value fun path hpath => asText_value ?_
  obtain ⟨name, -, rfl⟩ := List.mem_map.mp ((validateIncomplete_ok.mp hincomplete).2.1 path hpath).2
  exact encodable_ofString name

theorem scoring_read (hmeta : MetadataValid manifest) (h : Writable manifest) :
    ScoringFields.ofValue manifest.scoringDict.value = .ok ⟨manifest.achievedScore,
      manifest.maximumAvailableScore, manifest.scoringChecksum, manifest.evidencePaths⟩ := by
  refine ScoringFields.ofValue_scoringDict (fun digest hdigest => ?_) h.evidence
  have hvalid := hmeta.checksum
  rw [hdigest, requireDigest_some] at hvalid
  exact isSha256Text_encodable hvalid

/-- What both readers check first. -/
theorem heading_read (hschema : manifest.schemaVersion = 1) (hmeta : MetadataValid manifest) :
    ((PyValue.field (document (manifestFields printer manifest)) "schema_version").bind
        PyValue.number == some 1) = true ∧
      (textField (document (manifestFields printer manifest)) "run_id" ==
        some (textString manifest.runId)) = true ∧
      ((textField (document (manifestFields printer manifest)) "terminal_status").bind
        TerminalState.ofValue).isSome = true := by
  refine ⟨?_, ?_, ?_⟩
  · rw [field_manifest (v := .int manifest.schemaVersion) (by simp [manifestFields]), hschema]
    rfl
  · unfold textField
    rw [field_manifest (v := .str (textString manifest.runId)) (by simp [manifestFields])]
    exact beq_self_eq_true _
  · unfold textField
    rw [field_manifest (v := .str (textString manifest.terminalStatus)) (by simp [manifestFields])]
    exact terminalStatus_known hmeta.terminalStatus

/-- What the first reader does once the document is taken apart. -/
theorem manifestResult_step (r : RunReader) (hvalid : validateManifest manifest = .ok ())
    (hw : Writable manifest)
    (hstarted : ReadsBack printer r.fromisoformat manifest.wallTiming.startedAt started)
    (hended : ReadsBack printer r.fromisoformat manifest.wallTiming.endedAt ended) :
    r.manifestResult (textString manifest.runId) (document (manifestFields printer manifest)) =
      (do
        r.checkRecords [] manifest.artifacts
        accept (requiredArtifactPaths.all fun path =>
            manifest.artifacts.any fun artifact => artifact.relativePath = path)
          "manifest required inventory is incomplete"
        accept (decide (manifest.incompletePaths = expectedIncomplete manifest.artifacts))
          "manifest incomplete_paths disagrees with required inventory"
        accept (!(decide (manifest.terminalStatus = completedStatus) &&
            decide (manifest.incompletePaths ≠ [])))
          "completed manifest has incomplete required inventory"
        accept (validateManifest { manifest with
            wallTiming := ⟨started, ended, manifest.wallTiming.durationSeconds⟩
            schemaVersion := 1 }).isOk "manifest domain validation failed"
        return ⟨manifest.runId, manifest.terminalStatus, manifest.reason⟩) := by
  obtain ⟨hschema, hmeta, hartifacts, hincomplete⟩ := validateManifest_ok.mp hvalid
  have hkeys : hasKeys (document (manifestFields printer manifest)) RunReader.manifestKeys =
      true := hasKeys_document rfl
  obtain ⟨hversion, hrun, hstate⟩ := @heading_read printer _ hschema hmeta
  unfold RunReader.manifestResult
  rw [hkeys, Bool.true_and, accept_bind hversion, accept_bind hrun, accept_bind hstate]
  simp only [manifestFields, readField_cons, String.reduceEq, if_true, if_false, ok_bind,
    SimulationTiming.ofValue_toDict, WallTiming.ofValue_toDict hstarted hended,
    scoring_read hmeta hw, sources_read hw, images_read hmeta hw, configurations_read hmeta hw,
    asList_value, artifacts_read hartifacts hw, incomplete_read hincomplete,
    asText_string hw.runId, asText_string hw.reason,
    asText_string (terminalStatus_encodable hmeta.terminalStatus)]

/-- **The first reader builds the manifest again and accepts it.** -/
theorem manifestResult_published (r : RunReader) (hvalid : validateManifest manifest = .ok ())
    (hw : Writable manifest)
    (hstarted : ReadsBack printer r.fromisoformat manifest.wallTiming.startedAt started)
    (hended : ReadsBack printer r.fromisoformat manifest.wallTiming.endedAt ended)
    (hwritten : FixedOffset manifest.wallTiming.startedAt manifest.wallTiming.endedAt)
    (hread : FixedOffset started ended) (hconfirms : ∀ artifact ∈ manifest.artifacts,
      artifact.validation = ValidationStatus.valid.text → r.confirms artifact = true) :
    r.manifestResult (textString manifest.runId) (document (manifestFields printer manifest)) =
      .ok ⟨manifest.runId, manifest.terminalStatus, manifest.reason⟩ := by
  obtain ⟨hschema, hmeta, hartifacts, hincomplete⟩ := validateManifest_ok.mp hvalid
  obtain ⟨hnodup, hrecords⟩ := validateArtifacts_ok.mp hartifacts
  obtain ⟨-, -, hrequired, hexpected, hcompleted⟩ := validateIncomplete_ok.mp hincomplete
  have hagain : validateManifest { manifest with
      wallTiming := ⟨started, ended, manifest.wallTiming.durationSeconds⟩
      schemaVersion := 1 } = .ok () :=
    validateManifest_ok.mpr ⟨rfl, ⟨hmeta.runId, hmeta.terminalStatus,
      validateTiming_read hmeta.timing hstarted hended hwritten hread, hmeta.achieved,
      hmeta.available, hmeta.checksum, hmeta.sources, hmeta.images, hmeta.configurations,
      hmeta.evidence⟩, hartifacts, hincomplete⟩
  have hloop : r.checkRecords [] manifest.artifacts = .ok () :=
    checkRecords_ok r hnodup (fun _ _ => List.not_mem_nil) hrecords hconfirms
  rw [manifestResult_step r hvalid hw hstarted hended, hloop, ok_bind, accept_bind hrequired,
    accept_bind (decide_eq_true hexpected), accept_bind hcompleted,
    accept_bind (isOk_of_eq hagain)]
  rfl

/-- **The first reader refuses a manifest with a valid record that the run directory does not
    confirm.** -/
theorem manifestResult_unconfirmed (r : RunReader) (hvalid : validateManifest manifest = .ok ())
    (hw : Writable manifest)
    (hstarted : ReadsBack printer r.fromisoformat manifest.wallTiming.startedAt started)
    (hended : ReadsBack printer r.fromisoformat manifest.wallTiming.endedAt ended)
    (hmem : artifact ∈ manifest.artifacts)
    (hstatus : artifact.validation = ValidationStatus.valid.text)
    (hrefuses : r.confirms artifact = false) (result : FinalizationResult) :
    r.manifestResult (textString manifest.runId) (document (manifestFields printer manifest)) ≠
      .ok result := by
  intro h
  rw [manifestResult_step r hvalid hw hstarted hended, seq_ok] at h
  have hconfirms := confirms_of_checkRecords h.1 artifact hmem hstatus
  rw [hrefuses] at hconfirms
  cases hconfirms

/-- The validations that the second reader keeps. -/
def validations (manifest : RunManifest) : List (PyText × PyText) :=
  manifest.artifacts.map fun artifact => (artifact.relativePath, artifact.validation)

theorem validations_read (hartifacts : validateArtifacts manifest.artifacts = .ok ())
    (h : Writable manifest) :
    ((manifest.artifacts.map ArtifactRecord.toDict).map Json.value).mapM recordValidation =
      .ok (validations manifest) := by
  unfold validations
  rw [mapM_ok, List.map_map, List.forall₂_map_left_iff, List.forall₂_map_right_iff,
    List.forall₂_same]
  intro artifact hmem
  obtain ⟨hpath, -, -⟩ := h.artifacts artifact hmem
  obtain ⟨-, hvalidation⟩ :=
    record_encodable ((validateArtifacts_ok.mp hartifacts).2 artifact hmem).2
  show recordValidation artifact.toDict.value = _
  unfold ArtifactRecord.toDict recordValidation
  simp only [value_jsonObject, List.map_cons, List.map_nil, ok_bind, readField_cons,
    String.reduceEq, if_true, if_false, asText_value hpath, asText_value hvalidation]
  rfl

/-- The paths that the manifest calls incomplete are missing or invalid for the second reader. -/
theorem incomplete_validations (hartifacts : validateArtifacts manifest.artifacts = .ok ())
    (hincomplete : validateIncomplete manifest = .ok ()) :
    (manifest.incompletePaths.all fun path =>
      ((validations manifest).find? fun v => v.1 = path).any fun v =>
        decide (v.2 = ValidationStatus.missing.text) ||
          decide (v.2 = ValidationStatus.invalid.text)) = true := by
  obtain ⟨-, -, -, hexpected, -⟩ := validateIncomplete_ok.mp hincomplete
  rw [List.all_eq_true]
  intro path hpath
  rw [hexpected] at hpath
  have hany := (List.mem_filter.mp hpath).2
  unfold validations
  rw [List.find?_map]
  cases hfind : manifest.artifacts.find? fun artifact => artifact.relativePath = path with
  | none =>
    rw [hfind] at hany
    cases hany
  | some artifact =>
    rw [hfind] at hany
    have hmem := List.mem_of_find?_eq_some hfind
    have hother := validation_other ((validateArtifacts_ok.mp hartifacts).2 artifact hmem).2
      (of_decide_eq_true hany)
    have hcomp : manifest.artifacts.find? ((fun v : PyText × PyText => decide (v.1 = path)) ∘
        fun artifact => (artifact.relativePath, artifact.validation)) = some artifact := hfind
    rw [hcomp]
    simpa using hother

/-- **The second reader takes the completeness and the missing paths from the manifest.** -/
theorem manifestStatus_published (hvalid : validateManifest manifest = .ok ())
    (hw : Writable manifest) :
    manifestStatus (textString manifest.runId) (document (manifestFields printer manifest)) =
      .ok ⟨manifest.incompletePaths.isEmpty, manifest.incompletePaths.insertionSort (· ≤ ·)⟩ := by
  obtain ⟨hschema, hmeta, hartifacts, hincomplete⟩ := validateManifest_ok.mp hvalid
  obtain ⟨hnodup, hrecords⟩ := validateArtifacts_ok.mp hartifacts
  obtain ⟨hunique, hrelative, -, -, -⟩ := validateIncomplete_ok.mp hincomplete
  obtain ⟨hversion, hrun, hstate⟩ := @heading_read printer _ hschema hmeta
  have hloop : recordValidations [] (validations manifest) = .ok (validations manifest) := by
    refine recordValidations_ok ?_ (fun _ _ v hv => absurd hv List.not_mem_nil) ?_
    · unfold validations
      rw [List.map_map]
      exact hnodup
    · intro record hrecord
      obtain ⟨artifact, hmem, rfl⟩ := List.mem_map.mp hrecord
      exact ⟨(hrecords artifact hmem).1, (validateArtifact_ok.mp (hrecords artifact hmem).2).1⟩
  have hfields : (["schema_version", "run_id", "terminal_status", "artifacts",
      "incomplete_paths"].all fun name =>
        (PyValue.field (document (manifestFields printer manifest)) name).isSome) = true := by
    simp [manifestFields, field_document_cons]
  have hpaths : manifest.incompletePaths.all isManifestRelativePath = true :=
    List.all_eq_true.mpr fun path hpath => (hrelative path hpath).1
  unfold manifestStatus
  rw [hfields, Bool.true_and, accept_bind hversion, accept_bind hrun, accept_bind hstate]
  simp only [manifestFields, readField_cons, String.reduceEq, if_true, if_false, ok_bind,
    asList_value, validations_read hartifacts hw, hloop, incomplete_read hincomplete]
  rw [hpaths, decide_eq_true hunique, Bool.true_and, Bool.true_and,
    accept_bind (incomplete_validations hartifacts hincomplete)]
  rfl

end Published

/-- What is read of a file whose bytes decode to an object. -/
theorem readProtocolDocument_some {loads : List UInt8 → Except String PyValue}
    {content : List UInt8} {items : List (PyKey × PyValue)}
    {found : Option (List (PyKey × PyValue))}
    (h : readProtocolDocument loads (some content) = .ok found)
    (hloads : loads content = .ok (.mapping true items)) : found = some items := by
  have hread : (if content.length ≤ maxBytes then _ else _) = Except.ok found := h
  split at hread
  · rw [hloads] at hread
    exact (Except.ok.inj hread).symm
  · cases hread

/-! ## 4. Agreement -/

/-- **The writer of a manifest and its two readers agree**, where the run id is canonical, the
    bytes are not too many, the run directory confirms the valid records, and the offset of the
    timestamps is the same at both ends of the run. -/
theorem readers_agree (r : RunReader) (printer : ManifestPrinter)
    (existing : Option (List UInt8)) (manifest : RunManifest) (payload : List UInt8)
    (started ended : DateTime)
    (hpublished : writeManifestAtomic printer existing manifest = .ok payload)
    (hloads : r.loads payload = .ok (manifest.toDict printer).value)
    (hstarted : ReadsBack printer r.fromisoformat manifest.wallTiming.startedAt started)
    (hended : ReadsBack printer r.fromisoformat manifest.wallTiming.endedAt ended)
    (hread : FixedOffset started ended)
    (hrun : isCanonicalUuid (textString manifest.runId) = true)
    (hbounded : payload.length ≤ maxBytes)
    (hwritten : FixedOffset manifest.wallTiming.startedAt manifest.wallTiming.endedAt)
    (hconfirms : ∀ artifact ∈ manifest.artifacts,
      artifact.validation = ValidationStatus.valid.text → r.confirms artifact = true) :
    r.validatedManifestResult (textString manifest.runId) (some payload) =
        .ok (some ⟨manifest.runId, manifest.terminalStatus, manifest.reason⟩) ∧
      readManifestStatus r.loads (textString manifest.runId) (some payload) =
        .ok ⟨manifest.incompletePaths.isEmpty,
          manifest.incompletePaths.insertionSort (· ≤ ·)⟩ := by
  obtain ⟨hvalid, hw⟩ := published_writable hpublished
  have hdocument : readProtocolDocument r.loads (some payload) =
      .ok (some (document (manifestFields printer manifest))) := by
    show (if payload.length ≤ maxBytes then _ else _) = _
    rw [if_pos hbounded, hloads, value_toDict]
  constructor
  · unfold RunReader.validatedManifestResult
    rw [accept_bind hrun, hdocument, ok_bind]
    show (r.manifestResult _ _).map some = _
    rw [manifestResult_published r hvalid hw hstarted hended hwritten hread hconfirms]
    rfl
  · unfold readManifestStatus
    rw [hdocument, ok_bind]
    exact manifestStatus_published hvalid hw

/-! ## 5. Two manifests of one run -/

/-- The beginning of 1970, UTC. -/
def firstInstant : DateTime := ⟨0, some 0, some 0, DateTime.aware_zero⟩

/-- The texts of that instant and of a duration of zero. -/
def instantPrinter : ManifestPrinter :=
  ⟨⟨fun _ => ofString "0.0", fun _ => encodable_ofString _⟩,
    fun _ => ofString "1970-01-01T00:00:00+00:00", fun _ => encodable_ofString _⟩

/-- An aborted run of which every required path is missing, and an optional record. -/
def abortedManifest (extra : List ArtifactRecord) : RunManifest where
  runId := ofString "11111111-1111-4111-8111-111111111111"
  terminalStatus := ofString "ABORTED"
  reason := ofString "operator abort"
  simulationTiming := ⟨none, none, none⟩
  wallTiming := ⟨firstInstant, firstInstant, .float 0⟩
  sourceRevisions := []
  imageDigests := []
  configurations := []
  artifacts := requiredArtifactPaths.map (fun path =>
    ⟨path, none, none, ValidationStatus.missing.text, ofString "path is missing"⟩) ++ extra
  incompletePaths := requiredArtifactPaths
  achievedScore := none
  maximumAvailableScore := none
  scoringChecksum := none
  evidencePaths := []
  schemaVersion := 1

/-- A reader of the document of a manifest in a run directory where nothing is. -/
def emptyReader (manifest : RunManifest) : RunReader where
  loads := fun _ => .ok (manifest.toDict instantPrinter).value
  fromisoformat := fun _ => some firstInstant
  isDir := fun _ => false
  validateTree := fun _ => .missing (ofString "path is missing")
  validateRegularFile := fun _ => .missing (ofString "path is missing")

theorem abortedManifest_writable {extra : List ArtifactRecord}
    (h : ∀ artifact ∈ extra, encodable artifact.relativePath = true ∧
      artifact.sizeBytes.all printable = true ∧ encodable artifact.detail = true) :
    Writable (abortedManifest extra) := by
  refine ⟨encodable_ofString _, encodable_ofString _, rfl, rfl, ?_, ?_, ?_, ?_, ?_⟩
  · exact fun _ hmem => (by cases hmem)
  · exact fun _ hmem => (by cases hmem)
  · exact fun _ hmem => (by cases hmem)
  · refine List.forall_mem_append.mpr ⟨fun artifact hmem => ?_, h⟩
    obtain ⟨path, hpath, rfl⟩ := List.mem_map.mp hmem
    obtain ⟨name, -, rfl⟩ := List.mem_map.mp hpath
    exact ⟨encodable_ofString _, rfl, encodable_ofString _⟩
  · exact fun _ hmem => (by cases hmem)

/-- The bytes of a manifest, where it has some. -/
def bytesOf (manifest : RunManifest) : List UInt8 :=
  match writeManifestAtomic instantPrinter none manifest with
  | .ok payload => payload
  | .error _ => []

theorem bytesOf_written (hvalid : validateManifest manifest = .ok ()) (hw : Writable manifest) :
    writeManifestAtomic instantPrinter none manifest = .ok (bytesOf manifest) := by
  obtain ⟨payload, hpayload⟩ := (writeManifestAtomic_isOk instantPrinter hvalid).mpr hw
  unfold bytesOf
  rw [hpayload]

theorem instant_readsBack :
    ReadsBack instantPrinter (fun _ => some firstInstant) firstInstant firstInstant :=
  ⟨rfl, rfl, rfl⟩

/-- The checksum of the notes. -/
def notesDigest : Digest := ⟨List.replicate 64 (codePoint '0'), by decide +kernel⟩

/-- The record of a file that is not required. -/
def notes : ArtifactRecord :=
  ⟨ofString "notes.partial", some 0, some notesDigest, ValidationStatus.valid.text,
    ofString "valid regular file"⟩

/-- A reader of the document of a manifest in a run directory where the notes are. -/
def notesReader (manifest : RunManifest) : RunReader where
  loads := fun _ => .ok (manifest.toDict instantPrinter).value
  fromisoformat := fun _ => some firstInstant
  isDir := fun _ => false
  validateTree := fun _ => .missing (ofString "path is missing")
  validateRegularFile := fun path =>
    if path = notes.relativePath then .valid 0 notesDigest notes.detail
    else .missing (ofString "path is missing")

theorem notes_valid : ∃ u, validateManifest (abortedManifest [notes]) = .ok u := by
  refine exists_of_isOk ?_
  -- a literal is read character by character before the kernel computes with it
  unfold validateManifest validateIncomplete expectedIncomplete abortedManifest
    requiredArtifactPaths
  simp only [List.map_cons, List.map_nil]
  repeat rw [ofString_ofList]
  decide +kernel

theorem notes_writable : Writable (abortedManifest [notes]) := by
  refine abortedManifest_writable fun artifact hmem => ?_
  rw [List.mem_singleton.mp hmem]
  exact ⟨encodable_ofString _, by decide +kernel, encodable_ofString _⟩

/-- Both readers agree on the manifest whose notes the run directory confirms. -/
theorem readers_agree_aborted :
    (notesReader (abortedManifest [notes])).validatedManifestResult
          (textString (abortedManifest [notes]).runId) (some (bytesOf (abortedManifest [notes]))) =
        .ok (some ⟨ofString "11111111-1111-4111-8111-111111111111", ofString "ABORTED",
          ofString "operator abort"⟩) ∧
      readManifestStatus (notesReader (abortedManifest [notes])).loads
          (textString (abortedManifest [notes]).runId) (some (bytesOf (abortedManifest [notes]))) =
        .ok ⟨requiredArtifactPaths.isEmpty, requiredArtifactPaths.insertionSort (· ≤ ·)⟩ := by
  obtain ⟨_, hvalid⟩ := notes_valid
  have hwritten := bytesOf_written hvalid notes_writable
  refine readers_agree (notesReader (abortedManifest [notes])) instantPrinter none
    (abortedManifest [notes]) (bytesOf (abortedManifest [notes])) firstInstant firstInstant hwritten
    rfl instant_readsBack instant_readsBack (fun _ => rfl) (by decide +kernel) (by decide +kernel)
    (fun _ => rfl) ?_
  intro artifact hmem hstatus
  rcases List.mem_append.mp hmem with hmissing | hnotes
  · obtain ⟨path, -, rfl⟩ := List.mem_map.mp hmissing
    exact absurd (show ValidationStatus.missing.text = ValidationStatus.valid.text from hstatus)
      (by decide)
  · rw [List.mem_singleton.mp hnotes]
    decide +kernel

/-- **A manifest is published whose valid record the run directory does not confirm, and the first
    reader refuses it.** -/
theorem unconfirmed_refused :
    (∃ payload, writeManifestAtomic instantPrinter none (abortedManifest [notes]) =
        .ok payload) ∧
      ∀ payload result, (emptyReader (abortedManifest [notes])).validatedManifestResult
        (textString (abortedManifest [notes]).runId) (some payload) ≠ .ok result := by
  obtain ⟨_, hvalid⟩ := notes_valid
  refine ⟨(writeManifestAtomic_isOk instantPrinter hvalid).mpr notes_writable,
    fun payload result h => ?_⟩
  unfold RunReader.validatedManifestResult at h
  rw [seq_ok] at h
  obtain ⟨found, hfound, h⟩ := bind_ok h.2
  rw [readProtocolDocument_some hfound (congrArg Except.ok (value_toDict instantPrinter _))] at h
  obtain ⟨result', hresult, -⟩ := map_ok h
  exact manifestResult_unconfirmed _ hvalid notes_writable instant_readsBack instant_readsBack
    (List.mem_append_right _ List.mem_cons_self) rfl (by decide +kernel) result' hresult

end DroneSim
