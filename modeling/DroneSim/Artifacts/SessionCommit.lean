/-
  File:      DroneSim/Artifacts/SessionCommit.lean
  Subject:   When a finalization commits, and what it commits.

  The required paths never stand in the way (`builtManifest_incomplete`). A path of the optional
  inventory comes from the file system as it is, and the manifest refuses one with a backslash,
  the encoder one that is no UTF-8: `finalizeWithResult_isOk` says exactly when a manifest is
  committed, `finalize_commits_honest` that it is honest then.
-/
import DroneSim.Artifacts.SessionRecords

namespace DroneSim

open Library

/-! ## 1. Honest manifests -/

/-- **What a committed manifest says of the session.** -/
structure Honest (s : ArtifactSession) (request : FinalizationInput) (manifest : RunManifest) :
    Prop where
  incomplete : manifest.incompletePaths =
    requiredArtifactPaths.filter fun path => !s.validBetweenChecks path
  status : manifest.terminalStatus =
    if request.requestedTerminal = completedStatus ∧ manifest.incompletePaths ≠ [] then failedStatus
    else request.requestedTerminal
  required : ∀ path ∈ requiredArtifactPaths,
    (manifest.artifacts.map (·.relativePath)).count path = 1
  optional : ∃ paths, manifest.artifacts.map (·.relativePath) = requiredArtifactPaths ++ paths ∧
    paths.Nodup ∧ ∀ path ∈ paths, path ∉ requiredArtifactPaths

/-- The request's own fields satisfy the clauses of `validate_manifest`. -/
def RequestValid (request : FinalizationInput) : Prop :=
  MetadataValid (request.manifest request.requestedTerminal [] [])

/-- What a validator may say: a detail that can be written, and a size that can be printed. -/
structure ValidationResult.Reportable (result : ValidationResult) : Prop where
  detailed : result.detail ≠ []
  encodes : encodable result.detail = true
  prints : result.sizeBytes.all printable = true

/-- A name that a manifest can carry. -/
def Portable (name : FileName) : Prop := backslash ∉ name.name ∧ encodable name.name = true

/-- **What has to hold of the inputs.** -/
structure Committable (s : ArtifactSession) (request : FinalizationInput) : Prop where
  request : Writable (request.manifest request.requestedTerminal [] [])
  required : ∀ path ∈ requiredArtifactPaths.takeWhile s.completes, ∀ result,
    s.validators path = .ok result → result.Reportable
  optional : ∀ path, s.Inspected path → (∀ name ∈ path, Portable name) ∧
    ∀ result, s.validateRegularFile (joinPath path) = .ok result → result.Reportable

/-! ## 2. The required inventory is always consistent -/

theorem requiredArtifactPaths_nodup : requiredArtifactPaths.Nodup := by
  unfold requiredArtifactPaths
  simp only [List.map_cons, List.map_nil]
  repeat rw [ofString_ofList]
  decide

theorem requiredArtifactPaths_relative :
    ∀ path ∈ requiredArtifactPaths, isManifestRelativePath path = true := by
  unfold requiredArtifactPaths
  simp only [List.map_cons, List.map_nil]
  repeat rw [ofString_ofList]
  decide

theorem completedStatus_ne : failedStatus ≠ completedStatus := by
  unfold failedStatus completedStatus
  repeat rw [ofString_ofList]
  decide

/-- Where no path comes twice, looking the records up by path gives the records in order. -/
theorem filter_records {records : List ArtifactRecord} (rest : List ArtifactRecord)
    (hnodup : (records.map (·.relativePath)).Nodup) :
    (records.map (·.relativePath)).filter (fun path =>
        ((records ++ rest).find? fun artifact => artifact.relativePath = path).any fun artifact =>
          decide (artifact.validation ≠ ValidationStatus.valid.text)) =
      ArtifactSession.incompletePaths records := by
  induction records with
  | nil => rfl
  | cons first others ih =>
    rw [List.map_cons, List.nodup_cons] at hnodup
    have htail : ∀ path ∈ others.map (·.relativePath),
        ((first :: others ++ rest).find? fun artifact => artifact.relativePath = path) =
          (others ++ rest).find? fun artifact => artifact.relativePath = path := by
      intro path hpath
      have hne : first.relativePath ≠ path := fun e => hnodup.1 (e ▸ hpath)
      rw [List.cons_append, List.find?_cons_of_neg (by simpa using hne)]
    have hhead : ((first :: others ++ rest).find? fun artifact =>
        artifact.relativePath = first.relativePath) = some first := by
      rw [List.cons_append, List.find?_cons_of_pos (by simp)]
    have hothers : (others.map (·.relativePath)).filter (fun path =>
        ((first :: others ++ rest).find? fun artifact => artifact.relativePath = path).any
          fun artifact => decide (artifact.validation ≠ ValidationStatus.valid.text)) =
        ArtifactSession.incompletePaths others := by
      rw [← ih hnodup.2]
      exact List.filter_congr fun path hpath => by rw [htail path hpath]
    rw [List.map_cons, List.filter_cons, hhead, hothers, Option.any_some]
    unfold ArtifactSession.incompletePaths
    rw [List.filter_cons]
    split
    · rw [List.map_cons]
    · rfl

namespace ArtifactSession

variable {s : ArtifactSession} {request : FinalizationInput}

theorem requiredRecords_required :
    (s.requiredRecords false requiredArtifactPaths).map (·.relativePath) = requiredArtifactPaths :=
  requiredRecords_paths false requiredArtifactPaths

/-- **The incomplete paths are the required ones that were not seen valid.** -/
theorem builtManifest_incompletePaths : (s.builtManifest request).incompletePaths =
    requiredArtifactPaths.filter fun path => !s.validBetweenChecks path :=
  incompletePaths_records requiredArtifactPaths_nodup

theorem builtManifest_paths : (s.builtManifest request).artifacts.map (·.relativePath) =
    requiredArtifactPaths ++ s.optionalRecords.map (·.relativePath) := by
  show (s.requiredRecords false requiredArtifactPaths ++ s.optionalRecords).map _ = _
  rw [List.map_append, requiredRecords_required]

/-- **The checks of the incomplete paths never fail.** -/
theorem builtManifest_incomplete : validateIncomplete (s.builtManifest request) = .ok () := by
  have hincomplete : (s.builtManifest request).incompletePaths = _ :=
    builtManifest_incompletePaths
  unfold validateIncomplete
  simp only [seq_ok, require_ok, decide_eq_true_eq]
  refine ⟨?_, ?_, ?_, ?_, ?_⟩
  · rw [hincomplete]
    exact requiredArtifactPaths_nodup.filter _
  · rw [hincomplete, List.all_eq_true]
    intro path hpath
    have hrequired := (List.mem_filter.mp hpath).1
    rw [requiredArtifactPaths_relative path hrequired, List.contains_eq_mem,
      decide_eq_true hrequired]
    rfl
  · rw [List.all_eq_true]
    intro path hpath
    have hmem : path ∈ (s.builtManifest request).artifacts.map (·.relativePath) := by
      rw [builtManifest_paths]
      exact List.mem_append_left _ hpath
    obtain ⟨artifact, hartifact, heq⟩ := List.mem_map.mp hmem
    exact List.any_eq_true.mpr ⟨artifact, hartifact, decide_eq_true heq⟩
  · have hnodup : ((s.requiredRecords false requiredArtifactPaths).map (·.relativePath)).Nodup := by
      rw [requiredRecords_required]
      exact requiredArtifactPaths_nodup
    have hfilter := filter_records s.optionalRecords hnodup
    rw [requiredRecords_required] at hfilter
    exact hfilter.symm
  · show (!(decide (request.effectiveTerminal _ = completedStatus) && _)) = true
    unfold FinalizationInput.effectiveTerminal
    split
    · rw [decide_eq_false completedStatus_ne]
      rfl
    · rename_i hnot
      rw [Bool.not_eq_true', Bool.and_eq_false_iff, decide_eq_false_iff_not,
        decide_eq_false_iff_not]
      exact not_and_or.mp hnot

/-! ## 3. When the manifest is accepted -/

/-- A record is accepted when its validator gave a detail. -/
theorem validateArtifact_record {path : PyText} {result : ValidationResult} :
    validateArtifact (artifactRecord path result) = .ok () ↔ result.detail ≠ [] := by
  have hmeasured : Measured (artifactRecord path result) := by
    unfold Measured
    cases result with
    | valid size digest detail =>
      have hvalid : (artifactRecord path (.valid size digest detail)).validation =
          ValidationStatus.valid.text := text_valid.mpr rfl
      rw [if_pos hvalid]
      exact ⟨decide_eq_true (Int.natCast_nonneg size), digest.property⟩
    | missing detail =>
      have hmissing : ¬ (artifactRecord path (.missing detail)).validation =
          ValidationStatus.valid.text := fun h => ValidationStatus.noConfusion (text_valid.mp h)
      rw [if_neg hmissing]
      exact ⟨rfl, rfl⟩
    | invalid detail =>
      have hinvalid : ¬ (artifactRecord path (.invalid detail)).validation =
          ValidationStatus.valid.text := fun h => ValidationStatus.noConfusion (text_valid.mp h)
      rw [if_neg hinvalid]
      exact ⟨rfl, rfl⟩
  rw [validateArtifact_ok]
  exact ⟨fun h => h.2.1, fun h => ⟨⟨result.status, rfl⟩, h, hmeasured⟩⟩

/-- A path of names is portable unless a name has a backslash. -/
theorem isManifestRelativePath_joinPath {path : List FileName} (hne : path ≠ []) :
    isManifestRelativePath (joinPath path) = true ↔ ∀ name ∈ path, backslash ∉ name.name := by
  have hparts : (pathParts (joinPath path)).contains dotDot = false := by
    rw [pathParts_joinPath hne, List.contains_eq_mem]
    refine decide_eq_false fun h => ?_
    obtain ⟨name, -, hname⟩ := List.mem_map.mp h
    exact name.proper.2 hname
  have hsome : pathParts (joinPath path) ≠ [] := by
    rw [pathParts_joinPath hne]
    simpa using hne
  unfold isManifestRelativePath
  rw [joinPath_relative hne, hparts, decide_eq_true (joinPath_nonempty hne), decide_eq_true hsome]
  simp only [Bool.true_and, Bool.not_false, Bool.and_true, Bool.not_eq_true',
    List.contains_eq_mem, decide_eq_false_iff_not]
  rw [mem_joinPath (by decide)]
  simp

/-- What the manifest asks of one record. -/
def Acceptable (record : ArtifactRecord) : Prop :=
  isManifestRelativePath record.relativePath = true ∧ validateArtifact record = .ok ()

theorem validateArtifacts_built :
    validateArtifacts (s.builtManifest request).artifacts = .ok () ↔
      (∀ record ∈ s.requiredRecords false requiredArtifactPaths, Acceptable record) ∧
        ∀ record ∈ s.optionalRecords, Acceptable record := by
  obtain ⟨hnodup, hother⟩ := optionalRecords_paths (s := s)
  have hpaths : ((s.builtManifest request).artifacts.map (·.relativePath)).Nodup := by
    rw [builtManifest_paths]
    exact List.nodup_append'.mpr ⟨requiredArtifactPaths_nodup, hnodup,
      fun p hp hp' => hother p hp' hp⟩
  unfold validateArtifacts
  rw [eachUnique_ok]
  simp only [hpaths, true_and, requireRelativePath, require_ok]
  exact List.forall_mem_append

/-- The metadata of the built manifest is that of the request. -/
theorem metadata_built (h : RequestValid request) : MetadataValid (s.builtManifest request) := by
  refine ⟨h.runId, ?_, h.timing, h.achieved, h.available, h.checksum, h.sources, h.images,
    h.configurations, h.evidence⟩
  show request.effectiveTerminal _ ∈ terminalStatuses
  unfold FinalizationInput.effectiveTerminal
  split
  · exact List.mem_map.mpr ⟨"FAILED", by simp, rfl⟩
  · exact h.terminalStatus

theorem validateManifest_built (h : RequestValid request) :
    validateManifest (s.builtManifest request) = .ok () ↔
      (∀ record ∈ s.requiredRecords false requiredArtifactPaths, Acceptable record) ∧
        ∀ record ∈ s.optionalRecords, Acceptable record := by
  rw [validateManifest_ok, validateArtifacts_built]
  exact ⟨fun hvalid => hvalid.2.2.1,
    fun hvalid => ⟨rfl, metadata_built h, hvalid, builtManifest_incomplete⟩⟩

/-! ## 4. When it is written -/

/-- What the encoder asks of one record. -/
def Encodes (record : ArtifactRecord) : Prop :=
  encodable record.relativePath = true ∧ record.sizeBytes.all printable = true ∧
    encodable record.detail = true

theorem writable_built : Writable (s.builtManifest request) ↔
    Writable (request.manifest request.requestedTerminal [] []) ∧
      (∀ record ∈ s.requiredRecords false requiredArtifactPaths, Encodes record) ∧
        ∀ record ∈ s.optionalRecords, Encodes record := by
  constructor
  · intro h
    refine ⟨⟨h.runId, h.reason, h.startNs, h.endNs, h.sources, h.images, h.configurations,
      fun artifact hmem => (by cases hmem), h.evidence⟩, ?_⟩
    exact List.forall_mem_append.mp h.artifacts
  · rintro ⟨h, hartifacts⟩
    exact ⟨h.runId, h.reason, h.startNs, h.endNs, h.sources, h.images, h.configurations,
      List.forall_mem_append.mpr hartifacts, h.evidence⟩

/-- Both demands on one record. -/
theorem acceptable_and_encodes {path : PyText} {result : ValidationResult} :
    Acceptable (artifactRecord path result) ∧ Encodes (artifactRecord path result) ↔
      (isManifestRelativePath path = true ∧ encodable path = true) ∧ result.Reportable := by
  unfold Acceptable Encodes
  rw [validateArtifact_record]
  constructor
  · rintro ⟨⟨hrelative, hdetail⟩, hpath, hsize, hencodes⟩
    exact ⟨⟨hrelative, hpath⟩, hdetail, hencodes, hsize⟩
  · rintro ⟨⟨hrelative, hpath⟩, hreport⟩
    exact ⟨⟨hrelative, hreport.detailed⟩, hpath, hreport.prints, hreport.encodes⟩

theorem required_encodable {path : PyText} (h : path ∈ requiredArtifactPaths) :
    encodable path = true := by
  obtain ⟨name, -, rfl⟩ := List.mem_map.mp h
  exact encodable_ofString name

/-- What the records made after a timeout say can be written. -/
theorem exhausted_reportable (message : String) (hne : ofString message ≠ []) :
    (ValidationResult.invalid (ofString message)).Reportable :=
  ⟨hne, encodable_ofString message, rfl⟩

/-- **The records of the required paths**: only what the validators report matters. -/
theorem required_committable :
    (∀ record ∈ s.requiredRecords false requiredArtifactPaths,
        Acceptable record ∧ Encodes record) ↔
      ∀ path ∈ requiredArtifactPaths.takeWhile s.completes, ∀ result,
        s.validators path = .ok result → result.Reportable := by
  have hrecord (path : PyText) (result : ValidationResult) (hpath : path ∈ requiredArtifactPaths) :
      Acceptable (artifactRecord path result) ∧ Encodes (artifactRecord path result) ↔
        result.Reportable := by
    rw [acceptable_and_encodes]
    exact ⟨fun h => h.2, fun h => ⟨⟨requiredArtifactPaths_relative path hpath,
      required_encodable hpath⟩, h⟩⟩
  have hrequired : ∀ record ∈ s.requiredRecords false requiredArtifactPaths,
      record.relativePath ∈ requiredArtifactPaths := by
    intro record hmem
    have hpath : record.relativePath ∈
        (s.requiredRecords false requiredArtifactPaths).map (·.relativePath) :=
      List.mem_map_of_mem hmem
    rwa [requiredRecords_required] at hpath
  have hall := forall_requiredRecords (s := s)
    (P := fun record => record.relativePath ∈ requiredArtifactPaths →
      Acceptable record ∧ Encodes record)
    (fun path hpath => (hrecord path _ hpath).mpr (exhausted_reportable _ (by simp [ofString])))
    (fun path hpath => (hrecord path _ hpath).mpr (exhausted_reportable _ (by simp [ofString])))
    requiredArtifactPaths
  constructor
  · intro h path hpath result hresult
    have hmem := (List.takeWhile_sublist _).subset hpath
    exact (hrecord path result hmem).mp
      (hall.mp (fun record hmem _ => h record hmem) path hpath result hresult hmem)
  · intro h record hmem
    refine hall.mpr (fun path hpath result hresult hrelative => ?_) record hmem (hrequired record hmem)
    exact (hrecord path result hrelative).mpr (h path hpath result hresult)

/-- **The optional records**: the names and what is reported. -/
theorem optional_committable :
    (∀ record ∈ s.optionalRecords, Acceptable record ∧ Encodes record) ↔
      ∀ path, s.Inspected path → (∀ name ∈ path, Portable name) ∧
        ∀ result, s.validateRegularFile (joinPath path) = .ok result → result.Reportable := by
  rw [forall_optionalRecords]
  refine forall_congr' fun path => forall_congr' fun hpath => ?_
  have hne := hpath.discovered.ne_nil
  have hnames : isManifestRelativePath (joinPath path) = true ∧ encodable (joinPath path) = true ↔
      ∀ name ∈ path, Portable name := by
    rw [isManifestRelativePath_joinPath hne, encodable_joinPath, List.all_eq_true]
    exact ⟨fun h name hname => ⟨h.1 name hname, h.2 name hname⟩,
      fun h => ⟨fun name hname => (h name hname).1, fun name hname => (h name hname).2⟩⟩
  -- the file was answered for, so there is a report
  have hanswers := hpath.reached path hpath.discovered (le_refl _)
  unfold answers at hanswers
  rw [Bool.and_eq_true] at hanswers
  obtain ⟨result, hresult⟩ := exists_of_isOk hanswers.2
  simp only [acceptable_and_encodes, hnames]
  constructor
  · intro h
    exact ⟨(h result hresult).1, fun other hother => (h other hother).2⟩
  · rintro ⟨hportable, h⟩ other hother
    exact ⟨hportable, h other hother⟩

theorem finalizeWithResult_ok {printer : ManifestPrinter} {done : Finalized} :
    s.finalizeWithResult printer request = .ok done ↔
      validateManifest (s.builtManifest request) = .ok () ∧ done.manifest = s.builtManifest request ∧
        writeManifestAtomic printer s.runDirectory.manifest (s.builtManifest request) =
          .ok done.content := by
  unfold finalizeWithResult
  rw [seq_ok]
  constructor
  · rintro ⟨hvalid, h⟩
    obtain ⟨content, hcontent, h⟩ := bind_ok h
    cases h
    exact ⟨hvalid, rfl, hcontent⟩
  · rintro ⟨hvalid, hdone, hcontent⟩
    refine ⟨hvalid, ?_⟩
    rw [hcontent, ← hdone]
    rfl

variable (s request) in
/-- **A manifest is committed exactly when the inputs allow it.** -/
theorem finalizeWithResult_isOk (printer : ManifestPrinter)
    (hmanifest : s.runDirectory.manifest = none) (h : RequestValid request) :
    (∃ done, s.finalizeWithResult printer request = .ok done) ↔ Committable s request := by
  have hcommit : Committable s request ↔
      Writable (request.manifest request.requestedTerminal [] []) ∧
        (∀ record ∈ s.requiredRecords false requiredArtifactPaths,
          Acceptable record ∧ Encodes record) ∧
          ∀ record ∈ s.optionalRecords, Acceptable record ∧ Encodes record := by
    rw [required_committable, optional_committable]
    exact ⟨fun h => ⟨h.request, h.required, h.optional⟩, fun h => ⟨h.1, h.2.1, h.2.2⟩⟩
  have hvalid := validateManifest_built (s := s) h
  have hwritable : Writable (s.builtManifest request) ↔ _ := writable_built
  rw [hcommit]
  constructor
  · rintro ⟨done, hdone⟩
    obtain ⟨haccepted, -, hwritten⟩ := finalizeWithResult_ok.mp hdone
    rw [hmanifest] at hwritten
    obtain ⟨hmeta, hrequired, hoptional⟩ :=
      hwritable.mp ((writeManifestAtomic_isOk printer haccepted).mp ⟨_, hwritten⟩)
    obtain ⟨hrequired', hoptional'⟩ := hvalid.mp haccepted
    exact ⟨hmeta, fun record hmem => ⟨hrequired' record hmem, hrequired record hmem⟩,
      fun record hmem => ⟨hoptional' record hmem, hoptional record hmem⟩⟩
  · rintro ⟨hmeta, hrequired, hoptional⟩
    have haccepted := hvalid.mpr ⟨fun record hmem => (hrequired record hmem).1,
      fun record hmem => (hoptional record hmem).1⟩
    have hwrites := hwritable.mpr ⟨hmeta, fun record hmem => (hrequired record hmem).2,
      fun record hmem => (hoptional record hmem).2⟩
    obtain ⟨content, hcontent⟩ := (writeManifestAtomic_isOk printer haccepted).mpr hwrites
    refine ⟨⟨s.builtManifest request, content⟩, finalizeWithResult_ok.mpr ⟨haccepted, rfl, ?_⟩⟩
    rw [hmanifest]
    exact hcontent

/-! ## 5. What is committed -/

/-- **The built manifest is honest**, whether it is committed or not. -/
theorem builtManifest_honest : Honest s request (s.builtManifest request) := by
  have hpaths : (s.builtManifest request).artifacts.map _ = _ := builtManifest_paths
  obtain ⟨hnodup, hother⟩ := optionalRecords_paths (s := s)
  refine ⟨builtManifest_incompletePaths, rfl, fun path hpath => ?_, _, hpaths, hnodup, hother⟩
  have hoptional : (s.optionalRecords.map (·.relativePath)).count path = 0 :=
    List.count_eq_zero.mpr fun h => hother path h hpath
  rw [hpaths, List.count_append, hoptional,
    List.count_eq_one_of_mem requiredArtifactPaths_nodup hpath]

/-- The bytes of a committed manifest are its canonical bytes. -/
theorem written_canonical {printer : ManifestPrinter} {manifest : RunManifest}
    {content : List UInt8} (h : writeManifestAtomic printer none manifest = .ok content) :
    canonicalManifestBytes printer manifest = .ok content := by
  unfold writeManifestAtomic at h
  obtain ⟨payload, hpayload, h⟩ := bind_ok h
  cases h
  exact hpayload

/-- **A finalization commits an honest manifest exactly when every file that its inventory gets to
    has a portable name, every validator that is listened to reports a detail that can be written,
    and so can the texts of the request.** -/
theorem finalize_commits_honest (s : ArtifactSession) (printer : ManifestPrinter)
    (request : FinalizationInput) (hmanifest : s.runDirectory.manifest = none)
    (hrequest : RequestValid request) :
    (∃ done, s.finalizeWithResult printer request = .ok done ∧
        canonicalManifestBytes printer done.manifest = .ok done.content ∧
        Honest s request done.manifest) ↔
      Committable s request := by
  rw [← finalizeWithResult_isOk s request printer hmanifest hrequest]
  constructor
  · rintro ⟨done, hdone, -, -⟩
    exact ⟨done, hdone⟩
  · rintro ⟨done, hdone⟩
    obtain ⟨-, hbuilt, hwritten⟩ := finalizeWithResult_ok.mp hdone
    rw [hmanifest] at hwritten
    refine ⟨done, hdone, ?_⟩
    rw [hbuilt]
    exact ⟨written_canonical hwritten, builtManifest_honest⟩

/-! ## 6. One request, with and without a stray file -/

/-- The beginning of 1970, UTC. -/
def epoch : DateTime := ⟨0, some 0, some 0, DateTime.aware_zero⟩

/-- The texts of the epoch and of a duration of zero. -/
def epochPrinter : ManifestPrinter :=
  ⟨⟨fun _ => ofString "0.0", fun _ => encodable_ofString _⟩,
    fun _ => ofString "1970-01-01T00:00:00+00:00", fun _ => encodable_ofString _⟩

def abortRequest : FinalizationInput where
  runId := ofString "11111111-1111-4111-8111-111111111111"
  requestedTerminal := ofString "ABORTED"
  reason := ofString "operator abort"
  simStartNs := none
  simEndNs := none
  wallStartedAt := epoch
  wallEndedAt := epoch
  sourceRevisions := []
  imageDigests := []
  configurationRecords := []
  achievedScore := none
  maximumAvailableScore := none
  scoringChecksum := none
  evidencePaths := []

/-- A run directory with these entries and without links. -/
def plainDirectory (entries : List (FileName × FileNode)) : RunDirectory where
  entries := entries
  leads := FileNode.lookup entries
  manifest := none
  plain := fun _ _ h _ => h

/-- A session without a deadline in which every path is missing. -/
def plainSession (entries : List (FileName × FileNode)) : ArtifactSession where
  runDirectory := plainDirectory entries
  passes := fun _ => true
  validators := fun _ => .ok (.missing (ofString "path is missing"))
  validateRegularFile := fun _ => .ok (.missing (ofString "path is missing"))

/-- `a\b`. -/
def strayName : FileName := ⟨ofString "a\\b", by decide, by decide, by decide⟩

/-- `sim.log`. -/
def logName : FileName := ⟨ofString "sim.log", by decide, by decide, by decide⟩

/-- Folders in one another, with one file in the last. -/
def fileBelow (folders : List FileName) (name : FileName) : List (FileName × FileNode) :=
  folders.foldr (fun folder inner => [(folder, .folder inner)]) [(name, .file)]

/-- The names on the way to the file are all there are. -/
theorem at_fileBelow {folders path : List FileName} {name : FileName} {node : FileNode}
    (h : FileNode.At (fileBelow folders name) path node) :
    ∀ other ∈ path, other ∈ folders ∨ other = name := by
  induction folders generalizing path with
  | nil =>
    cases h with
    | here hmem => simp_all [fileBelow]
    | inside hmem hinside => simp [fileBelow] at hmem
  | cons folder folders ih =>
    cases h with
    | here hmem =>
      obtain ⟨rfl, -⟩ := Prod.mk.inj (List.mem_singleton.mp hmem)
      simp
    | inside hmem hinside =>
      obtain ⟨rfl, hinner⟩ := Prod.mk.inj (List.mem_singleton.mp hmem)
      obtain rfl := FileNode.folder.inj hinner
      intro other hother
      rcases List.mem_cons.mp hother with rfl | hother
      · simp
      · exact (ih hinside other hother).imp_left (List.mem_cons_of_mem _)

theorem abortRequest_valid : RequestValid abortRequest := by
  have htiming : (validateTiming abortRequest.simulationTiming abortRequest.wallTiming).isOk =
      true := by decide +kernel
  obtain ⟨_, htiming⟩ := exists_of_isOk htiming
  exact ⟨by decide +kernel, by decide +kernel, htiming, rfl, rfl, rfl, rfl, rfl, rfl, rfl⟩

theorem missing_reportable :
    (ValidationResult.missing (ofString "path is missing")).Reportable :=
  ⟨by simp [ofString, ValidationResult.detail], encodable_ofString _, rfl⟩

/-- What is discovered there is that file. -/
theorem discovered_fileBelow {path : List FileName} {name : FileName}
    (h : Discovered (plainSession (fileBelow dockerLogs name)) path) :
    ∀ other ∈ path, other ∈ dockerLogs ∨ other = name := by
  cases h with
  | autotune h => cases h
  | dockerLog hlogs hat _ =>
    obtain rfl := FileNode.folder.inj (Option.some.inj hlogs)
    have hat : FileNode.At (fileBelow [] name) _ _ := hat
    have hbelow := at_fileBelow hat
    intro other hother
    rcases List.mem_append.mp hother with hlog | hother
    · exact Or.inl hlog
    · exact (hbelow other hother).imp_left (absurd · List.not_mem_nil)
  | unfinished hat _ _ _ _ => exact at_fileBelow hat

/-- One file below `logs/docker`, and the manifest that lists it is committed. -/
theorem finalize_commits_logged :
    Inspected (plainSession (fileBelow dockerLogs logName)) (dockerLogs ++ [logName]) ∧
    ∃ done, (plainSession (fileBelow dockerLogs logName)).finalizeWithResult epochPrinter
        abortRequest = .ok done ∧
      canonicalManifestBytes epochPrinter done.manifest = .ok done.content ∧
      Honest (plainSession (fileBelow dockerLogs logName)) abortRequest done.manifest := by
  have hreports : ∀ result : ValidationResult,
      Except.ok (.missing (ofString "path is missing")) = (.ok result : Except TimeoutExpired _) →
      result.Reportable := by
    rintro result hresult
    cases hresult
    exact missing_reportable
  refine ⟨?_, (finalize_commits_honest (plainSession (fileBelow dockerLogs logName)) epochPrinter
    abortRequest rfl abortRequest_valid).mpr ⟨?_, ?_, ?_⟩⟩
  · exact ⟨.dockerLog (show _ = some (FileNode.folder [(logName, .file)]) by rfl)
      (.here List.mem_cons_self) rfl, fun _ _ => rfl, fun _ _ _ => rfl⟩
  · exact ⟨by decide +kernel, by decide +kernel, rfl, rfl, fun _ h => (by cases h),
      fun _ h => (by cases h), fun _ h => (by cases h), fun _ h => (by cases h),
      fun _ h => (by cases h)⟩
  · exact fun path _ => hreports
  · refine fun path hpath => ⟨fun name hname => ?_, hreports⟩
    have hplain : ∀ other : FileName, other ∈ dockerLogs ∨ other = logName → Portable other := by
      simp only [dockerLogs, List.mem_cons, List.not_mem_nil, or_false]
      rintro other ((rfl | rfl) | rfl)
      · exact ⟨by decide, encodable_ofString _⟩
      · exact ⟨by decide, encodable_ofString _⟩
      · exact ⟨by decide, encodable_ofString _⟩
    exact hplain name (discovered_fileBelow hpath.discovered name hname)

/-- **One file with a backslash in its name below `logs/docker`, and no manifest is committed.** -/
theorem stray_uncommittable :
    RequestValid abortRequest ∧ (plainSession (fileBelow dockerLogs strayName)).runDirectory.manifest = none ∧
      ¬ ∃ done, (plainSession (fileBelow dockerLogs strayName)).finalizeWithResult epochPrinter abortRequest =
        .ok done := by
  refine ⟨abortRequest_valid, rfl, fun h => ?_⟩
  have hcommit := (finalizeWithResult_isOk _ _ epochPrinter rfl abortRequest_valid).mp h
  have hdiscovered : Discovered (plainSession (fileBelow dockerLogs strayName)) (dockerLogs ++ [strayName]) :=
    .dockerLog (show _ = some (FileNode.folder [(strayName, .file)]) by rfl)
      (.here List.mem_cons_self) rfl
  have hinspected : Inspected (plainSession (fileBelow dockerLogs strayName)) (dockerLogs ++ [strayName]) :=
    ⟨hdiscovered, fun _ _ => rfl, fun _ _ _ => rfl⟩
  have hportable := (hcommit.optional _ hinspected).1 strayName (by simp)
  exact hportable.1 (by decide)

end ArtifactSession

end DroneSim
