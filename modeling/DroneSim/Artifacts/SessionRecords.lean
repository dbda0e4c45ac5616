/-
  File:      DroneSim/Artifacts/SessionRecords.lean
  Subject:   Which records a finalization makes.

  * `completes`, `validBetweenChecks` -- what the deadline and a validator do to a required path;
    `incompletePaths_records` and `forall_requiredRecords` say what the records of the required
    paths are;
  * `Discovered`, `ScanPasses`, `Inspected` -- what is in the run directory and which of it the
    inventory gets to; `forall_optionalRecords` says what the optional records are.
-/
import DroneSim.Artifacts.Session
import Mathlib.Data.List.Dedup

namespace DroneSim

open Library

namespace ArtifactSession

variable (s : ArtifactSession)

/-! ## 1. The required paths -/

/-- The deadline holds before and after the validator of the path, which returns. -/
def completes (path : PyText) : Bool :=
  s.passes (.beforeRequired path) && ((s.validators path).isOk && s.passes (.afterRequired path))

/-- The validator of the path returns `VALID`. -/
def returnsValid (path : PyText) : Bool :=
  match s.validators path with
  | .ok result => result.status == .valid
  | .error _ => false

/-- **The validator of the path is called and returns `VALID` between two checks of the deadline
    that pass**: nothing timed out up to there. -/
def validBetweenChecks (path : PyText) : Bool :=
  (requiredArtifactPaths.takeWhile s.completes).contains path && s.returnsValid path

variable {s} {path : List FileName} {P : ArtifactRecord → Prop} {found : List PyText}

theorem checkDeadline_ok {point : CheckPoint} :
    s.checkDeadline point = .ok () ↔ s.passes point = true := by
  unfold checkDeadline
  split
  · rename_i h
    exact ⟨fun _ => h, fun _ => rfl⟩
  · rename_i h
    exact ⟨fun e => (by cases e), fun e => absurd e h⟩

theorem validateRequired_ok {path : PyText} {result : ValidationResult} :
    s.validateRequired path = .ok result ↔
      s.completes path = true ∧ s.validators path = .ok result := by
  unfold validateRequired completes
  rw [seq_ok, checkDeadline_ok, Bool.and_eq_true, Bool.and_eq_true]
  constructor
  · rintro ⟨hbefore, h⟩
    obtain ⟨result', hresult, h⟩ := bind_ok h
    rw [seq_ok, checkDeadline_ok] at h
    cases h.2
    exact ⟨⟨hbefore, isOk_of_eq hresult, h.1⟩, hresult⟩
  · rintro ⟨⟨hbefore, -, hafter⟩, hresult⟩
    refine ⟨hbefore, ?_⟩
    rw [hresult]
    show (s.checkDeadline _ >>= fun _ => _) = _
    rw [seq_ok, checkDeadline_ok]
    exact ⟨hafter, rfl⟩

theorem completes_of_error {path : PyText} {e : TimeoutExpired}
    (h : s.validateRequired path = .error e) : s.completes path = false := by
  rw [Bool.eq_false_iff]
  intro hcompletes
  have hok := hcompletes
  unfold completes at hok
  rw [Bool.and_eq_true, Bool.and_eq_true] at hok
  obtain ⟨result, hresult⟩ := exists_of_isOk hok.2.1
  rw [validateRequired_ok.mpr ⟨hcompletes, hresult⟩] at h
  cases h

/-- **Every required path is recorded once, in order.** -/
theorem requiredRecords_paths (exhausted : Bool) (paths : List PyText) :
    (s.requiredRecords exhausted paths).map (·.relativePath) = paths := by
  induction paths generalizing exhausted with
  | nil => rfl
  | cons path rest ih =>
    unfold requiredRecords
    split
    · rw [List.map_cons, ih]
      rfl
    · split
      · rw [List.map_cons, ih]
        rfl
      · rw [List.map_cons, ih]
        rfl

theorem text_valid {status : ValidationStatus} :
    status.text = ValidationStatus.valid.text ↔ status = .valid := by
  constructor
  · intro h
    cases status with
    | valid => rfl
    | missing => exact absurd h (by decide)
    | invalid => exact absurd h (by decide)
  · intro h
    rw [h]

theorem incompletePaths_cons (path : PyText) (result : ValidationResult)
    (records : List ArtifactRecord) :
    incompletePaths (artifactRecord path result :: records) =
      if result.status = .valid then incompletePaths records
      else path :: incompletePaths records := by
  unfold incompletePaths
  split
  · rename_i h
    have hskip : ¬ decide ((artifactRecord path result).validation ≠
        ValidationStatus.valid.text) = true := by
      rw [decide_eq_true_eq]
      exact fun hne => hne (text_valid.mpr h)
    rw [List.filter_cons, if_neg hskip]
  · rename_i h
    have hkeep : decide ((artifactRecord path result).validation ≠
        ValidationStatus.valid.text) = true := by
      rw [decide_eq_true_eq]
      exact fun heq => h (text_valid.mp heq)
    rw [List.filter_cons, if_pos hkeep]
    rfl

/-- After a timeout nothing is valid. -/
theorem incompletePaths_exhausted (paths : List PyText) :
    incompletePaths (s.requiredRecords true paths) = paths := by
  induction paths with
  | nil => rfl
  | cons path rest ih =>
    unfold requiredRecords
    rw [if_pos rfl, incompletePaths_cons, if_neg (by decide), ih]

/-- **The paths that are not valid**, of paths of which none comes twice. -/
theorem incompletePaths_records {paths : List PyText} (hnodup : paths.Nodup) :
    incompletePaths (s.requiredRecords false paths) =
      paths.filter fun path => !((paths.takeWhile s.completes).contains path &&
        s.returnsValid path) := by
  induction paths with
  | nil => rfl
  | cons path rest ih =>
    obtain ⟨hnew, hrest⟩ := List.nodup_cons.mp hnodup
    have ih := ih hrest
    unfold requiredRecords
    rw [if_neg (by decide)]
    cases hrequired : s.validateRequired path with
    | error e =>
      have hstop : (path :: rest).takeWhile s.completes = [] :=
        List.takeWhile_cons_of_neg (by rw [completes_of_error hrequired]; decide)
      have hall : (path :: rest).filter (fun p => !((([] : List PyText).contains p) &&
          s.returnsValid p)) = path :: rest := List.filter_eq_self.mpr fun _ _ => rfl
      rw [hstop, hall]
      show incompletePaths (artifactRecord path _ :: s.requiredRecords true rest) = path :: rest
      rw [incompletePaths_cons, if_neg (by decide), incompletePaths_exhausted]
    | ok result =>
      obtain ⟨hcompletes, hresult⟩ := validateRequired_ok.mp hrequired
      have hhead : (path :: rest).takeWhile s.completes = path :: rest.takeWhile s.completes :=
        List.takeWhile_cons_of_pos hcompletes
      have htail : rest.filter (fun p => !((path :: rest.takeWhile s.completes).contains p &&
          s.returnsValid p)) =
          rest.filter fun p => !((rest.takeWhile s.completes).contains p && s.returnsValid p) := by
        refine List.filter_congr fun p hp => ?_
        have hne : (p == path) = false := beq_eq_false_iff_ne.mpr fun e => hnew (e ▸ hp)
        rw [List.contains_cons, hne, Bool.false_or]
      have hreturns : s.returnsValid path = (result.status == .valid) := by
        unfold returnsValid
        rw [hresult]
      show incompletePaths (artifactRecord path result :: s.requiredRecords false rest) = _
      rw [incompletePaths_cons, hhead, ih]
      split
      · rename_i hvalid
        rw [List.filter_cons_of_neg (by simp [hreturns, hvalid]), htail]
      · rename_i hinvalid
        rw [List.filter_cons_of_pos (by simp [hreturns, hinvalid]), htail]

/-- What holds of the records made after a timeout holds of all of them. -/
theorem forall_exhausted (hexhausted : ∀ path, P (artifactRecord path
      (.invalid (ofString "finalization deadline exhausted before validation"))))
    (paths : List PyText) : ∀ record ∈ s.requiredRecords true paths, P record := by
  induction paths with
  | nil =>
    intro record h
    cases h
  | cons path rest ih =>
    unfold requiredRecords
    rw [if_pos rfl, List.forall_mem_cons]
    exact ⟨hexhausted path, ih⟩

/-- **The records of the required paths**: those of the validators up to the first timeout. -/
theorem forall_requiredRecords (hbefore : ∀ path, P (artifactRecord path
      (.invalid (ofString "finalization deadline exhausted before validation"))))
    (hduring : ∀ path, P (artifactRecord path
      (.invalid (ofString "finalization deadline exhausted during validation"))))
    (paths : List PyText) :
    (∀ record ∈ s.requiredRecords false paths, P record) ↔
      ∀ path ∈ paths.takeWhile s.completes, ∀ result, s.validators path = .ok result →
        P (artifactRecord path result) := by
  induction paths with
  | nil => exact ⟨fun _ path h => (by cases h), fun _ record h => (by cases h)⟩
  | cons path rest ih =>
    unfold requiredRecords
    rw [if_neg (by decide)]
    cases hrequired : s.validateRequired path with
    | error e =>
      rw [List.takeWhile_cons_of_neg (by rw [completes_of_error hrequired]; decide),
        List.forall_mem_cons]
      exact ⟨fun _ p h => (by cases h), fun _ => ⟨hduring path, forall_exhausted hbefore rest⟩⟩
    | ok result =>
      obtain ⟨hcompletes, hresult⟩ := validateRequired_ok.mp hrequired
      rw [List.takeWhile_cons_of_pos hcompletes, List.forall_mem_cons, List.forall_mem_cons, ih]
      constructor
      · rintro ⟨hfirst, hrest⟩
        refine ⟨fun result' hresult' => ?_, hrest⟩
        rw [hresult] at hresult'
        cases hresult'
        exact hfirst
      · rintro ⟨hfirst, hrest⟩
        exact ⟨hfirst result hresult, hrest⟩

/-! ## 2. What is in the run directory -/

variable (s)

/-- **The files that the inventory is for**: the parameters of an autotune, what is no folder below
    `logs/docker`, and what is no folder, is named `*.partial` and is outside the protocol. -/
inductive Discovered : List FileName → Prop where
  | autotune (h : (s.runDirectory.leads autotuneParameters).isSome = true) :
    Discovered autotuneParameters
  | dockerLog {entries tail node} (hlogs : s.runDirectory.leads dockerLogs = some (.folder entries))
    (hat : FileNode.At entries tail node) (hfile : node.isDir = false) :
    Discovered (dockerLogs ++ tail)
  | unfinished {path node name} (hat : FileNode.At s.runDirectory.entries path node)
    (hname : path.getLast? = some name) (hsuffix : isPartial name = true)
    (hfile : node.isFolder = false) (houtside : inControl path = false) : Discovered path

/-- Where the deadline is checked while the inventory is made. -/
inductive Scanned : CheckPoint → Prop where
  | top {entries} (hlogs : s.runDirectory.leads dockerLogs = some (.folder entries)) :
    Scanned (.logFolder dockerLogs)
  | folder {entries tail inner}
    (hlogs : s.runDirectory.leads dockerLogs = some (.folder entries))
    (hat : FileNode.At entries tail (.folder inner)) : Scanned (.logFolder (dockerLogs ++ tail))
  | file {entries tail node} (hlogs : s.runDirectory.leads dockerLogs = some (.folder entries))
    (hat : FileNode.At entries tail node) (hfile : node.isDir = false) :
    Scanned (.logFile (dockerLogs ++ tail))
  | unfinished {path node name} (hat : FileNode.At s.runDirectory.entries path node)
    (hname : path.getLast? = some name) (hsuffix : isPartial name = true) :
    Scanned (.partialFile path)

/-- The deadline holds while the inventory is made. -/
def ScanPasses : Prop := ∀ point, Scanned s point → s.passes point = true

/-- The deadline holds before the validator of an optional path, which returns. -/
def answers (path : PyText) : Bool :=
  s.passes (.beforeOptional path) && (s.validateRegularFile path).isOk

/-- **A file whose record is made**: nothing timed out while the inventory was made, nor at a path
    up to this one. -/
structure Inspected (path : List FileName) : Prop where
  discovered : Discovered s path
  scanned : ScanPasses s
  reached : ∀ other, Discovered s other → joinPath other ≤ joinPath path →
    s.answers (joinPath other) = true

variable {s}

theorem Discovered.ne_nil (h : Discovered s path) : path ≠ [] := by
  cases h with
  | autotune _ => exact List.cons_ne_nil _ _
  | dockerLog _ _ _ => exact List.cons_ne_nil _ _
  | unfinished hat _ _ _ _ => exact hat.ne_nil

/-! ## 3. The inventory -/

/-- **A loop that checks the deadline** and whose body succeeds under a condition. -/
theorem eachChecked_ok {α : Type} {point : α → CheckPoint}
    {body : α → Except TimeoutExpired (List PyText)} {P : α → Prop} {f : α → List PyText}
    (hbody : ∀ x found, body x = .ok found ↔ P x ∧ found = f x) {xs : List α} :
    s.eachChecked point body xs = .ok found ↔
      (∀ x ∈ xs, s.passes (point x) = true ∧ P x) ∧ found = xs.flatMap f := by
  induction xs generalizing found with
  | nil =>
    unfold eachChecked
    constructor
    · intro h
      cases h
      exact ⟨fun x hx => (by cases hx), rfl⟩
    · rintro ⟨-, rfl⟩
      rfl
  | cons x rest ih =>
    unfold eachChecked
    rw [seq_ok, checkDeadline_ok, List.forall_mem_cons, List.flatMap_cons]
    constructor
    · rintro ⟨hpass, h⟩
      obtain ⟨first, hfirst, h⟩ := bind_ok h
      obtain ⟨others, hothers, h⟩ := bind_ok h
      cases h
      obtain ⟨hx, rfl⟩ := (hbody x first).mp hfirst
      obtain ⟨hrest, rfl⟩ := ih.mp hothers
      exact ⟨⟨⟨hpass, hx⟩, hrest⟩, rfl⟩
    · rintro ⟨⟨⟨hpass, hx⟩, hrest⟩, rfl⟩
      refine ⟨hpass, ?_⟩
      rw [(hbody x (f x)).mpr ⟨hx, rfl⟩]
      show (s.eachChecked point body rest >>= fun others => _) = _
      rw [ih.mpr ⟨hrest, rfl⟩]
      rfl

/-- The files that a walk shows, under their names. -/
def visitPaths (visit : List FileName × List FileName) : List PyText :=
  visit.2.flatMap fun name => [joinPath (visit.1 ++ [name])]

theorem dockerLogFiles_ok :
    s.dockerLogFiles = .ok found ↔
      (∀ node, s.runDirectory.leads dockerLogs = some node →
        ∀ visit ∈ FileNode.walk dockerLogs node, s.passes (.logFolder visit.1) = true ∧
          ∀ name ∈ visit.2, s.passes (.logFile (visit.1 ++ [name])) = true) ∧
        found = (s.runDirectory.leads dockerLogs).toList.flatMap fun node =>
          (FileNode.walk dockerLogs node).flatMap visitPaths := by
  unfold dockerLogFiles
  cases s.runDirectory.leads dockerLogs with
  | none =>
    constructor
    · intro h
      cases h
      exact ⟨fun node hnode => (by cases hnode), rfl⟩
    · rintro ⟨-, rfl⟩
      rfl
  | some node =>
    have hinner (visit : List FileName × List FileName) (found : List PyText) :
        s.eachChecked (fun name => .logFile (visit.1 ++ [name]))
          (fun name => .ok [joinPath (visit.1 ++ [name])]) visit.2 = .ok found ↔
        (∀ name ∈ visit.2, s.passes (.logFile (visit.1 ++ [name])) = true) ∧
          found = visitPaths visit := by
      rw [eachChecked_ok (P := fun _ => True) (f := fun name => [joinPath (visit.1 ++ [name])])
        fun name found => ⟨fun h => ⟨trivial, (Except.ok.inj h).symm⟩, fun h => by rw [h.2]⟩]
      simp only [and_true]
      rfl
    show s.eachChecked _ _ _ = _ ↔ _
    rw [eachChecked_ok hinner]
    simp

/-- The candidates that are unfinished files. -/
def unfinishedPaths (candidate : List FileName × FileNode) : List PyText :=
  if inControl candidate.1 || candidate.2.isFolder then [] else [joinPath candidate.1]

theorem partialFiles_ok :
    s.partialFiles = .ok found ↔
      (∀ candidate ∈ FileNode.globEntries isPartial [] s.runDirectory.entries,
        s.passes (.partialFile candidate.1) = true) ∧
        found = (FileNode.globEntries isPartial [] s.runDirectory.entries).flatMap
          unfinishedPaths := by
  show s.eachChecked _ (fun candidate => .ok (unfinishedPaths candidate)) _ = _ ↔ _
  rw [eachChecked_ok (P := fun _ => True) (f := unfinishedPaths)
    fun candidate found => ⟨fun h => ⟨trivial, (Except.ok.inj h).symm⟩, fun h => by rw [h.2]⟩]
  simp only [and_true]

variable (s)

/-- What `_optional_paths` collects where no check of the deadline fails. -/
def foundPaths : List PyText :=
  (if (s.runDirectory.leads autotuneParameters).isSome then [joinPath autotuneParameters] else []) ++
    ((s.runDirectory.leads dockerLogs).toList.flatMap (fun node =>
        (FileNode.walk dockerLogs node).flatMap visitPaths) ++
      (FileNode.globEntries isPartial [] s.runDirectory.entries).flatMap unfinishedPaths)

variable {s}

/-- **What is collected is what is there to discover.** -/
theorem mem_foundPaths {p : PyText} :
    p ∈ s.foundPaths ↔ ∃ path, Discovered s path ∧ p = joinPath path := by
  unfold foundPaths
  rw [List.mem_append, List.mem_append]
  constructor
  · rintro (h | h | h)
    · split at h
      · rename_i hsome
        exact ⟨_, .autotune hsome, List.mem_singleton.mp h⟩
      · cases h
    · obtain ⟨top, hnode, hvisited⟩ := List.mem_flatMap.mp h
      obtain ⟨visit, hvisit, hnamed⟩ := List.mem_flatMap.mp hvisited
      obtain ⟨name, hname, hp⟩ := List.mem_flatMap.mp hnamed
      rw [Option.mem_toList] at hnode
      obtain ⟨entries, rfl, -⟩ := (FileNode.mem_walk _ _ _).mp hvisit
      obtain ⟨tail, node, hat, hfile, hpath⟩ :=
        FileNode.mem_walk_files.mp ⟨visit.1, visit.2, name, hvisit, hname, rfl⟩
      rw [List.mem_singleton, hpath] at hp
      exact ⟨_, .dockerLog hnode hat hfile, hp⟩
    · obtain ⟨⟨path, node⟩, hfound, hp⟩ := List.mem_flatMap.mp h
      obtain ⟨tail, name, hlast, hsuffix, hat, hpath⟩ :=
        (FileNode.mem_globEntries _ _ _ _).mp hfound
      have hpath : path = tail := hpath
      subst hpath
      unfold unfinishedPaths at hp
      split at hp
      · cases hp
      · rename_i hkind
        rw [Bool.or_eq_true, not_or, Bool.not_eq_true, Bool.not_eq_true] at hkind
        exact ⟨path, .unfinished hat hlast hsuffix hkind.2 hkind.1, List.mem_singleton.mp hp⟩
  · rintro ⟨path, hpath, rfl⟩
    cases hpath with
    | autotune h =>
      rw [if_pos h]
      exact .inl List.mem_cons_self
    | @dockerLog entries tail node hlogs hat hfile =>
      obtain ⟨folder, names, name, hvisit, hname, hpath⟩ :=
        FileNode.mem_walk_files.mpr ⟨tail, node, hat, hfile, rfl⟩
      refine .inr (.inl (List.mem_flatMap.mpr ⟨.folder entries, ?_, ?_⟩))
      · rw [hlogs]
        exact List.mem_singleton.mpr rfl
      · refine List.mem_flatMap.mpr ⟨(folder, names), hvisit, ?_⟩
        refine List.mem_flatMap.mpr ⟨name, hname, ?_⟩
        rw [hpath]
        exact List.mem_singleton.mpr rfl
    | @unfinished _ node name hat hname hsuffix hfile houtside =>
      refine .inr (.inr (List.mem_flatMap.mpr ⟨(path, node), ?_, ?_⟩))
      · exact (FileNode.mem_globEntries _ _ _ _).mpr ⟨path, name, hname, hsuffix, hat, rfl⟩
      · unfold unfinishedPaths
        rw [if_neg (by simp [houtside, hfile])]
        exact List.mem_singleton.mpr rfl

/-- **Both loops get through when the deadline holds meanwhile.** -/
theorem scanPasses_iff : ScanPasses s ↔
    (∀ node, s.runDirectory.leads dockerLogs = some node →
      ∀ visit ∈ FileNode.walk dockerLogs node, s.passes (.logFolder visit.1) = true ∧
        ∀ name ∈ visit.2, s.passes (.logFile (visit.1 ++ [name])) = true) ∧
      ∀ candidate ∈ FileNode.globEntries isPartial [] s.runDirectory.entries,
        s.passes (.partialFile candidate.1) = true := by
  constructor
  · intro h
    refine ⟨fun node hnode visit hvisit => ?_, fun candidate hfound => ?_⟩
    · obtain ⟨entries, rfl, -⟩ := (FileNode.mem_walk _ _ _).mp hvisit
      constructor
      · rcases FileNode.mem_walk_folders.mp ⟨visit.2, hvisit⟩ with
          hfolder | ⟨tail, inner, hat, hfolder⟩
        · rw [hfolder]
          exact h _ (.top hnode)
        · rw [hfolder]
          exact h _ (.folder hnode hat)
      · intro name hname
        obtain ⟨tail, node, hat, hfile, hpath⟩ :=
          FileNode.mem_walk_files.mp ⟨visit.1, visit.2, name, hvisit, hname, rfl⟩
        rw [hpath]
        exact h _ (.file hnode hat hfile)
    · obtain ⟨tail, name, hlast, hsuffix, hat, hpath⟩ :=
        (FileNode.mem_globEntries _ _ _ _).mp hfound
      rw [hpath]
      exact h _ (.unfinished hat hlast hsuffix)
  · rintro ⟨hwalk, hglob⟩ point hpoint
    cases hpoint with
    | @top entries hlogs =>
      obtain ⟨names, hvisit⟩ := FileNode.mem_walk_folders.mpr (.inl (rfl : dockerLogs = dockerLogs))
      exact (hwalk _ hlogs (dockerLogs, names) hvisit).1
    | @folder entries tail inner hlogs hat =>
      obtain ⟨names, hvisit⟩ := FileNode.mem_walk_folders.mpr (.inr ⟨tail, inner, hat, rfl⟩)
      exact (hwalk _ hlogs (dockerLogs ++ tail, names) hvisit).1
    | @file entries tail node hlogs hat hfile =>
      obtain ⟨folder, names, name, hvisit, hname, hpath⟩ :=
        FileNode.mem_walk_files.mpr ⟨tail, node, hat, hfile, rfl⟩
      rw [hpath]
      exact (hwalk _ hlogs (folder, names) hvisit).2 name hname
    | @unfinished path node name hat hname hsuffix =>
      exact hglob (path, node)
        ((FileNode.mem_globEntries _ _ _ _).mpr ⟨path, name, hname, hsuffix, hat, rfl⟩)

theorem optionalPaths_ok {paths : List PyText} :
    s.optionalPaths = .ok paths ↔ ScanPasses s ∧ paths = sortedOptional s.foundPaths := by
  unfold optionalPaths
  rw [scanPasses_iff]
  constructor
  · intro h
    obtain ⟨logs, hlogs, h⟩ := bind_ok h
    obtain ⟨partials, hpartials, h⟩ := bind_ok h
    cases h
    obtain ⟨hwalk, rfl⟩ := dockerLogFiles_ok.mp hlogs
    obtain ⟨hglob, rfl⟩ := partialFiles_ok.mp hpartials
    exact ⟨⟨hwalk, hglob⟩, rfl⟩
  · rintro ⟨⟨hwalk, hglob⟩, rfl⟩
    show (s.dockerLogFiles >>= fun logs => s.partialFiles >>= fun partials => _) = _
    rw [dockerLogFiles_ok.mpr ⟨hwalk, rfl⟩]
    show (s.partialFiles >>= fun partials => _) = _
    rw [partialFiles_ok.mpr ⟨hglob, rfl⟩]
    rfl

/-! ## 4. The optional paths -/

theorem reserved_parts : ∀ p ∈ ofString "manifest.json" :: requiredArtifactPaths,
    ¬ dockerLogs.map (·.name) <+: pathParts p ∧
      ∀ last, (pathParts p).getLast? = some last → (ofString ".partial").isSuffixOf last = false := by
  -- a literal is read character by character before anything is computed with it
  unfold requiredArtifactPaths
  simp only [List.map_cons, List.map_nil]
  repeat rw [ofString_ofList]
  decide

theorem autotune_unreserved :
    joinPath autotuneParameters ∉ ofString "manifest.json" :: requiredArtifactPaths := by
  unfold requiredArtifactPaths
  simp only [List.map_cons, List.map_nil]
  repeat rw [ofString_ofList]
  decide

/-- What is discovered has no name that is given away. -/
theorem Discovered.unreserved (h : Discovered s path) :
    joinPath path ∉ ofString "manifest.json" :: requiredArtifactPaths := by
  cases h with
  | autotune _ => exact autotune_unreserved
  | @dockerLog entries tail node hlogs hat hfile =>
    intro hmem
    refine (reserved_parts _ hmem).1 ?_
    rw [pathParts_joinPath (by exact List.cons_ne_nil _ _), List.map_append]
    exact List.prefix_append _ _
  | @unfinished _ node name hat hname hsuffix hfile houtside =>
    intro hmem
    have hlast : (pathParts (joinPath path)).getLast? = some name.name := by
      rw [pathParts_joinPath hat.ne_nil, List.getLast?_map, hname]
      rfl
    have hnot := (reserved_parts _ hmem).2 name.name hlast
    unfold isPartial at hsuffix
    rw [hsuffix] at hnot
    cases hnot

theorem Discovered.outside (h : Discovered s path) : inControl path = false := by
  cases h with
  | autotune _ =>
    unfold inControl autotuneParameters
    repeat rw [ofString_ofList]
    decide
  | @dockerLog entries tail node hlogs hat hfile =>
    show inControl dockerLogs = false
    unfold inControl dockerLogs
    repeat rw [ofString_ofList]
    decide
  | unfinished _ _ _ _ houtside => exact houtside

/-- A path outside the protocol does not begin with the name of one of its folders. -/
theorem not_prefix_of_outside {folder : PyText} (hne : path ≠ []) (hsingle : slash ∉ folder)
    (houtside : ∀ name, path.head? = some name → name.name ≠ folder) :
    (folder ++ [slash]).isPrefixOf (joinPath path) = false := by
  rw [Bool.eq_false_iff]
  intro h
  obtain ⟨name, rest, rfl⟩ := List.exists_cons_of_ne_nil hne
  have htake := takeWhile_prefix hsingle (List.isPrefixOf_iff_prefix.mp h)
  rw [takeWhile_joinPath] at htake
  exact houtside name rfl htake

/-- **What is discovered is kept.** -/
theorem Discovered.kept (h : Discovered s path) :
    joinPath path ≠ ofString "manifest.json" ∧ isOptionalPath (joinPath path) = true := by
  have hunreserved := h.unreserved
  rw [List.mem_cons, not_or] at hunreserved
  have houtside := h.outside
  have hhead : ∀ folder : PyText, (folder = ofString ".control" ∨ folder = ofString ".status") →
      ∀ name, path.head? = some name → name.name ≠ folder := by
    intro folder hfolder name hname heq
    unfold inControl at houtside
    rw [hname, Option.any_some, heq] at houtside
    rcases hfolder with rfl | rfl
    · simp at houtside
    · simp at houtside
  have hcontrol : (ofString ".control/").isPrefixOf (joinPath path) = false :=
    not_prefix_of_outside h.ne_nil (by decide) (hhead (ofString ".control") (.inl rfl))
  have hstatus : (ofString ".status/").isPrefixOf (joinPath path) = false :=
    not_prefix_of_outside h.ne_nil (by decide) (hhead (ofString ".status") (.inr rfl))
  refine ⟨hunreserved.1, ?_⟩
  unfold isOptionalPath
  rw [hcontrol, hstatus, List.contains_eq_mem, decide_eq_false hunreserved.2]
  rfl

theorem mem_sortedOptional {p : PyText} :
    p ∈ sortedOptional found ↔
      (p ∈ found ∧ p ≠ ofString "manifest.json") ∧ isOptionalPath p = true := by
  unfold sortedOptional
  rw [List.mem_filter, List.mem_insertionSort, List.mem_dedup, List.mem_filter, decide_eq_true_eq]

theorem sortedOptional_nodup (found : List PyText) : (sortedOptional found).Nodup :=
  ((List.perm_insertionSort _ _).nodup_iff.mpr (List.nodup_dedup _)).filter _

theorem sortedOptional_sorted (found : List PyText) : (sortedOptional found).Pairwise (· ≤ ·) :=
  (List.pairwise_insertionSort _ _).filter _

/-- **The optional paths are those of the files that are there.** -/
theorem mem_optionalPaths {p : PyText} :
    p ∈ sortedOptional s.foundPaths ↔ ∃ path, Discovered s path ∧ p = joinPath path := by
  rw [mem_sortedOptional, mem_foundPaths]
  constructor
  · rintro ⟨⟨h, -⟩, -⟩
    exact h
  · rintro ⟨path, hpath, rfl⟩
    exact ⟨⟨⟨path, hpath, rfl⟩, hpath.kept.1⟩, hpath.kept.2⟩

/-! ## 5. The optional records -/

theorem validateOptional_ok {path : PyText} {result : ValidationResult} :
    s.validateOptional path = .ok result ↔
      s.answers path = true ∧ s.validateRegularFile path = .ok result := by
  unfold validateOptional answers
  rw [seq_ok, checkDeadline_ok, Bool.and_eq_true]
  constructor
  · rintro ⟨hpass, hresult⟩
    exact ⟨⟨hpass, isOk_of_eq hresult⟩, hresult⟩
  · rintro ⟨⟨hpass, -⟩, hresult⟩
    exact ⟨hpass, hresult⟩

theorem answers_of_error {path : PyText} {e : TimeoutExpired}
    (h : s.validateOptional path = .error e) : s.answers path = false := by
  rw [Bool.eq_false_iff]
  intro hanswers
  have hok := hanswers
  unfold answers at hok
  rw [Bool.and_eq_true] at hok
  obtain ⟨result, hresult⟩ := exists_of_isOk hok.2
  rw [validateOptional_ok.mpr ⟨hanswers, hresult⟩] at h
  cases h

/-- The optional paths are recorded in order, up to a timeout. -/
theorem recordOptional_paths (paths : List PyText) :
    (s.recordOptional paths).map (·.relativePath) <+: paths := by
  induction paths with
  | nil => exact List.prefix_rfl
  | cons path rest ih =>
    unfold recordOptional
    split
    · exact (List.prefix_cons_inj path).mpr ih
    · exact List.nil_prefix

/-- **The records of sorted paths**: those of the paths up to which every validator answers. -/
theorem forall_recordOptional {paths : List PyText} (hsorted : paths.Pairwise (· ≤ ·)) :
    (∀ record ∈ s.recordOptional paths, P record) ↔
      ∀ p ∈ paths, (∀ q ∈ paths, q ≤ p → s.answers q = true) →
        ∀ result, s.validateRegularFile p = .ok result → P (artifactRecord p result) := by
  induction paths with
  | nil => exact ⟨fun _ p hp => (by cases hp), fun _ record h => (by cases h)⟩
  | cons path rest ih =>
    obtain ⟨hfirst, hrest⟩ := List.pairwise_cons.mp hsorted
    unfold recordOptional
    cases hoptional : s.validateOptional path with
    | error e =>
      refine ⟨fun _ p hp hreached => ?_, fun _ record h => (by cases h)⟩
      have hle : path ≤ p := by
        rcases List.mem_cons.mp hp with rfl | hp
        · exact le_refl _
        · exact hfirst p hp
      have hanswers := hreached path List.mem_cons_self hle
      rw [answers_of_error hoptional] at hanswers
      cases hanswers
    | ok result =>
      obtain ⟨hanswers, hresult⟩ := validateOptional_ok.mp hoptional
      rw [List.forall_mem_cons, ih hrest, List.forall_mem_cons]
      constructor
      · rintro ⟨hhead, htail⟩
        refine ⟨fun _ result' hresult' => ?_, fun p hp hreached => ?_⟩
        · rw [hresult] at hresult'
          cases hresult'
          exact hhead
        · exact htail p hp fun q hq => hreached q (List.mem_cons_of_mem path hq)
      · rintro ⟨hhead, htail⟩
        constructor
        · refine hhead (fun q hq hle => ?_) result hresult
          rcases List.mem_cons.mp hq with rfl | hq
          · exact hanswers
          · rw [le_antisymm hle (hfirst q hq)]
            exact hanswers
        · refine fun p hp hreached => htail p hp fun q hq hle => ?_
          rcases List.mem_cons.mp hq with rfl | hq
          · exact hanswers
          · exact hreached q hq hle

/-- **The optional records**: those of the files that the inventory gets to. -/
theorem forall_optionalRecords :
    (∀ record ∈ s.optionalRecords, P record) ↔
      ∀ path, Inspected s path → ∀ result,
        s.validateRegularFile (joinPath path) = .ok result →
          P (artifactRecord (joinPath path) result) := by
  unfold optionalRecords
  cases hpaths : s.optionalPaths with
  | error e =>
    refine ⟨fun _ path h => ?_, fun _ record h => (by cases h)⟩
    rw [optionalPaths_ok.mpr ⟨h.scanned, rfl⟩] at hpaths
    cases hpaths
  | ok paths =>
    obtain ⟨hscan, rfl⟩ := optionalPaths_ok.mp hpaths
    show (∀ record ∈ s.recordOptional _, P record) ↔ _
    rw [forall_recordOptional (sortedOptional_sorted _)]
    constructor
    · intro h path hpath
      refine h _ (mem_optionalPaths.mpr ⟨path, hpath.discovered, rfl⟩) fun q hq hle => ?_
      obtain ⟨other, hother, rfl⟩ := mem_optionalPaths.mp hq
      exact hpath.reached other hother hle
    · intro h p hp hreached
      obtain ⟨path, hpath, rfl⟩ := mem_optionalPaths.mp hp
      refine h path ⟨hpath, hscan, fun other hother hle => ?_⟩
      exact hreached _ (mem_optionalPaths.mpr ⟨other, hother, rfl⟩) hle

/-- The paths of the optional records: none comes twice, none is required. -/
theorem optionalRecords_paths :
    (s.optionalRecords.map (·.relativePath)).Nodup ∧
      ∀ p ∈ s.optionalRecords.map (·.relativePath), p ∉ requiredArtifactPaths := by
  unfold optionalRecords
  cases hpaths : s.optionalPaths with
  | error e => exact ⟨List.nodup_nil, fun p hp => (by cases hp)⟩
  | ok paths =>
    obtain ⟨-, rfl⟩ := optionalPaths_ok.mp hpaths
    have hsub := (s.recordOptional_paths (sortedOptional s.foundPaths)).sublist
    refine ⟨(sortedOptional_nodup _).sublist hsub, fun p hp hrequired => ?_⟩
    have hkept := (mem_sortedOptional.mp (hsub.subset hp)).2
    unfold isOptionalPath at hkept
    rw [List.contains_eq_mem, decide_eq_true hrequired] at hkept
    cases hkept

end ArtifactSession

end DroneSim
