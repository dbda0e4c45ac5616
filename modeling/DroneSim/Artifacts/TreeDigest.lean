/-
  File:      DroneSim/Artifacts/TreeDigest.lean
  Subject:   The validation of a directory tree and its digest (artifacts/validation.py,
             `validate_tree`).

  A directory lists its entries in any order. The walk takes a directory from the stack, goes
  through its entries, puts the directories in it on the stack and notes a row for each file; the
  sorted rows are hashed. `validateTree` walks as the code does, `Unwind` takes the directories in
  any order.

  * `soundFolder_of_unwind`, `unwind_of_soundFolder` -- a walk comes to its end where no directory
    has a fault, and only there;
  * `validateTree_valid` -- what a valid result says;
  * `rowsText_injective` -- the text of rows is read in one way only;
  * `tree_digest_identifies` -- the digest is the same for every order, and two trees with equal
    bytes under it have equal rows.
-/
import DroneSim.Artifacts.ManifestBytes
import DroneSim.Library.JsonParse
import DroneSim.Library.Utf8
import Mathlib.Algebra.BigOperators.Group.List.Basic
import Mathlib.Data.List.Lex
import Mathlib.Data.List.Sort
import Mathlib.Data.Prod.Lex
import Mathlib.Logic.Relation

namespace DroneSim

open Library

/-! ## 1. Directories -/

/-- The character no name of an entry has. -/
def nul : CodePoint := 0

/-- The name of an entry of a directory. -/
structure EntryName where
  file : FileName
  zeroFree : nul ∉ file.name

/-- What the mode of a directory allows: opening it, listing it, looking up a name in it. -/
structure Access where
  opens : Bool
  lists : Bool
  searches : Bool

/-- What a name in a directory leads to. A file has its links and its bytes, `none` where reading
    them fails. -/
inductive TreeNode where
  | file (opens : Bool) (links : ℕ) (content : Option (List UInt8))
  | folder (access : Access) (entries : List (EntryName × TreeNode))
  | symlink
  | other

abbrev TreeEntries : Type := List (EntryName × TreeNode)

mutual

/-- In every directory each name stands for one entry. -/
def TreeNode.Named : TreeNode → Prop
  | .folder _ entries => (entries.map fun e => e.1.file).Nodup ∧ namedEntries entries
  | _ => True

def namedEntries : List (EntryName × TreeNode) → Prop
  | [] => True
  | e :: rest => e.2.Named ∧ namedEntries rest

end

/-- A directory with all that is below it. -/
structure Tree where
  access : Access
  entries : TreeEntries
  named : (TreeNode.folder access entries).Named

mutual

/-- How many directories there are. -/
def TreeNode.folders : TreeNode → ℕ
  | .folder _ entries => folderCount entries + 1
  | _ => 0

def folderCount : List (EntryName × TreeNode) → ℕ
  | [] => 0
  | e :: rest => e.2.folders + folderCount rest

end

/-! ## 2. The walk -/

/-- A file: its path, its size and the digest of its bytes. -/
structure TreeRow where
  path : PyText
  size : ℕ
  digest : Digest

/-- `_fail(ValidationStatus.INVALID, detail)` -/
def invalidTree {α : Type} (detail : String) : Except ValidationResult α :=
  .error (.invalid (ofString detail))

/-- `path` as it is noted. -/
def posixPath (path : List EntryName) : PyText := joinPath (path.map EntryName.file)

/-- A directory on the stack. -/
structure PendingFolder where
  path : List EntryName
  access : Access
  entries : TreeEntries

/-- The stack, its top first, and the rows. -/
structure TreeWalk where
  pending : List PendingFolder
  rows : List TreeRow

/-- The walk before its first step. -/
def Tree.start (tree : Tree) : TreeWalk := ⟨[⟨[], tree.access, tree.entries⟩], []⟩

variable {path : List EntryName} {rows : List TreeRow} {w w' : TreeWalk} {access : Access}
  {tree : Tree} {entries : TreeEntries}

section Walk

variable (sha256 : List UInt8 → Digest)

/-- `_hash_regular_file_at`, with the details of `_tree_file_failure`. -/
def hashTreeFile (path : List EntryName) (opens : Bool) (links : ℕ)
    (content : Option (List UInt8)) : Except ValidationResult TreeRow :=
  if !opens then invalidTree "directory tree contains unreadable file"
  else if links ≠ 1 then invalidTree "directory tree contains file with multiple hard links"
  else
    match content with
    | none => invalidTree "directory tree contains unreadable file"
    | some data => .ok ⟨posixPath path, data.length, sha256 data⟩

/-- One entry of a directory. -/
def visitEntry (access : Access) (path : List EntryName) (node : TreeNode) (w : TreeWalk) :
    Except ValidationResult TreeWalk :=
  if !encodable (posixPath path) then invalidTree "directory tree contains a non-UTF-8 path"
  else if !access.searches then invalidTree "directory tree could not be read"
  else
    match node with
    | .symlink => invalidTree "symlinks are not allowed"
    | .folder inner entries =>
      if inner.opens then .ok { w with pending := ⟨path, inner, entries⟩ :: w.pending }
      else invalidTree "directory tree could not be read"
    | .other => invalidTree "directory tree contains a non-regular file"
    | .file opens links content =>
      (hashTreeFile sha256 path opens links content).map fun row =>
        { w with rows := w.rows ++ [row] }

/-- The loop over the names. -/
def visitEntries (access : Access) (path : List EntryName) :
    List (EntryName × TreeNode) → TreeWalk → Except ValidationResult TreeWalk
  | [], w => .ok w
  | e :: rest, w => do
    let w' ← visitEntry sha256 access (path ++ [e.1]) e.2 w
    visitEntries access path rest w'

/-- One directory, with its names in this order. -/
def visitFolder (folder : PendingFolder) (listed : TreeEntries) (w : TreeWalk) :
    Except ValidationResult TreeWalk :=
  if folder.access.lists then visitEntries sha256 folder.access folder.path listed w
  else invalidTree "directory tree could not be read"

/-- The order in which `os.listdir` gives the entries of a directory. -/
structure Listing where
  listdir : PendingFolder → TreeEntries
  perm : ∀ folder, (listdir folder).Perm folder.entries

/-- `sorted(os.listdir(directory_fd))` -/
def sortedNames (listing : Listing) (folder : PendingFolder) : TreeEntries :=
  (listing.listdir folder).insertionSort fun a b => a.1.file.name ≤ b.1.file.name

/-- The directories that are entries of a directory. -/
def foldersIn (path : List EntryName) (entries : TreeEntries) : List PendingFolder :=
  entries.filterMap fun e =>
    match e.2 with
    | .folder access inner => some ⟨path ++ [e.1], access, inner⟩
    | _ => none

/-- The row of an entry that is a file. -/
def fileRow (path : List EntryName) : TreeNode → Option TreeRow
  | .file _ _ (some data) => some ⟨posixPath path, data.length, sha256 data⟩
  | _ => none

/-- The rows of the files that are entries of a directory. -/
def filesIn (path : List EntryName) (entries : TreeEntries) : List TreeRow :=
  entries.filterMap fun e => fileRow sha256 (path ++ [e.1]) e.2

theorem foldersIn_cons (path : List EntryName) (e : EntryName × TreeNode) (rest : TreeEntries) :
    foldersIn path (e :: rest) = foldersIn path [e] ++ foldersIn path rest := by
  unfold foldersIn
  rw [← List.filterMap_append, List.singleton_append]

theorem filesIn_cons (path : List EntryName) (e : EntryName × TreeNode) (rest : TreeEntries) :
    filesIn sha256 path (e :: rest) = filesIn sha256 path [e] ++ filesIn sha256 path rest := by
  unfold filesIn
  rw [← List.filterMap_append, List.singleton_append]

/-- **What one entry leaves**: a directory on the stack, or a row; or it fails, whatever the walk so
    far. -/
theorem visitEntry_cases (access : Access) (path : List EntryName) (name : EntryName)
    (node : TreeNode) :
    (∃ detail, ∀ w, visitEntry sha256 access (path ++ [name]) node w = .error (.invalid detail)) ∨
    encodable (posixPath (path ++ [name])) = true ∧
      ∀ w, visitEntry sha256 access (path ++ [name]) node w =
        .ok ⟨(foldersIn path [(name, node)]).reverse ++ w.pending,
          w.rows ++ filesIn sha256 path [(name, node)]⟩ := by
  unfold visitEntry
  cases hencodable : encodable (posixPath (path ++ [name])) with
  | false => exact .inl ⟨_, fun _ => rfl⟩
  | true =>
    cases hsearches : access.searches with
    | false => exact .inl ⟨_, fun _ => rfl⟩
    | true =>
      cases node with
      | symlink => exact .inl ⟨_, fun _ => rfl⟩
      | other => exact .inl ⟨_, fun _ => rfl⟩
      | folder inner entries =>
        cases hopens : inner.opens with
        | false => exact .inl ⟨_, fun _ => by simp only [hopens]; rfl⟩
        | true => exact .inr ⟨rfl, fun _ => by simp [hopens, foldersIn, filesIn, fileRow]⟩
      | file opens links content =>
        unfold hashTreeFile
        cases opens with
        | false => exact .inl ⟨_, fun _ => rfl⟩
        | true =>
          by_cases hlinks : links = 1
          swap
          · exact .inl ⟨_, fun _ => by simp only [ne_eq, hlinks]; rfl⟩
          cases content with
          | none => exact .inl ⟨_, fun _ => by simp only [ne_eq, hlinks]; rfl⟩
          | some data =>
            exact .inr ⟨rfl, fun _ => by simp [hlinks, foldersIn, filesIn, fileRow, Except.map]⟩

theorem visitEntry_ok {name : EntryName} {node : TreeNode}
    (h : visitEntry sha256 access (path ++ [name]) node w = .ok w') :
    encodable (posixPath (path ++ [name])) = true ∧
      w' = ⟨(foldersIn path [(name, node)]).reverse ++ w.pending,
        w.rows ++ filesIn sha256 path [(name, node)]⟩ := by
  obtain ⟨detail, herror⟩ | ⟨hencodable, hok⟩ := visitEntry_cases sha256 access path name node
  · cases (herror w).symm.trans h
  · exact ⟨hencodable, Except.ok.inj (h.symm.trans (hok w))⟩

/-- **What the entries leave.** -/
theorem visitEntries_ok (h : visitEntries sha256 access path entries w = .ok w') :
    (∀ e ∈ entries, encodable (posixPath (path ++ [e.1])) = true) ∧
      w' = ⟨(foldersIn path entries).reverse ++ w.pending,
        w.rows ++ filesIn sha256 path entries⟩ := by
  induction entries generalizing w with
  | nil =>
    cases h
    exact ⟨fun _ he => absurd he List.not_mem_nil, by simp [foldersIn, filesIn]⟩
  | cons e rest ih =>
    obtain ⟨w₁, hfirst, hrest⟩ := bind_ok h
    obtain ⟨hencodable, rfl⟩ := visitEntry_ok sha256 hfirst
    obtain ⟨hothers, rfl⟩ := ih hrest
    refine ⟨fun e' he' => ?_, ?_⟩
    · rcases List.mem_cons.mp he' with rfl | he'
      · exact hencodable
      · exact hothers e' he'
    · rw [foldersIn_cons path e rest, filesIn_cons sha256 path e rest, List.reverse_append,
        List.append_assoc, List.append_assoc]

theorem visitFolder_ok {folder : PendingFolder} {listed : TreeEntries}
    (h : visitFolder sha256 folder listed w = .ok w') :
    (∀ e ∈ listed, encodable (posixPath (folder.path ++ [e.1])) = true) ∧
      w' = ⟨(foldersIn folder.path listed).reverse ++ w.pending,
        w.rows ++ filesIn sha256 folder.path listed⟩ := by
  unfold visitFolder at h
  split at h
  · exact visitEntries_ok sha256 h
  · cases h

/-- How many directories there are on the stack and below it. -/
def stackFolders (pending : List PendingFolder) : ℕ :=
  (pending.map fun folder => folderCount folder.entries + 1).sum

theorem folderCount_eq (entries : TreeEntries) :
    folderCount entries = (entries.map fun e => e.2.folders).sum := by
  induction entries with
  | nil => rfl
  | cons e rest ih =>
    rw [folderCount, ih, List.map_cons, List.sum_cons]

theorem stackFolders_foldersIn (path : List EntryName) (entries : TreeEntries) :
    stackFolders (foldersIn path entries) = folderCount entries := by
  induction entries with
  | nil => rfl
  | cons e rest ih =>
    have hfirst : stackFolders (foldersIn path [e]) = e.2.folders := by
      obtain ⟨name, node⟩ := e
      cases node with
      | folder access inner => simp [foldersIn, stackFolders, TreeNode.folders]
      | _ => rfl
    have happend : stackFolders (foldersIn path [e] ++ foldersIn path rest) =
        stackFolders (foldersIn path [e]) + stackFolders (foldersIn path rest) := by
      unfold stackFolders
      rw [List.map_append, List.sum_append]
    rw [foldersIn_cons, happend, hfirst, ih, folderCount]

/-- **Each round of the walk leaves fewer directories.** -/
theorem stackFolders_visit {listing : Listing} {folder : PendingFolder}
    {pending : List PendingFolder}
    (h : visitFolder sha256 folder (sortedNames listing folder) ⟨pending, rows⟩ = .ok w) :
    stackFolders w.pending < stackFolders (folder :: pending) := by
  obtain ⟨-, rfl⟩ := visitFolder_ok sha256 h
  have hperm : (sortedNames listing folder).Perm folder.entries :=
    (List.perm_insertionSort _ _).trans (listing.perm folder)
  have hcount : folderCount (sortedNames listing folder) = folderCount folder.entries := by
    rw [folderCount_eq, folderCount_eq]
    exact (hperm.map _).sum_eq
  have hreverse : stackFolders (foldersIn folder.path (sortedNames listing folder)).reverse =
      folderCount folder.entries := by
    rw [← hcount, ← stackFolders_foldersIn folder.path]
    unfold stackFolders
    rw [List.map_reverse, List.sum_reverse]
  have happend : ∀ found : List PendingFolder,
      stackFolders (found ++ pending) = stackFolders found + stackFolders pending := by
    intro found
    unfold stackFolders
    rw [List.map_append, List.sum_append]
  have hcons : stackFolders (folder :: pending) =
      folderCount folder.entries + 1 + stackFolders pending := by
    unfold stackFolders
    rw [List.map_cons, List.sum_cons]
  rw [happend, hreverse, hcons]
  omega

/-- The loop over the stack. -/
def unwindStack (listing : Listing) : TreeWalk → Except ValidationResult (List TreeRow)
  | ⟨[], rows⟩ => .ok rows
  | ⟨folder :: pending, rows⟩ =>
    match h : visitFolder sha256 folder (sortedNames listing folder) ⟨pending, rows⟩ with
    | .error result => .error result
    | .ok w =>
      have _hless := stackFolders_visit sha256 h
      unwindStack listing w
termination_by w => stackFolders w.pending

/-- The order of `sorted(rows)`. -/
def rowKey (row : TreeRow) : Lex (PyText × Lex (ℕ × PyText)) :=
  toLex (row.path, toLex (row.size, row.digest.val))

def rowLe (a b : TreeRow) : Prop := rowKey a ≤ rowKey b

instance : DecidableRel rowLe := fun a b => inferInstanceAs (Decidable (rowKey a ≤ rowKey b))

/-- The text of a row. -/
def rowText (row : TreeRow) : PyText :=
  row.path ++ nul :: (natText row.size ++ nul :: (row.digest.val ++ [newline]))

/-- The bytes that are hashed. -/
def digestInput (rows : List TreeRow) : Except EncodeError (List UInt8) :=
  ((rows.insertionSort rowLe).mapM fun row => encodeUtf8 (rowText row)).map List.flatten

/-- `validate_tree`, from the opened directory on. -/
def validateTree (listing : Listing) (tree : Tree) : Except EncodeError ValidationResult :=
  match unwindStack sha256 listing tree.start with
  | .error result => .ok result
  | .ok rows =>
    if rows.isEmpty then .ok (.invalid (ofString "directory tree is empty"))
    else do
      let data ← digestInput rows
      .ok (.valid (rows.map TreeRow.size).sum (sha256 data) (ofString "valid directory tree"))

theorem unwindStack_cons (listing : Listing) (folder : PendingFolder)
    (pending : List PendingFolder) (rows : List TreeRow) :
    unwindStack sha256 listing ⟨folder :: pending, rows⟩ =
      visitFolder sha256 folder (sortedNames listing folder) ⟨pending, rows⟩ >>=
        unwindStack sha256 listing := by
  rw [unwindStack]
  split
  · rename_i h
    rw [h]
    rfl
  · rename_i w h
    show unwindStack sha256 listing w = _
    rw [h]
    rfl

/-! ## 3. Any order -/

/-- **One round**: a directory is taken from anywhere on the stack, its names come in any order, and
    nothing found fails. -/
inductive Unwind : TreeWalk → TreeWalk → Prop where
  | round {before after : List PendingFolder} {folder : PendingFolder} {listed : TreeEntries}
    {rows : List TreeRow} {w : TreeWalk} (hlisted : listed.Perm folder.entries)
    (hvisit : visitFolder sha256 folder listed ⟨before ++ after, rows⟩ = .ok w) :
    Unwind ⟨before ++ folder :: after, rows⟩ w

/-- A walk to its end. -/
def Unwinds (tree : Tree) (rows : List TreeRow) : Prop :=
  Relation.ReflTransGen (Unwind sha256) tree.start ⟨[], rows⟩

/-- **The walk of the code is one of them.** -/
theorem unwinds_of_stack {listing : Listing} (w : TreeWalk)
    (h : unwindStack sha256 listing w = .ok rows) :
    Relation.ReflTransGen (Unwind sha256) w ⟨[], rows⟩ := by
  induction w using unwindStack.induct sha256 listing with
  | case1 noted =>
    rw [unwindStack] at h
    cases h
    exact .refl
  | case2 folder pending noted result hvisit =>
    rw [unwindStack_cons, hvisit] at h
    cases h
  | case3 folder pending noted w hvisit _ ih =>
    rw [unwindStack_cons, hvisit] at h
    have hperm : (sortedNames listing folder).Perm folder.entries :=
      (List.perm_insertionSort _ _).trans (listing.perm folder)
    exact .head (@Unwind.round sha256 [] pending folder _ noted w hperm hvisit) (ih h)

/-! ## 4. The rows of a tree -/

mutual

/-- The files below a node, with the names that lead to them. -/
def filesBelow (path : List EntryName) : TreeNode → List (List EntryName × List UInt8)
  | .file _ _ (some data) => [(path, data)]
  | .folder _ entries => filesOf path entries
  | _ => []

/-- The files below entries. -/
def filesOf (path : List EntryName) :
    List (EntryName × TreeNode) → List (List EntryName × List UInt8)
  | [] => []
  | e :: rest => filesBelow (path ++ [e.1]) e.2 ++ filesOf path rest

end

/-- The row of a file. -/
def toRow (f : List EntryName × List UInt8) : TreeRow :=
  ⟨posixPath f.1, f.2.length, sha256 f.2⟩

/-- The files below the directories on the stack. -/
def pendingFiles (pending : List PendingFolder) : List (List EntryName × List UInt8) :=
  pending.flatMap fun folder => filesOf folder.path folder.entries

theorem filesOf_eq (path : List EntryName) (entries : TreeEntries) :
    filesOf path entries = entries.flatMap fun e => filesBelow (path ++ [e.1]) e.2 := by
  induction entries with
  | nil => rfl
  | cons e rest ih => rw [filesOf, ih, List.flatMap_cons]

/-- The files below entries are those among them and those below the directories among them. -/
theorem filesOf_perm (path : List EntryName) (entries : TreeEntries) :
    (filesIn sha256 path entries ++
      (pendingFiles (foldersIn path entries)).map (toRow sha256)).Perm
        ((filesOf path entries).map (toRow sha256)) := by
  induction entries with
  | nil => exact .refl _
  | cons e rest ih =>
    have hfirst : filesIn sha256 path [e] ++
        (pendingFiles (foldersIn path [e])).map (toRow sha256) =
          (filesBelow (path ++ [e.1]) e.2).map (toRow sha256) := by
      obtain ⟨name, node⟩ := e
      cases node with
      | folder access inner =>
        simp [filesIn, fileRow, foldersIn, pendingFiles, filesBelow]
      | file opens links content =>
        cases content with
        | none => rfl
        | some data => rfl
      | symlink => rfl
      | other => rfl
    have hpending : pendingFiles (foldersIn path [e] ++ foldersIn path rest) =
        pendingFiles (foldersIn path [e]) ++ pendingFiles (foldersIn path rest) := by
      unfold pendingFiles
      rw [List.flatMap_append]
    rw [filesIn_cons, foldersIn_cons, hpending, filesOf, List.map_append, List.map_append, ← hfirst,
      List.append_assoc, List.append_assoc]
    refine List.Perm.append_left _ ?_
    rw [← List.append_assoc]
    refine (List.perm_append_comm.append_right _).trans ?_
    rw [List.append_assoc]
    exact List.Perm.append_left _ ih

/-- **What each round keeps**: the rows noted and those owed. -/
theorem unwind_owed (h : Unwind sha256 w w') :
    (w'.rows ++ (pendingFiles w'.pending).map (toRow sha256)).Perm
      (w.rows ++ (pendingFiles w.pending).map (toRow sha256)) := by
  obtain @⟨before, after, folder, listed, rows, w', hlisted, hvisit⟩ := h
  obtain ⟨-, rfl⟩ := visitFolder_ok sha256 hvisit
  have hbelow := filesOf_perm sha256 folder.path listed
  have hentries : (filesOf folder.path listed).Perm (filesOf folder.path folder.entries) := by
    rw [filesOf_eq, filesOf_eq]
    exact hlisted.flatMap_right _
  have hfound : (pendingFiles (foldersIn folder.path listed).reverse).Perm
      (pendingFiles (foldersIn folder.path listed)) :=
    (List.reverse_perm _).flatMap_right _
  have hold : (pendingFiles (before ++ folder :: after)).Perm
      (filesOf folder.path folder.entries ++ pendingFiles (before ++ after)) := by
    have hmiddle : (before ++ folder :: after).Perm (folder :: (before ++ after)) :=
      List.perm_middle
    exact hmiddle.flatMap_right _
  have hnew : pendingFiles ((foldersIn folder.path listed).reverse ++ (before ++ after)) =
      pendingFiles (foldersIn folder.path listed).reverse ++ pendingFiles (before ++ after) := by
    unfold pendingFiles
    rw [List.flatMap_append]
  rw [hnew, List.map_append, List.append_assoc]
  refine List.Perm.append_left _ ?_
  refine List.Perm.trans ?_ (hold.map _).symm
  rw [List.map_append, ← List.append_assoc]
  refine List.Perm.append_right _ ?_
  refine List.Perm.trans (List.Perm.append_left _ (hfound.map _)) ?_
  exact hbelow.trans (hentries.map _)

/-- **A walk to its end notes the files of the tree**, whatever its order. -/
theorem unwinds_rows (h : Unwinds sha256 tree rows) :
    rows.Perm ((filesOf [] tree.entries).map (toRow sha256)) := by
  have hrun : ∀ {w w' : TreeWalk}, Relation.ReflTransGen (Unwind sha256) w w' →
      (w'.rows ++ (pendingFiles w'.pending).map (toRow sha256)).Perm
        (w.rows ++ (pendingFiles w.pending).map (toRow sha256)) := by
    intro w w' hww'
    induction hww' with
    | refl => exact .refl _
    | tail _ hstep ih => exact (unwind_owed sha256 hstep).trans ih
  have hend := hrun h
  simpa [Tree.start, pendingFiles] using hend

/-! ## 5. The files of a tree -/

/-- These names lead through directories to a file with these bytes. -/
inductive FileAt : TreeEntries → List EntryName → List UInt8 → Prop where
  | here {entries name opens links data}
    (h : (name, TreeNode.file opens links (some data)) ∈ entries) : FileAt entries [name] data
  | inside {entries name access inner path data}
    (h : (name, TreeNode.folder access inner) ∈ entries)
    (hinside : FileAt inner path data) : FileAt entries (name :: path) data

/-- **The set of relative paths, sizes and digests** of a tree. -/
def Tree.triples (tree : Tree) : Set TreeRow :=
  {row | ∃ names data, FileAt tree.entries names data ∧ row = toRow sha256 (names, data)}

theorem FileAt.mono {entries entries' : TreeEntries} {data : List UInt8}
    (h : FileAt entries path data) (hmem : ∀ e ∈ entries, e ∈ entries') :
    FileAt entries' path data := by
  cases h with
  | here h => exact .here (hmem _ h)
  | inside h hinside => exact .inside (hmem _ h) hinside

theorem FileAt.head {data : List UInt8} (h : FileAt entries path data) :
    ∃ e ∈ entries, ∃ rest, path = e.1 :: rest := by
  cases h with
  | here h => exact ⟨_, h, _, rfl⟩
  | inside h _ => exact ⟨_, h, _, rfl⟩

mutual

theorem mem_filesBelow (path : List EntryName) (name : EntryName) :
    ∀ (node : TreeNode) {f : List EntryName × List UInt8}, f ∈ filesBelow (path ++ [name]) node ↔
      ∃ names, f.1 = path ++ names ∧ FileAt [(name, node)] names f.2
  | .file opens links content, f => by
    cases content with
    | none =>
      refine ⟨fun h => (by cases h), fun h => ?_⟩
      obtain ⟨names, -, h⟩ := h
      cases h with
      | here h => cases List.mem_singleton.mp h
      | inside h _ => cases List.mem_singleton.mp h
    | some data =>
      rw [filesBelow, List.mem_singleton]
      constructor
      · rintro rfl
        exact ⟨[name], rfl, .here List.mem_cons_self⟩
      · rintro ⟨names, hpath, h⟩
        cases h with
        | here h =>
          cases List.mem_singleton.mp h
          exact Prod.ext hpath rfl
        | inside h _ => cases List.mem_singleton.mp h
  | .folder access inner, f => by
    rw [filesBelow, mem_filesOf (path ++ [name]) inner]
    constructor
    · rintro ⟨names, hpath, h⟩
      exact ⟨name :: names, by rw [hpath, List.append_assoc]; rfl, .inside List.mem_cons_self h⟩
    · rintro ⟨names, hpath, h⟩
      cases h with
      | here h => cases List.mem_singleton.mp h
      | @inside _ _ _ _ rest _ h hinside =>
        cases List.mem_singleton.mp h
        exact ⟨rest, by rw [hpath, List.append_assoc]; rfl, hinside⟩
  | .symlink, f => by
    refine ⟨fun h => (by cases h), fun h => ?_⟩
    obtain ⟨names, -, h⟩ := h
    cases h with
    | here h => cases List.mem_singleton.mp h
    | inside h _ => cases List.mem_singleton.mp h
  | .other, f => by
    refine ⟨fun h => (by cases h), fun h => ?_⟩
    obtain ⟨names, -, h⟩ := h
    cases h with
    | here h => cases List.mem_singleton.mp h
    | inside h _ => cases List.mem_singleton.mp h

/-- **What `filesOf` lists.** -/
theorem mem_filesOf (path : List EntryName) :
    ∀ (entries : TreeEntries) {f : List EntryName × List UInt8}, f ∈ filesOf path entries ↔
      ∃ names, f.1 = path ++ names ∧ FileAt entries names f.2
  | [], f => by
    refine ⟨fun h => (by cases h), fun h => ?_⟩
    obtain ⟨names, -, h⟩ := h
    obtain ⟨e, he, -⟩ := h.head
    cases he
  | (name, node) :: rest, f => by
    rw [filesOf, List.mem_append, mem_filesBelow path name node, mem_filesOf path rest]
    constructor
    · rintro (⟨names, hpath, h⟩ | ⟨names, hpath, h⟩)
      · refine ⟨names, hpath, h.mono fun e he => ?_⟩
        rw [List.mem_singleton.mp he]
        exact List.mem_cons_self
      · exact ⟨names, hpath, h.mono fun e he => List.mem_cons_of_mem _ he⟩
    · rintro ⟨names, hpath, h⟩
      cases h with
      | here h =>
        rcases List.mem_cons.mp h with heq | h
        · cases heq
          exact Or.inl ⟨_, hpath, .here List.mem_cons_self⟩
        · exact Or.inr ⟨_, hpath, .here h⟩
      | inside h hinside =>
        rcases List.mem_cons.mp h with heq | h
        · cases heq
          exact Or.inl ⟨_, hpath, .inside List.mem_cons_self hinside⟩
        · exact Or.inr ⟨_, hpath, .inside h hinside⟩

end

mutual

theorem nodup_filesBelow : ∀ (node : TreeNode) (path : List EntryName), node.Named →
    ((filesBelow path node).map Prod.fst).Nodup
  | .file _ _ content, path, _ => by
    cases content with
    | none => exact List.nodup_nil
    | some data => exact List.nodup_singleton _
  | .folder _ inner, path, h => nodup_filesOf inner path h.1 h.2
  | .symlink, _, _ => List.nodup_nil
  | .other, _, _ => List.nodup_nil

/-- **No path leads to two files.** -/
theorem nodup_filesOf : ∀ (entries : TreeEntries) (path : List EntryName),
    (entries.map fun e => e.1.file).Nodup → namedEntries entries →
      ((filesOf path entries).map Prod.fst).Nodup
  | [], _, _, _ => List.nodup_nil
  | (name, node) :: rest, path, hnames, hnamed => by
    rw [List.map_cons, List.nodup_cons] at hnames
    rw [filesOf, List.map_append]
    refine List.nodup_append'.mpr ⟨nodup_filesBelow node _ hnamed.1,
      nodup_filesOf rest path hnames.2 hnamed.2, ?_⟩
    intro p hp hp'
    obtain ⟨f, hf, rfl⟩ := List.mem_map.mp hp
    obtain ⟨g, hg, heq⟩ := List.mem_map.mp hp'
    obtain ⟨names, hnamesf, hatf⟩ := (mem_filesBelow path name node).mp hf
    obtain ⟨names', hnamesg, hatg⟩ := (mem_filesOf path rest).mp hg
    rw [hnamesf, hnamesg, List.append_cancel_left_eq] at heq
    obtain ⟨e, he, tail, htail⟩ := hatf.head
    obtain ⟨e', he', tail', htail'⟩ := hatg.head
    rw [List.mem_singleton.mp he] at htail
    rw [htail, htail'] at heq
    obtain ⟨hname, -⟩ := List.cons.inj heq
    exact hnames.1 (List.mem_map.mpr ⟨e', he', by rw [hname]⟩)

end

theorem EntryName.ext {a b : EntryName} (h : a.file = b.file) : a = b := by
  cases a
  cases b
  cases h
  rfl

/-- **A path as it is noted** stands for one path. -/
theorem posixPath_injective {path path' : List EntryName} (h : path ≠ []) (h' : path' ≠ [])
    (heq : posixPath path = posixPath path') : path = path' := by
  refine List.map_injective_iff.mpr (fun a b hab => EntryName.ext hab) ?_
  exact joinPath_injective (by simpa using h) (by simpa using h') heq

theorem nul_notMem_posixPath (path : List EntryName) : nul ∉ posixPath path := by
  intro h
  obtain ⟨n, hn, hmem⟩ := (mem_joinPath (by decide)).mp h
  obtain ⟨e, -, rfl⟩ := List.mem_map.mp hn
  exact e.zeroFree hmem

/-- **The rows of a walk** are the triples of the tree, each once. -/
theorem unwinds_triples (h : Unwinds sha256 tree rows) :
    rows.Nodup ∧ ∀ row, row ∈ rows ↔ row ∈ tree.triples sha256 := by
  have hperm := unwinds_rows sha256 h
  constructor
  · refine hperm.nodup_iff.mpr ?_
    have hpaths := nodup_filesOf tree.entries [] tree.named.1 tree.named.2
    refine List.Nodup.map_on ?_ hpaths.of_map
    intro f hf g hg heq
    obtain ⟨names, hnames, hat⟩ := (mem_filesOf [] tree.entries).mp hf
    obtain ⟨names', hnames', hat'⟩ := (mem_filesOf [] tree.entries).mp hg
    obtain ⟨e, -, tail, htail⟩ := hat.head
    obtain ⟨e', -, tail', htail'⟩ := hat'.head
    have hpath : f.1 = g.1 := by
      refine posixPath_injective ?_ ?_ (congrArg TreeRow.path heq)
      · rw [hnames, htail]
        exact List.cons_ne_nil _ _
      · rw [hnames', htail']
        exact List.cons_ne_nil _ _
    exact List.inj_on_of_nodup_map hpaths hf hg hpath
  · intro row
    rw [hperm.mem_iff, List.mem_map]
    constructor
    · rintro ⟨f, hf, rfl⟩
      obtain ⟨names, hnames, hat⟩ := (mem_filesOf [] tree.entries).mp hf
      refine ⟨names, f.2, hat, ?_⟩
      unfold toRow
      rw [hnames, List.nil_append]
    · rintro ⟨names, data, hat, rfl⟩
      exact ⟨(names, data), (mem_filesOf [] tree.entries).mpr ⟨names, rfl, hat⟩, rfl⟩

end Walk

/-! ## 6. What is hashed -/

/-- The text that is hashed. -/
def rowsText (rows : List TreeRow) : PyText := rows.flatMap rowText

/-- **The bytes of the rows one after another** are those of their texts. -/
theorem digestInput_eq (rows : List TreeRow) :
    digestInput rows = encodeUtf8 (rowsText (rows.insertionSort rowLe)) := by
  unfold digestInput
  generalize rows.insertionSort rowLe = sorted
  induction sorted with
  | nil => rfl
  | cons row rest ih =>
    have htext : rowsText (row :: rest) = rowText row ++ rowsText rest := rfl
    rw [htext, encodeUtf8_append_eq, ← ih, List.mapM_cons]
    cases encodeUtf8 (rowText row) with
    | error e => rfl
    | ok front =>
      cases (List.mapM (fun row => encodeUtf8 (rowText row)) rest) with
      | error e => rfl
      | ok back => rfl

theorem encodeUtf8_injective {t u : PyText} {data : List UInt8} (ht : encodeUtf8 t = .ok data)
    (hu : encodeUtf8 u = .ok data) : t = u := by
  have hboth := (decodeUtf8_encode ht).symm.trans (decodeUtf8_encode hu)
  exact Option.some.inj hboth

/-- A text up to the first mark. -/
theorem append_mark_inj {c : CodePoint} {t t' u u' : PyText} (ht : c ∉ t) (ht' : c ∉ t')
    (h : t ++ c :: u = t' ++ c :: u') : t = t' ∧ u = u' := by
  induction t generalizing t' with
  | nil =>
    cases t' with
    | nil => exact ⟨rfl, (List.cons.inj h).2⟩
    | cons d t' => exact absurd (List.cons.inj h).1 fun heq => ht' (by rw [heq]; simp)
  | cons d t ih =>
    cases t' with
    | nil => exact absurd (List.cons.inj h).1 fun heq => ht (by rw [← heq]; simp)
    | cons d' t' =>
      obtain ⟨rfl, hrest⟩ := List.cons.inj h
      obtain ⟨rfl, rfl⟩ := ih (fun hmem => ht (List.mem_cons_of_mem _ hmem))
        (fun hmem => ht' (List.mem_cons_of_mem _ hmem)) hrest
      exact ⟨rfl, rfl⟩

theorem nul_notMem_natText (n : ℕ) : nul ∉ natText n := by
  intro h
  have hdigit := (isDigits_natText n).2 nul h
  revert hdigit
  decide

theorem encodable_natText (n : ℕ) : encodable (natText n) = true := by
  refine encodable_iff.mpr fun c hc => ?_
  have hdigit := (isDigits_natText n).2 c hc
  unfold isDigit at hdigit
  rw [Bool.and_eq_true] at hdigit
  have hsmall : c.val ≤ 57 := of_decide_eq_true hdigit.2
  unfold isSurrogate
  rw [Bool.and_eq_false_iff]
  exact .inl (decide_eq_false (by omega))

theorem natText_injective {m n : ℕ} (h : natText m = natText n) : m = n := by
  rw [← natOf_natText m, h, natOf_natText]

theorem newline_notMem_digest (digest : Digest) : newline ∉ digest.val := by
  intro h
  have hhex := digest.property
  unfold isSha256Text at hhex
  rw [Bool.and_eq_true, List.all_eq_true] at hhex
  have hnewline := hhex.2 newline h
  revert hnewline
  decide

theorem encodable_rowText {row : TreeRow} (h : encodable row.path = true) :
    encodable (rowText row) = true := by
  have hnul : encodable [nul] = true := by decide
  have hnewline : encodable [newline] = true := by decide
  have hparts : rowText row =
      row.path ++ ([nul] ++ (natText row.size ++ ([nul] ++ (row.digest.val ++ [newline])))) := rfl
  rw [hparts, encodable_append, encodable_append, encodable_append, encodable_append,
    encodable_append, h, hnul, hnewline, encodable_natText,
    isSha256Text_encodable row.digest.property]
  rfl

theorem encodable_rowsText (h : ∀ row ∈ rows, encodable row.path = true) :
    encodable (rowsText rows) = true := by
  refine encodable_iff.mpr fun c hc => ?_
  obtain ⟨row, hrow, hmem⟩ := List.mem_flatMap.mp hc
  exact encodable_iff.mp (encodable_rowText (h row hrow)) c hmem

/-- **The text of rows is read in one way only**: the path up to a NUL, the size up to the next one,
    the digest up to the end of the line. -/
theorem rowsText_injective {rows rows' : List TreeRow} (hrows : ∀ row ∈ rows, nul ∉ row.path)
    (hrows' : ∀ row ∈ rows', nul ∉ row.path) (h : rowsText rows = rowsText rows') :
    rows = rows' := by
  induction rows generalizing rows' with
  | nil =>
    cases rows' with
    | nil => rfl
    | cons row' rest' =>
      have hlength := congrArg List.length h
      simp [rowsText, rowText] at hlength
  | cons row rest ih =>
    cases rows' with
    | nil =>
      have hlength := congrArg List.length h
      simp [rowsText, rowText] at hlength
    | cons row' rest' =>
      unfold rowsText at h
      rw [List.flatMap_cons, List.flatMap_cons, rowText, rowText] at h
      simp only [List.append_assoc, List.cons_append, List.nil_append] at h
      obtain ⟨hpath, h⟩ := append_mark_inj (hrows row (by simp)) (hrows' row' (by simp)) h
      obtain ⟨hsize, h⟩ := append_mark_inj (nul_notMem_natText _) (nul_notMem_natText _) h
      obtain ⟨hdigest, h⟩ :=
        append_mark_inj (newline_notMem_digest _) (newline_notMem_digest _) h
      obtain rfl : rest = rest' := ih (fun r hr => hrows r (List.mem_cons_of_mem _ hr))
        (fun r hr => hrows' r (List.mem_cons_of_mem _ hr)) h
      obtain ⟨path, size, digest⟩ := row
      obtain ⟨path', size', digest'⟩ := row'
      obtain rfl : path = path' := hpath
      obtain rfl := natText_injective hsize
      obtain rfl : digest = digest' := Subtype.ext hdigest
      rfl

/-! ## 7. The order of the rows -/

theorem rowKey_injective {a b : TreeRow} (h : rowKey a = rowKey b) : a = b := by
  obtain ⟨path, size, digest⟩ := a
  obtain ⟨path', size', digest'⟩ := b
  have houter := toLex.injective h
  obtain rfl : path = path' := congrArg Prod.fst houter
  have hinner := toLex.injective (congrArg Prod.snd houter)
  obtain rfl : size = size' := congrArg Prod.fst hinner
  obtain rfl : digest = digest' := Subtype.ext (congrArg Prod.snd hinner)
  rfl

/-- **Sorted rows** are the same for every order of the rows. -/
theorem sorted_eq_of_perm {rows rows' : List TreeRow} (h : rows.Perm rows') :
    rows.insertionSort rowLe = rows'.insertionSort rowLe := by
  have htotal : Std.Total rowLe := ⟨fun a b => le_total (rowKey a) (rowKey b)⟩
  have htrans : IsTrans TreeRow rowLe :=
    ⟨fun a b c (hab : rowKey a ≤ rowKey b) (hbc : rowKey b ≤ rowKey c) => hab.trans hbc⟩
  have hperm : (rows.insertionSort rowLe).Perm (rows'.insertionSort rowLe) :=
    (List.perm_insertionSort rowLe rows).trans (h.trans (List.perm_insertionSort rowLe rows').symm)
  exact hperm.eq_of_pairwise (fun a b _ _ hab hba => rowKey_injective (le_antisymm hab hba))
    (List.pairwise_insertionSort rowLe rows) (List.pairwise_insertionSort rowLe rows')

/-! ## 8. One order and another -/

section Orders

variable (sha256 : List UInt8 → Digest)

/-- **A directory without a fault**: it can be listed, none of its entries fails, and the
    directories in it are without a fault. -/
inductive SoundFolder : PendingFolder → Prop where
  | intro {folder} (hlists : folder.access.lists = true)
    (hentries : ∀ e ∈ folder.entries, ∀ w, ∃ w',
      visitEntry sha256 folder.access (folder.path ++ [e.1]) e.2 w = .ok w')
    (hinner : ∀ inner ∈ foldersIn folder.path folder.entries, SoundFolder inner) :
    SoundFolder folder

/-- Whether an entry fails does not depend on the walk so far. -/
theorem visitEntry_any {name : EntryName} {node : TreeNode}
    (h : visitEntry sha256 access (path ++ [name]) node w = .ok w') (v : TreeWalk) :
    ∃ v', visitEntry sha256 access (path ++ [name]) node v = .ok v' := by
  obtain ⟨detail, herror⟩ | ⟨-, hok⟩ := visitEntry_cases sha256 access path name node
  · cases (herror w).symm.trans h
  · exact ⟨_, hok v⟩

theorem visitEntries_iff (w : TreeWalk) :
    (∃ w', visitEntries sha256 access path entries w = .ok w') ↔
      ∀ e ∈ entries, ∀ v, ∃ v', visitEntry sha256 access (path ++ [e.1]) e.2 v = .ok v' := by
  induction entries generalizing w with
  | nil => exact ⟨fun _ e he => absurd he List.not_mem_nil, fun _ => ⟨w, rfl⟩⟩
  | cons e rest ih =>
    constructor
    · rintro ⟨w', h⟩ e' he' v
      obtain ⟨w₁, hfirst, hrest⟩ := bind_ok h
      rcases List.mem_cons.mp he' with rfl | he'
      · exact visitEntry_any sha256 hfirst v
      · exact (ih w₁).mp ⟨w', hrest⟩ e' he' v
    · intro h
      obtain ⟨w₁, hfirst⟩ := h e List.mem_cons_self w
      obtain ⟨w', hrest⟩ := (ih w₁).mpr fun e' he' => h e' (List.mem_cons_of_mem _ he')
      refine ⟨w', ?_⟩
      unfold visitEntries
      rw [hfirst]
      exact hrest

theorem mem_foldersIn {entries entries' : TreeEntries} (hperm : entries.Perm entries')
    {folder : PendingFolder} : folder ∈ foldersIn path entries ↔ folder ∈ foldersIn path entries' :=
  (hperm.filterMap _).mem_iff

/-- **A walk to the end goes through directories without a fault.** -/
theorem soundFolder_of_unwind (h : Relation.ReflTransGen (Unwind sha256) w w')
    (hend : w'.pending = []) : ∀ folder ∈ w.pending, SoundFolder sha256 folder := by
  induction h using Relation.ReflTransGen.head_induction_on with
  | refl =>
    intro folder hmem
    rw [hend] at hmem
    cases hmem
  | head hstep _ ih =>
    obtain @⟨before, after, folder, listed, rows, w₁, hlisted, hvisit⟩ := hstep
    have hvisited := hvisit
    unfold visitFolder at hvisited
    split at hvisited
    · rename_i hlists
      obtain ⟨-, rfl⟩ := visitFolder_ok sha256 hvisit
      have hentries := (visitEntries_iff sha256 _).mp ⟨_, hvisited⟩
      have hother : ∀ f ∈ before ++ after, SoundFolder sha256 f :=
        fun f hf => ih f (List.mem_append_right _ hf)
      have hfolder : SoundFolder sha256 folder := by
        refine .intro hlists (fun e he => hentries e (hlisted.mem_iff.mpr he)) fun f hf => ?_
        refine ih f (List.mem_append_left _ (List.mem_reverse.mpr ?_))
        exact (mem_foldersIn hlisted).mpr hf
      intro f hf
      rcases List.mem_append.mp hf with hf | hf
      · exact hother f (List.mem_append_left _ hf)
      · rcases List.mem_cons.mp hf with rfl | hf
        · exact hfolder
        · exact hother f (List.mem_append_right _ hf)
    · cases hvisited

/-- **Directories without a fault are walked to the end**, in the order of the code. -/
theorem unwind_of_soundFolder (listing : Listing) (w : TreeWalk)
    (h : ∀ folder ∈ w.pending, SoundFolder sha256 folder) :
    ∃ rows, unwindStack sha256 listing w = .ok rows := by
  have hstep : ∀ {folder : PendingFolder} (v : TreeWalk), SoundFolder sha256 folder →
      ∃ v', visitFolder sha256 folder (sortedNames listing folder) v = .ok v' ∧
        ∀ f ∈ v'.pending, SoundFolder sha256 f ∨ f ∈ v.pending := by
    intro folder v hfolder
    obtain ⟨hlists, hentries, hinner⟩ := hfolder
    have hperm : (sortedNames listing folder).Perm folder.entries :=
      (List.perm_insertionSort _ _).trans (listing.perm folder)
    obtain ⟨v', hv'⟩ := (visitEntries_iff sha256 v).mpr fun e he =>
      hentries e (hperm.mem_iff.mp he)
    have hvisit : visitFolder sha256 folder (sortedNames listing folder) v = .ok v' := by
      unfold visitFolder
      rw [if_pos hlists]
      exact hv'
    refine ⟨v', hvisit, fun f hf => ?_⟩
    obtain ⟨-, rfl⟩ := visitFolder_ok sha256 hvisit
    rcases List.mem_append.mp hf with hf | hf
    · exact Or.inl (hinner f ((mem_foldersIn hperm).mp (List.mem_reverse.mp hf)))
    · exact Or.inr hf
  induction w using unwindStack.induct sha256 listing with
  | case1 noted => exact ⟨noted, by rw [unwindStack]⟩
  | case2 folder pending noted result hvisit =>
    obtain ⟨v', hv', -⟩ := hstep ⟨pending, noted⟩ (h folder (by simp))
    rw [hvisit] at hv'
    cases hv'
  | case3 folder pending noted w hvisit _ ih =>
    rw [unwindStack_cons, hvisit]
    obtain ⟨v', hv', hrest⟩ := hstep ⟨pending, noted⟩ (h folder (by simp))
    rw [hvisit] at hv'
    cases hv'
    refine ih fun f hf => ?_
    rcases hrest f hf with hsound | hold
    · exact hsound
    · exact h f (List.mem_cons_of_mem _ hold)

/-- The paths that were noted are encodable. -/
theorem unwinds_encodable (h : Unwinds sha256 tree rows) :
    ∀ row ∈ rows, encodable row.path = true := by
  have hrun : ∀ {w w' : TreeWalk}, Relation.ReflTransGen (Unwind sha256) w w' →
      (∀ row ∈ w.rows, encodable row.path = true) → ∀ row ∈ w'.rows, encodable row.path = true := by
    intro w w' hww' hrows
    induction hww' with
    | refl => exact hrows
    | tail _ hstep ih =>
      obtain @⟨before, after, folder, listed, rows, w', hlisted, hvisit⟩ := hstep
      obtain ⟨hencodable, rfl⟩ := visitFolder_ok sha256 hvisit
      intro row hrow
      rcases List.mem_append.mp hrow with hrow | hrow
      · exact ih row hrow
      · obtain ⟨e, he, hfile⟩ := List.mem_filterMap.mp hrow
        have hpath := hencodable e he
        cases hnode : e.2 with
        | file opens links content =>
          cases content with
          | none =>
            rw [hnode] at hfile
            cases hfile
          | some data =>
            rw [hnode] at hfile
            cases hfile
            exact hpath
        | _ =>
          rw [hnode] at hfile
          cases hfile
  exact hrun h fun row hrow => absurd hrow List.not_mem_nil

end Orders

/-! ## 9. The digest -/

section Digest

variable (sha256 : List UInt8 → Digest)

/-- A walk that failed is an invalid tree. -/
def IsInvalid (result : ValidationResult) : Prop := ∃ detail, result = .invalid detail

theorem visitEntries_invalid {result : ValidationResult}
    (h : visitEntries sha256 access path entries w = .error result) : IsInvalid result := by
  induction entries generalizing w with
  | nil => cases h
  | cons e rest ih =>
    unfold visitEntries at h
    cases hfirst : visitEntry sha256 access (path ++ [e.1]) e.2 w with
    | error r =>
      rw [hfirst] at h
      cases h
      obtain ⟨detail, herror⟩ | ⟨-, hok⟩ := visitEntry_cases sha256 access path e.1 e.2
      · exact ⟨detail, Except.error.inj (hfirst.symm.trans (herror w))⟩
      · cases hfirst.symm.trans (hok w)
    | ok w' =>
      rw [hfirst] at h
      exact ih h

/-- **Every failure of a walk is an invalid tree.** -/
theorem unwindStack_invalid (listing : Listing) (w : TreeWalk) {result : ValidationResult}
    (h : unwindStack sha256 listing w = .error result) : IsInvalid result := by
  induction w using unwindStack.induct sha256 listing with
  | case1 noted =>
    rw [unwindStack] at h
    cases h
  | case2 folder pending noted r hvisit =>
    rw [unwindStack_cons, hvisit] at h
    cases h
    unfold visitFolder at hvisit
    split at hvisit
    · exact visitEntries_invalid sha256 hvisit
    · exact ⟨_, (Except.error.inj hvisit).symm⟩
  | case3 folder pending noted w hvisit _ ih =>
    rw [unwindStack_cons, hvisit] at h
    exact ih h

/-- **What a valid result says**: the rows of a walk to its end, their sizes and their digest. -/
theorem validateTree_valid {listing : Listing} {size : ℕ} {digest : Digest} {detail : PyText}
    (h : validateTree sha256 listing tree = .ok (.valid size digest detail)) :
    ∃ rows data, unwindStack sha256 listing tree.start = .ok rows ∧ digestInput rows = .ok data ∧
      rows.isEmpty = false ∧ size = (rows.map TreeRow.size).sum ∧ digest = sha256 data ∧
        detail = ofString "valid directory tree" := by
  unfold validateTree at h
  cases hrows : unwindStack sha256 listing tree.start with
  | error result =>
    rw [hrows] at h
    obtain rfl := Except.ok.inj h
    obtain ⟨d, hd⟩ := unwindStack_invalid sha256 listing tree.start hrows
    cases hd
  | ok rows =>
    rw [hrows] at h
    dsimp only at h
    split at h
    · cases h
    · rename_i hempty
      obtain ⟨data, hdata, hresult⟩ := bind_ok h
      cases hresult
      exact ⟨rows, data, rfl, hdata, by simpa using hempty, rfl, rfl, rfl⟩

theorem validateTree_of_rows {listing : Listing} {data : List UInt8}
    (hrows : unwindStack sha256 listing tree.start = .ok rows) (hempty : rows.isEmpty = false)
    (hdata : digestInput rows = .ok data) :
    validateTree sha256 listing tree =
      .ok (.valid (rows.map TreeRow.size).sum (sha256 data) (ofString "valid directory tree")) := by
  unfold validateTree
  rw [hrows]
  dsimp only
  rw [hempty, hdata]
  rfl

/-- **Equal sets of triples, equal bytes**, and the other way round. -/
theorem digestInput_eq_iff {tree tree' : Tree} {rows rows' : List TreeRow}
    (h : Unwinds sha256 tree rows) (h' : Unwinds sha256 tree' rows') :
    (digestInput rows = digestInput rows' ↔ tree.triples sha256 = tree'.triples sha256) ∧
      (tree.triples sha256 = tree'.triples sha256 → rows.Perm rows') ∧
        ∃ data, digestInput rows = .ok data := by
  obtain ⟨hnodup, hmem⟩ := unwinds_triples sha256 h
  obtain ⟨hnodup', hmem'⟩ := unwinds_triples sha256 h'
  have hperm : tree.triples sha256 = tree'.triples sha256 → rows.Perm rows' := by
    intro heq
    refine (List.perm_ext_iff_of_nodup hnodup hnodup').mpr fun row => ?_
    rw [hmem, hmem', heq]
  have hencoded : ∀ {tree rows}, Unwinds sha256 tree rows →
      ∃ data, digestInput rows = .ok data := by
    intro tree rows hunwinds
    rw [digestInput_eq]
    have hok := encodeUtf8_isOk (rowsText (rows.insertionSort rowLe))
    have htext : encodable (rowsText (rows.insertionSort rowLe)) = true := by
      refine encodable_rowsText fun row hrow => ?_
      rw [List.mem_insertionSort] at hrow
      exact unwinds_encodable sha256 hunwinds row hrow
    rw [htext] at hok
    cases hdata : encodeUtf8 (rowsText (rows.insertionSort rowLe)) with
    | ok data => exact ⟨data, rfl⟩
    | error e =>
      rw [hdata] at hok
      cases hok
  have hzero : ∀ {tree rows}, Unwinds sha256 tree rows → ∀ row ∈ rows.insertionSort rowLe,
      nul ∉ row.path := by
    intro tree rows hunwinds row hrow
    rw [List.mem_insertionSort] at hrow
    obtain ⟨names, data, -, rfl⟩ := ((unwinds_triples sha256 hunwinds).2 row).mp hrow
    exact nul_notMem_posixPath names
  refine ⟨⟨fun heq => ?_, fun heq => ?_⟩, hperm, hencoded h⟩
  · obtain ⟨data, hdata⟩ := hencoded h
    obtain ⟨data', hdata'⟩ := hencoded h'
    have hsame : data = data' := by
      rw [hdata, hdata'] at heq
      exact Except.ok.inj heq
    subst hsame
    rw [digestInput_eq] at hdata hdata'
    have htexts := encodeUtf8_injective hdata hdata'
    have hsorted := rowsText_injective (hzero h) (hzero h') htexts
    ext row
    rw [← hmem, ← hmem', ← List.mem_insertionSort rowLe, hsorted, List.mem_insertionSort]
  · rw [digestInput_eq, digestInput_eq, sorted_eq_of_perm (hperm heq)]

/-- **The tree digest identifies the tree.** Whatever the order in which directories are listed and
    taken from the stack, the bytes that are hashed are the same exactly when the sets of paths,
    sizes and digests are; a valid result is made of such bytes; equal sets have equal results; and
    a tree that is valid in one order of listing is valid in every one. -/
theorem tree_digest_identifies (tree tree' : Tree) :
    (∀ rows rows', Unwinds sha256 tree rows → Unwinds sha256 tree' rows' →
      (digestInput rows = digestInput rows' ↔ tree.triples sha256 = tree'.triples sha256)) ∧
    (∀ listing size digest detail,
      validateTree sha256 listing tree = .ok (.valid size digest detail) →
        ∃ rows data, Unwinds sha256 tree rows ∧ digestInput rows = .ok data ∧
          size = (rows.map TreeRow.size).sum ∧ digest = sha256 data) ∧
    (∀ listing listing' size digest detail size' digest' detail',
      validateTree sha256 listing tree = .ok (.valid size digest detail) →
        validateTree sha256 listing' tree' = .ok (.valid size' digest' detail') →
          tree.triples sha256 = tree'.triples sha256 → size = size' ∧ digest = digest') ∧
    ∀ listing listing' size digest detail,
      validateTree sha256 listing tree = .ok (.valid size digest detail) →
        validateTree sha256 listing' tree = .ok (.valid size digest detail) := by
  refine ⟨fun rows rows' h h' => (digestInput_eq_iff sha256 h h').1,
    fun listing size digest detail h => ?_, fun listing listing' _ _ _ _ _ _ h h' heq => ?_,
    fun listing listing' size digest detail h => ?_⟩
  · obtain ⟨rows, data, hrows, hdata, -, hsize, hdigest, -⟩ := validateTree_valid sha256 h
    exact ⟨rows, data, unwinds_of_stack sha256 tree.start hrows, hdata, hsize, hdigest⟩
  · obtain ⟨rows, data, hrows, hdata, -, hsize, hdigest, -⟩ := validateTree_valid sha256 h
    obtain ⟨rows', data', hrows', hdata', -, hsize', hdigest', -⟩ := validateTree_valid sha256 h'
    have hboth := digestInput_eq_iff sha256 (unwinds_of_stack sha256 tree.start hrows)
      (unwinds_of_stack sha256 tree'.start hrows')
    have hsame := hboth.1.mpr heq
    rw [hdata, hdata'] at hsame
    refine ⟨?_, by rw [hdigest, hdigest', Except.ok.inj hsame]⟩
    rw [hsize, hsize']
    exact ((hboth.2.1 heq).map _).sum_eq
  · obtain ⟨rows, data, hrows, hdata, hempty, hsize, hdigest, hdetail⟩ :=
      validateTree_valid sha256 h
    have hwalk := unwinds_of_stack sha256 tree.start hrows
    obtain ⟨rows', hrows'⟩ := unwind_of_soundFolder sha256 listing' tree.start
      (soundFolder_of_unwind sha256 hwalk rfl)
    have hboth := digestInput_eq_iff sha256 hwalk (unwinds_of_stack sha256 tree.start hrows')
    have hperm := hboth.2.1 rfl
    have hempty' : rows'.isEmpty = false := by
      rw [List.isEmpty_eq_false_iff] at hempty ⊢
      exact fun hnil => hempty (List.Perm.eq_nil (hnil ▸ hperm))
    have hdata' : digestInput rows' = .ok data := (hboth.1.mpr rfl).symm.trans hdata
    rw [validateTree_of_rows sha256 hrows' hempty' hdata', hsize, hdigest, hdetail,
      (hperm.map TreeRow.size).sum_eq]

end Digest

/-- `sha256` on the bytes of two files and of the rows they give. -/
def sampleSha256 (data : List UInt8) : Digest :=
  if data = [1] then
    ⟨ofString "4bf5122f344554c53bde2ebb8cd2b7e3d1600ad631c385a5d7cce23c7785459a", by decide⟩
  else if data = [] then
    ⟨ofString "e3b0c44298fc1c149afbf4c8996fb92427ae41e4649b934ca495991b7852b855", by decide⟩
  else
    ⟨ofString "fea05da682e6eeb225e935dec344db8563d5131d4fd453fb3b57355aa91d0291", by decide⟩

def sampleFolder : EntryName × TreeNode :=
  (⟨⟨ofString "b", by decide, by decide, by decide⟩, by decide⟩,
    .folder ⟨true, true, true⟩
      [(⟨⟨ofString "c", by decide, by decide, by decide⟩, by decide⟩, .file true 1 (some []))])

/-- A file, and a directory with an empty file in it. -/
def sampleTree : Tree where
  access := ⟨true, true, true⟩
  entries :=
    [sampleFolder,
      (⟨⟨ofString "a", by decide, by decide, by decide⟩, by decide⟩, .file true 1 (some [1]))]
  named := ⟨by decide, ⟨⟨by decide, trivial, trivial⟩, trivial, trivial⟩⟩

/-- Its rows. -/
def sampleRows : List TreeRow :=
  [⟨ofString "a", 1, sampleSha256 [1]⟩, ⟨ofString "b/c", 0, sampleSha256 []⟩]

/-- The names as they are stored, and from the last to the first. -/
def storedOrder : Listing := ⟨fun folder => folder.entries, fun _ => .refl _⟩

def reverseOrder : Listing :=
  ⟨fun folder => folder.entries.reverse, fun folder => folder.entries.reverse_perm⟩

theorem tree_digest_identifies_sample :
    validateTree sampleSha256 reverseOrder sampleTree =
      .ok (.valid 1 (sampleSha256 [0]) (ofString "valid directory tree")) := by
  refine (tree_digest_identifies sampleSha256 sampleTree sampleTree).2.2.2 storedOrder
    reverseOrder 1 (sampleSha256 [0]) _ ?_
  have hend : ∀ rows, unwindStack sampleSha256 storedOrder ⟨[], rows⟩ = .ok rows :=
    fun rows => by rw [unwindStack]
  have hroot : visitFolder sampleSha256 ⟨[], sampleTree.access, sampleTree.entries⟩
      (sortedNames storedOrder ⟨[], sampleTree.access, sampleTree.entries⟩) ⟨[], []⟩ =
        .ok ⟨foldersIn [] [sampleFolder],
          [⟨ofString "a", 1, sampleSha256 [1]⟩]⟩ := by rfl
  have hinner : ∀ folder ∈ foldersIn [] [sampleFolder],
      visitFolder sampleSha256 folder (sortedNames storedOrder folder)
        ⟨[], [⟨ofString "a", 1, sampleSha256 [1]⟩]⟩ = .ok ⟨[], sampleRows⟩ := by
    intro folder hmem
    cases List.mem_singleton.mp hmem
    rfl
  have hwalk : unwindStack sampleSha256 storedOrder sampleTree.start = .ok sampleRows := by
    unfold Tree.start
    rw [unwindStack_cons, hroot, ok_bind]
    show unwindStack sampleSha256 storedOrder ⟨_ :: [], _⟩ = _
    rw [unwindStack_cons, hinner _ List.mem_cons_self, ok_bind, hend]
  have hdata : ∃ data, digestInput sampleRows = .ok data ∧
      sampleSha256 data = sampleSha256 [0] := ⟨_, rfl, by rfl⟩
  obtain ⟨data, hbytes, hdigest⟩ := hdata
  rw [validateTree_of_rows sampleSha256 hwalk rfl hbytes, hdigest]
  rfl

end DroneSim
