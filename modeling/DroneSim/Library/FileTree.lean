/-
  File:      DroneSim/Library/FileTree.lean
  Subject:   Folders within folders, and the two ways to list them.

  `At entries path node`: the names of `path` lead from a folder with these entries through folders
  to `node`; a link on the way is not followed. `walk` lists the folders with the names in each
  that lead to no folder, `glob` the entries whose name passes a test. `mem_walk_folders`,
  `mem_walk_files` and `mem_glob` say what is listed, in terms of `At`.
-/
import DroneSim.Library.PyText

namespace DroneSim.Library

/-! ## 1. Trees -/

/-- An entry of a folder: a folder, a link that leads to a folder or not, or anything else. -/
inductive FileNode where
  | file
  | link (toFolder : Bool)
  | folder (entries : List (FileName × FileNode))

namespace FileNode

/-- `entry.is_dir()`: links are followed. -/
def isDir : FileNode → Bool
  | .file => false
  | .link toFolder => toFolder
  | .folder _ => true

/-- `stat.S_ISDIR(path.lstat().st_mode)`: links are not followed. -/
def isFolder : FileNode → Bool
  | .folder _ => true
  | _ => false

/-- **What a path leads to, no link followed on the way.** -/
inductive At : List (FileName × FileNode) → List FileName → FileNode → Prop where
  | here {entries name node} (h : (name, node) ∈ entries) : At entries [name] node
  | inside {entries name inner path node} (h : (name, FileNode.folder inner) ∈ entries)
    (hinside : At inner path node) : At entries (name :: path) node

/-- The entry under a path, no link followed on the way. -/
def lookup (entries : List (FileName × FileNode)) : List FileName → Option FileNode
  | [] => some (.folder entries)
  | name :: path =>
    match (entries.find? fun e => e.1 = name).map Prod.snd with
    | none => none
    | some (.folder inner) => lookup inner path
    | some node => if path = [] then some node else none

variable {entries : List (FileName × FileNode)} {path : List FileName}

theorem At.ne_nil {node : FileNode} (h : At entries path node) : path ≠ [] := by
  cases h with
  | here _ => exact List.cons_ne_nil _ _
  | inside _ _ => exact List.cons_ne_nil _ _

theorem not_at_nil {node : FileNode} : ¬ At [] path node := by
  intro h
  cases h with
  | here hmem => cases hmem
  | inside hmem _ => cases hmem

/-- The first entry, what is below it, or another entry. -/
theorem at_cons {name : FileName} {first : FileNode} {rest : List (FileName × FileNode)}
    {node : FileNode} :
    At ((name, first) :: rest) path node ↔
      (path = [name] ∧ node = first) ∨
        (∃ inner tail, first = .folder inner ∧ path = name :: tail ∧ At inner tail node) ∨
          At rest path node := by
  constructor
  · intro h
    cases h with
    | here hmem =>
      rcases List.mem_cons.mp hmem with heq | hmem
      · cases heq
        exact .inl ⟨rfl, rfl⟩
      · exact .inr (.inr (.here hmem))
    | inside hmem hinside =>
      rcases List.mem_cons.mp hmem with heq | hmem
      · cases heq
        exact .inr (.inl ⟨_, _, rfl, rfl, hinside⟩)
      · exact .inr (.inr (.inside hmem hinside))
  · rintro (⟨rfl, rfl⟩ | ⟨inner, tail, rfl, rfl, h⟩ | h)
    · exact .here List.mem_cons_self
    · exact .inside List.mem_cons_self h
    · cases h with
      | here hmem => exact .here (List.mem_cons_of_mem _ hmem)
      | inside hmem hinside => exact .inside (List.mem_cons_of_mem _ hmem) hinside

/-! ## 2. `os.walk` -/

/-- The names in a folder that lead to no folder. -/
def fileNames (entries : List (FileName × FileNode)) : List FileName :=
  (entries.filter fun e => !e.2.isDir).map Prod.fst

theorem mem_fileNames {name : FileName} :
    name ∈ fileNames entries ↔ ∃ node, (name, node) ∈ entries ∧ node.isDir = false := by
  unfold fileNames
  rw [List.mem_map]
  constructor
  · rintro ⟨⟨m, node⟩, hmem, rfl⟩
    rw [List.mem_filter] at hmem
    exact ⟨node, hmem.1, by simpa using hmem.2⟩
  · rintro ⟨node, hmem, hdir⟩
    exact ⟨(name, node), List.mem_filter.mpr ⟨hmem, by simp [hdir]⟩, rfl⟩

mutual

/-- `os.walk(top, followlinks=False)`: each folder, and the names in it that lead to no folder. -/
def walk (path : List FileName) : FileNode → List (List FileName × List FileName)
  | .file => []
  | .link _ => []
  | .folder entries => (path, fileNames entries) :: walkEntries path entries

def walkEntries (path : List FileName) :
    List (FileName × FileNode) → List (List FileName × List FileName)
  | [] => []
  | (name, node) :: rest => walk (path ++ [name]) node ++ walkEntries path rest

end

/-- Where the folders of a walk are. -/
def WalkedFrom (path : List FileName) (entries : List (FileName × FileNode))
    (visit : List FileName × List FileName) : Prop :=
  ∃ tail inner, At entries tail (.folder inner) ∧ visit = (path ++ tail, fileNames inner)

mutual

theorem mem_walk (path : List FileName) : ∀ (node : FileNode) (visit : List FileName × List FileName),
    visit ∈ walk path node ↔ ∃ entries, node = .folder entries ∧
      (visit = (path, fileNames entries) ∨ WalkedFrom path entries visit)
  | .file, visit => by simp [walk]
  | .link _, visit => by simp [walk]
  | .folder entries, visit => by
    unfold walk
    rw [List.mem_cons, mem_walkEntries path entries visit]
    constructor
    · intro h
      exact ⟨entries, rfl, h⟩
    · rintro ⟨entries', heq, h⟩
      cases heq
      exact h

theorem mem_walkEntries (path : List FileName) : ∀ (entries : List (FileName × FileNode))
    (visit : List FileName × List FileName),
    visit ∈ walkEntries path entries ↔ WalkedFrom path entries visit
  | [], visit => by
    unfold walkEntries WalkedFrom
    constructor
    · intro h
      cases h
    · rintro ⟨tail, inner, hat, -⟩
      exact absurd hat not_at_nil
  | (name, node) :: rest, visit => by
    unfold walkEntries
    rw [List.mem_append, mem_walk (path ++ [name]) node visit, mem_walkEntries path rest visit]
    unfold WalkedFrom
    constructor
    · rintro (⟨entries, rfl, rfl | ⟨tail, inner, hat, rfl⟩⟩ | ⟨tail, inner, hat, rfl⟩)
      · exact ⟨[name], entries, at_cons.mpr (.inl ⟨rfl, rfl⟩), rfl⟩
      · exact ⟨name :: tail, inner, at_cons.mpr (.inr (.inl ⟨entries, tail, rfl, rfl, hat⟩)),
          by rw [List.append_assoc]; rfl⟩
      · exact ⟨tail, inner, at_cons.mpr (.inr (.inr hat)), rfl⟩
    · rintro ⟨tail, inner, hat, rfl⟩
      rcases at_cons.mp hat with ⟨rfl, heq⟩ | ⟨entries, deeper, rfl, rfl, hinner⟩ | hat
      · exact .inl ⟨inner, heq.symm, .inl rfl⟩
      · exact .inl ⟨entries, rfl, .inr ⟨deeper, inner, hinner, by rw [List.append_assoc]; rfl⟩⟩
      · exact .inr ⟨tail, inner, hat, rfl⟩

end

/-- **The folders of a walk.** -/
theorem mem_walk_folders {path folder : List FileName} :
    (∃ names, (folder, names) ∈ walk path (.folder entries)) ↔
      folder = path ∨ ∃ tail inner, At entries tail (.folder inner) ∧ folder = path ++ tail := by
  constructor
  · rintro ⟨names, h⟩
    obtain ⟨entries', heq, h⟩ := (mem_walk path _ _).mp h
    cases heq
    rcases h with h | ⟨tail, inner, hat, h⟩
    · exact .inl (congrArg Prod.fst h)
    · exact .inr ⟨tail, inner, hat, congrArg Prod.fst h⟩
  · rintro (rfl | ⟨tail, inner, hat, rfl⟩)
    · exact ⟨fileNames entries, (mem_walk _ _ _).mpr ⟨entries, rfl, .inl rfl⟩⟩
    · exact ⟨fileNames inner, (mem_walk _ _ _).mpr ⟨entries, rfl, .inr ⟨tail, inner, hat, rfl⟩⟩⟩

/-- An entry is in the top folder, or in a folder below it. -/
theorem at_snoc {node : FileNode} :
    At entries path node ↔ (∃ name, path = [name] ∧ (name, node) ∈ entries) ∨
      ∃ tail inner name, At entries tail (.folder inner) ∧ (name, node) ∈ inner ∧
        path = tail ++ [name] := by
  constructor
  · intro h
    induction h with
    | here hmem => exact .inl ⟨_, rfl, hmem⟩
    | @inside entries name inner path node hmem hinside ih =>
      right
      rcases ih with ⟨last, rfl, hin⟩ | ⟨tail, deeper, last, hat, hin, rfl⟩
      · exact ⟨[name], inner, last, .here hmem, hin, rfl⟩
      · exact ⟨name :: tail, deeper, last, .inside hmem hat, hin, rfl⟩
  · rintro (⟨name, rfl, hmem⟩ | ⟨tail, inner, name, hat, hmem, rfl⟩)
    · exact .here hmem
    · generalize hfolder : FileNode.folder inner = f at hat
      induction hat with
      | here h =>
        subst hfolder
        exact .inside h (.here hmem)
      | inside h _ ih => exact .inside h (ih hfolder)

/-- **The files of a walk.** -/
theorem mem_walk_files {path file : List FileName} :
    (∃ folder names name, (folder, names) ∈ walk path (.folder entries) ∧ name ∈ names ∧
        file = folder ++ [name]) ↔
      ∃ tail node, At entries tail node ∧ node.isDir = false ∧ file = path ++ tail := by
  constructor
  · rintro ⟨folder, names, name, h, hname, rfl⟩
    obtain ⟨entries', heq, h⟩ := (mem_walk path _ _).mp h
    cases heq
    rcases h with h | ⟨tail, inner, hat, h⟩
    · cases h
      obtain ⟨node, hmem, hdir⟩ := mem_fileNames.mp hname
      exact ⟨[name], node, .here hmem, hdir, rfl⟩
    · cases h
      obtain ⟨node, hmem, hdir⟩ := mem_fileNames.mp hname
      exact ⟨tail ++ [name], node, at_snoc.mpr (.inr ⟨tail, inner, name, hat, hmem, rfl⟩), hdir,
        List.append_assoc _ _ _⟩
  · rintro ⟨tail, node, hat, hdir, rfl⟩
    rcases at_snoc.mp hat with ⟨name, rfl, hmem⟩ | ⟨front, inner, name, hfront, hmem, rfl⟩
    · exact ⟨path, fileNames entries, name, (mem_walk _ _ _).mpr ⟨entries, rfl, .inl rfl⟩,
        mem_fileNames.mpr ⟨node, hmem, hdir⟩, rfl⟩
    · exact ⟨path ++ front, fileNames inner, name,
        (mem_walk _ _ _).mpr ⟨entries, rfl, .inr ⟨front, inner, hfront, rfl⟩⟩,
        mem_fileNames.mpr ⟨node, hmem, hdir⟩, (List.append_assoc _ _ _).symm⟩

/-! ## 3. `Path.rglob` -/

mutual

/-- `path.rglob(pattern)`: the entries below a node whose name passes a test, with their paths. -/
def glob (matchesName : FileName → Bool) (path : List FileName) :
    FileNode → List (List FileName × FileNode)
  | .file => []
  | .link _ => []
  | .folder entries => globEntries matchesName path entries

def globEntries (matchesName : FileName → Bool) (path : List FileName) :
    List (FileName × FileNode) → List (List FileName × FileNode)
  | [] => []
  | (name, node) :: rest =>
    (if matchesName name then [(path ++ [name], node)] else []) ++
      (glob matchesName (path ++ [name]) node ++ globEntries matchesName path rest)

end

/-- What a search finds from a folder. -/
def FoundFrom (matchesName : FileName → Bool) (path : List FileName)
    (entries : List (FileName × FileNode)) (found : List FileName × FileNode) : Prop :=
  ∃ tail name, tail.getLast? = some name ∧ matchesName name = true ∧ At entries tail found.2 ∧
    found.1 = path ++ tail

mutual

theorem mem_glob (matchesName : FileName → Bool) (path : List FileName) :
    ∀ (node : FileNode) (found : List FileName × FileNode),
    found ∈ glob matchesName path node ↔
      ∃ entries, node = .folder entries ∧ FoundFrom matchesName path entries found
  | .file, found => by simp [glob]
  | .link _, found => by simp [glob]
  | .folder entries, found => by
    unfold glob
    rw [mem_globEntries matchesName path entries found]
    constructor
    · intro h
      exact ⟨entries, rfl, h⟩
    · rintro ⟨entries', heq, h⟩
      cases heq
      exact h

/-- **What `rglob` finds.** -/
theorem mem_globEntries (matchesName : FileName → Bool) (path : List FileName) :
    ∀ (entries : List (FileName × FileNode)) (found : List FileName × FileNode),
    found ∈ globEntries matchesName path entries ↔ FoundFrom matchesName path entries found
  | [], found => by
    unfold globEntries FoundFrom
    constructor
    · intro h
      cases h
    · rintro ⟨tail, name, -, -, hat, -⟩
      exact absurd hat not_at_nil
  | (name, node) :: rest, found => by
    unfold globEntries
    rw [List.mem_append, List.mem_append, mem_glob matchesName (path ++ [name]) node found,
      mem_globEntries matchesName path rest found]
    unfold FoundFrom
    constructor
    · rintro (h | ⟨entries, rfl, tail, last, hlast, hmatch, hat, heq⟩ |
        ⟨tail, last, hlast, hmatch, hat, heq⟩)
      · split at h
        · rename_i hmatch
          rw [List.mem_singleton] at h
          subst h
          exact ⟨[name], name, rfl, hmatch, at_cons.mpr (.inl ⟨rfl, rfl⟩), rfl⟩
        · cases h
      · refine ⟨name :: tail, last, ?_, hmatch,
          at_cons.mpr (.inr (.inl ⟨entries, tail, rfl, rfl, hat⟩)), ?_⟩
        · rw [List.getLast?_cons, hlast]
          rfl
        · rw [heq, List.append_assoc]
          rfl
      · exact ⟨tail, last, hlast, hmatch, at_cons.mpr (.inr (.inr hat)), heq⟩
    · rintro ⟨tail, last, hlast, hmatch, hat, heq⟩
      rcases at_cons.mp hat with ⟨rfl, hnode⟩ | ⟨entries, deeper, rfl, rfl, hinner⟩ | hat
      · have hname : name = last := Option.some.inj hlast
        left
        rw [hname, if_pos hmatch, List.mem_singleton, ← hname]
        exact Prod.ext heq hnode
      · refine .inr (.inl ⟨entries, rfl, deeper, last, ?_, hmatch, hinner, ?_⟩)
        · obtain ⟨c, cs, hcons⟩ := List.exists_cons_of_ne_nil hinner.ne_nil
          rw [hcons] at hlast ⊢
          rwa [List.getLast?_cons_cons] at hlast
        · rw [heq, List.append_assoc]
          rfl
      · exact .inr (.inr ⟨tail, last, hlast, hmatch, hat, heq⟩)

end

end FileNode

end DroneSim.Library
