/-
  File:      DroneSim/Library/Folder.lean
  Subject:   One folder of a file system.

  A name leads to the number of a file, a file has data and counts the names that lead to it. The
  operations are the calls of the system: a file is created under a new name, changed through its
  number, gets a second name, loses one, and is moved over another name in one step. Each has its
  laws about what the names lead to and what the files hold; a file that no operation names stays
  as it is.
-/
import Mathlib.Data.List.Basic

namespace DroneSim.Library

variable {β : Type}

/-- A file: its data, how many names lead to it, and how often it was changed. -/
structure Inode (β : Type) where
  data : β
  links : ℕ
  changes : ℕ
  deriving DecidableEq, Repr

/-- The data of a file changed. -/
def Inode.store (f : β → β) (i : Inode β) : Inode β := ⟨f i.data, i.links, i.changes + 1⟩

/-- The names of a file counted anew. -/
def Inode.count (f : ℕ → ℕ) (i : Inode β) : Inode β := ⟨i.data, f i.links, i.changes + 1⟩

/-- A folder. Every name leads to a file that is there. -/
structure Folder (β : Type) where
  entries : String → Option ℕ
  files : List (Inode β)
  bounded : ∀ name ino, entries name = some ino → ino < files.length

namespace Folder

/-! ## 1. Operations -/

theorem empty_bounded (name : String) (ino : ℕ) (h : (fun _ => none) name = some ino) :
    ino < ([] : List (Inode β)).length := by
  cases h

/-- The folder without names. -/
def empty : Folder β := ⟨fun _ => none, [], empty_bounded⟩

/-- The file under a number. -/
def file (d : Folder β) (ino : ℕ) : Option (Inode β) := d.files[ino]?

/-- The data under a name. -/
def read (d : Folder β) (name : String) : Option β :=
  ((d.entries name).bind d.file).map Inode.data

/-- The names after one of them changed. -/
def assign (entries : String → Option ℕ) (name : String) (ino : Option ℕ) : String → Option ℕ :=
  fun other => if other = name then ino else entries other

theorem assign_bounded {d : Folder β} {name : String} {dest : Option ℕ} {n : ℕ}
    (hle : d.files.length ≤ n) (hdest : ∀ ino, dest = some ino → ino < n) (other : String) (ino : ℕ)
    (h : assign d.entries name dest other = some ino) : ino < n := by
  unfold assign at h
  split at h
  · exact hdest ino h
  · exact Nat.lt_of_lt_of_le (d.bounded other ino h) hle

theorem create_bounded (d : Folder β) (name : String) (b : β) (other : String) (ino : ℕ)
    (h : assign d.entries name (some d.files.length) other = some ino) :
    ino < (d.files ++ [Inode.mk b 1 0]).length := by
  rw [List.length_append, List.length_singleton]
  refine assign_bounded (Nat.le_succ _) (fun n hn => ?_) other ino h
  obtain rfl := Option.some.inj hn
  exact Nat.lt_succ_self _

/-- `open` with `O_CREAT | O_EXCL`, where the name is free. -/
def create (d : Folder β) (name : String) (b : β) : Folder β where
  entries := assign d.entries name (some d.files.length)
  files := d.files ++ [⟨b, 1, 0⟩]
  bounded := d.create_bounded name b

theorem modify_bounded (d : Folder β) (ino : ℕ) (f : Inode β → Inode β) (name : String) (n : ℕ)
    (h : d.entries name = some n) : n < (d.files.modify ino f).length := by
  rw [List.length_modify]
  exact d.bounded name n h

/-- A file changed through its number. -/
def modify (d : Folder β) (ino : ℕ) (f : Inode β → Inode β) : Folder β where
  entries := d.entries
  files := d.files.modify ino f
  bounded := d.modify_bounded ino f

/-- The data of a file changed. -/
def rewrite (d : Folder β) (ino : ℕ) (f : β → β) : Folder β :=
  d.modify ino (Inode.store f)

/-- The links of the file under a name counted anew. -/
def recount (d : Folder β) (name : String) (f : ℕ → ℕ) : Folder β :=
  match d.entries name with
  | some ino => d.modify ino (Inode.count f)
  | none => d

theorem lead_bounded (d : Folder β) (name : String) (dest : Option ℕ)
    (hdest : ∀ ino, dest = some ino → ino < d.files.length) (other : String) (ino : ℕ)
    (h : assign d.entries name dest other = some ino) : ino < d.files.length :=
  assign_bounded (Nat.le_refl _) hdest other ino h

theorem none_bounded (d : Folder β) : ∀ ino, none = some ino → ino < d.files.length := by
  intro _ h
  cases h

/-- The new name leads where the old one leads. -/
def name (d : Folder β) (old new : String) : Folder β where
  entries := assign d.entries new (d.entries old)
  files := d.files
  bounded := d.lead_bounded new (d.entries old) (d.bounded old)

/-- The name leads nowhere. -/
def unname (d : Folder β) (name : String) : Folder β where
  entries := assign d.entries name none
  files := d.files
  bounded := d.lead_bounded name none d.none_bounded

/-- `link`, where the old name leads to a file and the new one is free. -/
def link (d : Folder β) (old new : String) : Folder β := (d.recount old (· + 1)).name old new

/-- `unlink`. -/
def unlink (d : Folder β) (name : String) : Folder β := (d.recount name (· - 1)).unname name

/-- `rename`, where the old name leads to a file and the names differ: the new name leads to that
    file in one step, and the one it led to loses a name. -/
def rename (d : Folder β) (old new : String) : Folder β :=
  ((d.recount new (· - 1)).name old new).unname old

/-! ## 2. Names -/

section Names

variable (d : Folder β)

theorem entries_create (name : String) (b : β) (other : String) :
    (d.create name b).entries other = if other = name then some d.files.length
      else d.entries other := rfl

@[simp] theorem entries_recount (name : String) (f : ℕ → ℕ) :
    (d.recount name f).entries = d.entries := by
  unfold recount
  split
  · rfl
  · rfl

theorem entries_link (old new other : String) :
    (d.link old new).entries other = if other = new then d.entries old else d.entries other := by
  show assign (d.recount old (· + 1)).entries new ((d.recount old (· + 1)).entries old) other = _
  rw [entries_recount]
  rfl

theorem entries_unlink (name other : String) :
    (d.unlink name).entries other = if other = name then none else d.entries other := by
  show assign (d.recount name (· - 1)).entries name none other = _
  rw [entries_recount]
  rfl

theorem entries_rename (old new other : String) :
    (d.rename old new).entries other =
      if other = old then none else if other = new then d.entries old else d.entries other := by
  show assign (assign (d.recount new (· - 1)).entries new ((d.recount new (· - 1)).entries old))
    old none other = _
  rw [entries_recount]
  rfl

end Names

/-! ## 3. Files -/

section Files

variable {d : Folder β}

theorem file_create {name : String} {b : β} {ino : ℕ} (h : ino < d.files.length) :
    (d.create name b).file ino = d.file ino := List.getElem?_append_left h

theorem file_create_new (name : String) (b : β) :
    (d.create name b).file d.files.length = some ⟨b, 1, 0⟩ := List.getElem?_concat_length

theorem file_modify (ino n : ℕ) (f : Inode β → Inode β) :
    (d.modify ino f).file n = if ino = n then (d.file n).map f else d.file n := by
  show (d.files.modify ino f)[n]? = _
  rw [List.getElem?_modify]
  split
  · rfl
  · exact Option.map_id'

theorem file_rewrite (ino n : ℕ) (f : β → β) : (d.rewrite ino f).file n =
    if ino = n then (d.file n).map (Inode.store f) else d.file n :=
  file_modify ino n _

theorem file_recount {name : String} {ino : ℕ} (h : d.entries name = some ino) (n : ℕ)
    (f : ℕ → ℕ) : (d.recount name f).file n =
      if ino = n then (d.file n).map (Inode.count f) else d.file n := by
  unfold recount
  rw [h]
  exact file_modify ino n _

theorem file_recount_none {name : String} (h : d.entries name = none) (f : ℕ → ℕ) :
    d.recount name f = d := by
  unfold recount
  rw [h]

theorem file_link {old new : String} {ino : ℕ} (h : d.entries old = some ino) (n : ℕ) :
    (d.link old new).file n = if ino = n then (d.file n).map (Inode.count (· + 1)) else d.file n :=
  file_recount h n _

theorem file_unlink {name : String} {ino : ℕ} (h : d.entries name = some ino) (n : ℕ) :
    (d.unlink name).file n = if ino = n then (d.file n).map (Inode.count (· - 1)) else d.file n :=
  file_recount h n _

/-- The names of a file do not change what it holds. -/
theorem data_recount (name : String) (n : ℕ) (f : ℕ → ℕ) :
    ((d.recount name f).file n).map Inode.data = (d.file n).map Inode.data := by
  cases h : d.entries name with
  | none => rw [file_recount_none h]
  | some ino =>
    rw [file_recount h]
    split
    · rw [Option.map_map]
      rfl
    · rfl

end Files

/-! ## 4. What a name holds -/

section Holds

variable {d : Folder β} {name other : String}

theorem read_of_entries {ino : ℕ} (h : d.entries name = some ino) :
    d.read name = (d.file ino).map Inode.data := by
  unfold read
  rw [h]
  rfl

theorem read_none (h : d.entries name = none) : d.read name = none := by
  unfold read
  rw [h]
  rfl

/-- A name that leads to the same number, whose file holds the same, holds the same. -/
theorem read_congr {d' : Folder β} (hentries : d'.entries name = d.entries name)
    (hfile : ∀ ino, d.entries name = some ino →
      (d'.file ino).map Inode.data = (d.file ino).map Inode.data) : d'.read name = d.read name := by
  cases h : d.entries name with
  | none => rw [read_none h, read_none (hentries.trans h)]
  | some ino => rw [read_of_entries h, read_of_entries (hentries.trans h), hfile ino h]

theorem read_create (b : β) (h : other ≠ name) : (d.create name b).read other = d.read other :=
  read_congr (if_neg h) fun ino hino => by rw [file_create (d.bounded other ino hino)]

theorem read_rewrite {ino : ℕ} (f : β → β) (h : d.entries name ≠ some ino) :
    (d.rewrite ino f).read name = d.read name :=
  read_congr rfl fun n hn => by
    rw [file_rewrite, if_neg]
    rintro rfl
    exact h hn

theorem read_unlink (h : other ≠ name) : (d.unlink name).read other = d.read other :=
  read_congr (by rw [entries_unlink, if_neg h]) fun ino _ => data_recount name ino _

/-- **The new name holds what the old one held.** -/
theorem read_rename {ino : ℕ} (hino : d.entries name = some ino) (h : other ≠ name) :
    (d.rename name other).read other = (d.file ino).map Inode.data := by
  have hentries : (d.rename name other).entries other = some ino := by
    rw [entries_rename, if_neg h, if_pos rfl, hino]
  rw [read_of_entries hentries]
  exact data_recount other ino _

end Holds

end Folder

end DroneSim.Library
