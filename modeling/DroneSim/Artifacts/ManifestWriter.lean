/-
  File:      DroneSim/Artifacts/ManifestWriter.lean
  Subject:   The publication of manifest.json (artifacts/manifest.py) under readers
             (artifacts/protocol_files.py).

  `write_manifest_atomic` writes a temporary file, links it under the name of the manifest and
  removes the temporary name. Any number of calls with one manifest run beside each other and
  after each other, each may raise or be killed between two steps, and readers look at the name at
  any time. A reader refuses a file with more than one name, and one that changed while it read.
-/
import DroneSim.Artifacts.ProtocolFiles

namespace DroneSim

open Library

/-- The name of the manifest. -/
def manifestName : String := "manifest.json"

/-- A name that `mkstemp` may choose. -/
def manifestTemporary (random : String) : String := ".manifest.json." ++ random ++ ".tmp"

theorem manifestTemporary_ne (random : String) : manifestTemporary random ≠ manifestName := by
  intro h
  have hlength := congrArg String.length h
  unfold manifestTemporary manifestName at hlength
  rw [String.length_append, String.length_append] at hlength
  have hprefix : ".manifest.json.".length = 15 := by decide +kernel
  have hname : "manifest.json".length = 13 := by decide +kernel
  omega

/-! ## 1. A call of `write_manifest_atomic` -/

/-- How far a call has come: the step that is next. -/
inductive PublishPhase where
  | encoding
  | naming
  | writing (temporary : String) (ino written : ℕ)
  | syncing (temporary : String)
  | linking (temporary : String)
  | resolving (temporary : String)
  | cleaning (temporary : String) (published : Bool)
  | syncingFolder (published : Bool)
  | finished (published : Bool)
  | killed
  deriving DecidableEq

namespace PublishPhase

/-- The temporary name that the call has. -/
def temporary : PublishPhase → Option String
  | .writing temporary _ _ => some temporary
  | .syncing temporary => some temporary
  | .linking temporary => some temporary
  | .resolving temporary => some temporary
  | .cleaning temporary _ => some temporary
  | _ => none

/-- The call is over. -/
def isOver : PublishPhase → Bool
  | .finished _ => true
  | .killed => true
  | _ => false

end PublishPhase

/-- **The steps of a call.** `payload` is `canonical_manifest_bytes(manifest)`. -/
inductive PublishStep (payload : List UInt8) : Folder RegularFile → PublishPhase →
    Folder RegularFile → PublishPhase → Prop where
  | encoded {d} : PublishStep payload d .encoding d .naming
  | named {d} (random : String) (hfree : d.entries (manifestTemporary random) = none) :
    PublishStep payload d .naming (d.create (manifestTemporary random) ⟨[], 0o600⟩)
      (.writing (manifestTemporary random) d.files.length 0)
  | wrote {d temporary ino written} (count : ℕ) (hleft : written + count ≤ payload.length) :
    PublishStep payload d (.writing temporary ino written)
      (d.rewrite ino fun f => { f with content := f.content ++ (payload.drop written).take count })
      (.writing temporary ino (written + count))
  | flushed {d temporary ino} :
    PublishStep payload d (.writing temporary ino payload.length) d (.syncing temporary)
  | synced {d temporary} : PublishStep payload d (.syncing temporary) d (.linking temporary)
  | linked {d temporary} (hfree : d.entries manifestName = none) :
    PublishStep payload d (.linking temporary) (d.link temporary manifestName)
      (.cleaning temporary true)
  -- `TimeoutError` out of the publication, after the link was made
  | linkedLate {d temporary} (hfree : d.entries manifestName = none) :
    PublishStep payload d (.linking temporary) (d.link temporary manifestName)
      (.resolving temporary)
  -- `FileExistsError`, or `TimeoutError` before the link was made
  | refused {d temporary} : PublishStep payload d (.linking temporary) d (.resolving temporary)
  | identical {d temporary f} (hread : d.read manifestName = some f) (hsame : f.content = payload) :
    PublishStep payload d (.resolving temporary) d (.cleaning temporary true)
  | raisesOver {d phase temporary} (htemporary : phase.temporary = some temporary) :
    PublishStep payload d phase d (.cleaning temporary false)
  | cleaned {d temporary published} :
    PublishStep payload d (.cleaning temporary published) (d.unlink temporary)
      (.syncingFolder published)
  | persisted {d published} :
    PublishStep payload d (.syncingFolder published) d (.finished published)
  | raises {d phase} (hnone : phase.temporary = none) (halive : phase.isOver = false) :
    PublishStep payload d phase d (.finished false)

/-! ## 2. A reader -/

/-- The fields of a `stat` that a reader compares. -/
structure Snapshot where
  ino : ℕ
  mode : ℕ
  links : ℕ
  size : ℕ
  changes : ℕ
  deriving DecidableEq

def snapshot (ino : ℕ) (i : Inode RegularFile) : Snapshot :=
  ⟨ino, i.data.mode, i.links, i.data.content.length, i.changes⟩

/-- How far a reader has come, and what it ended with: no file, a document, or an exception. -/
inductive ReadPhase (Document : Type) where
  | inspecting
  | opening (before : Snapshot)
  | reading (before : Snapshot) (chunks : List UInt8)
  | finished (outcome : Except String (Option Document))

/-- `name` leads to the file of the snapshot, and the file is as it was. -/
def Unchanged (d : Folder RegularFile) (before : Snapshot) : Prop :=
  ∃ i, d.entries manifestName = some before.ino ∧ d.file before.ino = some i ∧
    snapshot before.ino i = before

/-- **The steps of `read_json_object_at`.** It raises where a check fails and nowhere else. -/
inductive ReadStep {Document : Type} (json : JsonLibrary Document) (d : Folder RegularFile) :
    ReadPhase Document → ReadPhase Document → Prop where
  | absent (hnone : d.entries manifestName = none) :
    ReadStep json d .inspecting (.finished (.ok none))
  | inspected {ino i} (hnamed : d.entries manifestName = some ino) (hfile : d.file ino = some i)
    (hsingle : i.links = 1) : ReadStep json d .inspecting (.opening (snapshot ino i))
  | linked {ino i} (hnamed : d.entries manifestName = some ino) (hfile : d.file ino = some i)
    (hlinks : i.links ≠ 1) : ReadStep json d .inspecting
      (.finished (.error "protocol file must be regular with exactly one hard link"))
  | opened {before} (hsame : Unchanged d before) (hbounded : before.size ≤ maxBytes) :
    ReadStep json d (.opening before) (.reading before [])
  | changedOpening {before} (hchanged : ¬ Unchanged d before) :
    ReadStep json d (.opening before) (.finished (.error "protocol file changed while opening"))
  | tooLarge {before} (hsame : Unchanged d before) (hlarge : maxBytes < before.size) :
    ReadStep json d (.opening before) (.finished (.error "protocol file is too large"))
  | chunk {before chunks i chunk rest} (hfile : d.file before.ino = some i)
    (hcontent : i.data.content = chunks ++ chunk ++ rest) :
    ReadStep json d (.reading before chunks) (.reading before (chunks ++ chunk))
  | decoded {before chunks i document} (hfile : d.file before.ino = some i)
    (hwhole : i.data.content = chunks) (hsame : Unchanged d before)
    (hdecoded : json.loads chunks = .ok document) :
    ReadStep json d (.reading before chunks) (.finished (.ok (some document)))
  | changedReading {before chunks} (hchanged : ¬ Unchanged d before) :
    ReadStep json d (.reading before chunks)
      (.finished (.error "protocol file changed while reading"))
  | undecodable {before chunks i text} (hfile : d.file before.ino = some i)
    (hwhole : i.data.content = chunks) (herror : json.loads chunks = .error text) :
    ReadStep json d (.reading before chunks) (.finished (.error text))

/-! ## 3. Calls and readers together -/

/-- The run directory, how far each call has come, and how far each reader. -/
structure Publishing (W R Document : Type) where
  folder : Folder RegularFile
  writer : W → PublishPhase
  reader : R → ReadPhase Document

/-- Who goes on. A call takes its next step, is killed, or fails to remove its temporary name. -/
inductive PublishInput (W R : Type) where
  | writes (w : W)
  | killed (w : W)
  | unlinkFails (w : W)
  | reads (r : R)

namespace Publishing

variable {W R Document : Type}

/-- Between the link and the removal of the temporary name: both names lead to one file. -/
def Window (s : Publishing W R Document) (w : W) : Prop :=
  ∃ temporary, (s.writer w).temporary = some temporary ∧ s.folder.entries manifestName ≠ none ∧
    s.folder.entries temporary = s.folder.entries manifestName

/-- No call ends in its window without removing its temporary name, and no reader begins in the
    window of a call. -/
def OutsideWindow (s : Publishing W R Document) : PublishInput W R → Prop
  | .writes _ => True
  | .killed w => ¬ s.Window w
  | .unlinkFails w => ¬ s.Window w
  | .reads r => s.reader r = .inspecting → ∀ w, ¬ s.Window w

/-- Before any call, over a directory without a manifest. -/
def initial (d : Folder RegularFile) : Publishing W R Document :=
  ⟨d, fun _ => .encoding, fun _ => .inspecting⟩

variable [DecidableEq W] [DecidableEq R]

/-- One call goes on. -/
def goWriter (s : Publishing W R Document) (w : W) (d : Folder RegularFile)
    (phase : PublishPhase) : Publishing W R Document :=
  { s with folder := d, writer := fun v => if v = w then phase else s.writer v }

/-- One reader goes on. -/
def goReader (s : Publishing W R Document) (r : R) (phase : ReadPhase Document) :
    Publishing W R Document :=
  { s with reader := fun q => if q = r then phase else s.reader q }

/-- What a reader's step puts out. -/
def outcomeOf (r : R) : ReadPhase Document → List (R × Except String (Option Document))
  | .finished outcome => [(r, outcome)]
  | _ => []

/-- **The steps of the calls and the readers.** The outputs are the outcomes of readers. -/
inductive Step (json : JsonLibrary Document) (payload : List UInt8) :
    Publishing W R Document → PublishInput W R → List (R × Except String (Option Document)) →
    Publishing W R Document → Prop where
  | writes {s w d phase} (hstep : PublishStep payload s.folder (s.writer w) d phase) :
    Step json payload s (.writes w) [] (s.goWriter w d phase)
  | killed {s w} (halive : (s.writer w).isOver = false) :
    Step json payload s (.killed w) [] (s.goWriter w s.folder .killed)
  | unlinkFails {s w temporary published} (hphase : s.writer w = .cleaning temporary published) :
    Step json payload s (.unlinkFails w) [] (s.goWriter w s.folder (.finished false))
  | reads {s r phase} (hstep : ReadStep json s.folder (s.reader r) phase) :
    Step json payload s (.reads r) (outcomeOf r phase) (s.goReader r phase)

end Publishing

end DroneSim
