/-
  File:      DroneSim/Artifacts/ProtocolFiles.lean
  Subject:   Durable protocol files (artifacts/protocol_files.py).

  Writers that share a folder publish one protocol file. Each runs `write_json_object_at`: it
  encodes its document, takes the lock of the folder, reads the file that is there, and by its
  policy returns what it read or replaces the file by a temporary one that it has written and
  synced. The calls of the system are the steps, those of different writers in any order; a step
  may raise, after which the writer cleans up, and a writer may be killed between two steps.
-/
import DroneSim.Library.Folder
import DroneSim.Library.Run

namespace DroneSim

open Library

/-! ## 1. Documents and files -/

inductive WritePolicy where
  | identical
  | firstWins
  | replace
  deriving DecidableEq, Repr

/-- The encoder of `canonical_json` and the strict decoder. -/
structure JsonLibrary (Document : Type) where
  dumps : Document → Except String (List UInt8)
  loads : List UInt8 → Except String Document

/-- Documents that are their own encoding. -/
def plainJson : JsonLibrary (List UInt8) := ⟨.ok, .ok⟩

/-- `canonical_json`. -/
def JsonLibrary.canonicalJson {Document : Type} (json : JsonLibrary Document)
    (document : Document) : Except String (List UInt8) := do
  let payload ← json.dumps document
  let _ ← json.loads payload
  return payload

/-- The limit of `read_json_object_at`. -/
def maxBytes : ℕ := 4 * 1024 * 1024

/-- What a regular file holds, and its permissions. -/
structure RegularFile where
  content : List UInt8
  mode : ℕ
  deriving DecidableEq, Repr

/-- The arguments of `write_json_object_at`, and the number its temporary file is named after. -/
structure WriteCall (Document : Type) where
  document : Document
  mode : ℕ
  policy : WritePolicy
  hex : String

/-- `f".{name}.{uuid4().hex}.tmp"`. -/
def temporaryName (name hex : String) : String := "." ++ name ++ "." ++ hex ++ ".tmp"

theorem temporaryName_ne (name hex : String) : temporaryName name hex ≠ name := by
  intro h
  have hlength := congrArg String.length h
  unfold temporaryName at hlength
  rw [String.length_append, String.length_append, String.length_append,
    String.length_append] at hlength
  have hdot : ".".length = 1 := by decide
  omega

/-! ## 2. One writer -/

/-- A document and whether this call wrote it, or an exception. -/
inductive WriteOutcome (Document : Type) where
  | returned (document : Document) (created : Bool)
  | raised

/-- How far a call has come: the step that is next. -/
inductive WritePhase (Document : Type) where
  | encoding
  | locking
  | inspecting
  | reading (ino : ℕ) (chunks : List UInt8)
  | creating
  | chmodding (ino : ℕ)
  | writing (ino written : ℕ)
  | syncing (ino : ℕ)
  | closing (ino : ℕ)
  | replacing (ino : ℕ)
  | syncingFolder
  | cleaning
  | unlocking (outcome : WriteOutcome Document)
  | finished (outcome : WriteOutcome Document)
  | killed

namespace WritePhase

variable {Document : Type}

/-- The lock is held. -/
def holding : WritePhase Document → Bool
  | .encoding => false
  | .locking => false
  | .finished _ => false
  | .killed => false
  | _ => true

/-- The call has a temporary file. -/
def hasTemporary : WritePhase Document → Bool
  | .chmodding _ => true
  | .writing _ _ => true
  | .syncing _ => true
  | .closing _ => true
  | .replacing _ => true
  | .syncingFolder => true
  | _ => false

/-- The call is over. -/
def isOver : WritePhase Document → Bool
  | .finished _ => true
  | .killed => true
  | _ => false

end WritePhase

section

variable {Document : Type} (json : JsonLibrary Document) (name : String)
  (call : WriteCall Document)

/-- What was read is the whole file under the name, and the file is fit to be read. -/
structure ReadWhole (d : Folder RegularFile) (ino : ℕ) (chunks : List UInt8) (i : Inode RegularFile) :
    Prop where
  named : d.entries name = some ino
  opened : d.file ino = some i
  whole : i.data.content = chunks
  single : i.links = 1
  bounded : chunks.length ≤ maxBytes

/-- **The steps of a call under the lock.** -/
inductive WriteStep : Folder RegularFile → WritePhase Document → Folder RegularFile →
    WritePhase Document → Prop where
  | absent {d} (hnone : d.entries name = none) : WriteStep d .inspecting d .creating
  | opened {d ino i} (hnamed : d.entries name = some ino) (hopened : d.file ino = some i)
    (hsingle : i.links = 1) : WriteStep d .inspecting d (.reading ino [])
  | chunk {d ino chunks i chunk rest} (hopened : d.file ino = some i)
    (hcontent : i.data.content = chunks ++ chunk ++ rest) :
    WriteStep d (.reading ino chunks) d (.reading ino (chunks ++ chunk))
  -- `_apply_nonreplacing_policy`: the existing document, where its mode and the policy allow it
  | kept {d ino chunks i existing} (hwhole : ReadWhole name d ino chunks i)
    (hdecoded : json.loads chunks = .ok existing) (hpolicy : call.policy ≠ .replace)
    (hmode : i.data.mode = call.mode)
    (hidentical : call.policy = .identical →
      ∃ payload, json.canonicalJson existing = .ok payload ∧
        json.canonicalJson call.document = .ok payload) :
    WriteStep d (.reading ino chunks) d (.unlocking (.returned existing false))
  | replaceable {d ino chunks i existing} (hwhole : ReadWhole name d ino chunks i)
    (hdecoded : json.loads chunks = .ok existing) (hpolicy : call.policy = .replace) :
    WriteStep d (.reading ino chunks) d .creating
  | created {d} (mode : ℕ) (hfree : d.entries (temporaryName name call.hex) = none) :
    WriteStep d .creating (d.create (temporaryName name call.hex) ⟨[], mode⟩)
      (.chmodding d.files.length)
  | chmodded {d ino} :
    WriteStep d (.chmodding ino) (d.rewrite ino fun f => { f with mode := call.mode })
      (.writing ino 0)
  -- a write may be short
  | wrote {d ino written payload} (count : ℕ) (hpayload : json.canonicalJson call.document = .ok payload)
    (hcount : 0 < count) (hleft : written + count ≤ payload.length) :
    WriteStep d (.writing ino written)
      (d.rewrite ino fun f => { f with content := f.content ++ (payload.drop written).take count })
      (.writing ino (written + count))
  | written {d ino payload} (hpayload : json.canonicalJson call.document = .ok payload) :
    WriteStep d (.writing ino payload.length) d (.syncing ino)
  | synced {d ino} : WriteStep d (.syncing ino) d (.closing ino)
  | closed {d ino} : WriteStep d (.closing ino) d (.replacing ino)
  | replaced {d ino n} (hthere : d.entries (temporaryName name call.hex) = some n) :
    WriteStep d (.replacing ino) (d.rename (temporaryName name call.hex) name) .syncingFolder
  | persisted {d payload candidate} (hpayload : json.canonicalJson call.document = .ok payload)
    (hcandidate : json.loads payload = .ok candidate) :
    WriteStep d .syncingFolder d (.unlocking (.returned candidate true))
  | raises {d phase} (hholding : phase.holding = true) (htemporary : phase.hasTemporary = false) :
    WriteStep d phase d (.unlocking .raised)
  | raisesOver {d phase} (htemporary : phase.hasTemporary = true) : WriteStep d phase d .cleaning
  | unlinked {d n} (hthere : d.entries (temporaryName name call.hex) = some n) :
    WriteStep d .cleaning (d.unlink (temporaryName name call.hex)) (.unlocking .raised)

end

/-! ## 3. Writers that share a folder -/

/-- The folder, who holds its lock, and how far each writer has come. -/
structure SharedFolder (W Document : Type) where
  folder : Folder RegularFile
  holder : Option W
  phase : W → WritePhase Document

namespace SharedFolder

variable {W Document : Type} [DecidableEq W]

/-- One writer goes on. -/
def go (s : SharedFolder W Document) (w : W) (phase : WritePhase Document) :
    SharedFolder W Document :=
  { s with phase := fun v => if v = w then phase else s.phase v }

/-- The lock is taken from a writer that holds it. -/
def release (s : SharedFolder W Document) (w : W) : SharedFolder W Document :=
  { s with holder := if s.holder = some w then none else s.holder }

/-- **The steps of the writers.** The output is the outcome of a call that is over. -/
inductive Step (json : JsonLibrary Document) (name : String) (calls : W → WriteCall Document) :
    SharedFolder W Document → W → List (W × WriteOutcome Document) → SharedFolder W Document →
    Prop where
  | encoded {s w payload} (hphase : s.phase w = .encoding)
    (hpayload : json.canonicalJson (calls w).document = .ok payload) :
    Step json name calls s w [] (s.go w .locking)
  -- the document does not encode, or the folder cannot be opened or locked
  | refused {s w} (hphase : s.phase w = .encoding ∨ s.phase w = .locking) :
    Step json name calls s w [(w, .raised)] (s.go w (.finished .raised))
  | locked {s w} (hphase : s.phase w = .locking) (hfree : s.holder = none) :
    Step json name calls s w [] { s.go w .inspecting with holder := some w }
  | writes {s w d phase} (hstep : WriteStep json name (calls w) s.folder (s.phase w) d phase) :
    Step json name calls s w [] { s.go w phase with folder := d }
  | unlocked {s w outcome} (hphase : s.phase w = .unlocking outcome)
    (result : WriteOutcome Document) (hresult : result = outcome ∨ result = .raised) :
    Step json name calls s w [(w, result)] ((s.go w (.finished result)).release w)
  | killed {s w} (halive : (s.phase w).isOver = false) :
    Step json name calls s w [] ((s.go w .killed).release w)

end SharedFolder

end DroneSim
