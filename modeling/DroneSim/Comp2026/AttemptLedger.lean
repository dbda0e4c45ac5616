/-
  File:      DroneSim/Comp2026/AttemptLedger.lean
  Subject:   The attempt ledger and its two writers (control/mission_supervisor.py).

  Any number of processes use one ledger path. `AttemptLedger` replaces the file that the path names;
  `PinnedAttemptLedger` writes into the file that it has pinned, one `pwrite` after another. Both hold
  the file lock, so a process takes its steps between `begin` and `release`; what others see in between
  is the file itself. A character stands for a byte: what is written is ASCII.
-/
import DroneSim.Artifacts.RuntimeStatus
import DroneSim.Library.Run

namespace DroneSim

open Library

/-! ## 1. The text of a ledger -/

/-- The counters of a ledger. -/
structure Ledger where
  prepared : ℕ
  consumed : ℕ
  deriving DecidableEq, Repr

def maxLedgerAttemptId : ℕ := 16777215

namespace Ledger

/-- Between the two counters. -/
def textHead : List Char := "\x7b\n    \"consumed_through_attempt_id\": ".toList

def textMiddle : List Char := ",\n    \"last_prepared_attempt_id\": ".toList

def textTail : List Char := ",\n    \"schema_version\": 1\n\x7d\n".toList

/-- `_json_bytes(ledger)`. -/
def jsonBytes (l : Ledger) : List Char :=
  textHead ++ (Nat.toDigits 10 l.consumed ++ (textMiddle ++ (Nat.toDigits 10 l.prepared ++ textTail)))

/-- What a ledger decodes to. -/
def toDocument (l : Ledger) : PyValue :=
  .mapping true (document [("consumed_through_attempt_id", .int l.consumed),
    ("last_prepared_attempt_id", .int l.prepared), ("schema_version", .int 1)])

/-- `0 <= consumed <= prepared <= MAX_ATTEMPT_ID`. -/
structure Valid (l : Ledger) : Prop where
  ordered : l.consumed ≤ l.prepared
  bounded : l.prepared ≤ maxLedgerAttemptId

end Ledger

/-- `json.loads` of the text, `none` where it raises: it reads back what was written. -/
structure LedgerDecoder where
  loads : List Char → Option PyValue
  loads_jsonBytes : ∀ l : Ledger, l.Valid → loads l.jsonBytes = some l.toDocument

/-! ## 2. Reading -/

/-- `_validate_counter`. -/
def validateCounter : Option PyValue → Option ℕ
  | some (.int value) => if 0 ≤ value ∧ value ≤ maxLedgerAttemptId then some value.toNat else none
  | _ => none

def ledgerKeys : List String :=
  ["schema_version", "last_prepared_attempt_id", "consumed_through_attempt_id"]

/-- The checks of a document, by that of its schema version. -/
def ledgerOf (schema : PyValue → Bool) : PyValue → Option Ledger
  | .mapping true items =>
    if hasKeys items ledgerKeys then
      if (PyValue.field items "schema_version").any schema then
        match validateCounter (PyValue.field items "last_prepared_attempt_id"),
          validateCounter (PyValue.field items "consumed_through_attempt_id") with
        | some prepared, some consumed =>
          if prepared < consumed then none else some ⟨prepared, consumed⟩
        | _, _ => none
      else none
    else none
  | _ => none

/-- `data["schema_version"] == LEDGER_SCHEMA_VERSION`. -/
def equalsVersion (value : PyValue) : Bool := value.number = some 1

/-- `type(data["schema_version"]) is int` besides. -/
def isVersion : PyValue → Bool
  | .int value => value = 1
  | _ => false

namespace LedgerDecoder

/-- `_read_ledger`, of what the path names; `none` where it raises. -/
def readLedger (d : LedgerDecoder) (content : Option (List Char)) : Option Ledger :=
  content.bind fun text => (d.loads text).bind (ledgerOf equalsVersion)

/-- `_read_ledger_descriptor`. -/
def readLedgerDescriptor (d : LedgerDecoder) (text : List Char) : Option Ledger :=
  if text.length ≤ 1048576 then (d.loads text).bind (ledgerOf isVersion) else none

end LedgerDecoder

/-! ## 3. The processes -/

/-- The files. -/
structure LedgerDisk where
  /-- The inode that the ledger path names. -/
  named : Option ℕ
  content : ℕ → List Char
  /-- The next inode. -/
  unused : ℕ

/-- What the path names. -/
def LedgerDisk.file (disk : LedgerDisk) : Option (List Char) := disk.named.map disk.content

/-- Where a process stands. -/
inductive LedgerPhase where
  | idle
  | preparing
  /-- In the body of `with prepare_next()`. -/
  | yielding (attemptId : ℕ)
  | consuming (attemptId : ℕ)
  | pinned (inode attemptId : ℕ)
  /-- Some of the payload is written into the pinned file. -/
  | writing (inode attemptId : ℕ) (payload : List Char) (offset : ℕ)
  /-- Has returned or raised, and still holds the lock. -/
  | leaving
  deriving DecidableEq

structure LedgerSystem where
  disk : LedgerDisk
  /-- The process that holds the file lock. -/
  holder : Option ℕ
  phase : ℕ → LedgerPhase

/-- How the replacing of a file goes: an exception comes before it or after it. -/
inductive Replacing where
  | returns
  | raisesBefore
  | raisesAfter
  deriving DecidableEq, Repr

/-- The next step of a process. -/
inductive LedgerAct where
  | prepareNext
  | consume (attemptId : ℕ)
  /-- With the inode that was pinned. -/
  | consumePinned (inode attemptId : ℕ)
  /-- From the lock to the replaced file. -/
  | replace (how : Replacing)
  /-- From the lock to the first `pwrite`. -/
  | check
  /-- `pwrite` writes so many bytes. -/
  | pwrite (written : ℕ)
  /-- `ftruncate`, and `fsync`, which may raise. -/
  | truncate (synced : Bool)
  /-- An exception before anything is written. -/
  | abandon
  | release
  deriving DecidableEq

/-- What a step does: in the file, and as a result. -/
inductive LedgerNote where
  /-- The file names the attempt as prepared. -/
  | prepared (attemptId : ℕ)
  /-- `prepare_next` yields it. -/
  | yielded (attemptId : ℕ)
  /-- The file names the attempt as consumed. -/
  | marked (attemptId : ℕ)
  /-- `consume` returns. -/
  | consumed (attemptId : ℕ)
  deriving DecidableEq, Repr

namespace LedgerSystem

variable (d : LedgerDecoder) (s : LedgerSystem)

/-- The process goes on. -/
def enter (p : ℕ) (phase : LedgerPhase) : LedgerSystem :=
  { s with phase := Function.update s.phase p phase }

/-- `flock(.., LOCK_EX)`, which waits while another process holds the lock. -/
def lock (p : ℕ) (phase : LedgerPhase) : Option (LedgerSystem × List LedgerNote) :=
  if s.holder = none ∧ s.phase p = .idle then some ({ s.enter p phase with holder := some p }, [])
  else none

/-- `_valid_attempt_id`. -/
def validAttemptId (attemptId : ℕ) : Bool := decide (1 ≤ attemptId) && decide (attemptId ≤ maxLedgerAttemptId)

/-- `_atomic_write`: a new file takes the name. -/
def atomicWrite (l : Ledger) : LedgerSystem :=
  { s with disk :=
      { named := some s.disk.unused
        content := Function.update s.disk.content s.disk.unused l.jsonBytes
        unused := s.disk.unused + 1 } }

/-- The replaced file, and how the process goes on. -/
def replaceWith (p : ℕ) (l : Ledger) (how : Replacing) (next : LedgerPhase)
    (done returned : LedgerNote) : LedgerSystem × List LedgerNote :=
  match how with
  | .raisesBefore => (s.enter p .leaving, [])
  | .raisesAfter => ((s.atomicWrite l).enter p .leaving, [done])
  | .returns => ((s.atomicWrite l).enter p next, [done, returned])

/-- `prepare_next` with the lock. -/
def prepareNext (p : ℕ) (how : Replacing) : LedgerSystem × List LedgerNote :=
  match d.readLedger s.disk.file with
  | none => (s.enter p .leaving, [])
  | some l =>
    if maxLedgerAttemptId ≤ l.prepared then (s.enter p .leaving, [])
    else
      s.replaceWith p { l with prepared := l.prepared + 1 } how (.yielding (l.prepared + 1))
        (.prepared (l.prepared + 1)) (.yielded (l.prepared + 1))

/-- `attempt_id <= consumed` and `attempt_id != prepared` raise. -/
def mayConsume (l : Ledger) (attemptId : ℕ) : Bool :=
  decide (l.consumed < attemptId) && decide (attemptId = l.prepared)

/-- `AttemptLedger.consume` with the lock. -/
def consume (p attemptId : ℕ) (how : Replacing) : LedgerSystem × List LedgerNote :=
  match d.readLedger s.disk.file with
  | none => (s.enter p .leaving, [])
  | some l =>
    if mayConsume l attemptId then
      s.replaceWith p { l with consumed := attemptId } how .leaving (.marked attemptId)
        (.consumed attemptId)
    else (s.enter p .leaving, [])

/-- `PinnedAttemptLedger.consume` with the lock, up to the first `pwrite`. -/
def consumePinned (p inode attemptId : ℕ) : LedgerSystem :=
  -- `_verify_named_identity`
  if s.disk.named = some inode then
    match d.readLedgerDescriptor (s.disk.content inode) with
    | none => s.enter p .leaving
    | some l =>
      if mayConsume l attemptId then
        s.enter p (.writing inode attemptId { l with consumed := attemptId }.jsonBytes 0)
      else s.enter p .leaving
  else s.enter p .leaving

/-- The file once so many bytes of the payload are written at the offset. -/
def overwrite (text payload : List Char) (offset written : ℕ) : List Char :=
  text.take offset ++ (payload.drop offset).take written ++ text.drop (offset + written)

/-- The file holds this text. -/
def store (inode : ℕ) (text : List Char) : LedgerSystem :=
  { s with disk := { s.disk with content := Function.update s.disk.content inode text } }

/-- One `pwrite` that wrote something. -/
def pwrite (p inode attemptId : ℕ) (payload : List Char) (offset written : ℕ) :
    Option (LedgerSystem × List LedgerNote) :=
  if 0 < written ∧ offset + written ≤ payload.length then
    some ((s.store inode (overwrite (s.disk.content inode) payload offset written)).enter p
      (.writing inode attemptId payload (offset + written)), [])
  else none

/-- The end of the writing. -/
def truncate (p inode attemptId : ℕ) (payload : List Char) (offset : ℕ) (synced : Bool) :
    Option (LedgerSystem × List LedgerNote) :=
  if offset = payload.length then
    some ((s.store inode ((s.disk.content inode).take payload.length)).enter p .leaving,
      .marked attemptId :: if synced then [.consumed attemptId] else [])
  else none

/-- `flock(.., LOCK_UN)`. -/
def release (p : ℕ) : LedgerSystem := { s.enter p .idle with holder := none }

/-- **The next step of a process**; `none` is a step that it cannot take. -/
def step (p : ℕ) (act : LedgerAct) : Option (LedgerSystem × List LedgerNote) :=
  match act, s.phase p with
  | .prepareNext, _ => s.lock p .preparing
  | .consume attemptId, _ =>
    if validAttemptId attemptId then s.lock p (.consuming attemptId) else none
  | .consumePinned inode attemptId, _ =>
    if validAttemptId attemptId then s.lock p (.pinned inode attemptId) else none
  | .replace how, .preparing => some (s.prepareNext d p how)
  | .replace how, .consuming attemptId => some (s.consume d p attemptId how)
  | .check, .pinned inode attemptId => some (s.consumePinned d p inode attemptId, [])
  | .pwrite written, .writing inode attemptId payload offset =>
    s.pwrite p inode attemptId payload offset written
  | .truncate synced, .writing inode attemptId payload offset =>
    s.truncate p inode attemptId payload offset synced
  | .abandon, .preparing => some (s.enter p .leaving, [])
  | .abandon, .consuming _ => some (s.enter p .leaving, [])
  | .abandon, .pinned _ _ => some (s.enter p .leaving, [])
  | .abandon, .writing _ _ _ 0 => some (s.enter p .leaving, [])
  | .release, .yielding _ => some (s.release p, [])
  | .release, .leaving => some (s.release p, [])
  | _, _ => none

/-- A step of one of the processes. -/
def accept (i : ℕ × LedgerAct) : Except Unit (LedgerSystem × List LedgerNote) :=
  match s.step d i.1 i.2 with
  | some r => .ok r
  | none => .error ()

theorem step_of_accept {d : LedgerDecoder} {s t : LedgerSystem} {i : ℕ × LedgerAct}
    {o : List LedgerNote} (h : s.accept d i = .ok (t, o)) : s.step d i.1 i.2 = some (t, o) := by
  unfold accept at h
  split at h
  · rename_i hstep
    cases h
    exact hstep
  · cases h

end LedgerSystem

/-- The steps of all processes. -/
def LedgerSteps (d : LedgerDecoder) :
    LedgerSystem → ℕ × LedgerAct → List LedgerNote → LedgerSystem → Prop :=
  Steps (LedgerSystem.accept d)

end DroneSim
