/-
  File:      DroneSim/Artifacts/ProtocolReadBack.lean
  Subject:   Protocol files are read back (artifacts/protocol_files.py).

  `strictJson` is the encoder of `canonical_json` and the strict decoder, on documents. What the
  encoder takes the decoder gives back (`canonicalJson_loads`), and a call that has persisted its
  document leaves these bytes under the name, in a file with one link (`Writes.placed`). So whether
  the reader accepts the file is a matter of its length alone: the writer has no limit.
-/
import DroneSim.Artifacts.ProtocolAtomic
import DroneSim.Library.JsonParse
import DroneSim.Library.Utf8
import Mathlib.Logic.Relation

namespace DroneSim

open Library

/-! ## 1. Strict documents -/

section

variable {F : Type} [PyFloat F]

mutual

/-- Neither `_reject_duplicate_pairs` nor `_reject_json_constant` nor `_parse_finite_float`
    raises. -/
def isStrict : Doc F → Bool
  | .float x => PyFloat.finite x
  | .arr items => areStrict items
  | .obj fields => decide (fields.map Prod.fst).Nodup && haveStrict fields
  | _ => true

/-- The items of a list, for `isStrict`. -/
def areStrict : List (Doc F) → Bool
  | [] => true
  | item :: rest => isStrict item && areStrict rest

/-- The values of an object, for `isStrict`. -/
def haveStrict : List (PyText × Doc F) → Bool
  | [] => true
  | (_, value) :: rest => isStrict value && haveStrict rest

end

/-- `_decode_json_object`; an error without the description and the cause. -/
def decodeJsonObject (payload : List UInt8) : Except String (Doc F) :=
  match (decodeUtf8 payload).map Doc.parse with
  | some (.ok document) =>
    if !isStrict document then .error "contains invalid JSON"
    else
      match document with
      | .obj fields => .ok (.obj fields)
      | _ => .error "must contain a JSON object"
  | _ => .error "contains invalid JSON"

/-- `json.dumps(...)` with the newline, and the strict decoder. -/
def strictJson : JsonLibrary (Doc F) where
  dumps document :=
    match document.dumps with
    | .error _ => .error "protocol document is not valid JSON"
    | .ok text => (encodeUtf8 (text ++ [newline])).mapError
      fun _ => "protocol document is not valid JSON"
  loads := decodeJsonObject

theorem parse_newline [LawfulPyFloat F] {document : Doc F} {text : PyText}
    (h : document.plain = .ok text) : Doc.parse (text ++ [newline]) = .ok document := by
  have hdigit : NoDigit [newline] := by
    intro c hc
    obtain rfl := Option.some.inj hc
    decide
  exact Doc.parse_append h ⟨hdigit, by decide, by decide, by decide⟩ rfl

theorem decodeJsonObject_ok {payload : List UInt8} {document : Doc F}
    (h : decodeJsonObject payload = .ok document) :
    ∃ text, decodeUtf8 payload = some text ∧ Doc.parse text = .ok document := by
  unfold decodeJsonObject at h
  split at h
  · rename_i parsed hparsed
    obtain ⟨text, htext, hparse⟩ := Option.map_eq_some_iff.mp hparsed
    refine ⟨text, htext, ?_⟩
    split at h
    · cases h
    · split at h
      · rw [hparse, Except.ok.inj h]
      · cases h
  · cases h

theorem strictJson_dumps {document : Doc F} {payload : List UInt8}
    (h : strictJson.dumps document = .ok payload) :
    ∃ text, document.dumps = .ok text ∧ encodeUtf8 (text ++ [newline]) = .ok payload := by
  unfold strictJson at h
  dsimp only at h
  split at h
  · cases h
  · rename_i text htext
    refine ⟨text, htext, ?_⟩
    cases hdata : encodeUtf8 (text ++ [newline]) with
    | error e =>
      rw [hdata] at h
      cases h
    | ok data =>
      rw [hdata] at h
      exact congrArg _ (Except.ok.inj h)

/-- **What is encoded is read back**, with its keys in order. -/
theorem canonicalJson_loads [LawfulPyFloat F] {document : Doc F} {payload : List UInt8}
    (h : strictJson.canonicalJson document = .ok payload) :
    decodeJsonObject payload = .ok document.sorted := by
  obtain ⟨data, hdumps, h⟩ := bind_ok h
  obtain ⟨read, hread, h⟩ := bind_ok h
  obtain rfl := Except.ok.inj h
  obtain ⟨text, htext, hencoded⟩ := strictJson_dumps hdumps
  obtain ⟨again, hagain, hparse⟩ := decodeJsonObject_ok hread
  obtain rfl := Option.some.inj ((decodeUtf8_encode hencoded).symm.trans hagain)
  rw [parse_newline htext] at hparse
  obtain rfl := Except.ok.inj hparse
  exact hread

end

/-! ## 2. A call that persists -/

/-- `read_json_object_at` in a folder that stays as it is, `none` where there is no file. -/
def readJsonObjectAt {Document : Type} (json : JsonLibrary Document) (d : Folder RegularFile)
    (name : String) : Except String (Option Document) :=
  match (d.entries name).bind d.file with
  | none => .ok none
  | some i =>
    if i.links ≠ 1 then .error "must be regular with exactly one hard link"
    else if maxBytes < i.data.content.length then .error "is too large"
    else (json.loads i.data.content).map some

section

variable {Document : Type} {json : JsonLibrary Document} {name : String}
  {call : WriteCall Document} {d d' : Folder RegularFile} {phase phase' : WritePhase Document}
  {payload : List UInt8}

/-- The steps of a call under the lock, one after another. -/
def Writes (json : JsonLibrary Document) (name : String) (call : WriteCall Document) :
    Folder RegularFile × WritePhase Document → Folder RegularFile × WritePhase Document → Prop :=
  Relation.ReflTransGen fun a b => WriteStep json name call a.1 a.2 b.1 b.2

/-- These bytes are under the name, in a file with one link. -/
def Placed (name : String) (payload : List UInt8) (d : Folder RegularFile) : Prop :=
  ∃ ino i, d.entries name = some ino ∧ d.file ino = some i ∧ i.data.content = payload ∧ i.links = 1

/-- A file with one link. -/
def Single (d : Folder RegularFile) (ino : ℕ) : Prop := ∃ i, d.file ino = some i ∧ i.links = 1

/-- The links of the file of a call: of the temporary one, then of the one in place. -/
def Linked (name : String) (payload : List UInt8) (d : Folder RegularFile) :
    WritePhase Document → Prop
  | .chmodding ino | .writing ino _ | .syncing ino | .closing ino | .replacing ino => Single d ino
  | .syncingFolder | .unlocking (.returned _ true) => Placed name payload d
  | _ => True

theorem Single.rewrite {ino : ℕ} (h : Single d ino) (f : RegularFile → RegularFile) :
    Single (d.rewrite ino f) ino := by
  obtain ⟨i, hi, hlinks⟩ := h
  refine ⟨i.store f, ?_, hlinks⟩
  rw [Folder.file_rewrite, if_pos rfl, hi]
  rfl

theorem Single.rename {old new : String} {ino : ℕ} (hold : d.entries old = some ino)
    (hnew : d.entries new ≠ some ino) {i : Inode RegularFile} (h : d.file ino = some i) :
    (d.rename old new).file ino = some i := by
  show (d.recount new (· - 1)).file ino = some i
  cases hother : d.entries new with
  | none => rw [Folder.file_recount_none hother, h]
  | some n =>
    rw [Folder.file_recount hother, if_neg, h]
    rintro rfl
    exact hnew hother

theorem WriteStep.linked (hpayload : json.canonicalJson call.document = .ok payload)
    (hstep : WriteStep json name call d phase d' phase') (hs : Stage json name call d phase)
    (h : Linked name payload d phase) : Linked name payload d' phase' := by
  cases hstep with
  | created mode => exact ⟨_, Folder.file_create_new _ _, rfl⟩
  | chmodded => exact Single.rewrite h _
  | wrote => exact Single.rewrite h _
  | written => exact h
  | synced => exact h
  | closed => exact h
  | @replaced ino n hthere =>
    have htemporary := hs payload hpayload
    obtain ⟨i, hi, hlinks⟩ := h
    obtain ⟨j, hj, hbytes⟩ := htemporary.holds
    obtain rfl := Option.some.inj (hi.symm.trans hj)
    refine ⟨ino, i, ?_, Single.rename htemporary.named htemporary.apart hi, hbytes, hlinks⟩
    rw [Folder.entries_rename, htemporary.named]
    simp [(temporaryName_ne name call.hex).symm]
  | persisted => exact h
  | _ => trivial

/-- **A call that has persisted its document** leaves it in place. -/
theorem Writes.placed {candidate : Document}
    (hpayload : json.canonicalJson call.document = .ok payload)
    (h : Writes json name call (d, .inspecting) (d', .unlocking (.returned candidate true))) :
    Placed name payload d' := by
  have hkept : ∀ b, Writes json name call (d, .inspecting) b →
      Stage json name call b.1 b.2 ∧ Linked name payload b.1 b.2 := by
    intro b hb
    induction hb with
    | refl => exact ⟨trivial, trivial⟩
    | tail _ hstep ih => exact ⟨hstep.stage ih.1, hstep.linked hpayload ih.1 ih.2⟩
  exact (hkept _ h).2

/-- A call for a document that encodes can persist it. -/
theorem exists_writes (hpayload : json.canonicalJson call.document = .ok payload)
    (hlength : 0 < payload.length) :
    ∃ d' candidate, Writes json name call (Folder.empty, .inspecting)
      (d', .unlocking (.returned candidate true)) := by
  obtain ⟨data, -, hloads⟩ := bind_ok hpayload
  obtain ⟨candidate, hcandidate, hdata⟩ := bind_ok hloads
  rw [Except.ok.inj hdata] at hcandidate
  have hcreated : Writes json name call (Folder.empty, .inspecting) (Folder.empty, .creating) :=
    .single (.absent rfl)
  have hchmodded := hcreated.tail (c := (_, .chmodding _)) (.created 0o600 rfl)
  have hopened := hchmodded.tail (c := (_, .writing _ _)) .chmodded
  have hwrote := hopened.tail (c := (_, .writing _ _))
    (.wrote payload.length hpayload hlength (Nat.le_of_eq (Nat.zero_add _)))
  rw [Nat.zero_add] at hwrote
  have hwritten := hwrote.tail (c := (_, .syncing _)) (.written hpayload)
  have hsynced := hwritten.tail (c := (_, .closing _)) .synced
  have hclosed := hsynced.tail (c := (_, .replacing _)) .closed
  have hthere : (Folder.empty.create (temporaryName name call.hex)
      (⟨[], 0o600⟩ : RegularFile)).entries (temporaryName name call.hex) = some 0 := by
    rw [Folder.entries_create, if_pos rfl]
    rfl
  have hreplaced := hclosed.tail (c := (_, .syncingFolder)) (.replaced (n := 0) (by exact hthere))
  exact ⟨_, candidate, hreplaced.tail (.persisted hpayload hcandidate)⟩

end

/-! ## 3. Reading back -/

section

variable {F : Type} [PyFloat F]

/-- What the reader makes of the file. -/
theorem Placed.read [LawfulPyFloat F] {name : String} {document : Doc F} {d : Folder RegularFile}
    {payload : List UInt8} (hpayload : strictJson.canonicalJson document = .ok payload)
    (h : Placed name payload d) :
    readJsonObjectAt strictJson d name =
      if maxBytes < payload.length then .error "is too large" else .ok (some document.sorted) := by
  obtain ⟨ino, i, hnamed, hfile, rfl, hlinks⟩ := h
  have hloads : strictJson.loads i.data.content = .ok document.sorted :=
    canonicalJson_loads hpayload
  unfold readJsonObjectAt
  rw [hnamed, Option.bind_some, hfile]
  dsimp only
  rw [if_neg (not_not.mpr hlinks), hloads]
  rfl

/-- **A persisted document is read back** exactly if its text is not longer than the reader's
    limit. -/
theorem persisted_read_back [LawfulPyFloat F] {name : String} {call : WriteCall (Doc F)}
    {d d' : Folder RegularFile} {payload : List UInt8} {candidate : Doc F}
    (hpayload : strictJson.canonicalJson call.document = .ok payload)
    (h : Writes strictJson name call (d, .inspecting)
      (d', .unlocking (.returned candidate true))) :
    (∃ document, readJsonObjectAt strictJson d' name = .ok (some document) ∧
      document.sorted = call.document.sorted) ↔ payload.length ≤ maxBytes := by
  rw [(h.placed hpayload).read hpayload]
  constructor
  · rintro ⟨document, hread, -⟩
    by_contra hlong
    rw [if_pos (Nat.lt_of_not_le hlong)] at hread
    cases hread
  · intro hshort
    rw [if_neg (Nat.not_lt.mpr hshort)]
    exact ⟨_, rfl, Doc.sorted_sorted _⟩

end

/-- A call for a document with one text. -/
def textCall (s : PyText) : WriteCall (Doc WholeFloat) :=
  ⟨.obj [(ofString "k", .str s)], 0o644, .replace, "0"⟩

theorem length_encodeUtf8 {t : PyText} {data : List UInt8} (h : encodeUtf8 t = .ok data) :
    t.length ≤ data.length := by
  induction t generalizing data with
  | nil => exact Nat.zero_le _
  | cons c t ih =>
    obtain ⟨-, rest, hrest, rfl⟩ := encodeUtf8_cons h
    have hpos := List.length_pos_of_ne_nil (utf8Bytes_ne_nil c)
    have hle := ih hrest
    rw [List.length_append, List.length_cons]
    omega

theorem textCall_encodes {s : PyText} (hs : encodable s = true) : ∃ payload,
    strictJson.canonicalJson (textCall s).document = .ok payload ∧ s.length < payload.length := by
  obtain ⟨text, htext⟩ : ∃ text, text = [Doc.openBrace] ++
    (quoted (ofString "k") ++ ([Doc.colon] ++ (quoted s ++ [Doc.closeBrace]))) := ⟨_, rfl⟩
  have hdumps : (textCall s).document.dumps = .ok text := by
    rw [htext]
    rfl
  have hencodable : encodable (text ++ [newline]) = true := by
    rw [htext, encodable_append, encodable_append, encodable_append, encodable_append,
      encodable_append, encodable_quoted, encodable_quoted, hs]
    rfl
  have hok := encodeUtf8_isOk (text ++ [newline])
  cases hdata : encodeUtf8 (text ++ [newline]) with
  | error e =>
    rw [hdata, hencodable] at hok
    cases hok
  | ok payload =>
    refine ⟨payload, ?_, ?_⟩
    · have hloads : decodeJsonObject payload = .ok (textCall s).document := by
        unfold decodeJsonObject
        rw [decodeUtf8_encode hdata, Option.map_some, parse_newline hdumps]
        rfl
      have hencoded : strictJson.dumps (textCall s).document = .ok payload := by
        unfold strictJson
        dsimp only
        rw [hdumps]
        dsimp only
        rw [hdata]
        rfl
      unfold JsonLibrary.canonicalJson
      rw [hencoded]
      show (decodeJsonObject payload >>= fun _ => Except.ok payload) = _
      rw [hloads]
      rfl
    · have hle := length_encodeUtf8 hdata
      have hescape := length_flatMap_escape s
      rw [htext] at hle
      simp only [quoted, List.length_append, List.length_cons] at hle
      omega

/-- **A text of 4 MiB is persisted and cannot be read.** -/
theorem long_text_unread : ¬ ∀ (call : WriteCall (Doc WholeFloat)) (d d' : Folder RegularFile)
    (candidate : Doc WholeFloat), Writes strictJson "status.json" call (d, .inspecting)
      (d', .unlocking (.returned candidate true)) →
        ∃ document, readJsonObjectAt strictJson d' "status.json" = .ok (some document) ∧
          document.sorted = call.document.sorted := by
  intro hclaim
  have hletters : encodable (List.replicate maxBytes (codePoint 'a')) = true := by
    rw [encodable, List.all_replicate]
    rfl
  obtain ⟨payload, hpayload, hlong⟩ := textCall_encodes hletters
  rw [List.length_replicate] at hlong
  obtain ⟨d', candidate, hwrites⟩ :=
    @exists_writes _ _ "status.json" _ _ hpayload (Nat.zero_lt_of_lt hlong)
  obtain ⟨document, hread, -⟩ := hclaim _ _ d' candidate hwrites
  rw [(hwrites.placed hpayload).read hpayload, if_pos hlong] at hread
  cases hread

/-- A document whose keys are out of order. -/
def readyDocument : Doc WholeFloat :=
  .obj [(ofString "state", .str (ofString "READY")), (ofString "id", .arr [.int 7, .null])]

/-- The bytes of `"id":[7,null],"state":"READY"` in braces, and of a newline. -/
def readyBytes : List UInt8 :=
  [123, 34, 105, 100, 34, 58, 91, 55, 44, 110, 117, 108, 108, 93, 44, 34, 115, 116, 97, 116, 101,
    34, 58, 34, 82, 69, 65, 68, 89, 34, 125, 10]

/-- A document is read back, with its keys in order. -/
theorem persisted_read_back_ready : ∃ d' document,
    readJsonObjectAt strictJson d' "status.json" = .ok (some document) ∧
      document.sorted = readyDocument.sorted := by
  have hpayload : strictJson.canonicalJson readyDocument = .ok readyBytes := by decide +kernel
  obtain ⟨d', candidate, hwrites⟩ := @exists_writes _ _ "status.json"
    ⟨readyDocument, 0o644, .replace, "0"⟩ _ hpayload (by decide)
  obtain ⟨document, hread⟩ := (persisted_read_back hpayload hwrites).mpr (by decide)
  exact ⟨d', document, hread⟩

/-! ## 4. Canonical bytes -/

section

variable {F : Type} [PyFloat F]

theorem canonicalJson_sorted (document : Doc F) :
    strictJson.canonicalJson document.sorted = strictJson.canonicalJson document := by
  have hdumps : strictJson.dumps document.sorted = strictJson.dumps document := by
    unfold strictJson
    dsimp only
    rw [Doc.dumps_sorted]
  unfold JsonLibrary.canonicalJson
  rw [hdumps]

/-- **The encoding is canonical.** Other documents have the same bytes exactly if they differ in the
    order of their keys only, and what is read back is encoded to the bytes that were read. -/
theorem canonicalJson_canonical [LawfulPyFloat F] {document : Doc F} {payload : List UInt8}
    (h : strictJson.canonicalJson document = .ok payload) :
    (∀ other : Doc F, strictJson.canonicalJson other = .ok payload ↔
      other.sorted = document.sorted) ∧
      ∀ read : Doc F, decodeJsonObject payload = .ok read →
        strictJson.canonicalJson read = .ok payload := by
  have hread := canonicalJson_loads h
  refine ⟨fun other => ⟨fun hother => ?_, fun hsame => ?_⟩, fun read hdecoded => ?_⟩
  · exact Except.ok.inj ((canonicalJson_loads hother).symm.trans hread)
  · rw [← canonicalJson_sorted, hsame, canonicalJson_sorted, h]
  · rw [Except.ok.inj (hdecoded.symm.trans hread), canonicalJson_sorted, h]

end

/-- The document with its keys in order is another one, with the same bytes. -/
theorem canonicalJson_canonical_ready : readyDocument.sorted ≠ readyDocument ∧
    strictJson.canonicalJson readyDocument.sorted = .ok readyBytes := by
  have h : strictJson.canonicalJson readyDocument = .ok readyBytes := by decide +kernel
  exact ⟨fun hsame => absurd (congrArg (List.map Prod.fst) (Doc.obj.inj hsame)) (by decide),
    ((canonicalJson_canonical h).1 _).mpr (Doc.sorted_sorted _)⟩

end DroneSim
