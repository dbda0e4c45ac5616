/-
  File:      DroneSim/Artifacts/LogAcceptance.lean
  Subject:   The structured logs of a bundle (artifacts/acceptance.py, `_validate_module_logs`).

  The inspector splits a log where `str.splitlines` does. The encoder leaves three of the ends of a
  line that `splitlines` knows as they are: the next line, the line separator and the paragraph
  separator. An event that holds one of them in a string is written in one line and read as two.

  * `logs_survive` -- every event is captured as it was written, and a log is accepted exactly when
    it is not too large and no string of its events holds a separator.
-/
import DroneSim.Artifacts.DockerLogs

namespace DroneSim

open Library Library.Doc

/-! ## 1. The inspector -/

/-- `_MODULE_LOG_MAX_BYTES` -/
def moduleLogMaxBytes : ℕ := 33554432

/-- Why a log is not accepted. -/
inductive LogRefusal where
  /-- `module log is unsafe`: it is too large. -/
  | size
  /-- `module log is invalid JSONL` -/
  | jsonl
  /-- `module log contract is invalid` -/
  | contract
  /-- `ValueError`: an integer of too many digits. -/
  | digits
  deriving DecidableEq, Repr

section Inspector

variable {F : Type} [PyFloat F] {runId module' : PyText} {ownership : List (PyText × PyText)}
  {hostOutput : Option (List UInt8)} {outputs : PyText → List UInt8}

/-- The fields of a document and the two that say whose it is. -/
def logContract (runId module' : PyText) : Doc F → Bool
  | .obj fields =>
    keysAre fields eventKeys && isString runId (get fields LogKey.runId) &&
      isString module' (get fields LogKey.module')
  | _ => false

/-- The documents of a log, as `_validate_module_logs` reads them. -/
def validateModuleLog (runId module' : PyText) (payload : List UInt8) :
    Except LogRefusal (List (Doc F)) :=
  if moduleLogMaxBytes < payload.length then .error .size
  else
    match decodeUtf8 payload with
    | none => .error .jsonl
    | some text =>
      match (splitlines text).mapM loads with
      | .error .malformed => .error .jsonl
      | .error .digits => .error .digits
      | .ok documents =>
        if documents.isEmpty || !documents.all (logContract runId module') then .error .contract
        else .ok documents

theorem validateModuleLog_ok {payload : List UInt8} {documents : List (Doc F)} :
    validateModuleLog runId module' payload = .ok documents ↔
      payload.length ≤ moduleLogMaxBytes ∧ ∃ text, decodeUtf8 payload = some text ∧
        (splitlines text).mapM loads = .ok documents ∧ documents ≠ [] ∧
          documents.all (logContract runId module') = true := by
  unfold validateModuleLog
  constructor
  · intro h
    split at h
    · cases h
    · rename_i hsize
      split at h
      · cases h
      · rename_i text htext
        split at h
        · cases h
        · cases h
        · rename_i found hfound
          split at h
          · cases h
          · rename_i hcontract
            obtain rfl := Except.ok.inj h
            rw [Bool.or_eq_true, not_or, Bool.not_eq_true', Bool.not_eq_false,
              List.isEmpty_iff] at hcontract
            exact ⟨by omega, text, htext, hfound, hcontract.1, hcontract.2⟩
  · rintro ⟨hsize, text, htext, hfound, hne, hcontract⟩
    rw [if_neg (by omega), htext]
    dsimp only
    rw [hfound]
    dsimp only
    rw [hcontract, List.isEmpty_eq_false_iff.mpr hne]
    rfl

/-! ## 2. The strings of an event -/

/-- A string of the event holds a code point of a kind. -/
def StructuredEvent.anyChar (p : CodePoint → Bool) (e : StructuredEvent F) : Bool :=
  e.runId.any p || e.module'.any p || e.severity.any p || e.event.any p || anyField p e.fields

theorem beyond_isLineEnd : beyond isLineEnd = isSeparator := by
  funext c
  unfold beyond isLineEnd isSeparator isAscii
  rw [Bool.eq_iff_iff]
  simp only [Bool.and_eq_true, Bool.or_eq_true, decide_eq_true_eq, Bool.not_eq_true',
    decide_eq_false_iff_not]
  omega

theorem isVisible_of_isLineEnd (c : CodePoint) (h : isLineEnd c = true) : isVisible c = false := by
  unfold isLineEnd isSeparator at h
  unfold isVisible isAscii
  simp only [Bool.and_eq_true, Bool.or_eq_true, decide_eq_true_eq, Bool.and_eq_false_iff,
    decide_eq_false_iff_not] at h ⊢
  omega

theorem isVisible_of_isSeparator (c : CodePoint) (h : isSeparator c = true) :
    isVisible c = false := by
  refine isVisible_of_isLineEnd c ?_
  unfold isLineEnd
  rw [h, Bool.or_true]

theorem unquoted_padded (n k : ℕ) : Unquoted (padded n k) := by
  intro c hc
  have hvalue := isSome_digitValue_padded c hc
  refine isVisible_of_isDigit ?_
  unfold digitValue at hvalue
  split at hvalue
  · rename_i h
    unfold isDigit
    rw [Bool.and_eq_true, decide_eq_true_eq, decide_eq_true_eq]
    exact h
  · cases hvalue

theorem unquoted_cons {c : CodePoint} {t : PyText} (hc : c ≠ quote ∧ isVisible c = true)
    (ht : Unquoted t) : Unquoted (c :: t) := List.forall_mem_cons.mpr ⟨hc, ht⟩

theorem unquoted_isoText (c : Civil) : Unquoted (isoText c) := by
  have hfraction : Unquoted (if c.microsecond = 0 then [] else codePoint '.' ::
      padded 6 c.microsecond) := by
    split
    · exact unquoted_nil
    · exact unquoted_cons (by decide) (unquoted_padded 6 _)
  unfold isoText
  refine (unquoted_padded 4 _).append (unquoted_cons (by decide) ?_)
  refine (unquoted_padded 2 _).append (unquoted_cons (by decide) ?_)
  refine (unquoted_padded 2 _).append (unquoted_cons (by decide) ?_)
  refine (unquoted_padded 2 _).append (unquoted_cons (by decide) ?_)
  refine (unquoted_padded 2 _).append (unquoted_cons (by decide) ?_)
  exact (unquoted_padded 2 _).append (hfraction.append (unquoted_single (by decide)))

/-- The document of an event holds what the strings of the event hold. -/
theorem anyChar_document {e : StructuredEvent F} {sim : Doc F} {wall : Civil}
    (hsim : simValue e.simTimestamp = .ok sim) :
    anyChar isSeparator (e.document sim wall) = e.anyChar isSeparator := by
  have hwall : (isoText wall).any isSeparator = false :=
    (unquoted_isoText wall).any isVisible_of_isSeparator
  have hkey : ∀ key ∈ eventKeys, key.any isSeparator = false := by decide
  have hvalue : anyChar isSeparator sim = false := by
    rcases simValue_cases hsim with rfl | ⟨x, rfl⟩
    · rfl
    · rfl
  unfold StructuredEvent.document StructuredEvent.anyChar lineFields
  simp only [anyChar, anyField, hwall, hvalue,
    hkey LogKey.runId (by simp [eventKeys, commonFields]),
    hkey LogKey.module' (by simp [eventKeys, commonFields]),
    hkey LogKey.severity (by simp [eventKeys, commonFields]),
    hkey LogKey.event (by simp [eventKeys, commonFields]),
    hkey LogKey.simTimestamp (by simp [eventKeys, commonFields]),
    hkey LogKey.wallTimestamp (by simp [eventKeys, commonFields]),
    hkey LogKey.fields (by simp [eventKeys, commonFields]), Bool.false_or, Bool.or_false,
    Bool.or_assoc]

/-! ## 3. The log of a module -/

/-- The document the line of an event denotes. -/
def LineDocument (c : CapturedEvent F) (d : Doc F) : Prop :=
  ∃ line sim wall text, Written c.event line sim wall text ∧ d = (c.event.document sim wall).sorted

variable [LawfulPyFloat F]

/-- What the capture knows of one of its events, with the text of its line. -/
structure HasText (runId module' : PyText) (c : CapturedEvent F) (text : PyText) (d : Doc F) :
    Prop where
  encoded : encodeUtf8 (text ++ [newline]) = .ok c.encoded
  plain_eq : plain d = .ok text
  loads_eq : loads text = .ok d
  document : LineDocument c d
  contract : logContract runId module' d = true
  separator : text.any isLineEnd = c.event.anyChar isSeparator
  control : ∀ c ∈ text, isLineEnd c = true → isAscii c = false

/-- No end of a line that is ASCII stands in the text of a document. -/
theorem ascii_of_isLineEnd {d : Doc F} {text : PyText} (h : plain d = .ok text) :
    ∀ c ∈ text, isLineEnd c = true → isAscii c = false := by
  have hvisible : ∀ c, (isLineEnd c && isAscii c) = true → isVisible c = false :=
    fun c hc => isVisible_of_isLineEnd c (Bool.and_eq_true_iff.mp hc).1
  have hnever : ∀ c, beyond (fun c => isLineEnd c && isAscii c) c = false := by
    intro c
    show (isLineEnd c && isAscii c && !isAscii c) = false
    rw [Bool.and_assoc, Bool.and_not_self, Bool.and_false]
  have hany := any_plain hvisible h
  rw [anyChar_never hnever, List.any_eq_false] at hany
  intro c hc hend
  rw [← Bool.not_eq_true]
  exact fun hascii => hany c hc (Bool.and_eq_true_iff.mpr ⟨hend, hascii⟩)

theorem hasText_of_genuine {c : CapturedEvent F} (h : Genuine runId c)
    (hmodule : c.event.module' = module') : ∃ text d, HasText runId module' c text d := by
  obtain ⟨line, hline, hdata⟩ := encodeEvent_ok.mp h.encoded
  obtain ⟨sim, wall, text, hwritten⟩ := line_of_event.mp hline
  have hkeys := lineFields_keys c.event.runId c.event.module' c.event.severity c.event.event sim
    (isoText wall) c.event.fields
  have hloads := loads_dumps (unique_document h.unique hwritten.sim_eq wall) hwritten.text_eq
  refine ⟨text, (c.event.document sim wall).sorted, hwritten.line_eq ▸ hdata, hwritten.text_eq,
    hloads, ⟨line, sim, wall, text, hwritten, rfl⟩, ?_, ?_, ascii_of_isLineEnd hwritten.text_eq⟩
  · show (keysAre (sortedObject _) eventKeys && isString runId (get (sortedObject _) _) &&
      isString module' (get (sortedObject _) _)) = true
    rw [keysAre_sortedObject hkeys, get_sortedObject hkeys, get_sortedObject hkeys, h.runId_eq,
      hmodule]
    simp [keysAre, keysWithin, keysCover, eventKeys, commonFields, lineFields, Doc.get, Doc.sorted,
      isString, LogKey.runId, LogKey.module', LogKey.severity, LogKey.event, LogKey.simTimestamp,
      LogKey.wallTimestamp, LogKey.fields, ofString_inj]
  · rw [any_plain isVisible_of_isLineEnd hwritten.text_eq, beyond_isLineEnd, anyChar_sorted,
      anyChar_document hwritten.sim_eq]

/-- The texts and documents of the events of a log. -/
theorem texts_of_genuine {cs : List (CapturedEvent F)}
    (h : ∀ c ∈ cs, Genuine runId c ∧ c.event.module' = module') :
    ∃ rows : List (CapturedEvent F × PyText × Doc F), rows.map (fun r => r.1) = cs ∧
      ∀ r ∈ rows, HasText runId module' r.1 r.2.1 r.2.2 := by
  induction cs with
  | nil => exact ⟨[], rfl, fun _ hr => absurd hr List.not_mem_nil⟩
  | cons c cs ih =>
    rw [List.forall_mem_cons] at h
    obtain ⟨rows, hrows, hall⟩ := ih h.2
    obtain ⟨text, d, htext⟩ := hasText_of_genuine h.1.1 h.1.2
    refine ⟨(c, text, d) :: rows, ?_, List.forall_mem_cons.mpr ⟨htext, hall⟩⟩
    rw [List.map_cons, hrows]

omit [LawfulPyFloat F] in
theorem encodeUtf8_rows {rows : List (CapturedEvent F × PyText × Doc F)}
    (h : ∀ r ∈ rows, HasText runId module' r.1 r.2.1 r.2.2) :
    encodeUtf8 (joinLines (rows.map fun r => r.2.1)) =
      .ok (rows.flatMap fun r => r.1.encoded) := by
  induction rows with
  | nil => rfl
  | cons r rows ih =>
    rw [List.forall_mem_cons] at h
    exact encodeUtf8_append h.1.encoded (ih h.2)

/-- **When a log is accepted**, and with which documents. -/
theorem log_accepted {cs : List (CapturedEvent F)} (hne : cs ≠ [])
    (h : ∀ c ∈ cs, Genuine runId c ∧ c.event.module' = module') :
    (∃ documents, validateModuleLog runId module' (cs.flatMap CapturedEvent.encoded) =
      .ok documents ∧ List.Forall₂ LineDocument cs documents) ↔
        (cs.flatMap CapturedEvent.encoded).length ≤ moduleLogMaxBytes ∧
          ∀ c ∈ cs, c.event.anyChar isSeparator = false := by
  obtain ⟨rows, rfl, hrows⟩ := texts_of_genuine h
  have hfile : (rows.map fun r => r.1).flatMap CapturedEvent.encoded =
      rows.flatMap fun r => r.1.encoded := List.flatMap_map (fun r => r.1) _ rows
  have hdecode : decodeUtf8 ((rows.map fun r => r.1).flatMap CapturedEvent.encoded) =
      some (joinLines (rows.map fun r => r.2.1)) := by
    rw [hfile]
    exact decodeUtf8_encode (encodeUtf8_rows hrows)
  constructor
  · rintro ⟨documents, haccepted, -⟩
    obtain ⟨hsize, text, htext, hloads, -⟩ := validateModuleLog_ok.mp haccepted
    rw [hdecode] at htext
    obtain rfl := Option.some.inj htext
    refine ⟨hsize, fun c hc => ?_⟩
    obtain ⟨r, hr, rfl⟩ := List.mem_map.mp hc
    by_contra hseparator
    -- The first separator cuts the line within a string.
    have hrow := hrows r hr
    rw [Bool.not_eq_false, ← hrow.separator] at hseparator
    obtain ⟨p, e, rest, hcut, hend, hp⟩ := exists_first hseparator
    have hascii := hrow.control e (hcut ▸ List.mem_append_right p List.mem_cons_self) hend
    have hreturn : e ≠ carriageReturn := by
      rintro rfl
      exact absurd hascii (by decide)
    have hmem : p ∈ splitlines (joinLines (rows.map fun r => r.2.1)) :=
      mem_splitlines_joinLines (List.mem_map_of_mem hr) hcut hp hend hreturn
    obtain ⟨d, hd⟩ := mapM_returns.mp ⟨documents, hloads⟩ p hmem
    obtain ⟨found, hfound, -⟩ := map_ok hd
    exact parse_cut hrow.plain_eq hcut hascii found hfound
  · rintro ⟨hsize, hclear⟩
    have hlines : splitlines (joinLines (rows.map fun r => r.2.1)) = rows.map fun r => r.2.1 := by
      refine splitlines_lines fun line hline c hc => ?_
      obtain ⟨r, hr, rfl⟩ := List.mem_map.mp hline
      have hnone := hclear r.1 (List.mem_map_of_mem hr)
      rw [← (hrows r hr).separator, List.any_eq_false] at hnone
      exact Bool.eq_false_iff.mpr (hnone c hc)
    have hloads : (rows.map fun r => r.2.1).mapM loads = .ok (rows.map fun r => r.2.2) := by
      rw [mapM_ok, List.forall₂_map_left_iff, List.forall₂_map_right_iff, List.forall₂_same]
      exact fun r hr => (hrows r hr).loads_eq
    refine ⟨rows.map fun r => r.2.2, validateModuleLog_ok.mpr ⟨hsize, _, hdecode, ?_, ?_, ?_⟩, ?_⟩
    · rw [hlines]
      exact hloads
    · intro hnil
      rw [List.map_eq_nil_iff] at hnil
      exact hne (List.map_eq_nil_iff.mpr hnil)
    · rw [List.all_map, List.all_eq_true]
      exact fun r hr => (hrows r hr).contract
    · rw [List.forall₂_map_left_iff, List.forall₂_map_right_iff, List.forall₂_same]
      exact fun r hr => (hrows r hr).document

/-! ## 4. Through the capture -/

omit [LawfulPyFloat F] in
theorem genuine_of_lines {c : CapturedEvent F}
    (hc : c ∈ (outputLines runId ownership outputs hostOutput).filterMap capturedOf) :
    Genuine runId c := by
  obtain ⟨line, hline, hcaptured⟩ := List.mem_filterMap.mp hc
  have hok : line = .ok (some c) := by
    cases line with
    | error fault => cases hcaptured
    | ok captured => exact congrArg Except.ok hcaptured
  rw [hok] at hline
  rcases List.mem_append.mp hline with hline | hline
  · obtain ⟨pair, -, hline⟩ := List.mem_flatMap.mp hline
    obtain ⟨numbered, -, hvalidated⟩ := List.mem_map.mp hline
    exact (genuine_of_validated hvalidated).1
  · cases hostOutput with
    | none => cases hline
    | some output =>
      obtain ⟨numbered, -, hvalidated⟩ := List.mem_map.mp hline
      exact (genuine_of_validated hvalidated).1

omit [LawfulPyFloat F] in
theorem genuine_of_routed {c : CapturedEvent F}
    (hc : c ∈ (partition runId ownership outputs hostOutput).routed module') :
    Genuine runId c ∧ c.event.module' = module' := by
  have hfound : c ∈ ((outputLines runId ownership outputs hostOutput).filterMap
      capturedOf).filter fun c => c.event.module' = module' := by
    unfold partition at hc
    dsimp only at hc
    split at hc
    · exact (List.perm_insertionSort _ _).mem_iff.mp hc
    · exact hc
  obtain ⟨hmem, hmodule⟩ := List.mem_filter.mp hfound
  exact ⟨genuine_of_lines hmem, of_decide_eq_true hmodule⟩

omit [LawfulPyFloat F] in
theorem routed_nonempty (hmodule : module' ∈ requiredModules)
    (h : module' ∉ (partition (F := F) runId ownership outputs hostOutput).missing) :
    (partition (F := F) runId ownership outputs hostOutput).routed module' ≠ [] := by
  intro hnil
  refine h (List.mem_filter.mpr ⟨hmodule, ?_⟩)
  rw [List.isEmpty_iff]
  exact hnil

/-- **The line of every event is captured as it is, and a log is accepted exactly when** it has at
    most 32 MiB and no string of its events holds a next line, a line separator or a paragraph
    separator; its documents are then those of its lines. -/
theorem logs_survive (runId : PyText) :
    (∀ (e : StructuredEvent F) (line : PyText) (data : List UInt8), e.toJsonLine = .ok line →
      encodeUtf8 line = .ok data → e.runId = runId → e.module' ∈ requiredModules →
        e.severity ≠ [] → e.event ≠ [] → Unique (.obj e.fields) →
          ∀ (lineNumber : ℕ) (rest : List UInt8), ∃ front c,
            byteLines (data ++ rest) = front :: byteLines rest ∧
              validatedLine runId e.module' 0 lineNumber false front = .ok (some c) ∧
                c.encoded = data ∧ SameEvent e c.event) ∧
      ∀ (ownership : List (PyText × PyText)) (outputs : PyText → List UInt8)
        (hostOutput : Option (List UInt8)) (module' : PyText), module' ∈ requiredModules →
          module' ∉ (partition (F := F) runId ownership outputs hostOutput).missing →
            ((∃ documents, validateModuleLog runId module'
                ((partition (F := F) runId ownership outputs hostOutput).encoded module') =
                  .ok documents ∧ List.Forall₂ (LineDocument (F := F))
                    ((partition runId ownership outputs hostOutput).routed module') documents) ↔
              ((partition (F := F) runId ownership outputs hostOutput).encoded module').length ≤
                  moduleLogMaxBytes ∧
                ∀ c ∈ (partition (F := F) runId ownership outputs hostOutput).routed module',
                  c.event.anyChar isSeparator = false) := by
  constructor
  · rintro e line data hline hdata rfl howner hseverity hevent hfields lineNumber rest
    obtain ⟨front, c, rfl, hnewline, hvalidated, hencoded, hsame⟩ :=
      captured_of_line hline hdata howner hseverity hevent hfields 0 lineNumber false
    refine ⟨front, c, ?_, hvalidated, hencoded, hsame⟩
    rw [List.append_assoc, List.singleton_append, byteLines_append hnewline]
  · intro ownership outputs hostOutput module' hmodule hmissing
    exact log_accepted (routed_nonempty hmodule hmissing) fun c hc => genuine_of_routed hc

end Inspector

/-! ## 5. Two logs -/

/-- An event of a module with its name. -/
def namedEvent (name module' : PyText) : StructuredEvent WholeFloat where
  runId := ofString "run"
  module' := module'
  severity := ofString "info"
  event := name
  wallTimestamp := ⟨⟨2026, 1, 1, 0, 0, 0, 0⟩, 0, by decide, Datetime.noOffset_lt⟩
  simTimestamp := none
  fields := []
  distinct := rfl
  finite := rfl

/-- Each service writes the event of its module. -/
def namedOutputs (name service : PyText) : List UInt8 :=
  match encodeEvent (namedEvent name service) with
  | .ok data => data
  | .error _ => []

/-- Each module has a service of its name. -/
def ownServices : List (PyText × PyText) := requiredModules.map fun module' => (module', module')

/-- `"a\u2028b"` -/
def separatedName : PyText := [codePoint 'a', .ofNat _ 0x2028, codePoint 'b']

/-- What the capture makes of the output of the services. -/
def namedPartition (name : PyText) : Partition WholeFloat :=
  partition (ofString "run") ownServices (namedOutputs name) none

theorem named_plain : (namedPartition (ofString "armed")).missing = [] ∧
    ((namedPartition (ofString "armed")).encoded (ofString "companion")).length ≤
        moduleLogMaxBytes ∧
      ∀ c ∈ (namedPartition (ofString "armed")).routed (ofString "companion"),
        c.event.anyChar isSeparator = false := by
  decide +kernel

theorem named_separated : (namedPartition separatedName).faults.isEmpty = true ∧
    (namedPartition separatedName).missing = [] ∧
      (validateModuleLog (F := WholeFloat) (ofString "run") (ofString "companion")
        ((namedPartition separatedName).encoded (ofString "companion"))).isOk = false := by
  decide +kernel

theorem logs_survive_plain : ∃ documents : List (Doc WholeFloat),
    validateModuleLog (ofString "run") (ofString "companion")
      ((namedPartition (ofString "armed")).encoded (ofString "companion")) = .ok documents := by
  obtain ⟨hmissing, hsize, hclear⟩ := named_plain
  have hlog := (logs_survive (F := WholeFloat) (ofString "run")).2 ownServices
    (namedOutputs (ofString "armed")) none (ofString "companion") (by simp [requiredModules])
    (hmissing ▸ List.not_mem_nil)
  obtain ⟨documents, haccepted, -⟩ := hlog.mpr ⟨hsize, hclear⟩
  exact ⟨documents, haccepted⟩

/-- **A published log that is not accepted**: its event holds a line separator. -/
theorem separated_log_refused :
    ¬∀ (runId : PyText) (ownership : List (PyText × PyText)) (outputs : PyText → List UInt8)
        (module' : PyText), module' ∈ requiredModules →
          (partition (F := WholeFloat) runId ownership outputs none).faults.isEmpty = true →
            (partition (F := WholeFloat) runId ownership outputs none).missing = [] →
              ∃ documents : List (Doc WholeFloat), validateModuleLog runId module'
                ((partition (F := WholeFloat) runId ownership outputs none).encoded module') =
                  .ok documents := by
  intro h
  obtain ⟨hfaults, hmissing, hrefused⟩ := named_separated
  obtain ⟨documents, haccepted⟩ := h (ofString "run") ownServices (namedOutputs separatedName)
    (ofString "companion") (by simp [requiredModules]) hfaults hmissing
  have haccepted' : validateModuleLog (ofString "run") (ofString "companion")
      ((namedPartition separatedName).encoded (ofString "companion")) = .ok documents := haccepted
  rw [haccepted'] at hrefused
  cases hrefused

end DroneSim
