/-
  File:      DroneSim/Artifacts/StatusCodec.lean
  Subject:   The wire format of the runtime statuses goes both ways.

  `parse_document` reads back what `statusDocument` writes, `document_parse` writes again what
  `parseStatus` has read. Statuses that are equal have equal documents (`Same.document`), so two
  documents that are read as equal statuses are equal.
-/
import DroneSim.Artifacts.StatusFields

namespace DroneSim

open Library
open Library.PyValue (Equal normal field entry)

/-! ## 1. Equal statuses -/

/-- `==` of two records: their semantics are equal, every other field is the same. -/
structure ArtifactFinalRecord.Same (r s : ArtifactFinalRecord) : Prop where
  relativePath : r.relativePath = s.relativePath
  status : r.status = s.status
  detail : r.detail = s.detail
  sizeBytes : r.sizeBytes = s.sizeBytes
  sha256 : r.sha256 = s.sha256
  semantic : Equal r.semantic s.semantic

/-- `==` of the fields of two statuses. -/
def StatusShape.SameFields : (shape : StatusShape) → shape.Fields → shape.Fields → Prop
  | .records, r, s =>
    List.Forall₂ ArtifactFinalRecord.Same (FinalRecords.records r) (FinalRecords.records s)
  | .marker, f, g => f = g
  | .flight, f, g => f = g
  | .stamped _, f, g => f = g
  | .failure, f, g => f = g

/-- `==` of two statuses of one type. -/
structure RuntimeStatus.Same {t : StatusType} (s u : RuntimeStatus t) : Prop where
  runId : s.runId = u.runId
  fields : t.definition.shape.SameFields s.fields u.fields

/-- The same field on the wire, with an equal value. -/
def SameField (p q : String × PyValue) : Prop := p.1 = q.1 ∧ Equal p.2 q.2

/-- **Documents with the same fields are equal.** -/
theorem document_same {fs gs : List (String × PyValue)} (h : List.Forall₂ SameField fs gs) :
    Equal (.mapping true (document fs)) (.mapping true (document gs)) := by
  have hentry : ∀ k, (entry (document fs) k).isSome = (entry (document gs) k).isSome ∧
      ∀ x y, entry (document fs) k = some x → entry (document gs) k = some y → Equal x y := by
    intro k
    induction h with
    | nil => exact ⟨rfl, fun x y hx => by cases hx⟩
    | @cons p q fs gs hfirst _ ih =>
      obtain ⟨a, v⟩ := p
      obtain ⟨b, w⟩ := q
      obtain ⟨hname, hvalue⟩ := hfirst
      dsimp only at hname hvalue
      subst hname
      show (entry ((.str a, v) :: document fs) k).isSome =
          (entry ((.str a, w) :: document gs) k).isSome ∧
        ∀ x y, entry ((.str a, v) :: document fs) k = some x →
          entry ((.str a, w) :: document gs) k = some y → Equal x y
      rw [PyValue.entry_cons, PyValue.entry_cons]
      split
      · refine ⟨rfl, fun x y hx hy => ?_⟩
        obtain rfl := Option.some.inj hx
        obtain rfl := Option.some.inj hy
        exact hvalue
      · exact ih
  exact .mapping (fun k => (hentry k).1) fun k => (hentry k).2

theorem SameField.refl (fields : List (String × PyValue)) :
    List.Forall₂ SameField fields fields :=
  List.forall₂_same.mpr fun _ _ => ⟨rfl, .refl _⟩

theorem ArtifactFinalRecord.Same.document {r s : ArtifactFinalRecord} (h : r.Same s)
    {v w : PyValue} (hv : r.toDocument = .ok v) (hw : s.toDocument = .ok w) : Equal v w := by
  rw [toDocument_eq] at hv hw
  obtain rfl := Except.ok.inj hv
  obtain rfl := Except.ok.inj hw
  refine document_same ?_
  unfold toFields
  rw [h.relativePath, h.status, h.detail, h.sizeBytes, h.sha256]
  exact .cons ⟨rfl, .refl _⟩ (.cons ⟨rfl, .refl _⟩ (.cons ⟨rfl, .refl _⟩ (.cons ⟨rfl, .refl _⟩
    (.cons ⟨rfl, .refl _⟩ (.cons ⟨rfl, h.semantic.normal⟩ .nil)))))

theorem records_same {rs ss : List ArtifactFinalRecord}
    (h : List.Forall₂ ArtifactFinalRecord.Same rs ss) {vs ws : List PyValue}
    (hv : List.Forall₂ (fun r v => ArtifactFinalRecord.toDocument r = .ok v) rs vs)
    (hw : List.Forall₂ (fun r v => ArtifactFinalRecord.toDocument r = .ok v) ss ws) :
    List.Forall₂ Equal vs ws := by
  induction h generalizing vs ws with
  | nil =>
    obtain rfl := List.forall₂_nil_left_iff.mp hv
    obtain rfl := List.forall₂_nil_left_iff.mp hw
    exact .nil
  | cons hfirst _ ih =>
    obtain ⟨v, vs, hv1, hv2, rfl⟩ := List.forall₂_cons_left_iff.mp hv
    obtain ⟨w, ws, hw1, hw2, rfl⟩ := List.forall₂_cons_left_iff.mp hw
    exact .cons (hfirst.document hv1 hw1) (ih hv2 hw2)

theorem complete_same {rs ss : List ArtifactFinalRecord}
    (h : List.Forall₂ ArtifactFinalRecord.Same rs ss) :
    rs.all (fun r => r.status == .valid) = ss.all fun r => r.status == .valid := by
  induction h with
  | nil => rfl
  | cons hfirst _ ih => rw [List.all_cons, List.all_cons, ih, hfirst.status]

/-- Same fields are written as equal fields, with equal derived fields. -/
theorem StatusShape.SameFields.encode {shape : StatusShape} {f g : shape.Fields}
    (h : shape.SameFields f g) {fs gs : List (String × PyValue)} (hf : shape.encode f = .ok fs)
    (hg : shape.encode g = .ok gs) :
    List.Forall₂ SameField fs gs ∧ shape.derived f = shape.derived g := by
  cases shape with
  | records =>
    obtain ⟨vs, hvs, hf⟩ :=
      bind_ok (x := (FinalRecords.records f).mapM ArtifactFinalRecord.toDocument) hf
    obtain ⟨ws, hws, hg⟩ :=
      bind_ok (x := (FinalRecords.records g).mapM ArtifactFinalRecord.toDocument) hg
    obtain rfl := Except.ok.inj hf
    obtain rfl := Except.ok.inj hg
    refine ⟨.cons ⟨rfl, Equal.list_of_forall₂ (records_same h (mapM_ok.mp hvs)
      (mapM_ok.mp hws))⟩ .nil, ?_⟩
    exact congrArg (fun b => [("complete", PyValue.bool b)]) (complete_same h)
  | marker | flight | stamped _ | failure =>
    have heq : f = g := h
    subst heq
    obtain rfl := Except.ok.inj (hf.symm.trans hg)
    exact ⟨SameField.refl _, rfl⟩

/-! ## 2. Statuses -/

namespace RuntimeStatus

variable {t : StatusType}

/-- The status with the tuples of nested values as lists. -/
def normalised (s : RuntimeStatus t) : RuntimeStatus t :=
  { s with fields := t.definition.shape.normalise s.fields }

/-- The fields of a status on the wire, over its encoded fields. -/
def toFields (s : RuntimeStatus t) (fields : List (String × PyValue)) : List (String × PyValue) :=
  ("run_id", .str s.runId) :: (t.definition.fixedFields ++
    (fields ++ t.definition.shape.derived s.fields))

/-- No two fields of a type have one name. -/
theorem keys_nodup (t : StatusType) : t.keys.Nodup := by
  cases t <;> decide

theorem map_fst_toFields (s : RuntimeStatus t) {fields : List (String × PyValue)}
    (h : t.definition.shape.encode s.fields = .ok fields) :
    (s.toFields fields).map Prod.fst = t.keys := by
  unfold toFields StatusType.keys
  rw [List.map_cons, List.map_append, List.map_append, StatusShape.encode_names h,
    StatusShape.derived_names]

/-- A value that the reader compares: a boolean or a text. -/
def Compared (v : PyValue) : Prop := (∃ b, v = .bool b) ∨ ∃ text, v = .str text

theorem fixed_compared (t : StatusType) : ∀ p ∈ t.definition.fixedFields, Compared p.2 := by
  intro p hp
  unfold Compared
  cases t <;>
    simp only [StatusType.definition, List.mem_cons, List.not_mem_nil, or_false] at hp <;>
    grind

theorem derived_compared (shape : StatusShape) (f : shape.Fields) :
    ∀ p ∈ shape.derived f, Compared p.2 := by
  intro p hp
  cases shape with
  | records =>
    obtain rfl := List.mem_singleton.mp hp
    exact Or.inl ⟨_, rfl⟩
  | _ => cases hp

/-- What `matchesFields` tests. -/
theorem matchesFields_iff {items : List (PyKey × PyValue)} {expected : List (String × PyValue)}
    (h : ∀ p ∈ expected, Compared p.2) :
    matchesFields items expected = true ↔ ∀ p ∈ expected, field items p.1 = some p.2 := by
  unfold matchesFields
  rw [List.all_eq_true]
  refine forall₂_congr fun p hp => ?_
  rw [Option.any_eq_true]
  constructor
  · rintro ⟨v, hv, hmatch⟩
    rw [hv]
    rcases h p hp with ⟨b, hb⟩ | ⟨text, htext⟩
    · rw [hb] at hmatch ⊢
      cases v with
      | bool a => rw [eq_of_beq (show (a == b) = true from hmatch)]
      | _ => cases hmatch
    · rw [htext] at hmatch ⊢
      cases v with
      | str a => rw [eq_of_beq (show (a == text) = true from hmatch)]
      | _ => cases hmatch
  · intro hp'
    refine ⟨p.2, hp', ?_⟩
    rcases h p hp with ⟨b, hb⟩ | ⟨text, htext⟩
    · rw [hb]
      exact beq_self_eq_true b
    · rw [htext]
      exact beq_self_eq_true text

/-- **What is written is read back.** -/
theorem parse_document (s : RuntimeStatus t) {d : PyValue} (h : statusDocument s = .ok d) :
    parseStatus t d s.runId = .ok s.normalised := by
  obtain ⟨fields, hfields, h⟩ := bind_ok (x := t.definition.shape.encode s.fields) h
  obtain rfl := Except.ok.inj h
  have hnames := s.map_fst_toFields hfields
  have hnodup : ((s.toFields fields).map Prod.fst).Nodup := hnames ▸ keys_nodup t
  have hkeys : hasKeys (document (s.toFields fields)) t.keys = true := hasKeys_document hnames
  have hitems : ∀ p ∈ s.toFields fields, field (document (s.toFields fields)) p.1 = some p.2 :=
    fun p hp => field_document hnodup hp
  obtain ⟨hrun, hrest⟩ := List.forall_mem_cons.mp hitems
  obtain ⟨hfixed, hrest⟩ := List.forall_mem_append.mp hrest
  obtain ⟨hencoded, hderived⟩ := List.forall_mem_append.mp hrest
  have hdecode := StatusShape.decode_encode hfields hencoded
  show parseStatus t (.mapping true (document (s.toFields fields))) s.runId = _
  unfold parseStatus
  rw [dif_pos s.canonical]
  dsimp only
  rw [if_pos hkeys, hrun]
  show (canonicalRunId (.str s.runId) >>= _) = _
  unfold canonicalRunId
  dsimp only
  rw [if_pos s.canonical]
  show (if s.runId ≠ s.runId then _ else _) = _
  rw [if_neg (fun h => h rfl), if_pos ((matchesFields_iff (fixed_compared t)).mpr hfixed), hdecode]
  show (if matchesFields _ (t.definition.shape.derived (t.definition.shape.normalise s.fields)) =
    true then _ else _) = _
  rw [StatusShape.derived_normalise,
    if_pos ((matchesFields_iff (derived_compared _ _)).mpr hderived)]
  rfl

/-- What a reader has checked. -/
structure Read (value : PyValue) (runId : String) (s : RuntimeStatus t)
    (items : List (PyKey × PyValue)) : Prop where
  value_eq : value = .mapping true items
  hasKeys : hasKeys items t.keys = true
  run : field items "run_id" = some (.str s.runId)
  expected : s.runId = runId
  fixed : ∀ p ∈ t.definition.fixedFields, field items p.1 = some p.2
  fields : t.definition.shape.decode items = .ok s.fields
  derived : ∀ p ∈ t.definition.shape.derived s.fields, field items p.1 = some p.2

/-- **A document that is read has passed every check.** -/
theorem parse_read {value : PyValue} {runId : String} {s : RuntimeStatus t}
    (h : parseStatus t value runId = .ok s) : ∃ items, Read value runId s items := by
  unfold parseStatus at h
  split at h
  · split at h
    · rename_i items
      split at h
      · rename_i hkeys
        obtain ⟨id, hid, h⟩ := bind_ok h
        split at h
        · cases h
        · rename_i hsame
          obtain rfl := not_not.mp hsame
          split at h
          · rename_i hfixed
            obtain ⟨fields, hfields, h⟩ := bind_ok h
            split at h
            · rename_i hderived
              obtain rfl := Except.ok.inj h
              refine ⟨items, rfl, hkeys, ?_, rfl, (matchesFields_iff (fixed_compared t)).mp hfixed,
                hfields, (matchesFields_iff (derived_compared _ _)).mp hderived⟩
              obtain ⟨v, hv⟩ := Option.isSome_iff_exists.mp
                ((hasKeys_iff.mp hkeys (.str "run_id")).mpr ⟨_, List.mem_cons_self, rfl⟩)
              have hfield : field items "run_id" = some v := hv
              rw [hfield, Option.getD_some] at hid
              unfold canonicalRunId at hid
              split at hid
              · split at hid
                · obtain rfl := Except.ok.inj hid
                  exact hfield
                · cases hid
              · cases hid
            · cases h
          · cases h
      · cases h
    · cases h
  · cases h

/-- **What is read was written.** -/
theorem document_parse {value : PyValue} {runId : String} {s : RuntimeStatus t}
    (h : parseStatus t value runId = .ok s) :
    ∃ d, statusDocument s = .ok d ∧ Equal d value.normal := by
  obtain ⟨items, hread⟩ := parse_read h
  obtain ⟨fields, hfields, hequal⟩ := StatusShape.encode_decode hread.fields fun name hname =>
    (hasKeys_iff.mp hread.hasKeys (.str name)).mpr ⟨name, by
      unfold StatusType.keys
      exact List.mem_cons_of_mem _ (List.mem_append_right _ (List.mem_append_left _ hname)), rfl⟩
  have hcompared : ∀ {p : String × PyValue}, Compared p.2 → field items p.1 = some p.2 →
      ∃ y, field items p.1 = some y ∧ Equal p.2 y.normal := by
    intro p hp hfield
    refine ⟨p.2, hfield, ?_⟩
    rcases hp with ⟨b, hb⟩ | ⟨text, htext⟩
    · rw [hb]
      exact .refl _
    · rw [htext]
      exact .refl _
  refine ⟨.mapping true (document (s.toFields fields)), ?_, ?_⟩
  · show (t.definition.shape.encode s.fields >>= _) = _
    rw [hfields]
    rfl
  · rw [hread.value_eq]
    refine document_equal (by rw [s.map_fst_toFields hfields]; exact hread.hasKeys) ?_
    unfold toFields
    refine List.forall_mem_cons.mpr ⟨⟨_, hread.run, .refl _⟩, List.forall_mem_append.mpr
      ⟨fun p hp => hcompared (fixed_compared t p hp) (hread.fixed p hp),
        List.forall_mem_append.mpr ⟨hequal, fun p hp =>
          hcompared (derived_compared _ _ p hp) (hread.derived p hp)⟩⟩⟩

/-- **Equal statuses have equal documents.** -/
theorem Same.document {s u : RuntimeStatus t} (h : s.Same u) {d e : PyValue}
    (hd : statusDocument s = .ok d) (he : statusDocument u = .ok e) : Equal d e := by
  obtain ⟨fs, hfs, hd⟩ := bind_ok (x := t.definition.shape.encode s.fields) hd
  obtain ⟨gs, hgs, he⟩ := bind_ok (x := t.definition.shape.encode u.fields) he
  obtain rfl := Except.ok.inj hd
  obtain rfl := Except.ok.inj he
  obtain ⟨hfields, hderived⟩ := h.fields.encode hfs hgs
  refine document_same ?_
  rw [h.runId, hderived]
  exact .cons ⟨rfl, .refl _⟩ (List.rel_append (SameField.refl _)
    (List.rel_append hfields (SameField.refl _)))

end RuntimeStatus

/-- **The wire format goes both ways.** Every status is read back from its document, with the
    tuples of its nested values as lists; every document that is read equals the document of what
    was read; so documents of equal statuses are equal. -/
theorem status_roundTrip :
    (∀ (t : StatusType) (s : RuntimeStatus t), ∃ d, statusDocument s = .ok d ∧
      parseStatus t d s.runId = .ok s.normalised) ∧
    (∀ (t : StatusType) (value : PyValue) (runId : String) (s : RuntimeStatus t),
      parseStatus t value runId = .ok s → ∃ d, statusDocument s = .ok d ∧
        Equal d value.normal ∧ (value.tupleFree = true → Equal d value)) ∧
    (∀ (t : StatusType) (v w : PyValue) (runId runId' : String) (s u : RuntimeStatus t),
      v.tupleFree = true → w.tupleFree = true → parseStatus t v runId = .ok s →
      parseStatus t w runId' = .ok u → s.Same u → Equal v w) := by
  have hback : ∀ {t : StatusType} {value : PyValue} {runId : String} {s : RuntimeStatus t},
      parseStatus t value runId = .ok s → ∃ d, statusDocument s = .ok d ∧
        Equal d value.normal ∧ (value.tupleFree = true → Equal d value) := by
    intro t value runId s h
    obtain ⟨d, hd, hequal⟩ := RuntimeStatus.document_parse h
    exact ⟨d, hd, hequal, fun hfree => hequal.trans (PyValue.normal_equal value hfree)⟩
  refine ⟨fun t s => ?_, fun t value runId s => hback,
    fun t v w runId runId' s u hv hw h h' hsame => ?_⟩
  · obtain ⟨fields, hfields⟩ := StatusShape.encode_ok t.definition.shape s.fields
    have hd : statusDocument s = .ok (.mapping true (document (s.toFields fields))) := by
      show (t.definition.shape.encode s.fields >>= _) = _
      rw [hfields]
      rfl
    exact ⟨_, hd, s.parse_document hd⟩
  · obtain ⟨d, hd, -, hvd⟩ := hback h
    obtain ⟨e, he, -, hwe⟩ := hback h'
    exact (hvd hv).symm.trans ((hsame.document hd he).trans (hwe hw))

end DroneSim
