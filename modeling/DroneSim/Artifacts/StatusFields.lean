/-
  File:      DroneSim/Artifacts/StatusFields.lean
  Subject:   What a status carries, written and read back.

  A nested object is written field by field and read field by field, so each level has two facts:
  what is written is read back, and what is read was written. They meet in `document_equal`: a
  mapping of the right keys equals the written one when each of its fields does.

  Semantic values are the one place where reading changes something: a tuple comes back as a list
  (`PyValue.normal`).
-/
import DroneSim.Artifacts.RuntimeStatus
import Mathlib.Data.List.Nodup

namespace DroneSim

open Library
open Library.PyValue (Equal normal field entry)

variable {items : List (PyKey × PyValue)} {fields : List (String × PyValue)} {v value : PyValue}
  {r : ArtifactFinalRecord} {names : List String}

/-! ## 1. Documents -/

theorem field_document_cons (k name : String) (v : PyValue) (fields : List (String × PyValue)) :
    field (document ((k, v) :: fields)) name =
      if k = name then some v else field (document fields) name := by
  show entry ((.str k, v) :: document fields) (.str name) = _
  rw [PyValue.entry_cons]
  by_cases h : k = name
  · simp [h]
  · simp [h, field]

theorem keys_document (fields : List (String × PyValue)) :
    (document fields).map Prod.fst = (fields.map Prod.fst).map PyKey.str := by
  unfold document
  rw [List.map_map, List.map_map]
  rfl

/-- What `hasKeys` tests. -/
theorem hasKeys_iff :
    hasKeys items names = true ↔
      ∀ k, (entry items k).isSome = true ↔ ∃ name ∈ names, k = .str name := by
  unfold hasKeys
  rw [Bool.and_eq_true, List.all_eq_true, List.all_eq_true]
  constructor
  · rintro ⟨honly, hall⟩ k
    constructor
    · intro hk
      obtain ⟨p, hp, rfl⟩ := List.mem_map.mp (PyValue.entry_isSome.mp hk)
      obtain ⟨name, hname, heq⟩ := List.any_eq_true.mp (honly p hp)
      exact ⟨name, hname, eq_of_beq heq⟩
    · rintro ⟨name, hname, rfl⟩
      exact hall name hname
  · intro h
    refine ⟨fun p hp => ?_, fun name hname => (h (.str name)).mpr ⟨name, hname, rfl⟩⟩
    obtain ⟨name, hname, heq⟩ :=
      (h p.1).mp (PyValue.entry_isSome.mpr (List.mem_map.mpr ⟨p, hp, rfl⟩))
    exact List.any_eq_true.mpr ⟨name, hname, beq_iff_eq.mpr heq⟩

theorem hasKeys_document (h : fields.map Prod.fst = names) :
    hasKeys (document fields) names = true := by
  rw [hasKeys_iff]
  intro k
  rw [PyValue.entry_isSome, keys_document, h, List.mem_map]
  constructor
  · rintro ⟨name, hname, rfl⟩
    exact ⟨name, hname, rfl⟩
  · rintro ⟨name, hname, rfl⟩
    exact ⟨name, hname, rfl⟩

theorem field_document (hnodup : (fields.map Prod.fst).Nodup) {name : String}
    (h : (name, v) ∈ fields) : field (document fields) name = some v := by
  refine PyValue.entry_of_mem ?_ (List.mem_map.mpr ⟨(name, v), h, rfl⟩)
  rw [keys_document]
  exact List.Nodup.map (fun _ _ h => PyKey.str.inj h) hnodup

/-- **A mapping of the right keys equals the document when each of its fields does.** -/
theorem document_equal {d : Bool} (hkeys : hasKeys items (fields.map Prod.fst) = true)
    (h : ∀ p ∈ fields, ∃ y, field items p.1 = some y ∧ Equal p.2 y.normal) :
    Equal (.mapping true (document fields)) (normal (.mapping d items)) := by
  rw [normal]
  have hsome := hasKeys_iff.mp hkeys
  refine .mapping (fun k => ?_) fun k x y hx hy => ?_
  · rw [PyValue.entry_normalEntries, Option.isSome_map, Bool.eq_iff_iff, hsome k,
      PyValue.entry_isSome, keys_document, List.mem_map]
    constructor
    · rintro ⟨name, hname, rfl⟩
      exact ⟨name, hname, rfl⟩
    · rintro ⟨name, hname, rfl⟩
      exact ⟨name, hname, rfl⟩
  · obtain ⟨p, hp, heq⟩ := List.mem_map.mp (PyValue.mem_of_entry hx)
    obtain ⟨rfl, rfl⟩ := Prod.mk.inj heq
    obtain ⟨z, hz, hequal⟩ := h p hp
    rw [PyValue.entry_normalEntries] at hy
    have hz' : entry items (.str p.1) = some z := hz
    rw [hz', Option.map_some] at hy
    obtain rfl := Option.some.inj hy
    exact hequal

theorem natural_eq_some {n : ℕ} : natural v = some n ↔ v = .int n := by
  constructor
  · intro h
    cases v with
    | int m =>
      simp only [natural] at h
      split at h
      · rename_i hm
        obtain rfl := Option.some.inj h
        rw [Int.toNat_of_nonneg hm]
      · cases h
    | _ => cases h
  · rintro rfl
    show (if (0 : ℤ) ≤ (n : ℤ) then some (n : ℤ).toNat else none) = some n
    rw [if_pos (Int.natCast_nonneg n), Int.toNat_natCast]

theorem text_eq_some {s : String} : text v = some s ↔ v = .str s := by
  cases v with
  | str t => simp [text]
  | _ => simp [text]

theorem digest_eq_some {d : Sha256} : digest v = some d ↔ v = .str d.val := by
  cases v with
  | str t =>
    obtain ⟨d, hd⟩ := d
    simp only [digest, PyValue.str.injEq]
    constructor
    · intro h
      split at h
      · exact congrArg Subtype.val (Option.some.inj h)
      · cases h
    · rintro rfl
      exact dif_pos hd
  | _ => simp [digest]

theorem bind_eq_some_iff {α : Type} {read : PyValue → Option α} {write : α → PyValue}
    (hread : ∀ {v a}, read v = some a ↔ v = write a) {o : Option PyValue} {a : α} :
    o.bind read = some a ↔ o = some (write a) := by
  cases o with
  | none => simp
  | some v => simp [hread]

/-! ## 2. The flight exchange -/

namespace FlightExchange

theorem map_fst_toFields (f : FlightExchange) : f.toFields.map Prod.fst = keys := rfl

theorem keys_nodup : keys.Nodup := by decide

/-- **`make` takes an exchange exactly from its own fields.** -/
theorem make_eq_ok {f : FlightExchange} :
    make items = .ok f ↔ ∀ p ∈ f.toFields, field items p.1 = some p.2 := by
  have hcounter : ∀ name n, (field items name).bind natural = some n ↔
      field items name = some (.int (n : ℕ)) := fun name n => bind_eq_some_iff natural_eq_some
  simp only [toFields, List.forall_mem_cons, List.not_mem_nil, false_imp_iff, implies_true,
    and_true]
  constructor
  · intro h
    unfold make at h
    split at h
    · rename_i honline
      dsimp only at h
      split at h
      · rename_i h1 h2 h3 h4 h5 h6 h7 h8
        split at h
        · split at h
          · obtain rfl := Except.ok.inj h
            exact ⟨honline, (hcounter _ _).mp h1, (hcounter _ _).mp h2, (hcounter _ _).mp h3,
              (hcounter _ _).mp h4, (hcounter _ _).mp h5, (hcounter _ _).mp h6,
              (hcounter _ _).mp h7, (hcounter _ _).mp h8⟩
          · cases h
        · cases h
      · cases h
    · cases h
  · rintro ⟨honline, h1, h2, h3, h4, h5, h6, h7, h8⟩
    obtain ⟨online, packets, updates, duplicates, gaps, states, errors, frame, time, hon, hprogress,
      hfaultless⟩ := f
    subst hon
    unfold make
    rw [honline]
    dsimp only
    rw [(hcounter _ _).mpr h1, (hcounter _ _).mpr h2, (hcounter _ _).mpr h3,
      (hcounter _ _).mpr h4, (hcounter _ _).mpr h5, (hcounter _ _).mpr h6, (hcounter _ _).mpr h7,
      (hcounter _ _).mpr h8]
    dsimp only
    rw [dif_pos hprogress, dif_pos hfaultless]

/-- What is written is read back. -/
theorem parse_toDocument (f : FlightExchange) : parse f.toDocument = .ok f := by
  show (if hasKeys (document f.toFields) keys then make (document f.toFields)
    else .error "runtime status has an invalid schema") = .ok f
  rw [if_pos (hasKeys_document f.map_fst_toFields), make_eq_ok]
  have hnodup : (f.toFields.map Prod.fst).Nodup := keys_nodup
  exact fun p hp => field_document hnodup hp

/-- What is read was written. -/
theorem toDocument_equal {f : FlightExchange} (h : parse value = .ok f) :
    Equal f.toDocument value.normal := by
  unfold parse at h
  split at h
  · rename_i items
    split at h
    · rename_i hkeys
      refine document_equal hkeys fun p hp => ⟨p.2, make_eq_ok.mp h p hp, ?_⟩
      simp only [toFields, List.mem_cons, List.not_mem_nil, or_false] at hp
      rcases hp with rfl | rfl | rfl | rfl | rfl | rfl | rfl | rfl | rfl <;> exact .refl _
    · cases h
  · cases h

end FlightExchange

/-! ## 3. Failures -/

theorem mapM_text {values : List PyValue} {texts : List String} :
    values.mapM text = some texts ↔ values = texts.map .str := by
  induction values generalizing texts with
  | nil => cases texts <;> simp
  | cons v values ih =>
    rw [List.mapM_cons]
    cases texts with
    | nil =>
      simp only [Option.pure_def, Option.bind_eq_bind, Option.bind_eq_some_iff, Option.some.injEq,
        List.map_nil, reduceCtorEq, and_false, exists_false]
    | cons t texts =>
      simp only [Option.pure_def, Option.bind_eq_bind, Option.bind_eq_some_iff, Option.some.injEq,
        List.cons.injEq, List.map_cons]
      constructor
      · rintro ⟨a, ha, as, has, rfl, rfl⟩
        exact ⟨text_eq_some.mp ha, ih.mp has⟩
      · rintro ⟨ha, has⟩
        exact ⟨t, text_eq_some.mpr ha, texts, ih.mpr has, rfl, rfl⟩

namespace RuntimeFailure

/-- **A failure is read exactly from its own fields.** -/
theorem parse_eq_ok {f : RuntimeFailure} :
    parse items = .ok f ↔ ∀ p ∈ f.toFields, field items p.1 = some p.2 := by
  have htext : ∀ name s, (field items name).bind text = some s ↔
      field items name = some (.str s) := fun name s => bind_eq_some_iff text_eq_some
  simp only [toFields, List.forall_mem_cons, List.not_mem_nil, false_imp_iff, implies_true,
    and_true]
  constructor
  · intro h
    unfold parse at h
    split at h
    · rename_i paths hpaths
      split at h
      · rename_i h1 h2 h3
        split at h
        · split at h
          · split at h
            · split at h
              · obtain rfl := Except.ok.inj h
                refine ⟨(htext _ _).mp h1, (htext _ _).mp h2, ?_⟩
                rw [hpaths, mapM_text.mp h3]
              · cases h
            · cases h
          · cases h
        · cases h
      all_goals cases h
    · cases h
  · rintro ⟨h1, h2, h3⟩
    obtain ⟨module, reason, paths, hmodule, hreason, hvalid, hunique⟩ := f
    unfold parse
    rw [h3]
    dsimp only
    rw [(htext _ _).mpr h1, (htext _ _).mpr h2, mapM_text.mpr rfl]
    dsimp only
    rw [dif_pos hmodule, dif_pos hreason, dif_pos hvalid, dif_pos hunique]

/-- A text and a list of texts are read back as they are. -/
theorem toFields_normal {f : RuntimeFailure} {p : String × PyValue} (hp : p ∈ f.toFields) :
    p.2.normal = p.2 := by
  simp only [toFields, List.mem_cons, List.not_mem_nil, or_false] at hp
  rcases hp with rfl | rfl | rfl
  · rfl
  · rfl
  · rw [normal, PyValue.normalItems_eq_map, List.map_map]
    exact congrArg _ (List.map_congr_left fun _ _ => rfl)

end RuntimeFailure

/-! ## 4. Semantic values -/

mutual

/-- A copy is the value with its tuples as lists. -/
theorem copySemanticValue_normal : ∀ {v w : PyValue}, copySemanticValue v = .ok w → w = v.normal
  | .none, w, h => (Except.ok.inj h).symm
  | .bool _, w, h => (Except.ok.inj h).symm
  | .int _, w, h => (Except.ok.inj h).symm
  | .float _, w, h => (Except.ok.inj h).symm
  | .str _, w, h => (Except.ok.inj h).symm
  | .nonfinite _, w, h => by cases h
  | .other _, w, h => by cases h
  | .list items, w, h => by
      obtain ⟨copied, hcopied, rfl⟩ := map_ok (x := copySemanticItems items) h
      rw [copySemanticItems_normal hcopied, normal]
  | .tuple items, w, h => by
      obtain ⟨copied, hcopied, rfl⟩ := map_ok (x := copySemanticItems items) h
      rw [copySemanticItems_normal hcopied, normal]
  | .mapping _ items, w, h => by
      obtain ⟨copied, hcopied, rfl⟩ := map_ok (x := copySemanticEntries items) h
      rw [copySemanticEntries_normal hcopied, normal]

theorem copySemanticItems_normal : ∀ {vs ws : List PyValue}, copySemanticItems vs = .ok ws →
    ws = PyValue.normalItems vs
  | [], ws, h => (Except.ok.inj h).symm
  | v :: vs, ws, h => by
      obtain ⟨copied, hcopied, h⟩ := bind_ok (x := copySemanticValue v) h
      obtain ⟨rest, hrest, h⟩ := bind_ok h
      obtain rfl := Except.ok.inj h
      rw [copySemanticValue_normal hcopied, copySemanticItems_normal hrest, PyValue.normalItems]

theorem copySemanticEntries_normal : ∀ {vs ws : List (PyKey × PyValue)},
    copySemanticEntries vs = .ok ws → ws = PyValue.normalEntries vs
  | [], ws, h => (Except.ok.inj h).symm
  | (.str key, v) :: vs, ws, h => by
      obtain ⟨copied, hcopied, h⟩ := bind_ok (x := copySemanticValue v) h
      obtain ⟨rest, hrest, h⟩ := bind_ok h
      obtain rfl := Except.ok.inj h
      rw [copySemanticValue_normal hcopied, copySemanticEntries_normal hrest,
        PyValue.normalEntries]
  | (.other _, _) :: _, ws, h => by cases h

end

mutual

/-- A copy is copied to itself. -/
theorem copySemanticValue_again : ∀ {v w : PyValue}, copySemanticValue v = .ok w →
    copySemanticValue w = .ok w
  | .none, w, h => by obtain rfl := Except.ok.inj h; rfl
  | .bool _, w, h => by obtain rfl := Except.ok.inj h; rfl
  | .int _, w, h => by obtain rfl := Except.ok.inj h; rfl
  | .float _, w, h => by obtain rfl := Except.ok.inj h; rfl
  | .str _, w, h => by obtain rfl := Except.ok.inj h; rfl
  | .nonfinite _, w, h => by cases h
  | .other _, w, h => by cases h
  | .list items, w, h => by
      obtain ⟨copied, hcopied, rfl⟩ := map_ok (x := copySemanticItems items) h
      show (copySemanticItems copied).map PyValue.list = _
      rw [copySemanticItems_again hcopied]
      rfl
  | .tuple items, w, h => by
      obtain ⟨copied, hcopied, rfl⟩ := map_ok (x := copySemanticItems items) h
      show (copySemanticItems copied).map PyValue.list = _
      rw [copySemanticItems_again hcopied]
      rfl
  | .mapping _ items, w, h => by
      obtain ⟨copied, hcopied, rfl⟩ := map_ok (x := copySemanticEntries items) h
      show (copySemanticEntries copied).map (PyValue.mapping true) = _
      rw [copySemanticEntries_again hcopied]
      rfl

theorem copySemanticItems_again : ∀ {vs ws : List PyValue}, copySemanticItems vs = .ok ws →
    copySemanticItems ws = .ok ws
  | [], ws, h => by obtain rfl := Except.ok.inj h; rfl
  | v :: vs, ws, h => by
      obtain ⟨copied, hcopied, h⟩ := bind_ok (x := copySemanticValue v) h
      obtain ⟨rest, hrest, h⟩ := bind_ok h
      obtain rfl := Except.ok.inj h
      rw [copySemanticItems, copySemanticValue_again hcopied, copySemanticItems_again hrest]
      rfl

theorem copySemanticEntries_again : ∀ {vs ws : List (PyKey × PyValue)},
    copySemanticEntries vs = .ok ws → copySemanticEntries ws = .ok ws
  | [], ws, h => by obtain rfl := Except.ok.inj h; rfl
  | (.str key, v) :: vs, ws, h => by
      obtain ⟨copied, hcopied, h⟩ := bind_ok (x := copySemanticValue v) h
      obtain ⟨rest, hrest, h⟩ := bind_ok h
      obtain rfl := Except.ok.inj h
      rw [copySemanticEntries, copySemanticValue_again hcopied, copySemanticEntries_again hrest]
      rfl
  | (.other _, _) :: _, ws, h => by cases h

end

/-- **The copy of a semantic**: a nonempty dict without tuples, and its own copy. -/
theorem copySemanticMapping_ok {v w : PyValue} (h : copySemanticMapping v = .ok w) :
    w = v.normal ∧ copySemanticMapping w = .ok w ∧
      ∃ items, w = .mapping true items ∧ items.isEmpty = false := by
  cases v with
  | mapping kind items =>
    obtain ⟨copied, hcopied, h⟩ := bind_ok (x := copySemanticValue (.mapping kind items)) h
    split at h
    · cases h
    · rename_i hnonempty
      obtain rfl := Except.ok.inj h
      have hnormal := copySemanticValue_normal hcopied
      have hagain := copySemanticValue_again hcopied
      rw [normal] at hnormal
      have hentries : (PyValue.normalEntries items).isEmpty = false := by
        cases items with
        | nil => simp at hnonempty
        | cons p items => rfl
      subst hnormal
      refine ⟨rfl, ?_, _, rfl, hentries⟩
      unfold copySemanticMapping
      dsimp only
      rw [hagain]
      dsimp only [bind, Except.bind]
      rw [if_neg (by rw [hentries]; decide)]
      rfl
  | _ => cases h

/-! ## 5. Artifact records -/

theorem optionalField_eq_some {α : Type} {read : PyValue → Option α} {write : α → PyValue}
    {o : Option α} (hread : ∀ {v a}, read v = some a ↔ v = write a) (hwrite : ∀ a, write a ≠ .none) :
    optionalField read v = some o ↔ v = (o.map write).getD .none := by
  cases v with
  | none =>
    show some none = some o ↔ _
    cases o with
    | none => simp
    | some a => simp [(hwrite a).symm]
  | _ =>
    show (read _).map some = some o ↔ _
    rw [Option.map_eq_some_iff]
    constructor
    · rintro ⟨a, ha, rfl⟩
      exact hread.mp ha
    · intro h
      cases o with
      | none => cases h
      | some a => exact ⟨a, hread.mpr h, rfl⟩

theorem ValidationStatus.ofValue_eq_some {value : String} {status : ValidationStatus} :
    ValidationStatus.ofValue value = some status ↔ value = status.value := by
  constructor
  · intro h
    have hfound := List.find?_some (p := fun s : ValidationStatus => s.value == value) h
    exact (eq_of_beq hfound).symm
  · rintro rfl
    cases status <;> rfl

namespace ArtifactFinalRecord

theorem size_eq_some {o : Option ℕ} : optionalField natural v = some o ↔
    v = (o.map fun size => PyValue.int (size : ℕ)).getD .none :=
  optionalField_eq_some natural_eq_some fun _ h => by cases h

theorem sha256_eq_some {o : Option Sha256} : optionalField digest v = some o ↔
    v = (o.map fun sha256 => PyValue.str sha256.val).getD .none :=
  optionalField_eq_some digest_eq_some fun _ h => by cases h

/-- **A record is made exactly from its own fields.** -/
theorem make_eq_ok {path detail size sha256 semantic : PyValue} {status : ValidationStatus} :
    make path status detail size sha256 semantic = .ok r ↔
      path = .str r.relativePath ∧ status = r.status ∧ detail = .str r.detail ∧
      size = (r.sizeBytes.map fun size => PyValue.int (size : ℕ)).getD .none ∧
      sha256 = (r.sha256.map fun sha256 => PyValue.str sha256.val).getD .none ∧
      semantic = r.semantic := by
  constructor
  · intro h
    unfold make at h
    split at h
    · split at h
      · split at h
        · rename_i hsize hsha256
          split at h
          · split at h
            · split at h
              · cases h
              · obtain rfl := Except.ok.inj h
                exact ⟨rfl, rfl, rfl, size_eq_some.mp hsize, sha256_eq_some.mp hsha256, rfl⟩
            · cases h
          · cases h
        · cases h
        · cases h
      · cases h
    · cases h
    · cases h
  · obtain ⟨path, status, detail, size, sha256, semantic, hdetailed, hmeasured, hvalid, hcopies⟩ :=
      r
    rintro ⟨rfl, rfl, rfl, hsize, hsha256, rfl⟩
    have hcomplete : status = .valid → size.isSome = true ∧ sha256.isSome = true :=
      fun h => ⟨hvalid h, hmeasured ▸ hvalid h⟩
    unfold make
    dsimp only
    rw [dif_pos hdetailed, size_eq_some.mpr hsize, sha256_eq_some.mpr hsha256]
    dsimp only
    rw [dif_pos hcomplete, dif_pos hmeasured]
    split
    · rename_i copied
      rw [copied] at hcopies
      cases hcopies
    · rfl

theorem map_fst_toFields (r : ArtifactFinalRecord) (semantic : PyValue) :
    (r.toFields semantic).map Prod.fst = keys := rfl

theorem keys_nodup : keys.Nodup := by decide

theorem normal_copies (r : ArtifactFinalRecord) :
    (copySemanticMapping r.semantic.normal).isOk = true := by
  obtain ⟨w, hw⟩ := exists_of_isOk r.copies
  obtain ⟨rfl, hagain, -⟩ := copySemanticMapping_ok hw
  exact isOk_of_eq hagain

/-- The record with the tuples of its semantic as lists: what a reader gets. -/
def normalised (r : ArtifactFinalRecord) : ArtifactFinalRecord :=
  { r with semantic := r.semantic.normal, copies := r.normal_copies }

theorem toDocument_eq (r : ArtifactFinalRecord) :
    r.toDocument = .ok (.mapping true (document (r.toFields r.semantic.normal))) := by
  obtain ⟨w, hw⟩ := exists_of_isOk r.copies
  obtain ⟨rfl, -, -⟩ := copySemanticMapping_ok hw
  unfold toDocument
  rw [hw]
  rfl

/-- The fields of a record in a mapping, one by one. -/
theorem forall_toFields {semantic : PyValue} {P : String × PyValue → Prop} :
    (∀ p ∈ r.toFields semantic, P p) ↔
      P ("relative_path", .str r.relativePath) ∧ P ("status", .str r.status.value) ∧
      P ("detail", .str r.detail) ∧
      P ("size_bytes", (r.sizeBytes.map fun size => PyValue.int (size : ℕ)).getD .none) ∧
      P ("sha256", (r.sha256.map fun sha256 => PyValue.str sha256.val).getD .none) ∧
      P ("semantic", semantic) := by
  simp only [toFields, List.forall_mem_cons, List.not_mem_nil, false_imp_iff, implies_true,
    and_true]

/-- **A record is parsed exactly from its own fields.** -/
theorem parse_eq_ok {d : Bool} (hkeys : hasKeys items keys = true) :
    parse (.mapping d items) = .ok r ↔
      ∀ p ∈ r.toFields r.semantic, field items p.1 = some p.2 := by
  have hvalue : ∀ name ∈ keys, ∀ v,
      (field items name).getD .none = v ↔ field items name = some v := by
    intro name hname v
    obtain ⟨w, hw⟩ := Option.isSome_iff_exists.mp ((hasKeys_iff.mp hkeys (.str name)).mpr
      ⟨name, hname, rfl⟩)
    have hfield : field items name = some w := hw
    rw [hfield, Option.getD_some, Option.some.injEq]
  rw [forall_toFields]
  unfold parse
  dsimp only
  constructor
  · intro h
    split at h
    · rename_i status hstatus
      split at h
      · rename_i kind hkind
        obtain ⟨h1, h2, h3, h4, h5, h6⟩ := make_eq_ok.mp h
        rw [ValidationStatus.ofValue_eq_some.mp hkind, h2] at hstatus
        exact ⟨(hvalue _ (by decide) _).mp h1, (hvalue _ (by decide) _).mp hstatus,
          (hvalue _ (by decide) _).mp h3, (hvalue _ (by decide) _).mp h4,
          (hvalue _ (by decide) _).mp h5, (hvalue _ (by decide) _).mp h6⟩
      · cases h
    · cases h
  · rintro ⟨h1, h2, h3, h4, h5, h6⟩
    rw [(hvalue _ (by decide) _).mpr h2]
    dsimp only
    rw [ValidationStatus.ofValue_eq_some.mpr rfl]
    dsimp only
    exact make_eq_ok.mpr ⟨(hvalue _ (by decide) _).mpr h1, rfl, (hvalue _ (by decide) _).mpr h3,
      (hvalue _ (by decide) _).mpr h4, (hvalue _ (by decide) _).mpr h5,
      (hvalue _ (by decide) _).mpr h6⟩

/-- What is written is read back, with its tuples as lists. -/
theorem parse_toDocument (r : ArtifactFinalRecord) (h : r.toDocument = .ok value) :
    schemaFits value = true ∧ parse value = .ok r.normalised := by
  rw [toDocument_eq] at h
  obtain rfl := Except.ok.inj h
  have hkeys : hasKeys (document (r.toFields r.semantic.normal)) keys = true :=
    hasKeys_document (r.map_fst_toFields _)
  have hfields : ∀ p ∈ r.toFields r.semantic.normal,
      field (document (r.toFields r.semantic.normal)) p.1 = some p.2 := by
    have hnodup : ((r.toFields r.semantic.normal).map Prod.fst).Nodup := keys_nodup
    exact fun p hp => field_document hnodup hp
  refine ⟨?_, (parse_eq_ok hkeys).mpr hfields⟩
  obtain ⟨-, hstatus, -, -, -, hsemantic⟩ := forall_toFields.mp hfields
  obtain ⟨w, hw⟩ := exists_of_isOk r.copies
  obtain ⟨rfl, -, items, hitems, hnonempty⟩ := copySemanticMapping_ok hw
  rw [hitems] at hkeys hstatus hsemantic ⊢
  dsimp only at hstatus hsemantic
  unfold schemaFits
  dsimp only
  rw [hkeys, hstatus, hsemantic]
  dsimp only
  rw [hnonempty]
  rfl

/-- What is read was written. -/
theorem toDocument_equal (hfits : schemaFits value = true) (h : parse value = .ok r) :
    ∃ written, r.toDocument = .ok written ∧ Equal written value.normal := by
  unfold schemaFits at hfits
  split at hfits
  · rename_i items
    obtain ⟨hkeys, -⟩ := (Bool.and_eq_true _ _).mp hfits
    refine ⟨_, r.toDocument_eq, document_equal hkeys ?_⟩
    obtain ⟨h1, h2, h3, h4, h5, h6⟩ := forall_toFields.mp ((parse_eq_ok hkeys).mp h)
    refine forall_toFields.mpr ⟨⟨_, h1, .refl _⟩, ⟨_, h2, .refl _⟩, ⟨_, h3, .refl _⟩,
      ⟨_, h4, ?_⟩, ⟨_, h5, ?_⟩, ⟨_, h6, .refl _⟩⟩
    · cases r.sizeBytes <;> exact .refl _
    · cases r.sha256 <;> exact .refl _
  · cases hfits

end ArtifactFinalRecord

namespace FinalRecords

theorem normalised_inventory (r : FinalRecords) :
    (r.records.map ArtifactFinalRecord.normalised).map ArtifactFinalRecord.relativePath =
      artifactFinalPaths := by
  rw [List.map_map]
  exact r.inventory

/-- The records with the tuples of their semantics as lists. -/
def normalised (r : FinalRecords) : FinalRecords :=
  ⟨r.records.map ArtifactFinalRecord.normalised, r.normalised_inventory⟩

theorem normalised_complete (r : FinalRecords) : r.normalised.complete = r.complete := by
  unfold complete normalised
  rw [List.all_map]
  rfl

/-- What is written is read back. -/
theorem parse_toDocument (r : FinalRecords) {values : List PyValue}
    (h : r.records.mapM ArtifactFinalRecord.toDocument = .ok values) :
    parse (.list values) = .ok r.normalised := by
  have hall := mapM_ok.mp h
  have hlength : values.length = 3 := by
    rw [← hall.length_eq, ← List.length_map ArtifactFinalRecord.relativePath, r.inventory]
    rfl
  have hfits : values.all ArtifactFinalRecord.schemaFits = true := by
    rw [List.all_eq_true]
    intro value hvalue
    obtain ⟨i, hi, rfl⟩ := List.getElem_of_mem hvalue
    exact (ArtifactFinalRecord.parse_toDocument _
      (hall.get (hall.length_eq ▸ hi) hi)).1
  have hparse : values.mapM ArtifactFinalRecord.parse =
      .ok (r.records.map ArtifactFinalRecord.normalised) := by
    rw [mapM_ok, List.forall₂_map_right_iff]
    exact hall.flip.imp fun _ _ h => (ArtifactFinalRecord.parse_toDocument _ h).2
  unfold parse
  dsimp only
  rw [if_pos hlength, if_pos hfits, hparse]
  exact dif_pos r.normalised_inventory

/-- Records that are read one by one were written one by one. -/
theorem written_equal {values : List PyValue} {records : List ArtifactFinalRecord}
    (h : List.Forall₂ (fun v r => ArtifactFinalRecord.parse v = .ok r) values records)
    (hfits : ∀ v ∈ values, ArtifactFinalRecord.schemaFits v = true) :
    ∃ written, List.Forall₂ (fun r v => ArtifactFinalRecord.toDocument r = .ok v) records written ∧
      List.Forall₂ Equal written (values.map normal) := by
  induction h with
  | nil => exact ⟨[], .nil, .nil⟩
  | cons hparse _ ih =>
    obtain ⟨hfirst, hrest⟩ := List.forall_mem_cons.mp hfits
    obtain ⟨v, hv, hequal⟩ := ArtifactFinalRecord.toDocument_equal hfirst hparse
    obtain ⟨written, hwritten, hall⟩ := ih hrest
    exact ⟨v :: written, .cons hv hwritten, .cons hequal hall⟩

/-- What is read was written. -/
theorem toDocument_equal {r : FinalRecords} (h : parse value = .ok r) :
    ∃ written, r.records.mapM ArtifactFinalRecord.toDocument = .ok written ∧
      Equal (.list written) value.normal := by
  unfold parse at h
  split at h
  · rename_i values
    split at h
    · split at h
      · rename_i hfits
        obtain ⟨records, hrecords, h⟩ := bind_ok h
        split at h
        · obtain rfl := Except.ok.inj h
          obtain ⟨written, hwritten, hequal⟩ :=
            written_equal (mapM_ok.mp hrecords) (List.all_eq_true.mp hfits)
          refine ⟨written, mapM_ok.mpr hwritten, ?_⟩
          rw [normal, PyValue.normalItems_eq_map]
          exact Equal.list_of_forall₂ hequal
        · cases h
      · cases h
    · cases h
  · cases h

end FinalRecords

/-! ## 6. The shapes -/

namespace StatusShape

/-- The fields with the tuples of nested values as lists. -/
def normalise : (shape : StatusShape) → shape.Fields → shape.Fields
  | .records, r => FinalRecords.normalised r
  | .marker, f => f
  | .flight, f => f
  | .stamped _, f => f
  | .failure, f => f

/-- Every status can be written. -/
theorem encode_ok (shape : StatusShape) (f : shape.Fields) :
    ∃ fields, shape.encode f = .ok fields := by
  cases shape with
  | records =>
    have hall : (FinalRecords.records f).mapM ArtifactFinalRecord.toDocument =
        .ok ((FinalRecords.records f).map fun r =>
          .mapping true (document (r.toFields r.semantic.normal))) := by
      rw [mapM_ok, List.forall₂_map_right_iff, List.forall₂_same]
      exact fun r _ => r.toDocument_eq
    refine ⟨[("records", .list ((FinalRecords.records f).map fun r =>
      .mapping true (document (r.toFields r.semantic.normal))))], ?_⟩
    show ((FinalRecords.records f).mapM ArtifactFinalRecord.toDocument >>= _) = _
    rw [hall]
    rfl
  | _ => exact ⟨_, rfl⟩

theorem encode_names {shape : StatusShape} {f : shape.Fields} (h : shape.encode f = .ok fields) :
    fields.map Prod.fst = shape.fieldNames := by
  cases shape with
  | records =>
    obtain ⟨documents, -, h⟩ :=
      bind_ok (x := (FinalRecords.records f).mapM ArtifactFinalRecord.toDocument) h
    obtain rfl := Except.ok.inj h
    rfl
  | _ =>
    obtain rfl := Except.ok.inj h
    rfl

theorem derived_names (shape : StatusShape) (f : shape.Fields) :
    (shape.derived f).map Prod.fst = shape.derivedNames := by
  cases shape <;> rfl

theorem derived_normalise (shape : StatusShape) (f : shape.Fields) :
    shape.derived (shape.normalise f) = shape.derived f := by
  cases shape with
  | records =>
    exact congrArg (fun b => [("complete", PyValue.bool b)]) (FinalRecords.normalised_complete f)
  | _ => rfl

/-- **What the encoders write the decoders read.** -/
theorem decode_encode {shape : StatusShape} {f : shape.Fields} (h : shape.encode f = .ok fields)
    (hitems : ∀ p ∈ fields, field items p.1 = some p.2) :
    shape.decode items = .ok (shape.normalise f) := by
  cases shape with
  | marker => rfl
  | flight =>
    obtain rfl := Except.ok.inj h
    show FlightExchange.parse ((field items "flight_exchange").getD .none) = _
    rw [hitems _ List.mem_cons_self]
    exact FlightExchange.parse_toDocument f
  | stamped latest =>
    obtain rfl := Except.ok.inj h
    obtain ⟨n, hn⟩ := f
    show parseStamp latest ((field items "sim_timestamp_ns").getD .none) = _
    rw [hitems _ List.mem_cons_self, Option.getD_some]
    unfold parseStamp
    rw [natural_eq_some.mpr rfl]
    exact dif_pos hn
  | failure =>
    obtain rfl := Except.ok.inj h
    exact RuntimeFailure.parse_eq_ok.mpr hitems
  | records =>
    obtain ⟨documents, hdocuments, h⟩ :=
      bind_ok (x := (FinalRecords.records f).mapM ArtifactFinalRecord.toDocument) h
    obtain rfl := Except.ok.inj h
    show FinalRecords.parse ((field items "records").getD .none) = _
    rw [hitems _ List.mem_cons_self]
    exact FinalRecords.parse_toDocument f hdocuments

/-- **What the decoders read the encoders write.** -/
theorem encode_decode {shape : StatusShape} {f : shape.Fields} (h : shape.decode items = .ok f)
    (hitems : ∀ name ∈ shape.fieldNames, (field items name).isSome = true) :
    ∃ fields, shape.encode f = .ok fields ∧
      ∀ p ∈ fields, ∃ y, field items p.1 = some y ∧ Equal p.2 y.normal := by
  cases shape with
  | marker => exact ⟨[], rfl, fun p hp => absurd hp List.not_mem_nil⟩
  | flight =>
    obtain ⟨v, hv⟩ := Option.isSome_iff_exists.mp (hitems _ List.mem_cons_self)
    refine ⟨_, rfl, List.forall_mem_singleton.mpr ⟨v, hv, ?_⟩⟩
    have hparse : FlightExchange.parse ((field items "flight_exchange").getD .none) = .ok f := h
    rw [hv] at hparse
    exact FlightExchange.toDocument_equal hparse
  | stamped latest =>
    obtain ⟨v, hv⟩ := Option.isSome_iff_exists.mp (hitems _ List.mem_cons_self)
    refine ⟨_, rfl, List.forall_mem_singleton.mpr ⟨v, hv, ?_⟩⟩
    have hparse : parseStamp latest ((field items "sim_timestamp_ns").getD .none) = .ok f := h
    rw [hv, Option.getD_some] at hparse
    unfold parseStamp at hparse
    split at hparse
    · rename_i n hn
      split at hparse
      · obtain rfl := Except.ok.inj hparse
        rw [natural_eq_some.mp hn]
        exact .refl _
      · cases hparse
    · cases hparse
  | failure =>
    refine ⟨_, rfl, fun p hp => ⟨p.2, RuntimeFailure.parse_eq_ok.mp h p hp, ?_⟩⟩
    rw [RuntimeFailure.toFields_normal hp]
    exact .refl _
  | records =>
    obtain ⟨v, hv⟩ := Option.isSome_iff_exists.mp (hitems _ List.mem_cons_self)
    have hparse : FinalRecords.parse ((field items "records").getD .none) = .ok f := h
    rw [hv] at hparse
    obtain ⟨written, hwritten, hequal⟩ := FinalRecords.toDocument_equal hparse
    refine ⟨[("records", .list written)], ?_, List.forall_mem_singleton.mpr ⟨v, hv, hequal⟩⟩
    show ((FinalRecords.records f).mapM ArtifactFinalRecord.toDocument >>= _) = _
    rw [hwritten]
    rfl

end StatusShape

end DroneSim
