/-
  File:      DroneSim/Library/JsonDoc.lean
  Subject:   Documents over any kind of float, and their text.

  The floats are a parameter with their own text and reading (`PyFloat`). `Doc.dumps` writes a
  document as `json.dumps` does with sorted keys, without blanks, with what is not ASCII as it is,
  and refuses a float that is no number and an integer of too many digits. `Doc.sorted` is the
  document with its keys in the order they are written.

  * `Doc.Unique` -- no object has a key twice;
  * `dumps_sorted` -- the order of the keys does not show in the text.
-/
import DroneSim.Library.Fallible
import DroneSim.Library.Json

namespace DroneSim.Library

/-! ## 1. Floats -/

/-- What a module that reads and writes numbers asks of `float`. -/
class PyFloat (F : Type) where
  /-- The number, `none` for the infinities and for no number. -/
  value : F → Option ℚ
  /-- `repr(x)`. -/
  repr : F → PyText
  /-- `float(text)` of the text of a number. -/
  read : PyText → F
  /-- `float(n)`, `none` where it raises. -/
  ofInt : ℤ → Option F
  nan : F
  infinity : F
  negInfinity : F

namespace PyFloat

variable {F : Type} [PyFloat F]

/-- `math.isfinite(x)`. -/
def finite (x : F) : Bool := (value x).isSome

end PyFloat

/-! ## 2. Documents -/

inductive Doc (F : Type) where
  | null
  | bool (b : Bool)
  | int (n : ℤ)
  | float (x : F)
  | str (s : PyText)
  | arr (items : List (Doc F))
  | obj (fields : List (PyText × Doc F))

namespace Doc

variable {F : Type}

/-- What a document holds under a key. -/
def get (fields : List (PyText × Doc F)) (key : PyText) : Option (Doc F) :=
  (fields.find? fun f => f.1 = key).map Prod.snd

/-- No object has a key twice. -/
inductive Unique : Doc F → Prop where
  | null : Unique .null
  | bool (b : Bool) : Unique (.bool b)
  | int (n : ℤ) : Unique (.int n)
  | float (x : F) : Unique (.float x)
  | str (s : PyText) : Unique (.str s)
  | arr (items : List (Doc F)) (h : ∀ item ∈ items, Unique item) : Unique (.arr items)
  | obj (fields : List (PyText × Doc F)) (h : (fields.map Prod.fst).Nodup)
      (hvalues : ∀ field ∈ fields, Unique field.2) : Unique (.obj fields)

/-- The keys in the order they are written. -/
def byKey {α : Type} (fields : List (PyText × α)) : List (PyText × α) :=
  fields.insertionSort fun e f => textLe e.1 f.1 = true

mutual

/-- The document with its keys in the order they are written. -/
def sorted : Doc F → Doc F
  | .null => .null
  | .bool b => .bool b
  | .int n => .int n
  | .float x => .float x
  | .str s => .str s
  | .arr items => .arr (sortedItems items)
  | .obj fields => .obj (byKey (sortedFields fields))

def sortedItems : List (Doc F) → List (Doc F)
  | [] => []
  | item :: rest => item.sorted :: sortedItems rest

def sortedFields : List (PyText × Doc F) → List (PyText × Doc F)
  | [] => []
  | (key, value) :: rest => (key, value.sorted) :: sortedFields rest

end

theorem sortedItems_eq (items : List (Doc F)) : sortedItems items = items.map sorted := by
  induction items with
  | nil => rfl
  | cons item rest ih =>
    unfold sortedItems
    rw [ih, List.map_cons]

theorem sortedFields_eq (fields : List (PyText × Doc F)) :
    sortedFields fields = fields.map fun f => (f.1, f.2.sorted) := by
  induction fields with
  | nil => rfl
  | cons f rest ih =>
    show (f.1, f.2.sorted) :: sortedFields rest = _
    rw [ih, List.map_cons]

theorem map_fst_sortedFields (fields : List (PyText × Doc F)) :
    (sortedFields fields).map Prod.fst = fields.map Prod.fst := by
  rw [sortedFields_eq, List.map_map]
  rfl

/-! ### The order of the keys -/

theorem textLe_total : ∀ t u : PyText, textLe t u = true ∨ textLe u t = true
  | [], _ => Or.inl rfl
  | _ :: _, [] => Or.inr rfl
  | c :: cs, d :: ds => by
    unfold textLe
    rcases Nat.lt_trichotomy c.val d.val with h | h | h
    · exact Or.inl (by simp [h])
    · rcases textLe_total cs ds with hrest | hrest
      · exact Or.inl (by simp [h, hrest])
      · exact Or.inr (by simp [h, hrest])
    · exact Or.inr (by simp [h])

theorem textLe_trans : ∀ {t u v : PyText}, textLe t u = true → textLe u v = true →
    textLe t v = true
  | [], _, _, _, _ => rfl
  | _ :: _, [], _, h, _ => by cases h
  | _ :: _, _ :: _, [], _, h => by cases h
  | c :: cs, d :: ds, e :: es, h, h' => by
    unfold textLe at h h' ⊢
    simp only [Bool.or_eq_true, Bool.and_eq_true, decide_eq_true_eq] at h h' ⊢
    rcases h with h | ⟨h, hrest⟩ <;> rcases h' with h' | ⟨h', hrest'⟩
    · exact Or.inl (by omega)
    · exact Or.inl (by omega)
    · exact Or.inl (by omega)
    · exact Or.inr ⟨by omega, textLe_trans hrest hrest'⟩

instance {α : Type} : Std.Total fun e f : PyText × α => textLe e.1 f.1 = true :=
  ⟨fun e f => textLe_total e.1 f.1⟩

instance {α : Type} : IsTrans (PyText × α) fun e f => textLe e.1 f.1 = true :=
  ⟨fun _ _ _ h h' => textLe_trans h h'⟩

theorem perm_byKey {α : Type} (fields : List (PyText × α)) : (byKey fields).Perm fields :=
  List.perm_insertionSort _ _

theorem byKey_pairwise {α : Type} (fields : List (PyText × α)) :
    (byKey fields).Pairwise fun e f => textLe e.1 f.1 = true :=
  List.pairwise_insertionSort _ _

theorem byKey_of_pairwise {α : Type} {fields : List (PyText × α)}
    (h : fields.Pairwise fun e f => textLe e.1 f.1 = true) : byKey fields = fields :=
  List.Pairwise.insertionSort_eq h

theorem map_byKey {α β : Type} (f : α → β) (fields : List (PyText × α)) :
    (byKey fields).map (fun e => (e.1, f e.2)) = byKey (fields.map fun e => (e.1, f e.2)) :=
  List.map_insertionSort _ _ _ _ fun _ _ _ _ => Iff.rfl

mutual

/-- **Sorting a sorted document changes nothing.** -/
theorem sorted_sorted : ∀ d : Doc F, d.sorted.sorted = d.sorted
  | .null => rfl
  | .bool _ => rfl
  | .int _ => rfl
  | .float _ => rfl
  | .str _ => rfl
  | .arr items => by
    show arr (sortedItems (sortedItems items)) = arr (sortedItems items)
    rw [sorted_sortedItems items]
  | .obj fields => by
    have hfields := sorted_sortedFields fields
    show obj (byKey (sortedFields (byKey (sortedFields fields)))) =
      obj (byKey (sortedFields fields))
    rw [sortedFields_eq (byKey _), map_byKey, ← sortedFields_eq, hfields,
      byKey_of_pairwise (byKey_pairwise _)]

theorem sorted_sortedItems : ∀ items : List (Doc F),
    sortedItems (sortedItems items) = sortedItems items
  | [] => rfl
  | item :: rest => by
    show item.sorted.sorted :: sortedItems (sortedItems rest) = _
    rw [sorted_sorted item, sorted_sortedItems rest]
    rfl

theorem sorted_sortedFields : ∀ fields : List (PyText × Doc F),
    sortedFields (sortedFields fields) = sortedFields fields
  | [] => rfl
  | (key, value) :: rest => by
    show (key, value.sorted.sorted) :: sortedFields (sortedFields rest) = _
    rw [sorted_sorted value, sorted_sortedFields rest]
    rfl

end

theorem Unique.items {items : List (Doc F)} (h : Unique (.arr items)) :
    ∀ item ∈ items, Unique item := by
  cases h with
  | arr _ h => exact h

theorem Unique.keys {fields : List (PyText × Doc F)} (h : Unique (.obj fields)) :
    (fields.map Prod.fst).Nodup := by
  cases h with
  | obj _ h _ => exact h

theorem Unique.values {fields : List (PyText × Doc F)} (h : Unique (.obj fields)) :
    ∀ field ∈ fields, Unique field.2 := by
  cases h with
  | obj _ _ h => exact h

mutual

theorem unique_sorted : ∀ {d : Doc F}, Unique d → Unique d.sorted
  | .null, _ => .null
  | .bool b, _ => .bool b
  | .int n, _ => .int n
  | .float x, _ => .float x
  | .str s, _ => .str s
  | .arr items, h => .arr _ (unique_sortedItems h.items)
  | .obj fields, h => by
    have hperm := perm_byKey (sortedFields fields)
    refine .obj _ ?_ fun field hfield => ?_
    · rw [(hperm.map Prod.fst).nodup_iff, map_fst_sortedFields]
      exact h.keys
    · exact unique_sortedFields h.values field (hperm.mem_iff.mp hfield)

theorem unique_sortedItems : ∀ {items : List (Doc F)}, (∀ item ∈ items, Unique item) →
    ∀ item ∈ sortedItems items, Unique item
  | [], _ => fun _ h => absurd h List.not_mem_nil
  | item :: rest, h => by
    rw [List.forall_mem_cons] at h
    exact List.forall_mem_cons.mpr ⟨unique_sorted h.1, unique_sortedItems h.2⟩

theorem unique_sortedFields : ∀ {fields : List (PyText × Doc F)},
    (∀ field ∈ fields, Unique field.2) → ∀ field ∈ sortedFields fields, Unique field.2
  | [], _ => fun _ h => absurd h List.not_mem_nil
  | (key, value) :: rest, h => by
    rw [List.forall_mem_cons] at h
    exact List.forall_mem_cons.mpr ⟨unique_sorted h.1, unique_sortedFields h.2⟩

end

/-! ### The keys of an object -/

/-- `set(fields) <= names` -/
def keysWithin (fields : List (PyText × Doc F)) (names : List PyText) : Bool :=
  fields.all fun f => names.contains f.1

/-- `names <= set(fields)` -/
def keysCover (fields : List (PyText × Doc F)) (names : List PyText) : Bool :=
  names.all fun name => (get fields name).isSome

/-- `set(fields) == names` -/
def keysAre (fields : List (PyText × Doc F)) (names : List PyText) : Bool :=
  keysWithin fields names && keysCover fields names

/-- The keys and values of an object in the order they are written. -/
def sortedObject (fields : List (PyText × Doc F)) : List (PyText × Doc F) :=
  byKey (sortedFields fields)

theorem sorted_arr (items : List (Doc F)) :
    (Doc.arr items).sorted = .arr (items.map sorted) := congrArg Doc.arr (sortedItems_eq items)

theorem sorted_obj (fields : List (PyText × Doc F)) :
    (Doc.obj fields).sorted = .obj (sortedObject fields) := rfl

theorem mem_iff_get {fields : List (PyText × Doc F)} (h : (fields.map Prod.fst).Nodup)
    {key : PyText} {value : Doc F} : (key, value) ∈ fields ↔ get fields key = some value := by
  unfold get
  induction fields with
  | nil => simp
  | cons f rest ih =>
    rw [List.map_cons, List.nodup_cons] at h
    by_cases hkey : f.1 = key
    · have hrest : (key, value) ∉ rest := fun hmem =>
        h.1 (hkey ▸ List.mem_map_of_mem (f := Prod.fst) hmem)
      rw [List.mem_cons, List.find?_cons_of_pos (by simpa using hkey), Option.map_some,
        Option.some.injEq]
      constructor
      · rintro (heq | hmem)
        · exact heq ▸ rfl
        · exact absurd hmem hrest
      · intro heq
        exact Or.inl (Prod.ext hkey.symm heq.symm)
    · have hne : (key, value) ≠ f := fun heq => hkey (heq ▸ rfl)
      rw [List.mem_cons, List.find?_cons_of_neg (by simpa using hkey), ← ih h.2]
      exact ⟨fun hmem => hmem.resolve_left hne, Or.inr⟩

theorem get_perm {fields fields' : List (PyText × Doc F)} (h : fields.Perm fields')
    (hkeys : (fields.map Prod.fst).Nodup) (key : PyText) : get fields key = get fields' key := by
  have hkeys' : (fields'.map Prod.fst).Nodup := (h.map Prod.fst).nodup_iff.mp hkeys
  refine Option.ext fun value => ?_
  rw [← mem_iff_get hkeys, ← mem_iff_get hkeys', h.mem_iff]

theorem get_sortedFields (fields : List (PyText × Doc F)) (key : PyText) :
    get (sortedFields fields) key = (get fields key).map sorted := by
  unfold get
  rw [sortedFields_eq, List.find?_map, Option.map_map, Option.map_map]
  rfl

theorem get_sortedObject {fields : List (PyText × Doc F)} (h : (fields.map Prod.fst).Nodup)
    (key : PyText) : get (sortedObject fields) key = (get fields key).map sorted := by
  have hsorted : ((sortedObject fields).map Prod.fst).Nodup := by
    unfold sortedObject
    rw [((perm_byKey _).map Prod.fst).nodup_iff, map_fst_sortedFields]
    exact h
  rw [← get_sortedFields]
  exact get_perm (perm_byKey _) hsorted key

theorem keysWithin_sortedObject (fields : List (PyText × Doc F)) (names : List PyText) :
    keysWithin (sortedObject fields) names = keysWithin fields names := by
  unfold keysWithin sortedObject
  rw [(perm_byKey (sortedFields fields)).all_eq, sortedFields_eq, List.all_map]
  rfl

theorem keysCover_sortedObject {fields : List (PyText × Doc F)}
    (h : (fields.map Prod.fst).Nodup) (names : List PyText) :
    keysCover (sortedObject fields) names = keysCover fields names := by
  unfold keysCover
  simp only [get_sortedObject h, Option.isSome_map]

theorem keysAre_sortedObject {fields : List (PyText × Doc F)}
    (h : (fields.map Prod.fst).Nodup) (names : List PyText) :
    keysAre (sortedObject fields) names = keysAre fields names := by
  unfold keysAre
  rw [keysWithin_sortedObject, keysCover_sortedObject h]

theorem length_sortedObject (fields : List (PyText × Doc F)) :
    (sortedObject fields).length = fields.length := by
  unfold sortedObject
  rw [(perm_byKey _).length_eq, sortedFields_eq, List.length_map]

theorem sortedObject_congr {fields fields' : List (PyText × Doc F)}
    (h : (fields.map fun f => (f.1, f.2.sorted)) = fields'.map fun f => (f.1, f.2.sorted)) :
    sortedObject fields = sortedObject fields' := by
  unfold sortedObject
  rw [sortedFields_eq, sortedFields_eq, h]

theorem unique_of_get {fields : List (PyText × Doc F)} (h : Unique (.obj fields)) {key : PyText}
    {value : Doc F} (hget : get fields key = some value) : Unique value :=
  h.values _ ((mem_iff_get h.keys).mpr hget)

/-! ### Nonempty arrays -/

/-- The items of a nonempty array. -/
def nonemptyArray : Option (Doc F) → Option (List (Doc F))
  | some (.arr (item :: rest)) => some (item :: rest)
  | _ => none

theorem nonemptyArray_sorted (o : Option (Doc F)) :
    nonemptyArray (o.map sorted) = (nonemptyArray o).map (List.map sorted) := by
  rcases o with _ | d
  · rfl
  · cases d with
    | arr items =>
      show nonemptyArray (some (.arr (sortedItems items))) = _
      rw [sortedItems_eq]
      cases items <;> rfl
    | _ => rfl

theorem nonemptyArray_some {o : Option (Doc F)} {l : List (Doc F)} (h : nonemptyArray o = some l) :
    o = some (.arr l) ∧ l ≠ [] := by
  unfold nonemptyArray at h
  split at h
  · rw [← Option.some.inj h]
    exact ⟨rfl, List.cons_ne_nil _ _⟩
  · cases h

theorem nonemptyArray_arr {l : List (Doc F)} (h : l ≠ []) :
    nonemptyArray (some (.arr l)) = some l := by
  cases l with
  | nil => exact absurd rfl h
  | cons item rest => rfl

end Doc

/-! ## 3. Texts of numbers -/

/-- `str(n)`. -/
def natText (n : ℕ) : PyText := (Nat.toDigits 10 n).map codePoint

def intText (n : ℤ) : PyText :=
  if n < 0 then codePoint '-' :: natText n.natAbs else natText n.natAbs

def isDigit (c : CodePoint) : Bool := decide (48 ≤ c.val) && decide (c.val ≤ 57)

/-- One digit at least. -/
def IsDigits (t : PyText) : Prop := t ≠ [] ∧ ∀ c ∈ t, isDigit c = true

/-- A minus sign, or nothing. -/
def IsSign (t : PyText) : Prop := t = [] ∨ t = [codePoint '-']

/-- Digits without a leading zero. -/
def IsWhole (t : PyText) : Prop :=
  t = [codePoint '0'] ∨ IsDigits t ∧ t.head? ≠ some (codePoint '0')

/-- A point and digits, or nothing. -/
def IsFraction (t : PyText) : Prop := t = [] ∨ ∃ digits, IsDigits digits ∧ t = codePoint '.' :: digits

/-- An exponent, or nothing. -/
def IsExponent (t : PyText) : Prop := t = [] ∨ ∃ e sign digits,
  (e = codePoint 'e' ∨ e = codePoint 'E') ∧
    (sign = [] ∨ sign = [codePoint '+'] ∨ sign = [codePoint '-']) ∧
      IsDigits digits ∧ t = e :: (sign ++ digits)

/-- The text of a number with a fraction or an exponent. -/
def IsFloatText (t : PyText) : Prop := ∃ sign whole fraction exponent,
  IsSign sign ∧ IsWhole whole ∧ IsFraction fraction ∧ IsExponent exponent ∧
    (fraction ≠ [] ∨ exponent ≠ []) ∧ t = sign ++ whole ++ fraction ++ exponent

/-- **The floats keep to their texts**: the text of a number is one with a fraction or an
    exponent, and is read as the float it is the text of. -/
class LawfulPyFloat (F : Type) [PyFloat F] : Prop where
  text : ∀ x : F, PyFloat.finite x = true → IsFloatText (PyFloat.repr x)
  read_repr : ∀ x : F, PyFloat.finite x = true → PyFloat.read (PyFloat.repr x) = x

/-! ## 4. The text of a document -/

namespace Doc

variable {F : Type} [PyFloat F]

def colon : CodePoint := codePoint ':'

def openBracket : CodePoint := codePoint '['

def closeBracket : CodePoint := codePoint ']'

def openBrace : CodePoint := codePoint '\x7b'

def closeBrace : CodePoint := codePoint '\x7d'

mutual

/-- The text of a document, its keys as they stand. -/
def plain : Doc F → Except EncodeError PyText
  | .null => .ok (ofString "null")
  | .bool b => .ok (ofString (if b then "true" else "false"))
  | .int n => if printable n then .ok (intText n) else .error .digits
  | .float x => if PyFloat.finite x then .ok (PyFloat.repr x) else .error .nonfinite
  | .str s => .ok (quoted s)
  | .arr [] => .ok [openBracket, closeBracket]
  | .arr (item :: rest) => do
    let t ← plain item
    let ts ← plainItems rest
    return openBracket :: (t ++ ts)
  | .obj [] => .ok [openBrace, closeBrace]
  | .obj ((key, value) :: rest) => do
    let t ← plain value
    let ts ← plainFields rest
    return openBrace :: (quoted key ++ (colon :: (t ++ ts)))

/-- The other items, and the end of the array. -/
def plainItems : List (Doc F) → Except EncodeError PyText
  | [] => .ok [closeBracket]
  | item :: rest => do
    let t ← plain item
    let ts ← plainItems rest
    return Json.comma :: (t ++ ts)

/-- The other fields, and the end of the object. -/
def plainFields : List (PyText × Doc F) → Except EncodeError PyText
  | [] => .ok [closeBrace]
  | (key, value) :: rest => do
    let t ← plain value
    let ts ← plainFields rest
    return Json.comma :: (quoted key ++ (colon :: (t ++ ts)))

end

/-- `json.dumps(document, allow_nan=False, ensure_ascii=False, sort_keys=True,
    separators=(",", ":"))`. -/
def dumps (document : Doc F) : Except EncodeError PyText := plain document.sorted

theorem plain_of_mem_fields {fields : List (PyText × Doc F)} {ts : PyText}
    (h : plainFields fields = .ok ts) : ∀ field ∈ fields, ∃ t, plain field.2 = .ok t := by
  induction fields generalizing ts with
  | nil => exact fun _ hfield => absurd hfield List.not_mem_nil
  | cons field rest ih =>
    unfold plainFields at h
    obtain ⟨t, ht, h⟩ := bind_ok h
    obtain ⟨us, hus, -⟩ := bind_ok h
    exact List.forall_mem_cons.mpr ⟨⟨t, ht⟩, ih hus⟩

/-- Where an object has a text, its values have. -/
theorem plain_of_mem {fields : List (PyText × Doc F)} {t : PyText} (h : plain (.obj fields) = .ok t) :
    ∀ field ∈ fields, ∃ u, plain field.2 = .ok u := by
  cases fields with
  | nil => exact fun _ hfield => absurd hfield List.not_mem_nil
  | cons field rest =>
    unfold plain at h
    obtain ⟨u, hu, h⟩ := bind_ok h
    obtain ⟨us, hus, -⟩ := bind_ok h
    exact List.forall_mem_cons.mpr ⟨⟨u, hu⟩, plain_of_mem_fields hus⟩

/-- **The order of the keys does not show in the text.** -/
theorem dumps_sorted (d : Doc F) : dumps d.sorted = dumps d := by
  unfold dumps
  rw [sorted_sorted]

end Doc

end DroneSim.Library
