/-
  File:      DroneSim/Library/Json.lean
  Subject:   Documents and their canonical text.

  `Json.text` writes a document with sorted keys, without blanks and without escapes for what is
  not ASCII, and refuses a float that is no number and an integer of too many digits. `encode`
  encodes that text. It succeeds exactly on the documents whose texts have no surrogate
  (`encode_isOk`).
-/
import DroneSim.Library.PyText
import DroneSim.Library.PyValue
import Mathlib.Algebra.Group.Nat.Defs
import Mathlib.Data.List.Lex
import Mathlib.Data.List.Sort
import Mathlib.Data.Rat.Defs

namespace DroneSim.Library

/-! ## 1. Documents -/

inductive Json where
  | null
  | bool (b : Bool)
  | int (n : ℤ)
  | float (x : ℚ)
  | nonfinite
  | str (s : PyText)
  | arr (items : List Json)
  | obj (fields : List (PyText × Json))

/-- How floats are written: in ASCII. -/
structure FloatPrinter where
  repr : ℚ → PyText
  ascii : ∀ x, encodable (repr x) = true

/-- The integers of `digits` digits lie below this. -/
def digitBound (digits : ℕ) : ℕ := 10 ^ digits

/-- Integers have at most `sys.int_info.default_max_str_digits` digits when they are written. -/
@[irreducible] def printLimit : ℕ := digitBound 4300

def printable (n : ℤ) : Bool := decide (n.natAbs < printLimit)

/-! ## 2. Strings -/

def quote : CodePoint := codePoint '"'

/-- A control character without an escape of its own: `'\\u{0:04x}'`. -/
def hexEscape (c : CodePoint) : PyText :=
  ofString "\\u00" ++
    [codePoint (Nat.digitChar (c.val / 16)), codePoint (Nat.digitChar (c.val % 16))]

/-- What stands for a code point in a string. -/
def escape (c : CodePoint) : PyText :=
  if c = quote then ofString "\\\""
  else if c = backslash then ofString "\\\\"
  else if c = codePoint '\n' then ofString "\\n"
  else if c = codePoint '\r' then ofString "\\r"
  else if c = codePoint '\t' then ofString "\\t"
  else if c.val = 12 then ofString "\\f"
  else if c.val = 8 then ofString "\\b"
  else if c.val < 32 then hexEscape c
  else [c]

/-- A string between its quotes. -/
def quoted (s : PyText) : PyText := [quote] ++ s.flatMap escape ++ [quote]

/-- **An escape can be encoded when what it stands for can.** -/
theorem encodable_escape (c : CodePoint) : encodable (escape c) = !isSurrogate c := by
  have hword (s : String) (h : isSurrogate c = false) :
      encodable (ofString s) = !isSurrogate c := by
    rw [encodable_ofString, h]
    rfl
  have hchar (d : Char) (h : c = codePoint d) : isSurrogate c = false := by
    rw [h]
    exact isSurrogate_codePoint d
  have hsmall (h : c.val < 32) : isSurrogate c = false := by
    unfold isSurrogate
    rw [Bool.and_eq_false_iff]
    exact .inl (decide_eq_false (by omega))
  unfold escape
  split
  · rename_i h
    exact hword _ (hchar _ h)
  split
  · rename_i h
    exact hword _ (hchar _ h)
  split
  · rename_i h
    exact hword _ (hchar _ h)
  split
  · rename_i h
    exact hword _ (hchar _ h)
  split
  · rename_i h
    exact hword _ (hchar _ h)
  split
  · rename_i h
    exact hword _ (hsmall (by omega))
  split
  · rename_i h
    exact hword _ (hsmall (by omega))
  split
  · rename_i h
    unfold hexEscape
    rw [encodable_append, encodable_ofString, hsmall h]
    unfold encodable
    simp [isSurrogate_codePoint]
  · unfold encodable
    rw [List.all_cons, List.all_nil, Bool.and_true]

@[simp] theorem encodable_quoted (s : PyText) : encodable (quoted s) = encodable s := by
  have hquote : encodable [quote] = true := by
    unfold encodable
    rw [List.all_cons, List.all_nil, show isSurrogate quote = false from isSurrogate_codePoint '"']
    rfl
  have hbody : encodable (s.flatMap escape) = encodable s := by
    induction s with
    | nil => rfl
    | cons c rest ih =>
      rw [List.flatMap_cons, encodable_append, ih, encodable_escape]
      rfl
  unfold quoted
  rw [encodable_append, encodable_append, hquote, hbody, Bool.true_and, Bool.and_true]

/-! ## 3. The text of a document -/

/-- `t <= u`, by code points. -/
def textLe : PyText → PyText → Bool
  | [], _ => true
  | _ :: _, [] => false
  | c :: cs, d :: ds => decide (c.val < d.val) || (decide (c.val = d.val) && textLe cs ds)

namespace Json

/-- `","`. -/
def comma : CodePoint := codePoint ','

mutual

/-- `iterencode`, its chunks joined. -/
def text (printer : FloatPrinter) : Json → Except EncodeError PyText
  | .null => .ok (ofString "null")
  | .bool b => .ok (ofString (if b then "true" else "false"))
  | .int n => if printable n then .ok (ofString (toString n)) else .error .digits
  | .float x => .ok (printer.repr x)
  | .nonfinite => .error .nonfinite
  | .str s => .ok (quoted s)
  | .arr items =>
    (itemTexts printer items).map fun texts =>
      ofString "[" ++ ([comma].intercalate texts ++ ofString "]")
  | .obj fields =>
    (fieldTexts printer fields).map fun entries =>
      ofString "\x7b" ++ ([comma].intercalate
        ((entries.insertionSort fun e f => textLe e.1 f.1 = true).map fun e => quoted e.1 ++ (ofString ":" ++ e.2)) ++
          ofString "\x7d")

def itemTexts (printer : FloatPrinter) : List Json → Except EncodeError (List PyText)
  | [] => .ok []
  | item :: rest => do
    let t ← text printer item
    let ts ← itemTexts printer rest
    return t :: ts

def fieldTexts (printer : FloatPrinter) :
    List (PyText × Json) → Except EncodeError (List (PyText × PyText))
  | [] => .ok []
  | (key, value) :: rest => do
    let t ← text printer value
    let ts ← fieldTexts printer rest
    return (key, t) :: ts

end

/-- `encoder.iterencode(document)`, each chunk encoded. -/
def encode (printer : FloatPrinter) (document : Json) : Except EncodeError (List UInt8) := do
  let t ← text printer document
  encodeUtf8 t

/-! ## 4. When it is written -/

mutual

/-- Every text of the document can be encoded, every integer printed, every float is a number. -/
def writable : Json → Bool
  | .null => true
  | .bool _ => true
  | .int n => printable n
  | .float _ => true
  | .nonfinite => false
  | .str s => encodable s
  | .arr items => allWritable items
  | .obj fields => fieldsWritable fields

def allWritable : List Json → Bool
  | [] => true
  | item :: rest => item.writable && allWritable rest

def fieldsWritable : List (PyText × Json) → Bool
  | [] => true
  | (key, value) :: rest => (encodable key && value.writable) && fieldsWritable rest

end

/-- The text was written and can be encoded. -/
def sound : Except EncodeError PyText → Bool
  | .ok t => encodable t
  | .error _ => false

def soundItems : Except EncodeError (List PyText) → Bool
  | .ok ts => ts.all encodable
  | .error _ => false

def soundFields : Except EncodeError (List (PyText × PyText)) → Bool
  | .ok es => es.all fun e => encodable e.1 && encodable e.2
  | .error _ => false

theorem isSurrogate_comma : isSurrogate comma = false := isSurrogate_codePoint ','

theorem sound_items (r : Except EncodeError (List PyText)) :
    sound (r.map fun texts => ofString "[" ++ ([comma].intercalate texts ++ ofString "]")) =
      soundItems r := by
  cases r with
  | error e => rfl
  | ok ts =>
    show encodable _ = ts.all encodable
    rw [encodable_append, encodable_append, encodable_ofString, encodable_ofString,
      encodable_intercalate isSurrogate_comma, Bool.true_and, Bool.and_true]

theorem sound_fields (r : Except EncodeError (List (PyText × PyText))) :
    sound (r.map fun entries => ofString "\x7b" ++ ([comma].intercalate
        ((entries.insertionSort fun e f => textLe e.1 f.1 = true).map fun e => quoted e.1 ++ (ofString ":" ++ e.2)) ++
          ofString "\x7d")) =
      soundFields r := by
  cases r with
  | error e => rfl
  | ok es =>
    show encodable _ = es.all _
    rw [encodable_append, encodable_append, encodable_ofString, encodable_ofString,
      encodable_intercalate isSurrogate_comma, Bool.true_and, Bool.and_true, List.all_map,
      (List.perm_insertionSort (fun e f : PyText × PyText => textLe e.1 f.1 = true) es).all_eq]
    congr 1
    funext e
    simp

mutual

/-- **A document is written soundly when it is writable.** -/
theorem sound_text (printer : FloatPrinter) : ∀ j : Json, sound (text printer j) = j.writable
  | .null => encodable_ofString "null"
  | .bool _ => encodable_ofString _
  | .int n => by
    unfold text writable
    split
    · rename_i h
      rw [h]
      exact encodable_ofString _
    · rename_i h
      rw [Bool.eq_false_iff.mpr h]
      rfl
  | .float x => printer.ascii x
  | .nonfinite => rfl
  | .str s => encodable_quoted s
  | .arr items => by
    unfold text writable
    rw [sound_items]
    exact sound_itemTexts printer items
  | .obj fields => by
    unfold text writable
    rw [sound_fields]
    exact sound_fieldTexts printer fields

theorem sound_itemTexts (printer : FloatPrinter) : ∀ items : List Json,
    soundItems (itemTexts printer items) = allWritable items
  | [] => rfl
  | item :: rest => by
    have hitem := sound_text printer item
    have hrest := sound_itemTexts printer rest
    unfold itemTexts allWritable
    rw [← hitem, ← hrest]
    cases text printer item with
    | error e => rfl
    | ok t =>
      cases itemTexts printer rest with
      | error e => exact (Bool.and_false _).symm
      | ok ts => rfl

theorem sound_fieldTexts (printer : FloatPrinter) : ∀ fields : List (PyText × Json),
    soundFields (fieldTexts printer fields) = fieldsWritable fields
  | [] => rfl
  | (key, value) :: rest => by
    have hvalue := sound_text printer value
    have hrest := sound_fieldTexts printer rest
    unfold fieldTexts fieldsWritable
    rw [← hvalue, ← hrest]
    cases text printer value with
    | error e =>
      show false = (encodable key && false && _)
      rw [Bool.and_false, Bool.false_and]
    | ok t =>
      cases fieldTexts printer rest with
      | error e => exact (Bool.and_false _).symm
      | ok ts => rfl

end

/-- **A document is encoded exactly when it is writable.** -/
theorem encode_isOk (printer : FloatPrinter) (j : Json) :
    (encode printer j).isOk = j.writable := by
  unfold encode
  rw [← sound_text printer j]
  cases text printer j with
  | error e => rfl
  | ok t => exact encodeUtf8_isOk t

/-! ## 5. Parts of a document -/

theorem allWritable_iff {items : List Json} :
    allWritable items = true ↔ ∀ j ∈ items, j.writable = true := by
  induction items with
  | nil => simp [allWritable]
  | cons item rest ih =>
    unfold allWritable
    rw [Bool.and_eq_true, ih, List.forall_mem_cons]

/-! ## 6. The value of a document -/

mutual

/-- What reading the text of a document gives. -/
def value : Json → PyValue
  | .null => .none
  | .bool b => .bool b
  | .int n => .int n
  | .float x => .float x
  | .nonfinite => .nonfinite 0
  | .str s => .str (textString s)
  | .arr items => .list (itemValues items)
  | .obj fields => .mapping true (fieldValues fields)

def itemValues : List Json → List PyValue
  | [] => []
  | item :: rest => item.value :: itemValues rest

def fieldValues : List (PyText × Json) → List (PyKey × PyValue)
  | [] => []
  | (key, value) :: rest => (.str (textString key), value.value) :: fieldValues rest

end

theorem itemValues_eq (items : List Json) : itemValues items = items.map value := by
  induction items with
  | nil => rfl
  | cons item rest ih =>
    unfold itemValues
    rw [ih, List.map_cons]

theorem fieldValues_eq (fields : List (PyText × Json)) :
    fieldValues fields = fields.map fun f => (.str (textString f.1), f.2.value) := by
  induction fields with
  | nil => rfl
  | cons f rest ih =>
    show _ :: fieldValues rest = _
    rw [ih, List.map_cons]

end Json

end DroneSim.Library
