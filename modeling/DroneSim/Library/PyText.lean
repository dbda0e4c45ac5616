/-
  File:      DroneSim/Library/PyText.lean
  Subject:   Texts of code points, their encoding, and relative paths.

  A text is a list of code points, and a code point may be a surrogate: the name of a file that is
  no UTF-8 is decoded to one. Such a text is a text like any other until it is encoded
  (`encodeUtf8_isOk`).

  * `joinPath` -- the relative path of the names that lead to a file;
  * `pathParts` -- the parts of a path, the empty ones and `.` left out;
  * `pathParts_joinPath` -- the second undoes the first.
-/
import Mathlib.Data.List.Basic
import Mathlib.Data.List.TakeWhile

namespace DroneSim.Library

/-! ## 1. Texts -/

abbrev CodePoint := Fin 0x110000

instance codePoints_neZero : @NeZero ℕ Zero.ofOfNat0 0x110000 := ⟨by decide⟩

abbrev PyText := List CodePoint

/-- A character as a code point. -/
def codePoint (c : Char) : CodePoint :=
  ⟨c.toNat, by
    rcases c.valid with h | ⟨-, h⟩
    · exact Nat.lt_trans h (by decide)
    · exact h⟩

/-- A text that has no surrogate. -/
def ofString (s : String) : PyText := s.toList.map codePoint

/-- A literal by its characters. -/
theorem ofString_ofList (cs : List Char) : ofString (String.ofList cs) = cs.map codePoint := by
  rw [ofString, String.toList_ofList]

theorem codePoint_injective {c d : Char} (h : codePoint c = codePoint d) : c = d := by
  have hval : c.toNat = d.toNat := congrArg (fun p : CodePoint => p.val) h
  exact Char.toNat_inj.mp hval

theorem ofString_inj {s t : String} : ofString s = ofString t ↔ s = t := by
  refine ⟨fun h => ?_, fun h => h ▸ rfl⟩
  have hlist : s.toList = t.toList :=
    List.map_injective_iff.mpr (fun _ _ => codePoint_injective) h
  exact String.toList_inj.mp hlist

def isSurrogate (c : CodePoint) : Bool := decide (0xD800 ≤ c.val) && decide (c.val < 0xE000)

theorem isSurrogate_codePoint (c : Char) : isSurrogate (codePoint c) = false := by
  unfold isSurrogate codePoint
  rcases c.valid with h | ⟨h, -⟩
  · have hlow : c.toNat < 0xD800 := h
    simp only [Bool.and_eq_false_iff, decide_eq_false_iff_not]
    omega
  · have hhigh : 0xDFFF < c.toNat := h
    simp only [Bool.and_eq_false_iff, decide_eq_false_iff_not]
    omega

/-- A text that can be encoded. -/
def encodable (t : PyText) : Bool := t.all fun c => !isSurrogate c

@[simp] theorem encodable_nil : encodable [] = true := rfl

@[simp] theorem encodable_append (t u : PyText) :
    encodable (t ++ u) = (encodable t && encodable u) := List.all_append

theorem encodable_iff {t : PyText} : encodable t = true ↔ ∀ c ∈ t, isSurrogate c = false := by
  unfold encodable
  rw [List.all_eq_true]
  exact ⟨fun h c hc => by simpa using h c hc, fun h c hc => by simp [h c hc]⟩

@[simp] theorem encodable_ofString (s : String) : encodable (ofString s) = true := by
  rw [encodable_iff]
  intro c hc
  obtain ⟨d, -, rfl⟩ := List.mem_map.mp hc
  exact isSurrogate_codePoint d

/-- A text without surrogates as a string. -/
def textString (t : PyText) : String := String.ofList (t.map fun c => Char.ofNat c.val)

@[simp] theorem textString_ofString (s : String) : textString (ofString s) = s := by
  unfold textString ofString
  rw [List.map_map]
  have hid : ((fun c : CodePoint => Char.ofNat c.val) ∘ codePoint) = id := by
    funext c
    exact Char.ofNat_toNat c
  rw [hid, List.map_id, String.ofList_toList]

/-- **A text that can be encoded is the text of its string.** -/
theorem ofString_textString {t : PyText} (h : encodable t = true) : ofString (textString t) = t := by
  unfold textString ofString
  rw [String.toList_ofList, List.map_map]
  refine (List.map_congr_left fun c hc => ?_).trans (List.map_id t)
  have hscalar := encodable_iff.mp h c hc
  unfold isSurrogate at hscalar
  rw [Bool.and_eq_false_iff, decide_eq_false_iff_not, decide_eq_false_iff_not] at hscalar
  have hvalid : c.val.isValidChar := by
    have hlt := c.isLt
    rcases hscalar with h | h
    · exact .inl (by omega)
    · exact .inr ⟨by omega, hlt⟩
  refine Fin.ext ?_
  show (Char.ofNat c.val).toNat = c.val
  unfold Char.ofNat
  rw [dif_pos hvalid]
  rfl

/-- What `str.strip` removes. -/
def isSpace (ch : Char) : Bool :=
  decide (9 ≤ ch.toNat ∧ ch.toNat ≤ 13) || decide (28 ≤ ch.toNat ∧ ch.toNat ≤ 32) ||
    decide (ch.toNat ∈ [133, 160, 5760, 8232, 8233, 8239, 8287, 12288]) ||
    decide (8192 ≤ ch.toNat ∧ ch.toNat ≤ 8202)

/-- `str.strip`. -/
def strip (s : String) : String :=
  String.ofList ((s.toList.dropWhile isSpace).reverse.dropWhile isSpace).reverse

/-! ## 2. The encoding -/

/-- What an encoder raises. -/
inductive EncodeError where
  /-- `UnicodeEncodeError`: a surrogate. -/
  | surrogate
  /-- `ValueError`: a float that is no number. -/
  | nonfinite
  /-- `ValueError`: an integer of too many digits. -/
  | digits
  deriving DecidableEq, Repr

/-- The bytes of a code point. -/
def utf8Bytes (c : CodePoint) : List UInt8 :=
  if c.val < 0x80 then [.ofNat c.val]
  else if c.val < 0x800 then [.ofNat (0xC0 + c.val / 64), .ofNat (0x80 + c.val % 64)]
  else if c.val < 0x10000 then
    [.ofNat (0xE0 + c.val / 4096), .ofNat (0x80 + c.val / 64 % 64), .ofNat (0x80 + c.val % 64)]
  else
    [.ofNat (0xF0 + c.val / 262144), .ofNat (0x80 + c.val / 4096 % 64),
      .ofNat (0x80 + c.val / 64 % 64), .ofNat (0x80 + c.val % 64)]

/-- `text.encode("utf-8")`. -/
def encodeUtf8 : PyText → Except EncodeError (List UInt8)
  | [] => .ok []
  | c :: rest =>
    if isSurrogate c then .error .surrogate
    else (encodeUtf8 rest).map (utf8Bytes c ++ ·)

/-- **A text is encoded exactly when it has no surrogate.** -/
theorem encodeUtf8_isOk (t : PyText) : (encodeUtf8 t).isOk = encodable t := by
  induction t with
  | nil => rfl
  | cons c rest ih =>
    unfold encodeUtf8 encodable
    rw [List.all_cons]
    cases hc : isSurrogate c with
    | true => rfl
    | false =>
      show ((encodeUtf8 rest).map (utf8Bytes c ++ ·)).isOk = (true && encodable rest)
      rw [← ih, Bool.true_and]
      cases encodeUtf8 rest with
      | error e => rfl
      | ok bytes => rfl

/-! ## 3. Paths -/

def slash : CodePoint := codePoint '/'

theorem isSurrogate_slash : isSurrogate slash = false := isSurrogate_codePoint '/'

def backslash : CodePoint := codePoint '\\'

/-- `"."`. -/
def dot : PyText := ofString "."

/-- `".."`. -/
def dotDot : PyText := ofString ".."

/-- The name of an entry of a folder. -/
structure FileName where
  name : PyText
  nonempty : name ≠ []
  single : slash ∉ name
  proper : name ≠ dot ∧ name ≠ dotDot
  deriving DecidableEq

/-- `path.as_posix()` of the names that lead to a file. -/
def joinPath (names : List FileName) : PyText := [slash].intercalate (names.map (·.name))

/-- The parts of a path that is not absolute. -/
def pathParts (t : PyText) : List PyText := (t.splitOn slash).filter fun p => p ≠ [] ∧ p ≠ dot

/-- A path that begins at the root. -/
def isAbsolute (t : PyText) : Bool := t.head? = some slash

/-- The code points of a joined text. -/
theorem mem_intercalate {sep c : CodePoint} {ts : List PyText} (h : c ∈ [sep].intercalate ts) :
    c = sep ∨ ∃ t ∈ ts, c ∈ t := by
  induction ts with
  | nil => cases h
  | cons t ts ih =>
    cases ts with
    | nil =>
      rw [List.intercalate_singleton] at h
      exact .inr ⟨t, List.mem_cons_self, h⟩
    | cons u us =>
      rw [List.intercalate_cons_cons, List.mem_append, List.mem_append] at h
      rcases h with (h | h) | h
      · exact .inr ⟨t, List.mem_cons_self, h⟩
      · exact .inl (List.mem_singleton.mp h)
      · rcases ih h with h | ⟨v, hv, hc⟩
        · exact .inl h
        · exact .inr ⟨v, List.mem_cons_of_mem t hv, hc⟩

theorem mem_intercalate_of_mem {sep c : CodePoint} {t : PyText} {ts : List PyText} (ht : t ∈ ts)
    (hc : c ∈ t) : c ∈ [sep].intercalate ts := by
  induction ts with
  | nil => cases ht
  | cons u us ih =>
    rcases List.mem_cons.mp ht with rfl | ht
    · cases us with
      | nil => rwa [List.intercalate_singleton]
      | cons v vs =>
        rw [List.intercalate_cons_cons, List.mem_append, List.mem_append]
        exact .inl (.inl hc)
    · rw [List.intercalate_cons_of_ne_nil (List.ne_nil_of_mem ht), List.mem_append]
      exact .inr (ih ht)

/-- A joined text can be encoded when all its parts can. -/
theorem encodable_intercalate {sep : CodePoint} (hsep : isSurrogate sep = false)
    (ts : List PyText) : encodable ([sep].intercalate ts) = ts.all encodable := by
  rw [Bool.eq_iff_iff, List.all_eq_true]
  constructor
  · intro h t ht
    rw [encodable_iff] at h ⊢
    exact fun c hc => h c (mem_intercalate_of_mem ht hc)
  · intro h
    rw [encodable_iff]
    intro c hc
    rcases mem_intercalate hc with rfl | ⟨t, ht, hc⟩
    · exact hsep
    · exact encodable_iff.mp (h t ht) c hc

/-- **The parts of the path of some names are the names.** -/
theorem pathParts_joinPath {names : List FileName} (h : names ≠ []) :
    pathParts (joinPath names) = names.map (·.name) := by
  unfold pathParts joinPath
  rw [List.splitOn_intercalate slash _ (by simpa using h), List.filter_eq_self]
  · intro p hp
    obtain ⟨n, -, rfl⟩ := List.mem_map.mp hp
    exact decide_eq_true ⟨n.nonempty, n.proper.1⟩
  · intro p hp
    obtain ⟨n, -, rfl⟩ := List.mem_map.mp hp
    exact n.single

theorem joinPath_injective {names names' : List FileName} (h : names ≠ []) (h' : names' ≠ [])
    (heq : joinPath names = joinPath names') : names = names' := by
  have hparts := congrArg pathParts heq
  rw [pathParts_joinPath h, pathParts_joinPath h'] at hparts
  refine List.map_injective_iff.mpr ?_ hparts
  intro n m hnm
  cases n
  cases m
  cases hnm
  rfl

theorem joinPath_cons (n : FileName) (names : List FileName) :
    ∃ rest, joinPath (n :: names) = n.name ++ rest := by
  unfold joinPath
  cases names with
  | nil => exact ⟨[], by simp⟩
  | cons m ms =>
    refine ⟨[slash] ++ [slash].intercalate ((m :: ms).map (·.name)), ?_⟩
    rw [List.map_cons, List.map_cons, List.intercalate_cons_cons, List.append_assoc]

theorem joinPath_relative {names : List FileName} (h : names ≠ []) :
    isAbsolute (joinPath names) = false := by
  obtain ⟨n, rest, rfl⟩ := List.exists_cons_of_ne_nil h
  obtain ⟨tail, htail⟩ := joinPath_cons n rest
  obtain ⟨c, cs, hc⟩ := List.exists_cons_of_ne_nil n.nonempty
  have hne : c ≠ slash := fun e => n.single (by rw [hc, e]; exact List.mem_cons_self)
  unfold isAbsolute
  rw [htail, hc]
  simpa using hne

theorem joinPath_nonempty {names : List FileName} (h : names ≠ []) : joinPath names ≠ [] := by
  obtain ⟨n, rest, rfl⟩ := List.exists_cons_of_ne_nil h
  obtain ⟨tail, htail⟩ := joinPath_cons n rest
  rw [htail]
  exact List.append_ne_nil_of_left_ne_nil n.nonempty tail

/-- A path up to its first separator. -/
theorem takeWhile_prefix {front t : PyText} (hfront : slash ∉ front)
    (h : (front ++ [slash]) <+: t) : t.takeWhile (· ≠ slash) = front := by
  obtain ⟨rest, rfl⟩ := h
  have hall : ∀ c ∈ front, decide (c ≠ slash) = true :=
    fun c hc => decide_eq_true fun e => hfront (e ▸ hc)
  rw [List.append_assoc, List.takeWhile_append_of_pos hall]
  simp

/-- A path begins with its first name. -/
theorem takeWhile_joinPath (n : FileName) (names : List FileName) :
    (joinPath (n :: names)).takeWhile (· ≠ slash) = n.name := by
  have hall : ∀ c ∈ n.name, decide (c ≠ slash) = true :=
    fun c hc => decide_eq_true fun e => n.single (e ▸ hc)
  cases names with
  | nil =>
    show ([slash].intercalate [n.name]).takeWhile _ = n.name
    rw [List.intercalate_singleton]
    exact List.takeWhile_eq_self_iff.mpr hall
  | cons m ms =>
    refine takeWhile_prefix n.single ⟨joinPath (m :: ms), ?_⟩
    exact List.intercalate_cons_cons.symm

/-- A code point other than the separator is one of a name. -/
theorem mem_joinPath {c : CodePoint} (hc : c ≠ slash) {names : List FileName} :
    c ∈ joinPath names ↔ ∃ n ∈ names, c ∈ n.name := by
  constructor
  · intro h
    rcases mem_intercalate h with h | ⟨t, ht, h⟩
    · exact absurd h hc
    · obtain ⟨n, hn, rfl⟩ := List.mem_map.mp ht
      exact ⟨n, hn, h⟩
  · rintro ⟨n, hn, h⟩
    exact mem_intercalate_of_mem (List.mem_map.mpr ⟨n, hn, rfl⟩) h

theorem encodable_joinPath (names : List FileName) :
    encodable (joinPath names) = names.all fun n => encodable n.name := by
  unfold joinPath
  rw [encodable_intercalate isSurrogate_slash, List.all_map]
  rfl

end DroneSim.Library
