/-
  File:      DroneSim/Library/JsonParse.lean
  Subject:   Reading the text of a document.

  `Doc.parse` reads as `json.loads` does: blanks between the tokens, escapes, numbers as integers
  or floats, the three names of floats that are no numbers, objects as the list of their pairs
  (what becomes of a key that stands twice is up to the caller, `Doc.collapse`).

  * `parse_plain` -- the text of a document is read as that document;
  * `loads_dumps` -- what was written is read as the document, its keys in order.
-/
import DroneSim.Library.Fallible
import DroneSim.Library.JsonDoc
import Mathlib.Tactic.IntervalCases

namespace DroneSim.Library

/-! ## 1. Tokens -/

/-- What a decoder raises. -/
inductive DecodeError where
  /-- `JSONDecodeError` -/
  | malformed
  /-- `ValueError`: an integer of too many digits. -/
  | digits
  deriving DecidableEq, Repr

def isBlank (c : CodePoint) : Bool :=
  decide (c.val = 32) || decide (c.val = 9) || decide (c.val = 10) || decide (c.val = 13)

def skip (s : PyText) : PyText := s.dropWhile isBlank

/-! ### Strings -/

def hexValue (c : CodePoint) : Option ℕ :=
  if isDigit c then some (c.val - 48)
  else if 97 ≤ c.val ∧ c.val ≤ 102 then some (c.val - 87)
  else if 65 ≤ c.val ∧ c.val ≤ 70 then some (c.val - 55)
  else none

/-- Four hexadecimal digits. -/
def hex4 : PyText → Option (ℕ × PyText)
  | a :: b :: c :: d :: rest =>
    match hexValue a, hexValue b, hexValue c, hexValue d with
    | some a, some b, some c, some d => some (((a * 16 + b) * 16 + c) * 16 + d, rest)
    | _, _, _, _ => none
  | _ => none

/-- The second half of a surrogate pair. -/
def lowHalf : PyText → Option (ℕ × PyText)
  | c :: u :: rest =>
    if c = backslash ∧ u = codePoint 'u' then
      (hex4 rest).filter fun r => 0xDC00 ≤ r.1 && r.1 < 0xE000
    else none
  | _ => none

/-- What follows `\u`; two halves of a pair make one character. -/
def unicodeEscape (s : PyText) : Option (CodePoint × PyText) :=
  (hex4 s).map fun r =>
    if 0xD800 ≤ r.1 ∧ r.1 < 0xDC00 then
      match lowHalf r.2 with
      | some low => (.ofNat _ (0x10000 + (r.1 - 0xD800) * 1024 + (low.1 - 0xDC00)), low.2)
      | none => (.ofNat _ r.1, r.2)
    else (.ofNat _ r.1, r.2)

/-- What a one-character escape stands for. -/
def simpleEscape (c : CodePoint) : Option CodePoint :=
  if c = quote ∨ c = backslash ∨ c = codePoint '/' then some c
  else if c = codePoint 'b' then some (codePoint '\x08')
  else if c = codePoint 'f' then some (codePoint '\x0c')
  else if c = codePoint 'n' then some (codePoint '\n')
  else if c = codePoint 'r' then some (codePoint '\r')
  else if c = codePoint 't' then some (codePoint '\t')
  else none

/-- A character of a string that is no quote. -/
def scanChar : PyText → Option (CodePoint × PyText)
  | [] => none
  | c :: rest =>
    if c = backslash then
      match rest with
      | [] => none
      | e :: rest =>
        if e = codePoint 'u' then unicodeEscape rest
        else (simpleEscape e).map fun c => (c, rest)
    else if c.val < 32 then none
    else some (c, rest)

/-- A string after its opening quote. -/
def stringBody : ℕ → PyText → Option (PyText × PyText)
  | 0, _ => none
  | n + 1, s =>
    if s.head? = some quote then some ([], s.tail)
    else (scanChar s).bind fun r => (stringBody n r.2).map fun rest => (r.1 :: rest.1, rest.2)

/-- `scanstring`. -/
def string (s : PyText) : Except DecodeError (PyText × PyText) :=
  match stringBody s.length s with
  | some r => .ok r
  | none => .error .malformed

/-! ### Numbers -/

def digitsOf (s : PyText) : PyText × PyText := (s.takeWhile isDigit, s.dropWhile isDigit)

/-- The sign and what follows it. -/
def signOf : PyText → PyText × PyText
  | [] => ([], [])
  | c :: rest => if c = codePoint '-' then ([c], rest) else ([], c :: rest)

/-- Digits without a leading zero. -/
def wholeOf : PyText → Option (PyText × PyText)
  | [] => none
  | c :: rest =>
    if c = codePoint '0' then some ([c], rest)
    else if isDigit c then some (digitsOf (c :: rest))
    else none

def fractionOf : PyText → PyText × PyText
  | [] => ([], [])
  | c :: rest =>
    if c = codePoint '.' ∧ (digitsOf rest).1 ≠ [] then (c :: (digitsOf rest).1, (digitsOf rest).2)
    else ([], c :: rest)

def exponentSign : PyText → PyText × PyText
  | [] => ([], [])
  | c :: rest =>
    if c = codePoint '+' ∨ c = codePoint '-' then ([c], rest) else ([], c :: rest)

def exponentOf : PyText → PyText × PyText
  | [] => ([], [])
  | c :: rest =>
    if (c = codePoint 'e' ∨ c = codePoint 'E') ∧ (digitsOf (exponentSign rest).2).1 ≠ [] then
      (c :: ((exponentSign rest).1 ++ (digitsOf (exponentSign rest).2).1),
        (digitsOf (exponentSign rest).2).2)
    else ([], c :: rest)

/-- The longest number: its text, whether it is one of a float, and what follows. -/
def number (s : PyText) : Option (PyText × Bool × PyText) :=
  (wholeOf (signOf s).2).map fun whole =>
    let fraction := fractionOf whole.2
    let exponent := exponentOf fraction.2
    ((signOf s).1 ++ whole.1 ++ fraction.1 ++ exponent.1,
      !fraction.1.isEmpty || !exponent.1.isEmpty, exponent.2)

def natOf (t : PyText) : ℕ := t.foldl (fun n c => 10 * n + (c.val - 48)) 0

/-- `int(text)`, with its limit on the digits. -/
def intOf (t : PyText) : Except DecodeError ℤ :=
  if (signOf t).2.length ≤ 4300 then
    .ok (if (signOf t).1 = [] then (natOf (signOf t).2 : ℤ) else -natOf (signOf t).2)
  else .error .digits

/-! ## 2. Values -/

namespace Doc

variable {F : Type} [PyFloat F]

/-- The six names. -/
def names : List (PyText × Doc F) :=
  [(ofString "null", .null), (ofString "true", .bool true), (ofString "false", .bool false),
    (ofString "NaN", .float PyFloat.nan), (ofString "Infinity", .float PyFloat.infinity),
    (ofString "-Infinity", .float PyFloat.negInfinity)]

/-- A name. -/
def literal (s : PyText) : Option (Doc F × PyText) :=
  (names.find? fun name => name.1.isPrefixOf s).map fun name => (name.2, s.drop name.1.length)

/-- A number. -/
def numeral (s : PyText) : Except DecodeError (Doc F × PyText) :=
  match number s with
  | none => .error .malformed
  | some r =>
    if r.2.1 then .ok (.float (PyFloat.read r.1), r.2.2)
    else (intOf r.1).map fun n => (.int n, r.2.2)

mutual

/-- A value, without blanks before it. -/
def value : ℕ → PyText → Except DecodeError (Doc F × PyText)
  | 0, _ => .error .malformed
  | _ + 1, [] => .error .malformed
  | n + 1, c :: rest =>
    if c = quote then (string rest).map fun r => (.str r.1, r.2)
    else if c = openBrace then
      if (skip rest).head? = some closeBrace then .ok (.obj [], (skip rest).tail)
      else (fields n (skip rest)).map fun r => (.obj r.1, r.2)
    else if c = openBracket then
      if (skip rest).head? = some closeBracket then .ok (.arr [], (skip rest).tail)
      else (items n (skip rest)).map fun r => (.arr r.1, r.2)
    else
      match literal (c :: rest) with
      | some r => .ok r
      | none => numeral (c :: rest)

/-- The items of an array, from the first one. -/
def items : ℕ → PyText → Except DecodeError (List (Doc F) × PyText)
  | 0, _ => .error .malformed
  | n + 1, s => do
    let item ← value n s
    match skip item.2 with
    | [] => .error .malformed
    | c :: rest =>
      if c = closeBracket then .ok ([item.1], rest)
      else if c = Json.comma then (items n (skip rest)).map fun r => (item.1 :: r.1, r.2)
      else .error .malformed

/-- The fields of an object, from the first one. -/
def fields : ℕ → PyText → Except DecodeError (List (PyText × Doc F) × PyText)
  | 0, _ => .error .malformed
  | _ + 1, [] => .error .malformed
  | n + 1, q :: s =>
    if q = quote then do
      let key ← string s
      match skip key.2 with
      | [] => .error .malformed
      | c :: rest =>
        if c = colon then do
          let item ← value n (skip rest)
          match skip item.2 with
          | [] => .error .malformed
          | c :: rest =>
            if c = closeBrace then .ok ([(key.1, item.1)], rest)
            else if c = Json.comma then
              (fields n (skip rest)).map fun r => ((key.1, item.1) :: r.1, r.2)
            else .error .malformed
        else .error .malformed
    else .error .malformed

end

/-- `json.loads(text, object_pairs_hook=...)`: the objects as lists of pairs. -/
def parse (s : PyText) : Except DecodeError (Doc F) := do
  let r ← value (2 * s.length) (skip s)
  if skip r.2 = [] then .ok r.1 else .error .malformed

/-- `d[key] = value`, in the order of the first assignments. -/
def assign (fields : List (PyText × Doc F)) (key : PyText) (value : Doc F) :
    List (PyText × Doc F) :=
  if (fields.map Prod.fst).contains key then
    fields.map fun f => if f.1 = key then (key, value) else f
  else fields ++ [(key, value)]

mutual

/-- The objects as dictionaries: the last value of a key counts. -/
def collapse : Doc F → Doc F
  | .null => .null
  | .bool b => .bool b
  | .int n => .int n
  | .float x => .float x
  | .str s => .str s
  | .arr items => .arr (collapseItems items)
  | .obj fields => .obj (collapseFields [] fields)

def collapseItems : List (Doc F) → List (Doc F)
  | [] => []
  | item :: rest => item.collapse :: collapseItems rest

def collapseFields (done : List (PyText × Doc F)) :
    List (PyText × Doc F) → List (PyText × Doc F)
  | [] => done
  | (key, value) :: rest => collapseFields (assign done key value.collapse) rest

end

/-- `json.loads(text)`. -/
def loads (s : PyText) : Except DecodeError (Doc F) := (parse s).map collapse

end Doc

/-! ## 3. Numbers are read back -/

theorem isDigit_codePoint (c : Char) (h : c.isDigit = true) : isDigit (codePoint c) = true := by
  unfold Char.isDigit at h
  rw [Bool.and_eq_true, decide_eq_true_eq, decide_eq_true_eq] at h
  have hlow : 48 ≤ c.toNat := h.1
  have hhigh : c.toNat ≤ 57 := h.2
  unfold isDigit
  rw [Bool.and_eq_true, decide_eq_true_eq, decide_eq_true_eq]
  exact ⟨hlow, hhigh⟩

theorem isDigits_natText (n : ℕ) : IsDigits (natText n) := by
  constructor
  · intro h
    exact Nat.toDigits_ne_nil (List.map_eq_nil_iff.mp h)
  · intro c hc
    obtain ⟨d, hd, rfl⟩ := List.mem_map.mp hc
    exact isDigit_codePoint d (Nat.isDigit_of_mem_toDigits (by decide) (by decide) hd)

theorem digitChar_ne_zero {n : ℕ} (hpos : 0 < n) (hlt : n < 10) : Nat.digitChar n ≠ '0' := by
  interval_cases n <;> decide

/-- A positive number has no leading zero. -/
theorem head_toDigits {n : ℕ} (hpos : 0 < n) : (Nat.toDigits 10 n).head? ≠ some '0' := by
  induction n using Nat.strongRecOn with
  | ind n ih =>
    rw [Nat.toDigits_eq_if (by decide)]
    split
    · rename_i hlt
      rw [List.head?_cons, ne_eq, Option.some.injEq]
      exact digitChar_ne_zero hpos hlt
    · rename_i hge
      have hrest := ih (n / 10) (by omega) (by omega)
      rw [List.head?_append_of_ne_nil _ Nat.toDigits_ne_nil]
      exact hrest

theorem isWhole_natText (n : ℕ) : IsWhole (natText n) := by
  rcases Nat.eq_zero_or_pos n with rfl | hpos
  · exact Or.inl rfl
  · refine Or.inr ⟨isDigits_natText n, fun h => ?_⟩
    unfold natText at h
    rw [List.head?_map, Option.map_eq_some_iff] at h
    obtain ⟨c, hc, hzero⟩ := h
    exact head_toDigits hpos (codePoint_injective hzero ▸ hc)

theorem natOf_natText (n : ℕ) : natOf (natText n) = n := by
  have hfold : natOf (natText n) = Nat.ofDigitChars 10 (Nat.toDigits 10 n) 0 := by
    unfold natOf natText
    rw [List.foldl_map]
    rfl
  rw [hfold, Nat.ofDigitChars_ten_toDigits]

theorem signOf_cons (c : CodePoint) (rest : PyText) :
    signOf (c :: rest) = if c = codePoint '-' then ([c], rest) else ([], c :: rest) := rfl

theorem wholeOf_cons (c : CodePoint) (rest : PyText) :
    wholeOf (c :: rest) = if c = codePoint '0' then some ([c], rest)
      else if isDigit c then some (digitsOf (c :: rest)) else none := rfl

theorem fractionOf_cons (c : CodePoint) (rest : PyText) :
    fractionOf (c :: rest) = if c = codePoint '.' ∧ (digitsOf rest).1 ≠ [] then
      (c :: (digitsOf rest).1, (digitsOf rest).2) else ([], c :: rest) := rfl

theorem exponentSign_cons (c : CodePoint) (rest : PyText) :
    exponentSign (c :: rest) =
      if c = codePoint '+' ∨ c = codePoint '-' then ([c], rest) else ([], c :: rest) := rfl

theorem exponentOf_cons (c : CodePoint) (rest : PyText) :
    exponentOf (c :: rest) =
      if (c = codePoint 'e' ∨ c = codePoint 'E') ∧ (digitsOf (exponentSign rest).2).1 ≠ [] then
        (c :: ((exponentSign rest).1 ++ (digitsOf (exponentSign rest).2).1),
          (digitsOf (exponentSign rest).2).2)
      else ([], c :: rest) := rfl

/-- No digit comes next. -/
def NoDigit (t : PyText) : Prop := ∀ c, t.head? = some c → isDigit c = false

/-- Nothing that would go on a number comes next. -/
structure Ends (t : PyText) : Prop where
  digit : NoDigit t
  point : t.head? ≠ some (codePoint '.')
  lower : t.head? ≠ some (codePoint 'e')
  upper : t.head? ≠ some (codePoint 'E')

theorem digitsOf_append {ds t : PyText} (hds : ∀ c ∈ ds, isDigit c = true) (ht : NoDigit t) :
    digitsOf (ds ++ t) = (ds, t) := by
  have hstop : t.takeWhile isDigit = [] ∧ t.dropWhile isDigit = t := by
    cases t with
    | nil => exact ⟨rfl, rfl⟩
    | cons c rest =>
      have hc := ht c rfl
      exact ⟨List.takeWhile_cons_of_neg (by rw [hc]; exact Bool.false_ne_true),
        List.dropWhile_cons_of_neg (by rw [hc]; exact Bool.false_ne_true)⟩
  unfold digitsOf
  rw [List.takeWhile_append_of_pos hds, List.dropWhile_append_of_pos hds, hstop.1, hstop.2,
    List.append_nil]

theorem signOf_append {sign t : PyText} (hsign : IsSign sign)
    (ht : t.head? ≠ some (codePoint '-')) : signOf (sign ++ t) = (sign, t) := by
  rcases hsign with rfl | rfl
  · cases t with
    | nil => rfl
    | cons c rest =>
      have hc : c ≠ codePoint '-' := fun h => ht (h ▸ rfl)
      exact if_neg hc
  · rw [List.singleton_append, signOf_cons, if_pos rfl]

theorem wholeOf_append {whole t : PyText} (hwhole : IsWhole whole) (ht : NoDigit t) :
    wholeOf (whole ++ t) = some (whole, t) := by
  rcases hwhole with rfl | ⟨⟨hne, hdigits⟩, hzero⟩
  · rw [List.singleton_append, wholeOf_cons, if_pos rfl]
  · have happend := digitsOf_append hdigits ht
    cases whole with
    | nil => exact absurd rfl hne
    | cons c rest =>
      have hc : c ≠ codePoint '0' := fun h => hzero (h ▸ rfl)
      rw [List.cons_append] at happend ⊢
      rw [wholeOf_cons, if_neg hc, if_pos (hdigits c List.mem_cons_self), happend]

theorem fractionOf_append {fraction t : PyText} (hfraction : IsFraction fraction) (ht : NoDigit t)
    (hpoint : fraction = [] → t.head? ≠ some (codePoint '.')) :
    fractionOf (fraction ++ t) = (fraction, t) := by
  rcases hfraction with rfl | ⟨ds, ⟨hne, hdigits⟩, rfl⟩
  · cases t with
    | nil => rfl
    | cons c rest =>
      rw [List.nil_append, fractionOf_cons]
      refine if_neg fun h => ?_
      obtain ⟨rfl, -⟩ := h
      exact hpoint rfl rfl
  · have happend := digitsOf_append hdigits ht
    rw [List.cons_append, fractionOf_cons, happend, if_pos ⟨rfl, hne⟩]

theorem exponentSign_append {sign ds t : PyText}
    (hsign : sign = [] ∨ sign = [codePoint '+'] ∨ sign = [codePoint '-']) (hds : IsDigits ds) :
    exponentSign (sign ++ (ds ++ t)) = (sign, ds ++ t) := by
  rcases hsign with rfl | rfl | rfl
  · obtain ⟨hne, hdigits⟩ := hds
    cases ds with
    | nil => exact absurd rfl hne
    | cons c rest =>
      have hc := hdigits c List.mem_cons_self
      refine if_neg fun h => ?_
      rcases h with rfl | rfl
      · exact absurd hc (by decide)
      · exact absurd hc (by decide)
  · rw [List.singleton_append, exponentSign_cons, if_pos (Or.inl rfl)]
  · rw [List.singleton_append, exponentSign_cons, if_pos (Or.inr rfl)]

theorem exponentOf_append {exponent t : PyText} (hexponent : IsExponent exponent) (ht : Ends t) :
    exponentOf (exponent ++ t) = (exponent, t) := by
  rcases hexponent with rfl | ⟨e, sign, ds, he, hsign, hds, rfl⟩
  · cases t with
    | nil => rfl
    | cons c rest =>
      refine if_neg fun h => ?_
      rcases h.1 with rfl | rfl
      · exact ht.lower rfl
      · exact ht.upper rfl
  · have hsigned := exponentSign_append (t := t) hsign hds
    have happend := digitsOf_append hds.2 ht.digit
    rw [List.cons_append, List.append_assoc, exponentOf_cons, hsigned]
    dsimp only
    rw [happend, if_pos ⟨he, hds.1⟩]

/-- **The longest number** of a text that begins with one. -/
theorem number_append {sign whole fraction exponent t : PyText} (hsign : IsSign sign)
    (hwhole : IsWhole whole) (hfraction : IsFraction fraction) (hexponent : IsExponent exponent)
    (ht : Ends t) :
    number (sign ++ whole ++ fraction ++ exponent ++ t) =
      some (sign ++ whole ++ fraction ++ exponent,
        !fraction.isEmpty || !exponent.isEmpty, t) := by
  -- what follows the fraction, and what follows the whole digits
  have hexp : NoDigit (exponent ++ t) ∧ (exponent ++ t).head? ≠ some (codePoint '.') := by
    rcases hexponent with rfl | ⟨e, esign, ds, he, -, -, rfl⟩
    · exact ⟨ht.digit, ht.point⟩
    · constructor
      · intro c hc
        obtain rfl := Option.some.inj hc
        rcases he with rfl | rfl <;> decide
      · intro hc
        obtain rfl := Option.some.inj hc
        rcases he with he | he <;> revert he <;> decide
  have hfrac : NoDigit (fraction ++ (exponent ++ t)) := by
    rcases hfraction with rfl | ⟨ds, -, rfl⟩
    · exact hexp.1
    · intro c hc
      obtain rfl := Option.some.inj hc
      decide
  have hminus : (whole ++ (fraction ++ (exponent ++ t))).head? ≠ some (codePoint '-') := by
    rcases hwhole with rfl | ⟨⟨hne, hdigits⟩, -⟩
    · intro hc
      have hzero : codePoint '0' = codePoint '-' := Option.some.inj hc
      exact absurd hzero (by decide)
    · cases whole with
      | nil => exact absurd rfl hne
      | cons c rest =>
        intro hc
        obtain rfl := Option.some.inj hc
        exact absurd (hdigits _ List.mem_cons_self) (by decide)
  rw [List.append_assoc, List.append_assoc, List.append_assoc]
  unfold number
  rw [signOf_append hsign hminus]
  dsimp only
  rw [wholeOf_append hwhole hfrac, Option.map_some]
  dsimp only
  rw [fractionOf_append hfraction hexp.1 fun _ => hexp.2]
  dsimp only
  rw [exponentOf_append hexponent ht, List.append_assoc, List.append_assoc]

theorem length_natText {n k : ℕ} (hk : 0 < k) :
    (natText n).length ≤ k ↔ n < digitBound k := by
  unfold natText digitBound
  rw [List.length_map]
  exact Nat.length_toDigits_le_iff (by decide) hk

/-- An integer in its two parts. -/
theorem intText_parts (n : ℤ) : ∃ sign, IsSign sign ∧ intText n = sign ++ natText n.natAbs ∧
    (n < 0 ↔ sign ≠ []) := by
  unfold intText
  by_cases hneg : n < 0
  · exact ⟨[codePoint '-'], Or.inr rfl, if_pos hneg, fun _ => List.cons_ne_nil _ _, fun _ => hneg⟩
  · exact ⟨[], Or.inl rfl, if_neg hneg, fun h => absurd h hneg, fun h => absurd rfl h⟩

theorem head_natText (n : ℕ) : (natText n).head? ≠ some (codePoint '-') := by
  have hdigits := isDigits_natText n
  cases htext : natText n with
  | nil => exact absurd htext hdigits.1
  | cons c rest =>
    intro hc
    obtain rfl := Option.some.inj hc
    exact absurd (hdigits.2 _ (htext ▸ List.mem_cons_self)) (by decide)

/-- The text of an integer, taken apart. -/
theorem signOf_intText (n : ℤ) :
    (if (signOf (intText n)).1 = [] then (natOf (signOf (intText n)).2 : ℤ)
      else -natOf (signOf (intText n)).2) = n := by
  obtain ⟨sign, hsign, htext, hneg⟩ := intText_parts n
  rw [htext, signOf_append hsign (head_natText n.natAbs)]
  dsimp only
  rw [natOf_natText]
  by_cases hsigned : sign = []
  · rw [if_pos hsigned]
    have hnonneg : ¬n < 0 := fun h => hneg.mp h hsigned
    rw [Int.natAbs_of_nonneg (by omega)]
  · rw [if_neg hsigned]
    have hnegative := hneg.mpr hsigned
    rw [Int.ofNat_natAbs_of_nonpos (by omega), Int.neg_neg]

/-- **An integer is read back.** -/
theorem intOf_intText {n : ℤ} (h : printable n = true) : intOf (intText n) = .ok n := by
  obtain ⟨sign, hsign, htext, -⟩ := intText_parts n
  have hlength : (signOf (intText n)).2.length ≤ 4300 := by
    rw [htext, signOf_append hsign (head_natText n.natAbs)]
    unfold printable printLimit at h
    exact (length_natText (by decide)).mpr (of_decide_eq_true h)
  unfold intOf
  rw [if_pos hlength, signOf_intText]

/-! ## 4. Strings are read back -/

theorem scanChar_escaped (e : CodePoint) (rest : PyText) :
    scanChar (backslash :: e :: rest) =
      if e = codePoint 'u' then unicodeEscape rest
      else (simpleEscape e).map fun c => (c, rest) := by
  unfold scanChar
  dsimp only
  rw [if_pos rfl]

theorem hexValue_digitChar {n : ℕ} (h : n < 16) : hexValue (codePoint (Nat.digitChar n)) = some n := by
  interval_cases n <;> decide

theorem hex4_digitChars {a b c d : ℕ} (ha : a < 16) (hb : b < 16) (hc : c < 16) (hd : d < 16)
    (rest : PyText) : hex4 (codePoint (Nat.digitChar a) :: codePoint (Nat.digitChar b) ::
      codePoint (Nat.digitChar c) :: codePoint (Nat.digitChar d) :: rest) =
        some (((a * 16 + b) * 16 + c) * 16 + d, rest) := by
  unfold hex4
  dsimp only
  rw [hexValue_digitChar ha, hexValue_digitChar hb, hexValue_digitChar hc, hexValue_digitChar hd]

/-- The escape of a control character. -/
theorem scanChar_hexEscape {c : CodePoint} (h : c.val < 32) (rest : PyText) :
    scanChar (hexEscape c ++ rest) = some (c, rest) := by
  have htext : hexEscape c ++ rest = backslash :: codePoint 'u' ::
      codePoint (Nat.digitChar 0) :: codePoint (Nat.digitChar 0) ::
        codePoint (Nat.digitChar (c.val / 16)) :: codePoint (Nat.digitChar (c.val % 16)) :: rest :=
    rfl
  have hvalue : ((0 * 16 + 0) * 16 + c.val / 16) * 16 + c.val % 16 = c.val := by omega
  have hpoint : Fin.ofNat 0x110000 c.val = c := Fin.ext (Nat.mod_eq_of_lt c.isLt)
  rw [htext, scanChar_escaped, if_pos rfl, unicodeEscape,
    hex4_digitChars (by decide) (by decide) (by omega) (by omega), Option.map_some]
  dsimp only
  rw [hvalue, if_neg (by omega), hpoint]

/-- **A character is read back from its escape.** -/
theorem scanChar_escape (c : CodePoint) (rest : PyText) :
    scanChar (escape c ++ rest) = some (c, rest) := by
  have hsimple : ∀ (e d : Char) (s : String), ofString s = [backslash, codePoint e] →
      codePoint e ≠ codePoint 'u' → simpleEscape (codePoint e) = some (codePoint d) →
        scanChar (ofString s ++ rest) = some (codePoint d, rest) := by
    intro e d s hs hu hd
    rw [hs, List.cons_append, List.singleton_append, scanChar_escaped, if_neg hu, hd,
      Option.map_some]
  unfold escape
  split
  · rename_i h
    rw [h]
    exact hsimple '"' '"' _ rfl (by decide) (by decide)
  split
  · rename_i h
    rw [h]
    exact hsimple '\\' '\\' _ rfl (by decide) (by decide)
  split
  · rename_i h
    rw [h]
    exact hsimple 'n' '\n' _ rfl (by decide) (by decide)
  split
  · rename_i h
    rw [h]
    exact hsimple 'r' '\r' _ rfl (by decide) (by decide)
  split
  · rename_i h
    rw [h]
    exact hsimple 't' '\t' _ rfl (by decide) (by decide)
  split
  · rename_i h
    have hc : c = codePoint '\x0c' := Fin.ext h
    rw [hc]
    exact hsimple 'f' '\x0c' _ rfl (by decide) (by decide)
  split
  · rename_i h
    have hc : c = codePoint '\x08' := Fin.ext h
    rw [hc]
    exact hsimple 'b' '\x08' _ rfl (by decide) (by decide)
  split
  · rename_i h
    exact scanChar_hexEscape h rest
  · rename_i hbackslash _ _ _ _ _ hcontrol
    show (if c = backslash then _ else if c.val < 32 then none else some (c, rest)) = _
    rw [if_neg hbackslash, if_neg hcontrol]

/-- An escape is no quote. -/
theorem head_escape (c : CodePoint) (rest : PyText) :
    (escape c ++ rest).head? ≠ some quote := by
  have hword : ∀ (e : Char) (s : String), ofString s = [backslash, codePoint e] →
      (ofString s ++ rest).head? ≠ some quote := by
    intro e s hs h
    rw [hs] at h
    have hquote : backslash = quote := Option.some.inj h
    exact absurd hquote (by decide)
  unfold escape
  split
  · exact hword '"' _ rfl
  split
  · exact hword '\\' _ rfl
  split
  · exact hword 'n' _ rfl
  split
  · exact hword 'r' _ rfl
  split
  · exact hword 't' _ rfl
  split
  · exact hword 'f' _ rfl
  split
  · exact hword 'b' _ rfl
  split
  · intro h
    have hquote : backslash = quote := Option.some.inj h
    exact absurd hquote (by decide)
  · rename_i hquote _ _ _ _ _ _ _
    intro h
    exact hquote (Option.some.inj h)

theorem length_escape (c : CodePoint) : 0 < (escape c).length := by
  have hscan := scanChar_escape c []
  cases h : escape c with
  | nil =>
    rw [h] at hscan
    cases hscan
  | cons d rest => exact Nat.succ_pos _

/-- A string is read back, given as many steps as it has characters. -/
theorem stringBody_escape (s rest : PyText) :
    ∀ n, s.length < n → stringBody n (s.flatMap escape ++ (quote :: rest)) = some (s, rest) := by
  induction s with
  | nil =>
    intro n hn
    cases n with
    | zero => exact absurd hn (Nat.not_lt_zero _)
    | succ n => exact if_pos rfl
  | cons c s ih =>
    intro n hn
    cases n with
    | zero => exact absurd hn (Nat.not_lt_zero _)
    | succ n =>
      rw [List.flatMap_cons, List.append_assoc]
      unfold stringBody
      rw [if_neg (head_escape c _), scanChar_escape, Option.bind_some,
        ih n (Nat.lt_of_succ_lt_succ hn)]
      rfl

theorem length_flatMap_escape (s : PyText) : s.length ≤ (s.flatMap escape).length := by
  induction s with
  | nil => exact Nat.zero_le _
  | cons c s ih =>
    have hc := length_escape c
    rw [List.flatMap_cons, List.length_append, List.length_cons]
    omega

/-- **A string is read back.** -/
theorem string_quoted (s rest : PyText) :
    string ((quoted s ++ rest).tail) = .ok (s, rest) := by
  have htext : (quoted s ++ rest).tail = s.flatMap escape ++ (quote :: rest) := by
    unfold quoted
    rw [List.append_assoc, List.append_assoc]
    rfl
  have hlength := length_flatMap_escape s
  rw [htext]
  unfold string
  rw [stringBody_escape s rest _ (by rw [List.length_append, List.length_cons]; omega)]

/-! ## 5. Documents are read back -/

theorem skip_cons {c : CodePoint} (h : isBlank c = false) (rest : PyText) :
    skip (c :: rest) = c :: rest :=
  List.dropWhile_cons_of_neg (by rw [h]; exact Bool.false_ne_true)

namespace Doc

variable {F : Type} [PyFloat F]

theorem value_cons (n : ℕ) (c : CodePoint) (rest : PyText) : value (F := F) (n + 1) (c :: rest) =
    if c = quote then (string rest).map fun r => (.str r.1, r.2)
    else if c = openBrace then
      if (skip rest).head? = some closeBrace then .ok (.obj [], (skip rest).tail)
      else (fields n (skip rest)).map fun r => (.obj r.1, r.2)
    else if c = openBracket then
      if (skip rest).head? = some closeBracket then .ok (.arr [], (skip rest).tail)
      else (items n (skip rest)).map fun r => (.arr r.1, r.2)
    else
      match literal (c :: rest) with
      | some r => .ok r
      | none => numeral (c :: rest) := by
  unfold value
  rfl

/-- The text begins like a number. -/
def StartsNumber (t : PyText) : Prop := ∃ c u, t = c :: u ∧
  (isDigit c = true ∨ c = codePoint '-' ∧ ∃ d v, u = d :: v ∧ isDigit d = true)

theorem startsNumber_append {sign whole t : PyText} (hsign : IsSign sign) (hwhole : IsWhole whole) :
    StartsNumber (sign ++ whole ++ t) := by
  obtain ⟨d, v, rfl, hd⟩ : ∃ d v, whole = d :: v ∧ isDigit d = true := by
    rcases hwhole with rfl | ⟨⟨hne, hdigits⟩, -⟩
    · exact ⟨_, _, rfl, by decide⟩
    · cases whole with
      | nil => exact absurd rfl hne
      | cons d v => exact ⟨d, v, rfl, hdigits d List.mem_cons_self⟩
  rcases hsign with rfl | rfl
  · exact ⟨d, v ++ t, rfl, Or.inl hd⟩
  · exact ⟨codePoint '-', d :: v ++ t, rfl, Or.inr ⟨rfl, d, v ++ t, rfl, hd⟩⟩

/-- No name begins like a number. -/
theorem literal_number {t : PyText} (h : StartsNumber t) : literal (F := F) t = none := by
  have hnames : ∀ name ∈ names (F := F), ∃ a b v, name.1 = a :: b :: v ∧ isDigit a = false ∧
      (a ≠ codePoint '-' ∨ isDigit b = false) := by
    simp only [names, List.forall_mem_cons]
    exact ⟨⟨_, _, _, rfl, by decide, by decide⟩, ⟨_, _, _, rfl, by decide, by decide⟩,
      ⟨_, _, _, rfl, by decide, by decide⟩, ⟨_, _, _, rfl, by decide, by decide⟩,
      ⟨_, _, _, rfl, by decide, by decide⟩, ⟨_, _, _, rfl, by decide, by decide⟩,
      fun _ h => absurd h List.not_mem_nil⟩
  have hnone : (names (F := F)).find? (fun name => name.1.isPrefixOf t) = none := by
    refine List.find?_eq_none.mpr fun name hname hprefix => ?_
    obtain ⟨a, b, v, hname', ha, hb⟩ := hnames name hname
    obtain ⟨w, hw⟩ := List.isPrefixOf_iff_prefix.mp hprefix
    obtain ⟨c, u, rfl, hc⟩ := h
    rw [hname', List.cons_append] at hw
    obtain ⟨rfl, rfl⟩ := List.cons.inj hw
    rcases hc with hc | ⟨rfl, d, v', hd, hdigit⟩
    · rw [ha] at hc
      cases hc
    · obtain ⟨rfl, -⟩ := List.cons.inj hd
      rcases hb with hb | hb
      · exact hb rfl
      · rw [hb] at hdigit
        cases hdigit
  unfold literal
  rw [hnone]
  rfl

/-- **A text that begins like a number is read as one.** -/
theorem value_number {t : PyText} (h : StartsNumber t) (n : ℕ) :
    value (F := F) (n + 1) t = numeral t := by
  have hliteral := literal_number (F := F) h
  obtain ⟨c, u, rfl, hc⟩ := h
  have hother : c ≠ quote ∧ c ≠ openBrace ∧ c ≠ openBracket := by
    rcases hc with hc | ⟨rfl, -⟩
    · refine ⟨?_, ?_, ?_⟩ <;> rintro rfl <;> exact absurd hc (by decide)
    · decide
  rw [value_cons, if_neg hother.1, if_neg hother.2.1, if_neg hother.2.2, hliteral]

theorem numeral_int {n : ℤ} (h : printable n = true) {rest : PyText} (hrest : Ends rest) :
    numeral (F := F) (intText n ++ rest) = .ok (.int n, rest) := by
  obtain ⟨sign, hsign, htext, -⟩ := intText_parts n
  have hfraction : IsFraction [] := Or.inl rfl
  have hexponent : IsExponent [] := Or.inl rfl
  have hnumber := number_append hsign (isWhole_natText n.natAbs) hfraction hexponent hrest
  rw [List.append_nil, List.append_nil, ← htext] at hnumber
  unfold numeral
  rw [hnumber]
  dsimp only
  rw [List.isEmpty_nil, Bool.not_true, Bool.or_self, if_neg Bool.false_ne_true, intOf_intText h]
  rfl

theorem numeral_float [LawfulPyFloat F] {x : F} (h : PyFloat.finite x = true) {rest : PyText}
    (hrest : Ends rest) : numeral (PyFloat.repr x ++ rest) = .ok (.float x, rest) := by
  obtain ⟨sign, whole, fraction, exponent, hsign, hwhole, hfraction, hexponent, hpart, htext⟩ :=
    LawfulPyFloat.text x h
  have hnumber := number_append hsign hwhole hfraction hexponent hrest
  have hfloat : (!fraction.isEmpty || !exponent.isEmpty) = true := by
    rw [Bool.or_eq_true, Bool.not_eq_true', Bool.not_eq_true', List.isEmpty_eq_false_iff,
      List.isEmpty_eq_false_iff]
    exact hpart
  rw [hfloat, ← htext] at hnumber
  unfold numeral
  rw [hnumber]
  dsimp only
  rw [if_pos rfl, LawfulPyFloat.read_repr x h]

/-- The text begins a value. -/
def StartsValue (t : PyText) : Prop :=
  ∃ c u, t = c :: u ∧ isBlank c = false ∧ c ≠ closeBracket

theorem StartsNumber.value {t : PyText} (h : StartsNumber t) : StartsValue t := by
  obtain ⟨c, u, rfl, hc⟩ := h
  refine ⟨c, u, rfl, ?_⟩
  rcases hc with hc | ⟨rfl, -⟩
  · unfold isDigit at hc
    rw [Bool.and_eq_true, decide_eq_true_eq, decide_eq_true_eq] at hc
    constructor
    · unfold isBlank
      simp only [Bool.or_eq_false_iff, decide_eq_false_iff_not]
      omega
    · rintro rfl
      exact absurd hc (by decide)
  · decide

/-- Every text of a document begins one. -/
theorem startsValue_plain [LawfulPyFloat F] {d : Doc F} {t : PyText} (h : plain d = .ok t) :
    StartsValue t := by
  cases d with
  | null =>
    obtain rfl := Except.ok.inj h
    exact ⟨_, _, rfl, by decide, by decide⟩
  | bool b =>
    obtain rfl := Except.ok.inj h
    cases b <;> exact ⟨_, _, rfl, by decide, by decide⟩
  | int n =>
    unfold plain at h
    split at h
    · obtain ⟨sign, hsign, htext, -⟩ := intText_parts n
      have hstarts := startsNumber_append (t := []) hsign (isWhole_natText n.natAbs)
      rw [List.append_nil, ← htext, Except.ok.inj h] at hstarts
      exact hstarts.value
    · cases h
  | float x =>
    unfold plain at h
    split at h
    · rename_i hx
      obtain ⟨sign, whole, fraction, exponent, hsign, hwhole, -, -, -, htext⟩ :=
        LawfulPyFloat.text x hx
      have hstarts := startsNumber_append (t := fraction ++ exponent) hsign hwhole
      rw [← List.append_assoc, ← htext, Except.ok.inj h] at hstarts
      exact hstarts.value
    · cases h
  | str s =>
    obtain rfl := Except.ok.inj h
    exact ⟨_, _, rfl, by decide, by decide⟩
  | arr items =>
    cases items with
    | nil =>
      obtain rfl := Except.ok.inj h
      exact ⟨_, _, rfl, by decide, by decide⟩
    | cons item rest =>
      unfold plain at h
      obtain ⟨t, _, h⟩ := bind_ok h
      obtain ⟨ts, _, h⟩ := bind_ok h
      obtain rfl := Except.ok.inj h
      exact ⟨_, _, rfl, by decide, by decide⟩
  | obj fields =>
    cases fields with
    | nil =>
      obtain rfl := Except.ok.inj h
      exact ⟨_, _, rfl, by decide, by decide⟩
    | cons field rest =>
      unfold plain at h
      obtain ⟨t, _, h⟩ := bind_ok h
      obtain ⟨ts, _, h⟩ := bind_ok h
      obtain rfl := Except.ok.inj h
      exact ⟨_, _, rfl, by decide, by decide⟩

/-- A text after which a number ends. -/
theorem ends_of_head {c : CodePoint} {rest : PyText} (hc : c = Json.comma ∨ c = closeBracket ∨
    c = closeBrace) : Ends (c :: rest) := by
  have hne : ∀ d : CodePoint, (d ≠ Json.comma ∧ d ≠ closeBracket ∧ d ≠ closeBrace) →
      (c :: rest).head? ≠ some d := by
    intro d hd h
    obtain rfl := Option.some.inj h
    rcases hc with h | h | h
    · exact hd.1 h
    · exact hd.2.1 h
    · exact hd.2.2 h
  refine ⟨fun d hd => ?_, hne _ (by decide), hne _ (by decide), hne _ (by decide)⟩
  obtain rfl := Option.some.inj hd
  rcases hc with rfl | rfl | rfl <;> decide

/-- What follows an item. -/
theorem plainItems_cases {l : List (Doc F)} {ts : PyText} (h : plainItems l = .ok ts) :
    (l = [] ∧ ts = [closeBracket]) ∨ ∃ item rest t us, l = item :: rest ∧ plain item = .ok t ∧
      plainItems rest = .ok us ∧ ts = Json.comma :: (t ++ us) := by
  cases l with
  | nil => exact Or.inl ⟨rfl, (Except.ok.inj h).symm⟩
  | cons item rest =>
    unfold plainItems at h
    obtain ⟨t, ht, h⟩ := bind_ok h
    obtain ⟨us, hus, h⟩ := bind_ok h
    exact Or.inr ⟨item, rest, t, us, rfl, ht, hus, (Except.ok.inj h).symm⟩

/-- What follows a field. -/
theorem plainFields_cases {l : List (PyText × Doc F)} {ts : PyText} (h : plainFields l = .ok ts) :
    (l = [] ∧ ts = [closeBrace]) ∨ ∃ key item rest t us, l = (key, item) :: rest ∧
      plain item = .ok t ∧ plainFields rest = .ok us ∧
        ts = Json.comma :: (quoted key ++ (colon :: (t ++ us))) := by
  cases l with
  | nil => exact Or.inl ⟨rfl, (Except.ok.inj h).symm⟩
  | cons field rest =>
    obtain ⟨key, item⟩ := field
    unfold plainFields at h
    obtain ⟨t, ht, h⟩ := bind_ok h
    obtain ⟨us, hus, h⟩ := bind_ok h
    exact Or.inr ⟨key, item, rest, t, us, rfl, ht, hus, (Except.ok.inj h).symm⟩

/-- `n` steps read back what is short enough. -/
structure ReadsBack (F : Type) [PyFloat F] (n : ℕ) : Prop where
  value : ∀ (d : Doc F) (t rest : PyText), plain d = .ok t → 2 * t.length ≤ n → Ends rest →
    Doc.value n (t ++ rest) = .ok (d, rest)
  items : ∀ (item : Doc F) (l : List (Doc F)) (t ts rest : PyText), plain item = .ok t →
    plainItems l = .ok ts → 2 * (t.length + ts.length) < n →
      Doc.items n (t ++ (ts ++ rest)) = .ok (item :: l, rest)
  fields : ∀ (key : PyText) (item : Doc F) (l : List (PyText × Doc F)) (t ts rest : PyText),
    plain item = .ok t → plainFields l = .ok ts →
      2 * ((quoted key).length + 1 + t.length + ts.length) < n →
        Doc.fields n (quoted key ++ (colon :: (t ++ (ts ++ rest)))) = .ok ((key, item) :: l, rest)

variable [LawfulPyFloat F]

theorem ReadsBack.items_succ {n : ℕ} (h : ReadsBack F n) (item : Doc F) (l : List (Doc F))
    (t ts rest : PyText) (ht : plain item = .ok t) (hts : plainItems l = .ok ts)
    (hn : 2 * (t.length + ts.length) < n + 1) :
    Doc.items (n + 1) (t ++ (ts ++ rest)) = .ok (item :: l, rest) := by
  unfold Doc.items
  rcases plainItems_cases hts with ⟨rfl, rfl⟩ | ⟨next, l, t', us, rfl, ht', hus, rfl⟩
  · rw [List.singleton_append, h.value item t _ ht (by omega)
      (ends_of_head (Or.inr (Or.inl rfl))), ok_bind]
    dsimp only
    rw [skip_cons (by decide)]
    exact if_pos rfl
  · rw [List.length_cons, List.length_append] at hn
    rw [List.cons_append, h.value item t _ ht (by omega) (ends_of_head (Or.inl rfl)), ok_bind]
    dsimp only
    obtain ⟨c, u, hcu, hblank, -⟩ := startsValue_plain ht'
    have hskip : skip (t' ++ us ++ rest) = t' ++ (us ++ rest) := by
      rw [List.append_assoc, hcu, List.cons_append, skip_cons hblank]
    rw [skip_cons (by decide)]
    dsimp only
    rw [if_neg (by decide), if_pos rfl, hskip, h.items next l t' us rest ht' hus (by omega)]
    rfl

theorem ReadsBack.fields_succ {n : ℕ} (h : ReadsBack F n) (key : PyText) (item : Doc F)
    (l : List (PyText × Doc F)) (t ts rest : PyText) (ht : plain item = .ok t)
    (hts : plainFields l = .ok ts)
    (hn : 2 * ((quoted key).length + 1 + t.length + ts.length) < n + 1) :
    Doc.fields (n + 1) (quoted key ++ (colon :: (t ++ (ts ++ rest)))) =
      .ok ((key, item) :: l, rest) := by
  have hkey := string_quoted key (colon :: (t ++ (ts ++ rest)))
  have hcons : quoted key ++ (colon :: (t ++ (ts ++ rest))) =
      quote :: (quoted key ++ (colon :: (t ++ (ts ++ rest)))).tail := rfl
  obtain ⟨c, u, hcu, hblank, -⟩ := startsValue_plain ht
  have hskip : ∀ v, skip (t ++ v) = t ++ v := by
    intro v
    rw [hcu, List.cons_append, skip_cons hblank]
  rw [hcons]
  unfold Doc.fields
  rw [if_pos rfl, hkey, ok_bind]
  dsimp only
  rw [skip_cons (by decide)]
  dsimp only
  rw [if_pos rfl, hskip]
  rcases plainFields_cases hts with ⟨rfl, rfl⟩ | ⟨key', next, l, t', us, rfl, ht', hus, rfl⟩
  · rw [List.singleton_append, h.value item t _ ht (by omega)
      (ends_of_head (Or.inr (Or.inr rfl))), ok_bind]
    dsimp only
    rw [skip_cons (by decide)]
    exact if_pos rfl
  · rw [List.length_cons, List.length_append, List.length_cons, List.length_append] at hn
    rw [List.cons_append, h.value item t _ ht (by omega) (ends_of_head (Or.inl rfl)), ok_bind]
    dsimp only
    have hnext : skip (quoted key' ++ (colon :: (t' ++ us)) ++ rest) =
        quoted key' ++ (colon :: (t' ++ (us ++ rest))) := by
      rw [List.append_assoc, List.cons_append, List.append_assoc]
      exact skip_cons (by decide) _
    rw [skip_cons (by decide)]
    dsimp only
    rw [if_neg (by decide), if_pos rfl, hnext,
      h.fields key' next l t' us rest ht' hus (by omega)]
    rfl

theorem ReadsBack.value_succ {n : ℕ} (h : ReadsBack F n) (d : Doc F) (t rest : PyText)
    (ht : plain d = .ok t) (hn : 2 * t.length ≤ n + 1) (hrest : Ends rest) :
    Doc.value (n + 1) (t ++ rest) = .ok (d, rest) := by
  cases d with
  | null =>
    obtain rfl := Except.ok.inj ht
    rfl
  | bool b =>
    obtain rfl := Except.ok.inj ht
    cases b <;> rfl
  | int m =>
    unfold plain at ht
    split at ht
    · rename_i hm
      obtain ⟨sign, hsign, htext, -⟩ := intText_parts m
      have hstarts := startsNumber_append (t := rest) hsign (isWhole_natText m.natAbs)
      rw [← htext] at hstarts
      rw [← Except.ok.inj ht, value_number hstarts, numeral_int hm hrest]
    · cases ht
  | float x =>
    unfold plain at ht
    split at ht
    · rename_i hx
      obtain ⟨sign, whole, fraction, exponent, hsign, hwhole, -, -, -, htext⟩ :=
        LawfulPyFloat.text x hx
      have hstarts := startsNumber_append (t := fraction ++ exponent ++ rest) hsign hwhole
      rw [← List.append_assoc, ← List.append_assoc, ← htext] at hstarts
      rw [← Except.ok.inj ht, value_number hstarts, numeral_float hx hrest]
    · cases ht
  | str s =>
    obtain rfl := Except.ok.inj ht
    have hcons : quoted s ++ rest = quote :: (quoted s ++ rest).tail := rfl
    rw [hcons, value_cons, if_pos rfl, string_quoted]
    rfl
  | arr items =>
    cases items with
    | nil =>
      obtain rfl := Except.ok.inj ht
      rfl
    | cons item l =>
      unfold plain at ht
      obtain ⟨u, hu, ht⟩ := bind_ok ht
      obtain ⟨us, hus, ht⟩ := bind_ok ht
      obtain rfl := Except.ok.inj ht
      obtain ⟨c, v, hcv, hblank, hclose⟩ := startsValue_plain hu
      have hskip : skip (u ++ us ++ rest) = u ++ (us ++ rest) := by
        rw [List.append_assoc, hcv, List.cons_append, skip_cons hblank]
      have hhead : (u ++ (us ++ rest)).head? ≠ some closeBracket := by
        rw [hcv]
        exact fun h => hclose (Option.some.inj h)
      rw [List.length_cons, List.length_append] at hn
      rw [List.cons_append, value_cons, if_neg (by decide), if_neg (by decide), if_pos rfl, hskip,
        if_neg hhead, h.items item l u us rest hu hus (by omega)]
      rfl
  | obj fields =>
    cases fields with
    | nil =>
      obtain rfl := Except.ok.inj ht
      rfl
    | cons field l =>
      obtain ⟨key, item⟩ := field
      unfold plain at ht
      obtain ⟨u, hu, ht⟩ := bind_ok ht
      obtain ⟨us, hus, ht⟩ := bind_ok ht
      obtain rfl := Except.ok.inj ht
      have hskip : skip (quoted key ++ (colon :: (u ++ us)) ++ rest) =
          quoted key ++ (colon :: (u ++ (us ++ rest))) := by
        rw [List.append_assoc, List.cons_append, List.append_assoc]
        exact skip_cons (by decide) _
      have hhead : (quoted key ++ (colon :: (u ++ (us ++ rest)))).head? ≠ some closeBrace := by
        intro h
        have hquote : quote = closeBrace := Option.some.inj h
        exact absurd hquote (by decide)
      rw [List.length_cons, List.length_append, List.length_cons, List.length_append] at hn
      rw [List.cons_append, value_cons, if_neg (by decide), if_pos rfl, hskip, if_neg hhead,
        h.fields key item l u us rest hu hus (by omega)]
      rfl

/-- **Enough steps read back every text.** -/
theorem readsBack (n : ℕ) : ReadsBack F n := by
  induction n with
  | zero =>
    refine ⟨fun d t rest ht hn _ => ?_, fun _ _ _ _ _ _ _ hn => absurd hn (Nat.not_lt_zero _),
      fun _ _ _ _ _ _ _ _ hn => absurd hn (Nat.not_lt_zero _)⟩
    obtain ⟨c, u, rfl, -⟩ := startsValue_plain ht
    rw [List.length_cons] at hn
    omega
  | succ n ih => exact ⟨ih.value_succ, ih.items_succ, ih.fields_succ⟩

theorem ends_nil : Ends [] :=
  ⟨fun _ h => (by cases h), fun h => (by cases h), fun h => (by cases h), fun h => (by cases h)⟩

/-- What is blank after the text of a document is skipped. -/
theorem parse_append {d : Doc F} {t rest : PyText} (h : plain d = .ok t) (hrest : Ends rest)
    (hblank : skip rest = []) : parse (t ++ rest) = .ok d := by
  obtain ⟨c, u, hcu, hvisible, -⟩ := startsValue_plain h
  have hskip : skip (t ++ rest) = t ++ rest := by
    rw [hcu, List.cons_append, skip_cons hvisible]
  have hlength : 2 * t.length ≤ 2 * (t ++ rest).length := by
    rw [List.length_append]
    omega
  unfold parse
  rw [hskip, (readsBack _).value d t rest h hlength hrest, ok_bind]
  exact if_pos hblank

/-- **The text of a document is read as the document.** -/
theorem parse_plain {d : Doc F} {t : PyText} (h : plain d = .ok t) : parse t = .ok d := by
  rw [← List.append_nil t]
  exact parse_append h ends_nil rfl

/-! ## 6. Objects as dictionaries -/

variable {G : Type}

theorem assign_of_new {fields : List (PyText × Doc G)} {key : PyText} (value : Doc G)
    (h : key ∉ fields.map Prod.fst) : assign fields key value = fields ++ [(key, value)] :=
  if_neg fun hmem => h (List.contains_iff_mem.mp hmem)

mutual

/-- **Where no key stands twice every value counts.** -/
theorem collapse_of_unique : ∀ {d : Doc G}, Unique d → collapse d = d
  | .null, _ => rfl
  | .bool _, _ => rfl
  | .int _, _ => rfl
  | .float _, _ => rfl
  | .str _, _ => rfl
  | .arr items, h => by
    show Doc.arr (collapseItems items) = Doc.arr items
    rw [collapseItems_of_unique h.items]
  | .obj fields, h => by
    show Doc.obj (collapseFields [] fields) = Doc.obj fields
    rw [collapseFields_of_unique [] h.keys h.values]
    rfl

theorem collapseItems_of_unique : ∀ {items : List (Doc G)}, (∀ item ∈ items, Unique item) →
    collapseItems items = items
  | [], _ => rfl
  | item :: rest, h => by
    rw [List.forall_mem_cons] at h
    show collapse item :: collapseItems rest = item :: rest
    rw [collapse_of_unique h.1, collapseItems_of_unique h.2]

theorem collapseFields_of_unique : ∀ (done : List (PyText × Doc G))
    {fields : List (PyText × Doc G)}, ((done ++ fields).map Prod.fst).Nodup →
      (∀ field ∈ fields, Unique field.2) → collapseFields done fields = done ++ fields
  | done, [], _, _ => (List.append_nil done).symm
  | done, (key, value) :: rest, hkeys, h => by
    rw [List.forall_mem_cons] at h
    have hnew : key ∉ done.map Prod.fst := by
      rw [List.map_append, List.nodup_append] at hkeys
      exact fun hmem => hkeys.2.2 key hmem key List.mem_cons_self rfl
    have happend : done ++ (key, value) :: rest = (done ++ [(key, value)]) ++ rest := by
      rw [List.append_assoc, List.singleton_append]
    rw [happend] at hkeys ⊢
    show collapseFields (assign done key (collapse value)) rest = _
    rw [collapse_of_unique h.1, assign_of_new value hnew, collapseFields_of_unique _ hkeys h.2]

end

/-- **What was written is read as the document, its keys in the order they were written.** -/
theorem loads_dumps {d : Doc F} {t : PyText} (hd : Unique d) (h : dumps d = .ok t) :
    loads t = .ok d.sorted := by
  unfold loads
  rw [parse_plain h]
  exact congrArg Except.ok (collapse_of_unique (unique_sorted hd))

end Doc

/-! ## 7. Whole floats -/

/-- Floats to evaluate with: the whole ones and the three that are no numbers. -/
inductive WholeFloat where
  | whole (n : ℤ)
  | nan
  | infinity
  | negInfinity
  deriving DecidableEq, Repr

/-- The text of a whole float. -/
def wholeText (n : ℤ) : PyText := intText n ++ [codePoint '.', codePoint '0']

instance : PyFloat WholeFloat where
  value
    | .whole n => some n
    | _ => none
  repr
    | .whole n => wholeText n
    | .nan => ofString "nan"
    | .infinity => ofString "inf"
    | .negInfinity => ofString "-inf"
  read t :=
    let s := t.takeWhile fun c => c ≠ codePoint '.'
    .whole (if (signOf s).1 = [] then (natOf (signOf s).2 : ℤ) else -natOf (signOf s).2)
  ofInt n := some (.whole n)
  nan := .nan
  infinity := .infinity
  negInfinity := .negInfinity

theorem isDigits_zero : IsDigits [codePoint '0'] := by
  refine ⟨List.cons_ne_nil _ _, fun c hc => ?_⟩
  rw [List.mem_singleton.mp hc]
  decide

theorem takeWhile_wholeText (n : ℤ) :
    (wholeText n).takeWhile (fun c => c ≠ codePoint '.') = intText n := by
  obtain ⟨sign, hsign, htext, -⟩ := intText_parts n
  have hall : ∀ c ∈ intText n, (decide (c ≠ codePoint '.')) = true := by
    intro c hc
    rw [htext, List.mem_append] at hc
    rcases hc with hc | hc
    · rcases hsign with rfl | rfl
      · cases hc
      · rw [List.mem_singleton.mp hc]
        decide
    · have hdigit := (isDigits_natText n.natAbs).2 c hc
      rw [decide_eq_true_eq]
      rintro rfl
      exact absurd hdigit (by decide)
  unfold wholeText
  rw [List.takeWhile_append_of_pos hall]
  exact List.append_nil _

instance : LawfulPyFloat WholeFloat where
  text x hx := by
    cases x with
    | whole n =>
      obtain ⟨sign, hsign, htext, -⟩ := intText_parts n
      refine ⟨sign, natText n.natAbs, [codePoint '.', codePoint '0'], [], hsign,
        isWhole_natText n.natAbs, Or.inr ⟨[codePoint '0'], isDigits_zero, rfl⟩, Or.inl rfl,
        Or.inl (List.cons_ne_nil _ _), ?_⟩
      rw [List.append_nil, ← htext]
      rfl
    | _ => cases hx
  read_repr x hx := by
    cases x with
    | whole n =>
      have hread := signOf_intText n
      rw [← takeWhile_wholeText n] at hread
      exact congrArg WholeFloat.whole hread
    | _ => cases hx

end DroneSim.Library
