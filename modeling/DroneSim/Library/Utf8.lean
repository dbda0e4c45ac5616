/-
  File:      DroneSim/Library/Utf8.lean
  Subject:   Decoding UTF-8, and lines.

  `decodeUtf8` refuses what `bytes.decode("utf-8")` refuses: a byte that starts no character, a
  character cut short, one that is longer than it need be, a surrogate and what lies above the
  last code point. Bytes have one end of a line (`byteLines`), texts have ten (`splitlines`).

  * `decodeUtf8_encode` -- what was encoded is decoded;
  * `newline_mem_encode` -- the byte of a newline stands for a newline;
  * `splitlines_lines` -- lines in which no end of a line stands are split where they were joined.
-/
import DroneSim.Library.Fallible
import DroneSim.Library.PyText

namespace DroneSim.Library

/-! ## 1. Characters -/

/-- `n` bytes that continue a character. -/
def tails : ℕ → ℕ → List UInt8 → Option (ℕ × List UInt8)
  | 0, value, rest => some (value, rest)
  | _ + 1, _, [] => none
  | n + 1, value, b :: rest =>
    if 0x80 ≤ b.toNat ∧ b.toNat < 0xC0 then tails n (value * 64 + (b.toNat - 0x80)) rest else none

/-- The values three bytes may stand for. -/
def threeBytes (value : ℕ) : Bool :=
  decide (0x800 ≤ value) && !(decide (0xD800 ≤ value) && decide (value < 0xE000))

/-- The values four bytes may stand for. -/
def fourBytes (value : ℕ) : Bool := decide (0x10000 ≤ value) && decide (value < 0x110000)

/-- The value of the first character. -/
def decodeValue : List UInt8 → Option (ℕ × List UInt8)
  | [] => none
  | a :: rest =>
    if a.toNat < 0x80 then some (a.toNat, rest)
    else if a.toNat < 0xC2 then none
    else if a.toNat < 0xE0 then tails 1 (a.toNat - 0xC0) rest
    else if a.toNat < 0xF0 then (tails 2 (a.toNat - 0xE0) rest).filter fun r => threeBytes r.1
    else if a.toNat < 0xF5 then (tails 3 (a.toNat - 0xF0) rest).filter fun r => fourBytes r.1
    else none

/-- The characters of `n` steps. -/
def decodeChars : ℕ → List UInt8 → Option PyText
  | _, [] => some []
  | 0, _ :: _ => none
  | n + 1, b :: rest =>
    (decodeValue (b :: rest)).bind fun r => (decodeChars n r.2).map (Fin.ofNat _ r.1 :: ·)

/-- `data.decode("utf-8")` -/
def decodeUtf8 (data : List UInt8) : Option PyText := decodeChars data.length data

theorem toNat_byte {n : ℕ} (h : n < 256) : (UInt8.ofNat n).toNat = n := by
  rw [UInt8.toNat_ofNat', Nat.mod_eq_of_lt h]

theorem tails_cons (n value : ℕ) (b : UInt8) (rest : List UInt8) :
    tails (n + 1) value (b :: rest) =
      if 0x80 ≤ b.toNat ∧ b.toNat < 0xC0 then tails n (value * 64 + (b.toNat - 0x80)) rest
      else none := rfl

theorem tails_succ {n value v : ℕ} (hv : v < 64) (rest : List UInt8) :
    tails (n + 1) value (UInt8.ofNat (0x80 + v) :: rest) = tails n (value * 64 + v) rest := by
  have hbyte : (UInt8.ofNat (0x80 + v)).toNat = 0x80 + v := toNat_byte (by omega)
  rw [tails_cons, hbyte, if_pos (by omega), Nat.add_sub_cancel_left]

/-- **A character is decoded.** -/
theorem decodeValue_utf8Bytes {c : CodePoint} (h : isSurrogate c = false) (rest : List UInt8) :
    decodeValue (utf8Bytes c ++ rest) = some (c.val, rest) := by
  have hmax := c.isLt
  unfold isSurrogate at h
  unfold utf8Bytes
  split
  · rename_i hc
    have hbyte : (UInt8.ofNat c.val).toNat = c.val := toNat_byte (by omega)
    unfold decodeValue
    rw [List.singleton_append]
    dsimp only
    rw [hbyte, if_pos hc]
  · rename_i hone
    split
    · rename_i htwo
      have hbyte : (UInt8.ofNat (0xC0 + c.val / 64)).toNat = 0xC0 + c.val / 64 :=
        toNat_byte (by omega)
      have hvalue : c.val / 64 * 64 + c.val % 64 = c.val := by omega
      unfold decodeValue
      simp only [List.cons_append, List.nil_append]
      rw [hbyte, if_neg (by omega), if_neg (by omega), if_pos (by omega),
        Nat.add_sub_cancel_left, tails_succ (Nat.mod_lt _ (by decide)), hvalue]
      rfl
    · rename_i htwo
      split
      · rename_i hthree
        have hbyte : (UInt8.ofNat (0xE0 + c.val / 4096)).toNat = 0xE0 + c.val / 4096 :=
          toNat_byte (by omega)
        have hvalue : (c.val / 4096 * 64 + c.val / 64 % 64) * 64 + c.val % 64 = c.val := by omega
        have hfilter : threeBytes c.val = true := by
          unfold threeBytes
          rw [h, Bool.not_false, Bool.and_true, decide_eq_true_eq]
          omega
        unfold decodeValue
        simp only [List.cons_append, List.nil_append]
        rw [hbyte, if_neg (by omega), if_neg (by omega), if_neg (by omega), if_pos (by omega),
          Nat.add_sub_cancel_left, tails_succ (Nat.mod_lt _ (by decide)),
          tails_succ (Nat.mod_lt _ (by decide)), hvalue]
        exact Option.filter_some_pos hfilter
      · rename_i hthree
        have hbyte : (UInt8.ofNat (0xF0 + c.val / 262144)).toNat = 0xF0 + c.val / 262144 :=
          toNat_byte (by omega)
        have hvalue : ((c.val / 262144 * 64 + c.val / 4096 % 64) * 64 + c.val / 64 % 64) * 64 +
            c.val % 64 = c.val := by omega
        have hfilter : fourBytes c.val = true := by
          unfold fourBytes
          rw [Bool.and_eq_true, decide_eq_true_eq, decide_eq_true_eq]
          omega
        unfold decodeValue
        simp only [List.cons_append, List.nil_append]
        rw [hbyte, if_neg (by omega), if_neg (by omega), if_neg (by omega), if_neg (by omega),
          if_pos (by omega), Nat.add_sub_cancel_left, tails_succ (Nat.mod_lt _ (by decide)),
          tails_succ (Nat.mod_lt _ (by decide)), tails_succ (Nat.mod_lt _ (by decide)), hvalue]
        exact Option.filter_some_pos hfilter

theorem utf8Bytes_ne_nil (c : CodePoint) : utf8Bytes c ≠ [] := by
  unfold utf8Bytes
  repeat' split
  all_goals exact List.cons_ne_nil _ _

variable {data : List UInt8}

theorem encodeUtf8_cons {c : CodePoint} {t : PyText} (h : encodeUtf8 (c :: t) = .ok data) :
    isSurrogate c = false ∧
      ∃ rest, encodeUtf8 t = .ok rest ∧ data = utf8Bytes c ++ rest := by
  unfold encodeUtf8 at h
  split at h
  · cases h
  · rename_i hc
    obtain ⟨rest, hrest, hdata⟩ := map_ok h
    exact ⟨by simpa using hc, rest, hrest, hdata.symm⟩

theorem decodeChars_encode {t : PyText} (h : encodeUtf8 t = .ok data) {n : ℕ} (hn : data.length ≤ n)
    : decodeChars n data = some t := by
  induction t generalizing data n with
  | nil =>
    obtain rfl := Except.ok.inj h
    cases n <;> rfl
  | cons c t ih =>
    obtain ⟨hc, rest, hrest, rfl⟩ := encodeUtf8_cons h
    obtain ⟨b, bs, hbytes⟩ := List.exists_cons_of_ne_nil (utf8Bytes_ne_nil c)
    have hvalue := decodeValue_utf8Bytes hc rest
    rw [hbytes, List.cons_append, List.length_cons, List.length_append] at hn
    rw [hbytes, List.cons_append] at hvalue ⊢
    cases n with
    | zero => omega
    | succ n =>
      unfold decodeChars
      rw [hvalue, Option.bind_some, ih hrest (by omega), Option.map_some, Fin.ofNat_val_eq_self]

/-- **What was encoded is decoded.** -/
theorem decodeUtf8_encode {t : PyText} (h : encodeUtf8 t = .ok data) :
    decodeUtf8 data = some t := decodeChars_encode h le_rfl

theorem encodeUtf8_append_eq (t u : PyText) : encodeUtf8 (t ++ u) = do
    let front ← encodeUtf8 t
    let back ← encodeUtf8 u
    return front ++ back := by
  induction t with
  | nil =>
    rw [List.nil_append]
    cases encodeUtf8 u with
    | error e => rfl
    | ok back => rfl
  | cons c t ih =>
    have hstep : ∀ v, encodeUtf8 (c :: v) = if isSurrogate c then .error .surrogate
        else (encodeUtf8 v).map (utf8Bytes c ++ ·) := fun _ => rfl
    rw [List.cons_append, hstep, hstep]
    by_cases hc : isSurrogate c = true
    · rw [if_pos hc, if_pos hc]
      rfl
    · rw [if_neg hc, if_neg hc, ih]
      cases encodeUtf8 t with
      | error e => rfl
      | ok front =>
        cases encodeUtf8 u with
        | error e => rfl
        | ok back =>
          show Except.ok (utf8Bytes c ++ (front ++ back)) = .ok (utf8Bytes c ++ front ++ back)
          rw [List.append_assoc]

theorem encodeUtf8_append {t u : PyText} {data rest : List UInt8} (h : encodeUtf8 t = .ok data)
    (hrest : encodeUtf8 u = .ok rest) : encodeUtf8 (t ++ u) = .ok (data ++ rest) := by
  rw [encodeUtf8_append_eq, h, hrest]
  rfl

/-- The bytes of two texts, one after the other. -/
theorem encodeUtf8_of_append {t u : PyText} (h : encodeUtf8 (t ++ u) = .ok data) :
    ∃ front back, encodeUtf8 t = .ok front ∧ encodeUtf8 u = .ok back ∧ data = front ++ back := by
  rw [encodeUtf8_append_eq] at h
  obtain ⟨front, hfront, h⟩ := bind_ok h
  obtain ⟨back, hback, h⟩ := bind_ok h
  exact ⟨front, back, hfront, hback, (Except.ok.inj h).symm⟩

/-! ## 2. Lines of bytes -/

/-- The byte of a newline. -/
def newlineByte : UInt8 := 10

/-- The newline. -/
def newline : CodePoint := codePoint '\n'

theorem newlineByte_mem_utf8Bytes (c : CodePoint) : newlineByte ∈ utf8Bytes c ↔ c = newline := by
  have hmax := c.isLt
  have hbyte : ∀ n, n < 256 → n ≠ 10 → newlineByte ≠ UInt8.ofNat n := by
    intro n hn hne heq
    have hvalue := congrArg UInt8.toNat heq
    rw [toNat_byte hn] at hvalue
    exact hne hvalue.symm
  constructor
  · intro h
    unfold utf8Bytes at h
    split at h
    · have heq := congrArg UInt8.toNat (List.mem_singleton.mp h)
      rw [toNat_byte (by omega)] at heq
      exact Fin.ext heq.symm
    · have htail : ∀ n, newlineByte ≠ UInt8.ofNat (0x80 + n % 64) :=
        fun n => hbyte _ (by omega) (by omega)
      split at h
      · have hhead := hbyte (0xC0 + c.val / 64) (by omega) (by omega)
        simp only [List.mem_cons, List.not_mem_nil, hhead, htail, or_self] at h
      · split at h
        · have hhead := hbyte (0xE0 + c.val / 4096) (by omega) (by omega)
          simp only [List.mem_cons, List.not_mem_nil, hhead, htail, or_self] at h
        · have hhead := hbyte (0xF0 + c.val / 262144) (by omega) (by omega)
          simp only [List.mem_cons, List.not_mem_nil, hhead, htail, or_self] at h
  · rintro rfl
    decide

/-- **The byte of a newline stands for a newline.** -/
theorem newline_mem_encode {t : PyText} (h : encodeUtf8 t = .ok data) :
    newlineByte ∈ data ↔ newline ∈ t := by
  induction t generalizing data with
  | nil =>
    obtain rfl := Except.ok.inj h
    exact ⟨fun h => (by cases h), fun h => (by cases h)⟩
  | cons c t ih =>
    obtain ⟨-, rest, hrest, rfl⟩ := encodeUtf8_cons h
    rw [List.mem_append, List.mem_cons, ih hrest, newlineByte_mem_utf8Bytes]
    exact or_congr eq_comm Iff.rfl

/-- What stands between the newlines; no line follows the last newline. -/
def byteLines : List UInt8 → List (List UInt8)
  | [] => []
  | b :: rest =>
    if b = newlineByte then [] :: byteLines rest
    else
      match byteLines rest with
      | [] => [[b]]
      | line :: lines => (b :: line) :: lines

theorem byteLines_cons (b : UInt8) (rest : List UInt8) :
    byteLines (b :: rest) = if b = newlineByte then [] :: byteLines rest
      else
        match byteLines rest with
        | [] => [[b]]
        | line :: lines => (b :: line) :: lines := rfl

theorem byteLines_append {line : List UInt8} (h : newlineByte ∉ line) (rest : List UInt8) :
    byteLines (line ++ newlineByte :: rest) = line :: byteLines rest := by
  induction line with
  | nil => exact if_pos rfl
  | cons b line ih =>
    rw [List.mem_cons, not_or] at h
    rw [List.cons_append, byteLines_cons, if_neg (Ne.symm h.1), ih h.2]

/-! ## 3. Lines of a text -/

def carriageReturn : CodePoint := codePoint '\r'

/-- The ends of lines that are no control characters of ASCII: the next line, the line separator
    and the paragraph separator. -/
def isSeparator (c : CodePoint) : Bool :=
  decide (c.val = 0x85) || decide (c.val = 0x2028) || decide (c.val = 0x2029)

def isLineEnd (c : CodePoint) : Bool :=
  decide (10 ≤ c.val) && decide (c.val ≤ 13) || decide (28 ≤ c.val) && decide (c.val ≤ 30) ||
    isSeparator c

/-- `text.splitlines()` -/
def splitlines : PyText → List PyText
  | [] => []
  | c :: rest =>
    if c = carriageReturn ∧ rest.head? = some newline then splitlines rest
    else if isLineEnd c then [] :: splitlines rest
    else
      match splitlines rest with
      | [] => [[c]]
      | line :: lines => (c :: line) :: lines

theorem splitlines_cons (c : CodePoint) (rest : PyText) :
    splitlines (c :: rest) = if c = carriageReturn ∧ rest.head? = some newline then splitlines rest
      else if isLineEnd c then [] :: splitlines rest
      else
        match splitlines rest with
        | [] => [[c]]
        | line :: lines => (c :: line) :: lines := rfl

theorem isLineEnd_carriageReturn : isLineEnd carriageReturn = true := by decide

/-- **A line ends at the first end of a line.** -/
theorem splitlines_append {line : PyText} (h : ∀ c ∈ line, isLineEnd c = false) {c : CodePoint}
    (hc : isLineEnd c = true) (hreturn : c ≠ carriageReturn) (rest : PyText) :
    splitlines (line ++ c :: rest) = line :: splitlines rest := by
  induction line with
  | nil =>
    rw [List.nil_append, splitlines_cons, if_neg fun hboth => hreturn hboth.1, if_pos hc]
  | cons d line ih =>
    rw [List.forall_mem_cons] at h
    have hd : d ≠ carriageReturn := by
      rintro rfl
      rw [isLineEnd_carriageReturn] at h
      exact absurd h.1 (by decide)
    rw [List.cons_append, splitlines_cons, if_neg fun hboth => hd hboth.1,
      if_neg (by rw [h.1]; exact Bool.false_ne_true), ih h.2]

/-- A text of lines, each with its newline. -/
def joinLines (lines : List PyText) : PyText := lines.flatMap fun line => line ++ [newline]

/-- **Lines in which no end of a line stands are split where they were joined.** -/
theorem splitlines_lines {lines : List PyText}
    (h : ∀ line ∈ lines, ∀ c ∈ line, isLineEnd c = false) :
    splitlines (joinLines lines) = lines := by
  induction lines with
  | nil => rfl
  | cons line lines ih =>
    rw [List.forall_mem_cons] at h
    unfold joinLines
    rw [List.flatMap_cons, List.append_assoc, List.singleton_append,
      splitlines_append h.1 (by decide) (by decide)]
    exact congrArg (line :: ·) (ih h.2)

/-- The first code point of a kind. -/
theorem exists_first {p : CodePoint → Bool} {t : PyText} (h : t.any p = true) :
    ∃ front c rest, t = front ++ c :: rest ∧ p c = true ∧ ∀ d ∈ front, p d = false := by
  induction t with
  | nil => cases h
  | cons c t ih =>
    by_cases hc : p c = true
    · exact ⟨[], c, t, rfl, hc, fun _ hd => absurd hd List.not_mem_nil⟩
    · rw [List.any_cons, Bool.or_eq_true] at h
      obtain ⟨front, d, rest, rfl, hd, hfront⟩ := ih (h.resolve_left hc)
      exact ⟨c :: front, d, rest, rfl, hd,
        List.forall_mem_cons.mpr ⟨Bool.eq_false_iff.mpr hc, hfront⟩⟩

/-- A text that ends with a newline is split on its own. -/
theorem splitlines_newline (t u : PyText) :
    splitlines (t ++ newline :: u) = splitlines (t ++ [newline]) ++ splitlines u ∧
      splitlines (t ++ [newline]) ≠ [] := by
  induction t with
  | nil => exact ⟨rfl, List.cons_ne_nil _ _⟩
  | cons c t ih =>
    have hhead : (t ++ newline :: u).head? = (t ++ [newline]).head? := by
      cases t with
      | nil => rfl
      | cons d t => rfl
    rw [List.cons_append, List.cons_append, splitlines_cons, splitlines_cons, hhead]
    split
    · exact ih
    · split
      · exact ⟨congrArg ([] :: ·) ih.1, List.cons_ne_nil _ _⟩
      · obtain ⟨line, lines, hlines⟩ := List.exists_cons_of_ne_nil ih.2
        rw [ih.1, hlines]
        exact ⟨rfl, List.cons_ne_nil _ _⟩

/-- **What stands before the first end of a line within a line is split off.** -/
theorem mem_splitlines_joinLines {lines : List PyText} {line p r : PyText} {c : CodePoint}
    (hline : line ∈ lines) (h : line = p ++ c :: r) (hp : ∀ d ∈ p, isLineEnd d = false)
    (hc : isLineEnd c = true) (hreturn : c ≠ carriageReturn) : p ∈ splitlines (joinLines lines) := by
  induction lines with
  | nil => cases hline
  | cons first lines ih =>
    have hjoin : joinLines (first :: lines) = first ++ newline :: joinLines lines := by
      unfold joinLines
      rw [List.flatMap_cons, List.append_assoc, List.singleton_append]
    rw [hjoin, (splitlines_newline first (joinLines lines)).1, List.mem_append]
    rcases List.mem_cons.mp hline with rfl | hmem
    · left
      rw [h, List.append_assoc, List.cons_append, splitlines_append hp hc hreturn]
      exact List.mem_cons_self
    · exact Or.inr (ih hmem)

end DroneSim.Library
