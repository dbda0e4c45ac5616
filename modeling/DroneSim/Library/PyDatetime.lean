/-
  File:      DroneSim/Library/PyDatetime.lean
  Subject:   Points in time with an offset, and their text.

  A `Datetime` is the time on a clock together with what that clock is ahead of universal time.
  `Datetime.utc` sets the clock back, over midnight if need be; no date lies outside the years one
  to 9999. The text is the one of `isoformat`, with `Z` for no offset.

  * `fromIso_isoText` -- the text of a valid time is read as this time without an offset.
-/
import DroneSim.Library.PyText
import Mathlib.Algebra.Group.Nat.Defs
import Mathlib.Tactic.Ring

namespace DroneSim.Library

/-! ## 1. Times -/

/-- The fields of a `datetime` without its offset. -/
structure Civil where
  year : ℕ
  month : ℕ
  day : ℕ
  hour : ℕ
  minute : ℕ
  second : ℕ
  microsecond : ℕ
  deriving DecidableEq, Repr

def isLeap (year : ℕ) : Bool :=
  decide (year % 4 = 0) && (decide (year % 100 ≠ 0) || decide (year % 400 = 0))

def daysIn (year month : ℕ) : ℕ :=
  if month = 2 then (if isLeap year then 29 else 28)
  else if month = 4 ∨ month = 6 ∨ month = 9 ∨ month = 11 then 30
  else 31

namespace Civil

/-- What the constructor of `datetime` asks of its arguments. -/
structure Valid (c : Civil) : Prop where
  year : 1 ≤ c.year ∧ c.year ≤ 9999
  month : 1 ≤ c.month ∧ c.month ≤ 12
  day : 1 ≤ c.day ∧ c.day ≤ daysIn c.year c.month
  hour : c.hour < 24
  minute : c.minute < 60
  second : c.second < 60
  microsecond : c.microsecond < 1000000

instance (c : Civil) : Decidable c.Valid :=
  decidable_of_iff ((1 ≤ c.year ∧ c.year ≤ 9999) ∧ (1 ≤ c.month ∧ c.month ≤ 12) ∧
      (1 ≤ c.day ∧ c.day ≤ daysIn c.year c.month) ∧ c.hour < 24 ∧ c.minute < 60 ∧ c.second < 60 ∧
        c.microsecond < 1000000)
    ⟨fun h => ⟨h.1, h.2.1, h.2.2.1, h.2.2.2.1, h.2.2.2.2.1, h.2.2.2.2.2.1, h.2.2.2.2.2.2⟩,
      fun h => ⟨h.year, h.month, h.day, h.hour, h.minute, h.second, h.microsecond⟩⟩

/-- The microseconds of a day. -/
def dayMicros : ℕ := 86400000000

/-- The microseconds since midnight. -/
def micros (c : Civil) : ℕ :=
  ((c.hour * 60 + c.minute) * 60 + c.second) * 1000000 + c.microsecond

/-- The time of a day at so many microseconds. -/
def atMicros (c : Civil) (n : ℕ) : Civil :=
  { c with
    hour := n / 3600000000
    minute := n / 60000000 % 60
    second := n / 1000000 % 60
    microsecond := n % 1000000 }

/-- The day before, `none` before the first one. -/
def previousDay (c : Civil) : Option Civil :=
  if 1 < c.day then some { c with day := c.day - 1 }
  else if 1 < c.month then
    some { c with month := c.month - 1, day := daysIn c.year (c.month - 1) }
  else if 1 < c.year then some { c with year := c.year - 1, month := 12, day := 31 }
  else none

/-- The day after, `none` after the last one. -/
def nextDay (c : Civil) : Option Civil :=
  if c.day < daysIn c.year c.month then some { c with day := c.day + 1 }
  else if c.month < 12 then some { c with month := c.month + 1, day := 1 }
  else if c.year < 9999 then some { c with year := c.year + 1, month := 1, day := 1 }
  else none

/-- The order of times. -/
def key (c : Civil) : List ℕ :=
  [c.year, c.month, c.day, c.hour, c.minute, c.second, c.microsecond]

theorem daysIn_pos (year month : ℕ) : 1 ≤ daysIn year month := by
  unfold daysIn
  repeat' split
  all_goals decide

theorem Valid.micros_lt {c : Civil} (h : c.Valid) : c.micros < dayMicros := by
  have hhour := h.hour
  have hminute := h.minute
  have hsecond := h.second
  have hmicrosecond := h.microsecond
  unfold micros dayMicros
  omega

theorem Valid.atMicros {c : Civil} (h : c.Valid) {n : ℕ} (hn : n < dayMicros) :
    (c.atMicros n).Valid where
  year := h.year
  month := h.month
  day := h.day
  hour := by
    show n / 3600000000 < 24
    unfold dayMicros at hn
    omega
  minute := Nat.mod_lt _ (by decide)
  second := Nat.mod_lt _ (by decide)
  microsecond := Nat.mod_lt _ (by decide)

theorem atMicros_micros {c : Civil} (h : c.Valid) : c.atMicros c.micros = c := by
  have hminute := h.minute
  have hsecond := h.second
  have hmicrosecond := h.microsecond
  have hparts : c.micros / 3600000000 = c.hour ∧ c.micros / 60000000 % 60 = c.minute ∧
      c.micros / 1000000 % 60 = c.second ∧ c.micros % 1000000 = c.microsecond := by
    unfold micros
    omega
  unfold atMicros
  rw [hparts.1, hparts.2.1, hparts.2.2.1, hparts.2.2.2]

/-- The same time on another date. -/
theorem Valid.onDate {c : Civil} (h : c.Valid) {year month day : ℕ}
    (hyear : 1 ≤ year ∧ year ≤ 9999) (hmonth : 1 ≤ month ∧ month ≤ 12)
    (hday : 1 ≤ day ∧ day ≤ daysIn year month) :
    Valid { c with year := year, month := month, day := day } :=
  ⟨hyear, hmonth, hday, h.hour, h.minute, h.second, h.microsecond⟩

theorem Valid.previousDay {c d : Civil} (h : c.Valid) (hd : c.previousDay = some d) : d.Valid := by
  have hday := h.day
  have hmonth := h.month
  have hyear := h.year
  unfold Civil.previousDay at hd
  split at hd
  · obtain rfl := Option.some.inj hd
    exact h.onDate hyear hmonth ⟨by omega, by omega⟩
  · split at hd
    · obtain rfl := Option.some.inj hd
      exact h.onDate hyear ⟨by omega, by omega⟩ ⟨daysIn_pos _ _, le_rfl⟩
    · split at hd
      · obtain rfl := Option.some.inj hd
        exact h.onDate ⟨by omega, by omega⟩ (by decide) ⟨by decide, le_rfl⟩
      · cases hd

theorem Valid.nextDay {c d : Civil} (h : c.Valid) (hd : c.nextDay = some d) : d.Valid := by
  have hmonth := h.month
  have hyear := h.year
  unfold Civil.nextDay at hd
  split at hd
  · rename_i hlt
    obtain rfl := Option.some.inj hd
    exact h.onDate hyear hmonth ⟨Nat.le_add_left 1 c.day, hlt⟩
  · split at hd
    · rename_i hlt
      obtain rfl := Option.some.inj hd
      exact h.onDate hyear ⟨Nat.le_add_left 1 c.month, hlt⟩ ⟨le_rfl, daysIn_pos _ _⟩
    · split at hd
      · rename_i hlt
        obtain rfl := Option.some.inj hd
        exact h.onDate ⟨Nat.le_add_left 1 c.year, hlt⟩ (by decide) ⟨le_rfl, daysIn_pos _ _⟩
      · cases hd

end Civil

/-- An aware `datetime`: what its clock shows and what it is ahead, in microseconds. -/
structure Datetime where
  civil : Civil
  offset : ℤ
  valid : civil.Valid
  offset_lt : offset.natAbs < Civil.dayMicros

namespace Datetime

/-- `astimezone(timezone.utc)`, `none` where it raises. -/
def utc (d : Datetime) : Option Civil :=
  let n : ℤ := d.civil.micros - d.offset
  if n < 0 then d.civil.previousDay.map fun c => c.atMicros (n + Civil.dayMicros).toNat
  else if (Civil.dayMicros : ℤ) ≤ n then
    d.civil.nextDay.map fun c => c.atMicros (n - Civil.dayMicros).toNat
  else some (d.civil.atMicros n.toNat)

theorem valid_utc {d : Datetime} {c : Civil} (h : d.utc = some c) : c.Valid := by
  have hmicros := d.valid.micros_lt
  have hoffset := d.offset_lt
  unfold utc at h
  dsimp only at h
  split at h
  · obtain ⟨day, hday, rfl⟩ := Option.map_eq_some_iff.mp h
    exact (d.valid.previousDay hday).atMicros (by omega)
  · split at h
    · obtain ⟨day, hday, rfl⟩ := Option.map_eq_some_iff.mp h
      exact (d.valid.nextDay hday).atMicros (by omega)
    · obtain rfl := Option.some.inj h
      exact d.valid.atMicros (by omega)

theorem noOffset_lt : (0 : ℤ).natAbs < Civil.dayMicros := by decide

/-- A time of the clock of universal time. -/
def ofUtc (c : Civil) (h : c.Valid) : Datetime := ⟨c, 0, h, noOffset_lt⟩

theorem utc_ofUtc {c : Civil} (h : c.Valid) : (ofUtc c h).utc = some c := by
  have hmicros := h.micros_lt
  have hn : ((c.micros : ℤ) - 0).toNat = c.micros := by omega
  unfold utc ofUtc
  dsimp only
  rw [if_neg (by omega), if_neg (by omega), hn, Civil.atMicros_micros h]

end Datetime

/-! ## 2. Texts -/

/-- The digit of a number below ten. -/
def digit (n : ℕ) : CodePoint := .ofNat _ (48 + n % 10)

/-- `n` digits, with zeros in front. -/
def padded : ℕ → ℕ → PyText
  | 0, _ => []
  | n + 1, k => digit (k / 10 ^ n) :: padded n (k % 10 ^ n)

/-- `isoformat()` of a time without an offset, `+00:00` replaced by `Z`. -/
def isoText (c : Civil) : PyText :=
  padded 4 c.year ++ (codePoint '-' :: (padded 2 c.month ++ (codePoint '-' ::
    (padded 2 c.day ++ (codePoint 'T' :: (padded 2 c.hour ++ (codePoint ':' ::
      (padded 2 c.minute ++ (codePoint ':' :: (padded 2 c.second ++
        ((if c.microsecond = 0 then [] else codePoint '.' :: padded 6 c.microsecond) ++
          [codePoint 'Z'])))))))))))

def digitValue (c : CodePoint) : Option ℕ :=
  if 48 ≤ c.val ∧ c.val ≤ 57 then some (c.val - 48) else none

/-- Exactly `n` digits. -/
def readDigits : ℕ → ℕ → PyText → Option (ℕ × PyText)
  | 0, value, s => some (value, s)
  | _ + 1, _, [] => none
  | n + 1, value, c :: s => (digitValue c).bind fun v => readDigits n (10 * value + v) s

/-- A code point that has to stand there. -/
def expect (c : CodePoint) : PyText → Option PyText
  | [] => none
  | d :: s => if d = c then some s else none

/-- One to six digits of a fraction, as microseconds. -/
def readFraction : PyText → Option (ℕ × PyText)
  | [] => some (0, [])
  | c :: s =>
    if c = codePoint '.' then
      let digits := s.takeWhile fun c => (digitValue c).isSome
      if 1 ≤ digits.length ∧ digits.length ≤ 6 then
        (readDigits digits.length 0 s).map fun r => (r.1 * 10 ^ (6 - digits.length), r.2)
      else none
    else some (0, c :: s)

/-- `Z` or an offset in hours and minutes, in microseconds. -/
def readZone (s : PyText) : Option ℤ :=
  if s = [codePoint 'Z'] then some 0
  else do
    let sign ← if s.head? = some (codePoint '+') then some 1
      else if s.head? = some (codePoint '-') then some (-1) else none
    let hour ← readDigits 2 0 s.tail
    let rest ← expect (codePoint ':') hour.2
    let minute ← readDigits 2 0 rest
    if minute.2 = [] ∧ minute.1 < 60 then
      some (sign * (((hour.1 * 60 + minute.1) * 60 * 1000000 : ℕ) : ℤ))
    else none

/-- The fields of a time, and what is left. -/
def readCivil (s : PyText) : Option (Civil × PyText) := do
  let year ← readDigits 4 0 s
  let s ← expect (codePoint '-') year.2
  let month ← readDigits 2 0 s
  let s ← expect (codePoint '-') month.2
  let day ← readDigits 2 0 s
  let s ← expect (codePoint 'T') day.2
  let hour ← readDigits 2 0 s
  let s ← expect (codePoint ':') hour.2
  let minute ← readDigits 2 0 s
  let s ← expect (codePoint ':') minute.2
  let second ← readDigits 2 0 s
  let fraction ← readFraction second.2
  some (⟨year.1, month.1, day.1, hour.1, minute.1, second.1, fraction.1⟩, fraction.2)

/-- `datetime.fromisoformat(text)` of a text of the profile
    `YYYY-MM-DDThh:mm:ss[.ffffff](Z|±hh:mm)`, `none` for another text or no such time. -/
def fromIso (s : PyText) : Option Datetime :=
  (readCivil s).bind fun r =>
    (readZone r.2).bind fun offset =>
      if h : r.1.Valid ∧ offset.natAbs < Civil.dayMicros then some ⟨r.1, offset, h.1, h.2⟩
      else none

/-! ## 3. The text is read back -/

theorem digitValue_digit {n : ℕ} (h : n < 10) : digitValue (digit n) = some n := by
  have hval : (digit n).val = 48 + n := by
    unfold digit
    rw [Fin.val_ofNat, Nat.mod_eq_of_lt h]
    omega
  unfold digitValue
  rw [hval, if_pos (by omega), Nat.add_sub_cancel_left]

theorem readDigits_padded {n k : ℕ} (h : k < 10 ^ n) (value : ℕ) (rest : PyText) :
    readDigits n value (padded n k ++ rest) = some (value * 10 ^ n + k, rest) := by
  induction n generalizing k value with
  | zero =>
    obtain rfl : k = 0 := by simpa using h
    simp [readDigits, padded]
  | succ n ih =>
    have hpow : 10 ^ (n + 1) = 10 * 10 ^ n := by rw [pow_succ, Nat.mul_comm]
    have hpos : 0 < 10 ^ n := Nat.pos_of_ne_zero (by simp)
    have hhead : k / 10 ^ n < 10 := by
      rw [Nat.div_lt_iff_lt_mul hpos]
      omega
    have hrest := ih (Nat.mod_lt k hpos) (10 * value + k / 10 ^ n)
    have hsum := Nat.div_add_mod k (10 ^ n)
    show ((digitValue (digit (k / 10 ^ n))).bind fun v =>
      readDigits n (10 * value + v) (padded n (k % 10 ^ n) ++ rest)) = _
    rw [digitValue_digit hhead, Option.bind_some, hrest]
    refine congrArg some (Prod.ext ?_ rfl)
    calc (10 * value + k / 10 ^ n) * 10 ^ n + k % 10 ^ n
        = 10 * value * 10 ^ n + (10 ^ n * (k / 10 ^ n) + k % 10 ^ n) := by ring
      _ = value * 10 ^ (n + 1) + k := by rw [hsum, hpow]; ring

theorem readDigits_padded_zero {n k : ℕ} (h : k < 10 ^ n) (rest : PyText) :
    readDigits n 0 (padded n k ++ rest) = some (k, rest) := by
  rw [readDigits_padded h, Nat.zero_mul, Nat.zero_add]

theorem expect_cons (c : CodePoint) (s : PyText) : expect c (c :: s) = some s := if_pos rfl

theorem length_padded (n k : ℕ) : (padded n k).length = n := by
  induction n generalizing k with
  | zero => rfl
  | succ n ih =>
    show (padded n (k % 10 ^ n)).length + 1 = n + 1
    rw [ih]

theorem isSome_digitValue_padded {n k : ℕ} : ∀ c ∈ padded n k, (digitValue c).isSome = true := by
  induction n generalizing k with
  | zero => exact fun c hc => absurd hc List.not_mem_nil
  | succ n ih =>
    refine List.forall_mem_cons.mpr ⟨?_, ih⟩
    have hdigit : digit (k / 10 ^ n) = digit (k / 10 ^ n % 10) := by
      unfold digit
      rw [Nat.mod_mod]
    rw [hdigit, digitValue_digit (Nat.mod_lt _ (by decide))]
    rfl

theorem readFraction_iso {n : ℕ} (h : n < 1000000) :
    readFraction ((if n = 0 then [] else codePoint '.' :: padded 6 n) ++ [codePoint 'Z']) =
      some (n, [codePoint 'Z']) := by
  split
  · rename_i hzero
    rw [hzero]
    rfl
  · have htake : (padded 6 n ++ [codePoint 'Z']).takeWhile (fun c => (digitValue c).isSome) =
        padded 6 n := by
      rw [List.takeWhile_append_of_pos isSome_digitValue_padded]
      exact List.append_nil _
    rw [List.cons_append]
    unfold readFraction
    dsimp only
    rw [if_pos rfl, htake, length_padded, if_pos (by decide), readDigits_padded_zero (by omega)]
    simp

/-- **The text of a time is read as this time.** -/
theorem fromIso_isoText {c : Civil} (h : c.Valid) :
    fromIso (isoText c) = some (Datetime.ofUtc c h) := by
  have hyear := h.year
  have hmonth := h.month
  have hday : c.day < 100 := by
    have hle := h.day.2
    have hmax : daysIn c.year c.month ≤ 31 := by
      unfold daysIn
      repeat' split
      all_goals decide
    omega
  have hhour := h.hour
  have hminute := h.minute
  have hsecond := h.second
  have hcivil : readCivil (isoText c) = some (c, [codePoint 'Z']) := by
    unfold readCivil isoText
    simp only [readDigits_padded_zero (n := 4) (by omega : c.year < 10 ^ 4),
      readDigits_padded_zero (n := 2) (by omega : c.month < 10 ^ 2),
      readDigits_padded_zero (n := 2) (by omega : c.day < 10 ^ 2),
      readDigits_padded_zero (n := 2) (by omega : c.hour < 10 ^ 2),
      readDigits_padded_zero (n := 2) (by omega : c.minute < 10 ^ 2),
      readDigits_padded_zero (n := 2) (by omega : c.second < 10 ^ 2), expect_cons,
      readFraction_iso h.microsecond, Option.bind_eq_bind, Option.bind_some]
  unfold fromIso
  rw [hcivil, Option.bind_some]
  dsimp only
  have hzone : readZone [codePoint 'Z'] = some 0 := if_pos rfl
  rw [hzone, Option.bind_some, dif_pos ⟨h, by decide⟩]
  rfl

end DroneSim.Library
