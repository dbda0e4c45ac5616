/-
  File:      DroneSim/Library/Double.lean
  Subject:   Rounding to a floating-point number of 64 bits.

  `double x` is the number nearest to `x` among those of 64 bits, ties to the even one, and `none`
  where there is no finite one. `isFloatable` says of an integer that it has a nearest finite
  number, so that a conversion does not raise.
-/
import Mathlib.Data.Rat.Floor
import Mathlib.Algebra.Order.Field.Rat

namespace DroneSim.Library

/-- The nearest integer, of two the even one. -/
def halfEven (y : ℚ) : ℤ :=
  if y - ⌊y⌋ < 1 / 2 then ⌊y⌋
  else if 1 / 2 < y - ⌊y⌋ then ⌊y⌋ + 1
  else if ⌊y⌋ % 2 = 0 then ⌊y⌋
  else ⌊y⌋ + 1

/-- The exponent `e` with `2 ^ e ≤ |x| < 2 ^ (e + 1)`. -/
def binaryExponent (x : ℚ) : ℤ :=
  if (2 : ℚ) ^ ((Nat.log2 x.num.natAbs : ℤ) - Nat.log2 x.den) ≤ |x| then
    (Nat.log2 x.num.natAbs : ℤ) - Nat.log2 x.den
  else (Nat.log2 x.num.natAbs : ℤ) - Nat.log2 x.den - 1

/-- The exponent of the last of 53 binary digits, not below that of the smallest number. -/
def lastPlace (x : ℚ) : ℤ := max (binaryExponent x - 52) (-1074)

/-- **The nearest number of 64 bits.** -/
def double (x : ℚ) : Option ℚ :=
  if |halfEven (x / 2 ^ lastPlace x) * (2 : ℚ) ^ lastPlace x| < 2 ^ (1024 : ℕ) then
    some (halfEven (x / 2 ^ lastPlace x) * 2 ^ lastPlace x)
  else none

/-- `float(n)` does not raise. -/
def isFloatable (n : ℤ) : Bool := decide (n.natAbs < 2 ^ 1024 - 2 ^ 970)

example : double (1 / 2) = some (1 / 2) := by decide +kernel

end DroneSim.Library
