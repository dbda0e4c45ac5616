/-
  File:      DroneSim/Library/Exact.lean
  Subject:   Square roots compared exactly.

  A program that asks `sqrt(x) <= b` or `hypot(dx, dy) <= b` needs no root: over the rationals
  the question is `0 ≤ b` and `x ≤ b²`. `sqrtLe` and `hypotLe` decide it, and `sqrtLe_iff` says
  that what they decide is the comparison of the real root; `sqrtAddLe` and `sqrtSubLe` do the
  same for the sum and the difference of two roots. `truncate` is the conversion of a fraction to
  an integer that drops the fractional part.
-/
import Mathlib.Analysis.Real.Sqrt
import Mathlib.Data.Rat.Cast.Order
import Mathlib.Tactic.Linarith
import Mathlib.Tactic.NormNum

namespace DroneSim.Library

/-- `sqrt(x) <= b`. -/
def sqrtLe (x b : ℚ) : Bool := decide (0 ≤ b) && decide (x ≤ b * b)

/-- `hypot(dx, dy) <= b`. -/
def hypotLe (dx dy b : ℚ) : Bool := sqrtLe (dx * dx + dy * dy) b

/-- **`sqrtLe` compares the real square root.** -/
theorem sqrtLe_iff (x b : ℚ) : sqrtLe x b = true ↔ Real.sqrt (x : ℝ) ≤ (b : ℝ) := by
  rw [Real.sqrt_le_iff, sqrtLe, Bool.and_eq_true, decide_eq_true_eq, decide_eq_true_eq, pow_two]
  norm_cast

/-- `sqrt(x) + sqrt(y) <= b`. -/
def sqrtAddLe (x y b : ℚ) : Bool :=
  decide (0 ≤ b) && decide (x + y ≤ b * b) &&
    decide (4 * (x * y) ≤ (b * b - x - y) * (b * b - x - y))

/-- `sqrt(x) - sqrt(y) <= b`, for a bound that is not negative. -/
def sqrtSubLe (x y b : ℚ) : Bool :=
  decide (x ≤ b * b + y) || decide ((x - b * b - y) * (x - b * b - y) ≤ 4 * (b * b * y))

/-- **`sqrtAddLe` compares the sum of the real roots.** -/
theorem sqrtAddLe_iff {x y : ℚ} (b : ℚ) (hx : 0 ≤ x) (hy : 0 ≤ y) :
    sqrtAddLe x y b = true ↔ Real.sqrt (x : ℝ) + Real.sqrt (y : ℝ) ≤ (b : ℝ) := by
  have hx' : (0 : ℝ) ≤ x := by exact_mod_cast hx
  have hy' : (0 : ℝ) ≤ y := by exact_mod_cast hy
  have hu := Real.sqrt_nonneg (x : ℝ)
  have hv := Real.sqrt_nonneg (y : ℝ)
  have hu2 := Real.mul_self_sqrt hx'
  have hv2 := Real.mul_self_sqrt hy'
  have hcast : sqrtAddLe x y b = true ↔ (0 : ℝ) ≤ b ∧ (x : ℝ) + y ≤ b * b ∧
      4 * ((x : ℝ) * y) ≤ (b * b - x - y) * (b * b - x - y) := by
    rw [sqrtAddLe, Bool.and_eq_true, Bool.and_eq_true, decide_eq_true_eq, decide_eq_true_eq,
      decide_eq_true_eq, and_assoc]
    norm_cast
  rw [hcast]
  generalize Real.sqrt (x : ℝ) = u at *
  generalize Real.sqrt (y : ℝ) = v at *
  -- the product of the roots is compared through its square
  have hprod : 4 * ((x : ℝ) * y) = (2 * (u * v)) * (2 * (u * v)) := by
    rw [← hu2, ← hv2]
    ring
  rw [hprod]
  constructor
  · rintro ⟨hb, hsum, hsq⟩
    have huv : 2 * (u * v) ≤ b * b - x - y :=
      abs_le_of_sq_le_sq' (by nlinarith) (by linarith) |>.2
    nlinarith
  · intro hle
    have hb : (0 : ℝ) ≤ b := by linarith
    have hsq : (u + v) * (u + v) ≤ b * b := mul_self_le_mul_self (by linarith) hle
    have huv : 0 ≤ u * v := mul_nonneg hu hv
    refine ⟨hb, by nlinarith, mul_self_le_mul_self (by linarith) (by nlinarith)⟩

/-- **`sqrtSubLe` compares the difference of the real roots.** -/
theorem sqrtSubLe_iff {x y b : ℚ} (hx : 0 ≤ x) (hy : 0 ≤ y) (hb : 0 ≤ b) :
    sqrtSubLe x y b = true ↔ Real.sqrt (x : ℝ) - Real.sqrt (y : ℝ) ≤ (b : ℝ) := by
  have hx' : (0 : ℝ) ≤ x := by exact_mod_cast hx
  have hy' : (0 : ℝ) ≤ y := by exact_mod_cast hy
  have hb' : (0 : ℝ) ≤ b := by exact_mod_cast hb
  have hu := Real.sqrt_nonneg (x : ℝ)
  have hv := Real.sqrt_nonneg (y : ℝ)
  have hu2 := Real.mul_self_sqrt hx'
  have hv2 := Real.mul_self_sqrt hy'
  have hcast : sqrtSubLe x y b = true ↔ (x : ℝ) ≤ b * b + y ∨
      ((x : ℝ) - b * b - y) * (x - b * b - y) ≤ 4 * (b * b * y) := by
    rw [sqrtSubLe, Bool.or_eq_true, decide_eq_true_eq, decide_eq_true_eq]
    norm_cast
  rw [hcast]
  generalize Real.sqrt (x : ℝ) = u at *
  generalize Real.sqrt (y : ℝ) = v at *
  have hprod : 4 * ((b : ℝ) * b * y) = (2 * (b * v)) * (2 * (b * v)) := by
    rw [← hv2]
    ring
  have hbv : 0 ≤ (b : ℝ) * v := mul_nonneg hb' hv
  rw [hprod]
  constructor
  · intro h
    have hle : (x : ℝ) - b * b - y ≤ 2 * (b * v) := by
      rcases h with h | h
      · linarith
      · exact abs_le_of_sq_le_sq' (by nlinarith) (by linarith) |>.2
    have hsq : u * u ≤ (b + v) * (b + v) := by nlinarith
    have hroot : u ≤ b + v := abs_le_of_sq_le_sq' (by nlinarith) (by linarith) |>.2
    linarith
  · intro hle
    have hsq : u * u ≤ (b + v) * (b + v) := mul_self_le_mul_self hu (by linarith)
    have hdiff : (x : ℝ) - b * b - y ≤ 2 * (b * v) := by nlinarith
    by_cases hx0 : (x : ℝ) ≤ b * b + y
    · exact Or.inl hx0
    · exact Or.inr (mul_self_le_mul_self (by linarith) hdiff)

/-- `|cos(yaw)| * u + |sin(yaw)| * v <= a` for `yaw = atan2(s, c)`. At the origin the angle is
    zero. -/
def extentLe (u v s c a : ℚ) : Bool :=
  if s = 0 ∧ c = 0 then decide (u ≤ a)
  else
    decide (0 ≤ a) && decide ((|c| * u + |s| * v) * (|c| * u + |s| * v) ≤ a * a * (s * s + c * c))

/-- `int(q)`: rounds towards zero. -/
def truncate (q : ℚ) : ℤ := if 0 ≤ q then q.floor else q.ceil

end DroneSim.Library
