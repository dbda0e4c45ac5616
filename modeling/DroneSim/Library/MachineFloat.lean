/-
  File:      DroneSim/Library/MachineFloat.lean
  Subject:   Floating-point numbers as a program uses them.

  What the machine's numbers do is a parameter (`MachineFloat`), so that no result rests on how they
  round. `ExactNumber` is an instance to evaluate with.
-/
import Mathlib.Data.Rat.Defs
import Mathlib.Data.Rat.Floor
import Mathlib.Algebra.Order.Ring.Rat

namespace DroneSim.Library

/-! ## 1. Numbers -/

/-- The machine's floating-point numbers and the functions of `math` that are used. -/
class MachineFloat (R : Type) extends Add R, Sub R, Mul R, Div R, LE R, LT R where
  ofRat : ℚ → R
  decLe : DecidableLE R
  decLt : DecidableLT R
  isFinite : R → Bool
  /-- `int(x)`, `none` where it raises. -/
  toInt : R → Option ℤ
  abs : R → R
  modulo : R → R → R
  hypot : R → R → R
  sin : R → R
  cos : R → R
  radians : R → R
  degrees : R → R

namespace MachineFloat

variable {R : Type} [MachineFloat R]

instance : DecidableLE R := decLe

instance : DecidableLT R := decLt

instance : OfScientific R := ⟨fun m s e => ofRat (OfScientific.ofScientific m s e)⟩

/-- `max(a, b)`. -/
def larger (a b : R) : R := if a < b then b else a

/-- `min(a, b)`. -/
def smaller (a b : R) : R := if b < a then b else a

/-- `a == b`. -/
def equals (a b : R) : Bool := decide (a ≤ b) && decide (b ≤ a)

/-- `math.isclose(a, b, rel_tol=0.0, abs_tol=1e-3)`. -/
def isClose (a b : R) : Bool := decide (abs (a - b) ≤ 0.001)

/-- `int(seconds * 1e9)`. -/
def nanoseconds (seconds : R) : Option ℤ := toInt (seconds * 1000000000.0)

end MachineFloat

/-! ## 2. Exact numbers -/

/-- Exact numbers to evaluate with: lengths along an axis, small angles, and infinite what no `double`
    holds. -/
def ExactNumber : Type := ℚ

instance : DecidableEq ExactNumber := inferInstanceAs (DecidableEq ℚ)

instance : MachineFloat ExactNumber where
  add := Rat.add
  sub := Rat.sub
  mul := Rat.mul
  div := Rat.div
  le := fun x y : ℚ => x ≤ y
  lt := fun x y : ℚ => x < y
  ofRat := id
  decLe := inferInstanceAs (DecidableLE ℚ)
  decLt := inferInstanceAs (DecidableLT ℚ)
  isFinite := fun x : ℚ => decide (x.num.natAbs < 2 ^ 1024 * x.den)
  toInt := fun x : ℚ => if x.num.natAbs < 2 ^ 1024 * x.den then some (x.num.tdiv x.den) else none
  abs := fun x : ℚ => if x < 0 then -x else x
  modulo := fun x y : ℚ => x - y * ((x / y).floor : ℚ)
  hypot := fun x y : ℚ => if x = 0 then (if y < 0 then -y else y) else if x < 0 then -x else x
  sin := fun x : ℚ => x
  cos := fun _ => (1 : ℚ)
  radians := fun x : ℚ => x * 355 / 20340
  degrees := fun x : ℚ => x * 20340 / 355

end DroneSim.Library
