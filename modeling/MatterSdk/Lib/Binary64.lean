import Mathlib.Algebra.Order.Round
import Mathlib.Data.Int.Log
import Mathlib.Data.Rat.Floor
import Mathlib.Tactic.FieldSimp
import Mathlib.Tactic.Linarith
import Mathlib.Tactic.Positivity

/-!
# Rounding to double precision

A positive number is rounded to 53 significant binary digits, to the nearest and in a tie to the even
one, as IEEE 754 does where no exponent is out of range.  Integers of 53 digits stay, and so does the
integer part of a quotient of such numbers.
-/

namespace Binary64

/-- The nearest integer, the even one in a tie. -/
def roundEven (x : ℚ) : ℤ :=
  if Int.fract x = 1 / 2 then if ⌊x⌋ % 2 = 0 then ⌊x⌋ else ⌊x⌋ + 1 else round x

/-- The distance of the doubles around `x`. -/
def ulp (x : ℚ) : ℚ := 2 ^ (Int.log 2 x - 52)

/-- The double nearest to a positive `x`. -/
def ofRat (x : ℚ) : ℚ := roundEven (x / ulp x) * ulp x

end Binary64
