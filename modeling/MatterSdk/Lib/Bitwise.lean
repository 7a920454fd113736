import Mathlib.Data.Int.Notation

/-!
# Bitwise operators on numbers

ECMAScript's bitwise operators, on numbers that are integers.  They take their operands to 32 bits
and give a signed number back, but for the shift to the right that fills with zeros.
-/

namespace Ecma

def toInt32 (z : ℤ) : BitVec 32 := BitVec.ofInt 32 z

/-- `x & y`. -/
def bitAnd (x y : ℤ) : ℤ := (toInt32 x &&& toInt32 y).toInt

/-- `x | y`. -/
def bitOr (x y : ℤ) : ℤ := (toInt32 x ||| toInt32 y).toInt

/-- `~x`. -/
def bitNot (x : ℤ) : ℤ := (~~~ toInt32 x).toInt

/-- `x << n`, which uses five bits of `n`. -/
def shiftLeft (x : ℤ) (n : Nat) : ℤ := (toInt32 x <<< (n % 32)).toInt

/-- `x >>> 0`. -/
def toUint32 (x : ℤ) : ℤ := (toInt32 x).toNat

theorem toInt32_toNat (v : BitVec 32) : toInt32 v.toNat = v := by
  rw [toInt32, BitVec.ofInt_natCast, BitVec.ofNat_toNat, BitVec.setWidth_eq]

theorem toInt32_toInt (v : BitVec 32) : toInt32 v.toInt = v := BitVec.ofInt_toInt

theorem toUint32_toInt (v : BitVec 32) : toUint32 v.toInt = v.toNat := by
  rw [toUint32, toInt32_toInt]

theorem toUint32_toNat (v : BitVec 32) : toUint32 v.toNat = v.toNat := by
  rw [toUint32, toInt32_toNat]

/-- A signed number is the unsigned one iff the sign bit is clear. -/
theorem toInt_eq_toNat_iff (v w : BitVec 32) :
    v.toInt = w.toNat ↔ v = w ∧ w.msb = false := by
  constructor
  · intro same
    have clear : v.msb = false := by
      cases sign : v.msb with
      | false => rfl
      | true =>
        have negative := BitVec.toInt_neg_of_msb_true sign
        omega
    rw [BitVec.toInt_eq_toNat_of_msb clear] at same
    obtain rfl : v = w := BitVec.eq_of_toNat_eq (by omega)
    exact ⟨rfl, clear⟩
  · rintro ⟨rfl, clear⟩
    exact BitVec.toInt_eq_toNat_of_msb clear

theorem toInt_eq_zero_iff (v : BitVec 32) : v.toInt = 0 ↔ v = 0 := by
  rw [← BitVec.toInt_inj]
  rfl

end Ecma
