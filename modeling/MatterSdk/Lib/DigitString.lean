import Mathlib.Tactic.Ring
import Mathlib.Tactic.Linarith
import Mathlib.Data.List.DropRight
import Mathlib.Data.Nat.Notation
import Mathlib.Algebra.Order.Ring.Nat

/-!
# Decimal digit strings

A digit string is fixed by its length and its value, and the string of a value that has no leading
zero is the shortest.
-/

namespace DigitString

/-- The number that the digits of `l` stand for. -/
def value (l : List Char) : ℕ := Nat.ofDigitChars 10 l 0

/-- Only ASCII digits. -/
def IsDigits (l : List Char) : Prop := ∀ c ∈ l, c.isDigit = true

theorem value_append (l m : List Char) : value (l ++ m) = value l * 10 ^ m.length + value m := by
  unfold value
  rw [Nat.ofDigitChars_append, Nat.ofDigitChars_eq_ofDigitChars_zero, Nat.mul_comm]

theorem value_cons (c : Char) (l : List Char) :
    value (c :: l) = (c.toNat - '0'.toNat) * 10 ^ l.length + value l := by
  unfold value
  rw [Nat.ofDigitChars_cons, Nat.mul_zero, Nat.zero_add, Nat.ofDigitChars_eq_ofDigitChars_zero,
    Nat.mul_comm]

theorem value_zeros (count : ℕ) : value (List.replicate count '0') = 0 := by
  unfold value
  rw [Nat.ofDigitChars_replicate_zero, Nat.mul_zero]

/-- Leading zeros add nothing. -/
theorem value_zeros_append (count : ℕ) (l : List Char) :
    value (List.replicate count '0' ++ l) = value l := by
  rw [value_append, value_zeros, Nat.zero_mul, Nat.zero_add]

theorem digit_lt {c : Char} (is_digit : c.isDigit = true) : c.toNat - '0'.toNat < 10 := by
  obtain ⟨low, high⟩ := Char.isDigit_iff_toNat.mp is_digit
  have low : 48 ≤ c.toNat := low
  have high : c.toNat ≤ 57 := high
  show c.toNat - 48 < 10
  omega

theorem digit_injective {c d : Char} (left : c.isDigit = true) (right : d.isDigit = true)
    (same : c.toNat - '0'.toNat = d.toNat - '0'.toNat) : c = d := by
  have left : 48 ≤ c.toNat := (Char.isDigit_iff_toNat.mp left).1
  have right : 48 ≤ d.toNat := (Char.isDigit_iff_toNat.mp right).1
  have same : c.toNat - 48 = d.toNat - 48 := same
  exact Char.toNat_inj.mp (by omega)

theorem digit_pos {c : Char} (is_digit : c.isDigit = true) (nonzero : c ≠ '0') :
    0 < c.toNat - '0'.toNat := by
  rw [Nat.pos_iff_ne_zero]
  intro zero
  exact nonzero (digit_injective is_digit (by decide) (zero.trans (by decide)))

theorem IsDigits.of_cons {c : Char} {l : List Char} (digits : IsDigits (c :: l)) :
    c.isDigit = true ∧ IsDigits l :=
  List.forall_mem_cons.mp digits

theorem IsDigits.append {l m : List Char} (left : IsDigits l) (right : IsDigits m) :
    IsDigits (l ++ m) :=
  List.forall_mem_append.mpr ⟨left, right⟩

theorem IsDigits.zeros (count : ℕ) : IsDigits (List.replicate count '0') := by
  intro c inside
  rw [List.eq_of_mem_replicate inside]
  decide

theorem value_lt {l : List Char} (digits : IsDigits l) : value l < 10 ^ l.length := by
  induction l with
  | nil => decide
  | cons c l ih =>
    obtain ⟨is_digit, rest⟩ := digits.of_cons
    have small := digit_lt is_digit
    have below := ih rest
    rw [value_cons, List.length_cons, pow_succ]
    nlinarith

/-- A digit string that does not start with zero is as large as its length says. -/
theorem le_value {c : Char} {l : List Char} (is_digit : c.isDigit = true) (nonzero : c ≠ '0') :
    10 ^ l.length ≤ value (c :: l) := by
  have some_ := digit_pos is_digit nonzero
  calc
    10 ^ l.length ≤ (c.toNat - '0'.toNat) * 10 ^ l.length := Nat.le_mul_of_pos_left _ some_
    _ ≤ value (c :: l) := by
      rw [value_cons]
      exact Nat.le_add_right _ _

/-- Digit strings of one length that stand for one number are one string. -/
theorem eq_of_value_eq {l m : List Char} (left : IsDigits l) (right : IsDigits m)
    (lengths : l.length = m.length) (same : value l = value m) : l = m := by
  induction l generalizing m with
  | nil => exact (List.length_eq_zero_iff.mp lengths.symm).symm
  | cons c l ih =>
    cases m with
    | nil => cases lengths
    | cons d m =>
      obtain ⟨c_digit, left⟩ := left.of_cons
      obtain ⟨d_digit, right⟩ := right.of_cons
      have lengths : l.length = m.length := Nat.succ.inj lengths
      rw [value_cons, value_cons, lengths] at same
      have below := value_lt left
      have below' := value_lt right
      rw [lengths] at below
      have first : c.toNat - '0'.toNat = d.toNat - '0'.toNat := by
        have quotient := congrArg (· / 10 ^ m.length) same
        have positive : 0 < 10 ^ m.length := Nat.pow_pos (by decide)
        simpa only [Nat.mul_comm _ (10 ^ m.length), Nat.mul_add_div positive,
          Nat.div_eq_of_lt below, Nat.div_eq_of_lt below', Nat.add_zero] using quotient
      rw [first] at same
      rw [digit_injective c_digit d_digit first, ih left right lengths (Nat.add_left_cancel same)]

/-- Of two digit strings for one number, the longer is the shorter behind zeros. -/
theorem eq_zeros_append {l m : List Char} (left : IsDigits l) (right : IsDigits m)
    (longer : m.length ≤ l.length) (same : value l = value m) :
    l = List.replicate (l.length - m.length) '0' ++ m := by
  refine eq_of_value_eq left ((IsDigits.zeros _).append right) ?_ ?_
  · rw [List.length_append, List.length_replicate]
    omega
  · rw [value_zeros_append, same]

/-- No digit string for a number is shorter than the one without a leading zero. -/
theorem length_le_of_value_eq {c : Char} {l m : List Char} (left : IsDigits (c :: l))
    (nonzero : c ≠ '0') (right : IsDigits m) (same : value m = value (c :: l)) :
    (c :: l).length ≤ m.length := by
  by_contra shorter
  have short : m.length ≤ l.length := by
    rw [List.length_cons] at shorter
    omega
  have small : value m < 10 ^ l.length :=
    (value_lt right).trans_le (Nat.pow_le_pow_right (by decide) short)
  have large := le_value (l := l) left.of_cons.1 nonzero
  omega

end DigitString
