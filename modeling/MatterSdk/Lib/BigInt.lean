import Mathlib.Data.Nat.Digits.Defs

/-!
# Signed numerals

The integer that a string of bytes stands for in a base up to 36, as Go's `big.Int` reads it: an
optional sign, then digits, and nothing else.
-/

namespace BigInt

/-- The value of a digit, of either letter case; that of other bytes is beyond every base. -/
def digitOf (c : UInt8) : ℕ :=
  if 48 ≤ c.toNat ∧ c.toNat ≤ 57 then c.toNat - 48
  else if 97 ≤ c.toNat ∧ c.toNat ≤ 122 then c.toNat - 87
  else if 65 ≤ c.toNat ∧ c.toNat ≤ 90 then c.toNat - 55
  else 63

/-- The value with the digits at the front, and what is left behind them. -/
def scan (base : ℕ) : ℕ → List UInt8 → ℕ × List UInt8
  | value, [] => (value, [])
  | value, c :: rest =>
    if digitOf c < base then scan base (value * base + digitOf c) rest else (value, c :: rest)

/-- Whether there is a minus, and what is left behind the sign. -/
def takeSign : List UInt8 → Bool × List UInt8
  | [] => (false, [])
  | c :: rest =>
    if c = 45 then (true, rest) else if c = 43 then (false, rest) else (false, c :: rest)

/-- `SetString`: there are digits, and nothing is left behind them. -/
def setString (text : List UInt8) (base : ℕ) : Option ℤ :=
  let (negative, digits) := takeSign text
  let (value, rest) := scan base 0 digits
  if rest.length = digits.length ∨ rest ≠ [] then none
  else some (if negative then -value else value)

/-- Digits of the base, and at least one. -/
def IsNumeral (base : ℕ) (digits : List UInt8) : Prop :=
  digits ≠ [] ∧ ∀ c ∈ digits, digitOf c < base

def value (base : ℕ) (digits : List UInt8) : ℕ := Nat.ofDigits base (digits.reverse.map digitOf)

/-- The text is a numeral with an optional sign, for the integer `z`. -/
def Signed (base : ℕ) (text : List UInt8) (z : ℤ) : Prop :=
  ∃ digits, IsNumeral base digits ∧
    (((text = digits ∨ text = 43 :: digits) ∧ z = value base digits) ∨
      (text = 45 :: digits ∧ z = -value base digits))

theorem value_cons (base : ℕ) (c : UInt8) (rest : List UInt8) :
    value base (c :: rest) = digitOf c * base ^ rest.length + value base rest := by
  rw [value, List.reverse_cons, List.map_append, Nat.ofDigits_append, List.map_singleton,
    Nat.ofDigits_singleton, List.length_map, List.length_reverse, Nat.mul_comm, Nat.add_comm]
  rfl

theorem scan_digits {base : ℕ} {digits : List UInt8} (all : ∀ c ∈ digits, digitOf c < base)
    (v : ℕ) : scan base v digits = (v * base ^ digits.length + value base digits, []) := by
  induction digits generalizing v with
  | nil => simp [scan, value]
  | cons c rest ih =>
    rw [List.forall_mem_cons] at all
    rw [scan, if_pos all.1, ih all.2, value_cons, List.length_cons, Nat.pow_succ']
    congr 1
    ring

theorem digits_of_scan {base : ℕ} {digits : List UInt8} {v : ℕ}
    (whole : (scan base v digits).2 = []) : ∀ c ∈ digits, digitOf c < base := by
  induction digits generalizing v with
  | nil => exact List.forall_mem_nil _
  | cons c rest ih =>
    rw [scan] at whole
    by_cases digit : digitOf c < base
    · rw [if_pos digit] at whole
      exact List.forall_mem_cons.mpr ⟨digit, ih whole⟩
    · rw [if_neg digit] at whole
      cases whole

/-- Digits and nothing else are a numeral. -/
theorem scan_iff (base : ℕ) (digits : List UInt8) :
    ¬ ((scan base 0 digits).2.length = digits.length ∨ (scan base 0 digits).2 ≠ []) ↔
      IsNumeral base digits := by
  constructor
  · intro numeral
    push Not at numeral
    refine ⟨?_, digits_of_scan numeral.2⟩
    rintro rfl
    exact numeral.1 rfl
  · rintro ⟨some_, all⟩
    rw [scan_digits all]
    exact not_or.mpr ⟨fun none_ => some_ (List.length_eq_zero_iff.mp none_.symm), not_not.mpr rfl⟩

theorem takeSign_digits {base : ℕ} (small : base ≤ 36) {digits : List UInt8}
    (numeral : IsNumeral base digits) : takeSign digits = (false, digits) := by
  obtain ⟨c, rest, rfl⟩ := List.exists_cons_of_ne_nil numeral.1
  have digit := numeral.2 c (List.mem_cons_self ..)
  have no_sign : c ≠ 45 ∧ c ≠ 43 := by
    constructor
    · rintro rfl
      have beyond : digitOf 45 = 63 := by decide
      omega
    · rintro rfl
      have beyond : digitOf 43 = 63 := by decide
      omega
  rw [takeSign, if_neg no_sign.1, if_neg no_sign.2]

theorem takeSign_cases (text : List UInt8) :
    takeSign text = (false, text) ∨
      ∃ rest, (text = 43 :: rest ∧ takeSign text = (false, rest)) ∨
        (text = 45 :: rest ∧ takeSign text = (true, rest)) := by
  cases text with
  | nil => exact .inl rfl
  | cons c rest =>
    by_cases minus : c = 45
    · exact .inr ⟨rest, .inr ⟨by rw [minus], if_pos minus⟩⟩
    · have sign : takeSign (c :: rest) = if c = 43 then (false, rest) else (false, c :: rest) :=
        if_neg minus
      by_cases plus : c = 43
      · exact .inr ⟨rest, .inl ⟨by rw [plus], by rw [sign, if_pos plus]⟩⟩
      · exact .inl (by rw [sign, if_neg plus])

/-- The texts that are read are the signed numerals. -/
theorem setString_eq_some_iff {base : ℕ} (small : base ≤ 36) (text : List UInt8) (z : ℤ) :
    setString text base = some z ↔ Signed base text z := by
  have read (negative : Bool) (digits : List UInt8) (sign : takeSign text = (negative, digits)) :
      setString text base = some z ↔ IsNumeral base digits ∧
        z = if negative then -(value base digits : ℤ) else value base digits := by
    rw [setString, sign]
    by_cases numeral : IsNumeral base digits
    · have whole := scan_digits numeral.2 0
      rw [Nat.zero_mul, Nat.zero_add] at whole
      have taken := (scan_iff base digits).mpr numeral
      rw [whole] at taken
      simp only [whole, if_neg taken, numeral, true_and, Option.some.injEq]
      exact eq_comm
    · have refused := not_not.mp (mt (scan_iff base digits).mp numeral)
      simp only [if_pos refused, numeral, false_and, reduceCtorEq]
  constructor
  · intro set_
    rcases takeSign_cases text with sign | ⟨rest, ⟨plus, sign⟩ | ⟨minus, sign⟩⟩
    · obtain ⟨numeral, same⟩ := (read _ _ sign).mp set_
      exact ⟨text, numeral, .inl ⟨.inl rfl, same⟩⟩
    · obtain ⟨numeral, same⟩ := (read _ _ sign).mp set_
      exact ⟨rest, numeral, .inl ⟨.inr plus, same⟩⟩
    · obtain ⟨numeral, same⟩ := (read _ _ sign).mp set_
      exact ⟨rest, numeral, .inr ⟨minus, same⟩⟩
  · rintro ⟨digits, numeral, ⟨rfl | rfl, same⟩ | ⟨rfl, same⟩⟩
    · exact (read false text (takeSign_digits small numeral)).mpr ⟨numeral, same⟩
    · exact (read false digits rfl).mpr ⟨numeral, same⟩
    · exact (read true digits rfl).mpr ⟨numeral, same⟩

end BigInt
