import MatterSdk.Amounts.Decimals

/-!
# Decimals from the existential deposit

The four ports of `decimals_from_existential_deposit`.  Each divides by ten in a loop of its own and
with the division of its language; on a `u128` they all give the exponent that the Rust loop counts.
-/

namespace MatterSdk

namespace Go

/-- The loop, which gives up at the first remainder. -/
def divideTens (value : ℤ) (exponent : ℕ) : Option ℕ :=
  if 1 < value then
    if value % 10 ≠ 0 then none else divideTens (value / 10) (exponent + 1)
  else some exponent
termination_by value.toNat
decreasing_by omega

/-- A nil deposit is `none`; the flag tells whether there is a count. -/
def decimalsFromExistentialDeposit (ed : Option ℤ) : UInt8 × Bool :=
  match ed with
  | none => (0, false)
  | some ed =>
    if ed ≤ 0 then (0, false)
    else
      match divideTens ed 0 with
      | none => (0, false)
      | some exponent => (UInt8.ofNat (exponent + 3), true)

end Go

namespace TypeScript

/-- The loop on a `bigint`, whose division drops the fraction. -/
def divideTens (value : ℤ) (exponent : ℕ) : ℤ × ℕ :=
  if 1 < value ∧ value.tmod 10 = 0 then divideTens (value.tdiv 10) (exponent + 1)
  else (value, exponent)
termination_by value.toNat
decreasing_by
  rw [Int.tdiv_eq_ediv_of_nonneg (by omega)]
  omega

def decimalsFromExistentialDeposit (ed : ℤ) : Option ℕ :=
  if ed ≤ 0 then none
  else
    let (value, exponent) := divideTens ed 0
    if value = 1 then some (exponent + 3) else none

end TypeScript

namespace Python

/-- The loop on an `int`, whose division rounds down. -/
def divideTens (value : ℤ) (exponent : ℕ) : ℤ × ℕ :=
  if 1 < value ∧ value.fmod 10 = 0 then divideTens (value.fdiv 10) (exponent + 1)
  else (value, exponent)
termination_by value.toNat
decreasing_by
  rw [Int.fdiv_eq_ediv_of_nonneg _ (by decide)]
  omega

def decimalsFromExistentialDeposit (ed : ℤ) : Option ℕ :=
  if ed ≤ 0 then none
  else
    let (value, exponent) := divideTens ed 0
    if value = 1 then some (exponent + 3) else none

end Python

/-! ## The loops agree -/

theorem Rust.divideTens_more {value : ℕ} (more : 1 < value ∧ value % 10 = 0) (exponent : ℕ) :
    Rust.divideTens value exponent = Rust.divideTens (value / 10) (exponent + 1) := by
  rw [Rust.divideTens, if_pos more]

theorem Rust.divideTens_done {value : ℕ} (done : ¬ (1 < value ∧ value % 10 = 0)) (exponent : ℕ) :
    Rust.divideTens value exponent = (value, exponent) := by
  rw [Rust.divideTens, if_neg done]

/-- A loop on integers that divides and stops where the Rust loop does is that loop. -/
theorem divideTens_eq {loop : ℤ → ℕ → ℤ × ℕ}
    (more : ∀ value : ℕ, 1 < value ∧ value % 10 = 0 → ∀ exponent,
      loop value exponent = loop (value / 10 : ℕ) (exponent + 1))
    (done : ∀ value : ℕ, ¬ (1 < value ∧ value % 10 = 0) → ∀ exponent,
      loop value exponent = ((value : ℤ), exponent)) (value exponent : ℕ) :
    loop value exponent =
      (((Rust.divideTens value exponent).1 : ℤ), (Rust.divideTens value exponent).2) := by
  induction value, exponent using Rust.divideTens.induct with
  | case1 value exponent goes ih => rw [Rust.divideTens_more goes, more value goes, ih]
  | case2 value exponent stops => rw [Rust.divideTens_done stops, done value stops]

theorem TypeScript.divideTens_natCast (value exponent : ℕ) :
    TypeScript.divideTens value exponent =
      (((Rust.divideTens value exponent).1 : ℤ), (Rust.divideTens value exponent).2) := by
  apply divideTens_eq
  · intro value more exponent
    have goes : 1 < (value : ℤ) ∧ (value : ℤ).tmod 10 = 0 := by
      rw [Int.tmod_eq_emod_of_nonneg (by omega)]
      omega
    have tenth : (value : ℤ).tdiv 10 = (value / 10 : ℕ) := by
      rw [Int.tdiv_eq_ediv_of_nonneg (by omega)]
      omega
    rw [TypeScript.divideTens, if_pos goes, tenth]
  · intro value done exponent
    have stops : ¬ (1 < (value : ℤ) ∧ (value : ℤ).tmod 10 = 0) := by
      rw [Int.tmod_eq_emod_of_nonneg (by omega)]
      omega
    rw [TypeScript.divideTens, if_neg stops]

theorem Python.divideTens_natCast (value exponent : ℕ) :
    Python.divideTens value exponent =
      (((Rust.divideTens value exponent).1 : ℤ), (Rust.divideTens value exponent).2) := by
  apply divideTens_eq
  · intro value more exponent
    have goes : 1 < (value : ℤ) ∧ (value : ℤ).fmod 10 = 0 := by
      rw [Int.fmod_eq_emod_of_nonneg _ (by decide)]
      omega
    have tenth : (value : ℤ).fdiv 10 = (value / 10 : ℕ) := by
      rw [Int.fdiv_eq_ediv_of_nonneg _ (by decide)]
      omega
    rw [Python.divideTens, if_pos goes, tenth]
  · intro value done exponent
    have stops : ¬ (1 < (value : ℤ) ∧ (value : ℤ).fmod 10 = 0) := by
      rw [Int.fmod_eq_emod_of_nonneg _ (by decide)]
      omega
    rw [Python.divideTens, if_neg stops]

/-- The Go loop gives up where the Rust loop stops above one. -/
theorem Go.divideTens_natCast (value exponent : ℕ) :
    Go.divideTens value exponent =
      if (Rust.divideTens value exponent).1 ≤ 1 then some (Rust.divideTens value exponent).2
      else none := by
  induction value, exponent using Rust.divideTens.induct with
  | case1 value exponent more ih =>
    have tenth : (value : ℤ) / 10 = (value / 10 : ℕ) := by omega
    rw [Rust.divideTens_more more, Go.divideTens, if_pos (by omega), if_neg (by omega), tenth, ih]
  | case2 value exponent done =>
    rw [Rust.divideTens_done done, Go.divideTens]
    by_cases small : value ≤ 1
    · rw [if_neg (by omega), if_pos small]
    · rw [if_pos (by omega), if_pos (by omega), if_neg small]

/-! ## The counts agree -/

/-- The loop leaves nothing only of nothing. -/
theorem Rust.divideTens_pos {value : ℕ} (some_value : 0 < value) (exponent : ℕ) :
    0 < (Rust.divideTens value exponent).1 := by
  have whole := (Rust.divideTens_mul value exponent).2
  by_contra none_
  rw [Nat.eq_zero_of_not_pos none_, Nat.zero_mul] at whole
  omega

/-- A `u128` has at most 38 tens, so that the count is a byte. -/
theorem Rust.divideTens_exponent_le (ed : BitVec 128) :
    (Rust.divideTens ed.toNat 0).2 ≤ 38 := by
  rcases Nat.eq_zero_or_pos ed.toNat with zero | some_value
  · rw [zero, Rust.divideTens_done (by decide)]
    decide
  · by_contra large
    have whole := (Rust.divideTens_mul ed.toNat 0).2
    have left := Rust.divideTens_pos some_value 0
    have more : 10 ^ 39 ≤ 10 ^ ((Rust.divideTens ed.toNat 0).2 - 0) :=
      Nat.pow_le_pow_right (by decide) (by omega)
    have beyond : 2 ^ 128 < 10 ^ 39 := by decide
    have most : 10 ^ 39 ≤ ed.toNat := by
      calc
        10 ^ 39 ≤ 10 ^ ((Rust.divideTens ed.toNat 0).2 - 0) := more
        _ ≤ (Rust.divideTens ed.toNat 0).1 * 10 ^ ((Rust.divideTens ed.toNat 0).2 - 0) :=
          Nat.le_mul_of_pos_left _ left
        _ = ed.toNat := whole.symm
    have bound := ed.isLt
    omega

theorem Rust.exponent_byte (ed : BitVec 128) :
    (UInt8.ofNat ((Rust.divideTens ed.toNat 0).2 + 3)).toNat =
      (Rust.divideTens ed.toNat 0).2 + 3 := by
  have few := Rust.divideTens_exponent_le ed
  rw [UInt8.toNat_ofNat', Nat.mod_eq_of_lt (by omega)]

/-- The Rust answer, with the loop as one pair. -/
theorem Rust.decimalsFromExistentialDeposit_eq (ed : BitVec 128) :
    Rust.decimalsFromExistentialDeposit ed =
      if (Rust.divideTens ed.toNat 0).1 = 1 then
        some (UInt8.ofNat ((Rust.divideTens ed.toNat 0).2 + 3))
      else none := rfl

theorem Rust.decimalsFromExistentialDeposit_zero {ed : BitVec 128} (zero : ed.toNat = 0) :
    Rust.decimalsFromExistentialDeposit ed = none := by
  rw [Rust.decimalsFromExistentialDeposit_eq, zero, Rust.divideTens_done (by decide)]
  rfl

theorem Go.decimalsFromExistentialDeposit_eq (ed : BitVec 128) :
    Go.decimalsFromExistentialDeposit (some ed.toNat) =
      ((Rust.decimalsFromExistentialDeposit ed).getD 0,
        (Rust.decimalsFromExistentialDeposit ed).isSome) := by
  rw [Go.decimalsFromExistentialDeposit]
  rcases Nat.eq_zero_or_pos ed.toNat with zero | some_value
  · rw [if_pos (by omega), Rust.decimalsFromExistentialDeposit_zero zero]
    rfl
  · have left := Rust.divideTens_pos some_value 0
    rw [if_neg (by omega), Go.divideTens_natCast, Rust.decimalsFromExistentialDeposit_eq]
    by_cases one : (Rust.divideTens ed.toNat 0).1 = 1
    · rw [if_pos one, if_pos (by omega)]
      rfl
    · rw [if_neg one, if_neg (by omega)]
      rfl

/-- A count that is read off the pair of the Rust loop is the Rust count. -/
theorem count_of_loop {ed : BitVec 128} {loop : ℤ × ℕ}
    (same : loop = (((Rust.divideTens ed.toNat 0).1 : ℤ), (Rust.divideTens ed.toNat 0).2)) :
    (if (ed.toNat : ℤ) ≤ 0 then none else if loop.1 = 1 then some (loop.2 + 3) else none) =
      (Rust.decimalsFromExistentialDeposit ed).map UInt8.toNat := by
  subst same
  rcases Nat.eq_zero_or_pos ed.toNat with zero | some_value
  · rw [if_pos (by omega), Rust.decimalsFromExistentialDeposit_zero zero]
    rfl
  · rw [if_neg (by omega), Rust.decimalsFromExistentialDeposit_eq]
    by_cases one : (Rust.divideTens ed.toNat 0).1 = 1
    · simp only [one, Nat.cast_one, if_true, Option.map_some, Rust.exponent_byte]
    · have more : ((Rust.divideTens ed.toNat 0).1 : ℤ) ≠ 1 := by omega
      simp only [one, more, if_false, Option.map_none]

theorem TypeScript.decimalsFromExistentialDeposit_eq (ed : BitVec 128) :
    TypeScript.decimalsFromExistentialDeposit ed.toNat =
      (Rust.decimalsFromExistentialDeposit ed).map UInt8.toNat :=
  count_of_loop (TypeScript.divideTens_natCast ed.toNat 0)

theorem Python.decimalsFromExistentialDeposit_eq (ed : BitVec 128) :
    Python.decimalsFromExistentialDeposit ed.toNat =
      (Rust.decimalsFromExistentialDeposit ed).map UInt8.toNat :=
  count_of_loop (Python.divideTens_natCast ed.toNat 0)

/-! ## Exactly the powers of ten -/

theorem Rust.decimals_eq_some_iff (ed : BitVec 128) (d : UInt8) :
    Rust.decimalsFromExistentialDeposit ed = some d ↔
      3 ≤ d.toNat ∧ ed.toNat = 10 ^ (d.toNat - 3) := by
  rw [Rust.decimalsFromExistentialDeposit_eq_some_iff]
  constructor
  · rintro ⟨k, power, count⟩
    have same : d.toNat - 3 = k := by omega
    exact ⟨by omega, same ▸ power⟩
  · rintro ⟨enough, power⟩
    exact ⟨d.toNat - 3, power, by omega⟩

theorem Rust.decimals_eq_none_iff (ed : BitVec 128) :
    Rust.decimalsFromExistentialDeposit ed = none ↔
      ∀ d, 3 ≤ d → ed.toNat ≠ 10 ^ (d - 3) := by
  constructor
  · intro refused d enough power
    have small := exponent_small power
    have byte : (UInt8.ofNat d).toNat = d := by
      rw [UInt8.toNat_ofNat', Nat.mod_eq_of_lt (by omega)]
    have found := (Rust.decimals_eq_some_iff ed (UInt8.ofNat d)).mpr
      ⟨byte.symm ▸ enough, byte.symm ▸ power⟩
    rw [refused] at found
    cases found
  · intro no_power
    cases found : Rust.decimalsFromExistentialDeposit ed with
    | none => rfl
    | some d =>
      obtain ⟨enough, power⟩ := (Rust.decimals_eq_some_iff ed d).mp found
      exact absurd power (no_power d.toNat enough)

/-- The Rust count is exact and fits its byte, and the other three ports return it too. -/
theorem decimalsFromExistentialDeposit_exact (ed : BitVec 128) :
    (∀ d, Rust.decimalsFromExistentialDeposit ed = some d ↔
      3 ≤ d.toNat ∧ ed.toNat = 10 ^ (d.toNat - 3)) ∧
    (Rust.decimalsFromExistentialDeposit ed = none ↔
      ∀ d, 3 ≤ d → ed.toNat ≠ 10 ^ (d - 3)) ∧
    (Rust.divideTens ed.toNat 0).2 + 3 < 256 ∧
    Go.decimalsFromExistentialDeposit (some ed.toNat) =
      ((Rust.decimalsFromExistentialDeposit ed).getD 0,
        (Rust.decimalsFromExistentialDeposit ed).isSome) ∧
    TypeScript.decimalsFromExistentialDeposit ed.toNat =
      (Rust.decimalsFromExistentialDeposit ed).map UInt8.toNat ∧
    Python.decimalsFromExistentialDeposit ed.toNat =
      (Rust.decimalsFromExistentialDeposit ed).map UInt8.toNat := by
  have few := Rust.divideTens_exponent_le ed
  exact ⟨Rust.decimals_eq_some_iff ed, Rust.decimals_eq_none_iff ed, by omega,
    Go.decimalsFromExistentialDeposit_eq ed, TypeScript.decimalsFromExistentialDeposit_eq ed,
    Python.decimalsFromExistentialDeposit_eq ed⟩

end MatterSdk
