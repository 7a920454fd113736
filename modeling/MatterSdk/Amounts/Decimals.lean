import MatterSdk.Amounts.RoundTrip
import MatterSdk.Chain.Properties

/-!
# The decimals of a connected client

The decimal count comes from the existential deposit, or else from what the node declares.  Amounts
are safe at it up to 38 decimals, which not every deposit and not every declaration keeps to.
-/

namespace MatterSdk.Rust

/-! ## The count that the deposit implies -/

theorem divideTens_mul_ten {value : ℕ} (some_value : 0 < value) (exponent : ℕ) :
    divideTens (10 * value) exponent = divideTens value (exponent + 1) := by
  rw [divideTens, if_pos (by omega), Nat.mul_div_cancel_left _ (by decide)]

theorem divideTens_pow (k exponent : ℕ) : divideTens (10 ^ k) exponent = (1, exponent + k) := by
  induction k generalizing exponent with
  | zero =>
    rw [divideTens, if_neg (by decide)]
    rfl
  | succ k ih =>
    rw [Nat.pow_succ', divideTens_mul_ten (Nat.pow_pos (by decide)), ih]
    congr 1
    omega

/-- What the loop leaves is what it was given, without as many tens as it counted. -/
theorem divideTens_mul (value exponent : ℕ) :
    exponent ≤ (divideTens value exponent).2 ∧
      value = (divideTens value exponent).1 * 10 ^ ((divideTens value exponent).2 - exponent) := by
  induction value, exponent using divideTens.induct with
  | case1 value exponent more ih =>
    obtain ⟨counted, same⟩ := ih
    rw [divideTens, if_pos more]
    refine ⟨by omega, ?_⟩
    have ten : value = 10 * (value / 10) := by omega
    have one_more : (divideTens (value / 10) (exponent + 1)).2 - exponent =
        (divideTens (value / 10) (exponent + 1)).2 - (exponent + 1) + 1 := by omega
    rw [one_more, Nat.pow_succ']
    calc
      value = 10 * (value / 10) := ten
      _ = _ := by
        conv_lhs => rw [same]
        ac_rfl
  | case2 value exponent done =>
    rw [divideTens, if_neg done]
    simp

theorem exponent_small {k : ℕ} {ed : BitVec 128} (power : ed.toNat = 10 ^ k) : k ≤ 38 := by
  by_contra large
  have bound := ed.isLt
  have more : 10 ^ 39 ≤ 10 ^ k := Nat.pow_le_pow_right (by decide) (by omega)
  have beyond : 2 ^ 128 < 10 ^ 39 := by decide
  omega

theorem decimalsFromExistentialDeposit_eq_some_iff (ed : BitVec 128) (d : UInt8) :
    decimalsFromExistentialDeposit ed = some d ↔ ∃ k, ed.toNat = 10 ^ k ∧ d.toNat = k + 3 := by
  have byte {k : ℕ} (power : ed.toNat = 10 ^ k) : (UInt8.ofNat (k + 3)).toNat = k + 3 := by
    have small := exponent_small power
    rw [UInt8.toNat_ofNat', Nat.mod_eq_of_lt (by omega)]
  have left := (divideTens_mul ed.toNat 0).2
  unfold decimalsFromExistentialDeposit
  constructor
  · intro found
    rcases result : divideTens ed.toNat 0 with ⟨value, exponent⟩
    rw [result] at found left
    by_cases one : value = 1
    · have power : ed.toNat = 10 ^ exponent := by
        rw [left, one, one_mul, Nat.sub_zero]
      simp only [one, if_true, Option.some_inj] at found
      subst found
      exact ⟨exponent, power, byte power⟩
    · simp only [one, if_false, reduceCtorEq] at found
  · rintro ⟨k, power, count⟩
    have result : divideTens ed.toNat 0 = (1, k) := by
      rw [power, divideTens_pow, Nat.zero_add]
    rw [result]
    show some (UInt8.ofNat (k + 3)) = some d
    rw [Option.some_inj]
    exact UInt8.toNat_inj.mp ((byte power).trans count.symm)

/-! ## Safe decimal counts -/

theorem pow_ten_lt {count : ℕ} (few : count ≤ 38) : 10 ^ count < 2 ^ 128 := by
  calc
    10 ^ count ≤ 10 ^ 38 := Nat.pow_le_pow_right (by decide) few
    _ < 2 ^ 128 := by decide

theorem oneToken_eq_some {decimals : UInt8} (few : decimals.toNat ≤ 38) :
    oneToken decimals = some (BitVec.ofNat 128 (10 ^ decimals.toNat)) :=
  if_pos (pow_ten_lt few)

theorem parseAmount_refused {decimals : UInt8} (many : 38 < decimals.toNat) (text : List Char)
    (plancks : BitVec 128) : parseAmount text decimals ≠ .ok plancks := by
  rw [parseAmount, if_pos many]
  simp

theorem amountOf_one (decimals : ℕ) : amountOf ['1'] [] decimals = 10 ^ decimals := by
  rw [amountOf, padded, List.nil_append, Nat.ofDigitChars_append, Nat.ofDigitChars_replicate_zero]
  exact Nat.mul_one _

theorem parseAmount_one {decimals : UInt8} (few : decimals.toNat ≤ 38) :
    parseAmount ['1'] decimals = .ok (BitVec.ofNat 128 (10 ^ decimals.toNat)) := by
  have spelt : Spelt Text.isWhiteSpace asciiDigit ['1'] ['1'] [] :=
    @spelt_rendered _ ['1'] [] not_whiteSpace_of_amount (by decide) (by decide)
  rw [parseAmount_eq_ok_iff]
  refine ⟨['1'], [], spelt, Nat.zero_le _, few, ?_, ?_⟩
  · rw [amountOf_one]
    exact pow_ten_lt few
  · rw [amountOf_one]

/-- The client's token count and its two conversions do what they say. -/
structure SafeConversions (decimals : UInt8) : Prop where
  unit : ∃ one, oneToken decimals = some one ∧ parseAmount ['1'] decimals = .ok one
  lossless : ∀ plancks, parseAmount (formatAmount plancks decimals) decimals = .ok plancks

theorem safeConversions_iff (decimals : UInt8) :
    SafeConversions decimals ↔ decimals.toNat ≤ 38 := by
  constructor
  · intro safe
    by_contra many
    exact parseAmount_refused (Nat.not_le.mp many) _ _ (safe.lossless 0)
  · intro few
    exact ⟨⟨_, oneToken_eq_some few, parseAmount_one few⟩, parseAmount_formatAmount few⟩

/-! ## What the client computes -/

/-- The node declares the count `n`. -/
def ChainReports.Declares (reports : ChainReports) (n : ℕ) : Prop :=
  ∃ props, reports.systemProperties = .ok props ∧
    props.lookup "tokenDecimals" = some (.num (.integer n))

theorem asU64_natural (n : ℕ) :
    asU64 (.num (.integer n)) = if n < 2 ^ 64 then some (BitVec.ofNat 64 n) else none := by
  have bound : (0 ≤ (n : ℤ) ∧ (n : ℤ) < 2 ^ 64) ↔ n < 2 ^ 64 := by omega
  rw [asU64]
  simp only [bound]
  rfl

theorem asU64_eq_some {value : Json JsonNumber} {b : BitVec 64} (read : asU64 value = some b) :
    ∃ n : ℕ, value = .num (.integer n) := by
  unfold asU64 at read
  split at read
  · rename_i z
    split at read
    · rename_i bounds
      exact ⟨z.toNat, by rw [Int.toNat_of_nonneg bounds.1]⟩
    · cases read
  · cases read

theorem declaredDecimals_declared {props : List (String × Json JsonNumber)} {n : ℕ}
    (declared : props.lookup "tokenDecimals" = some (.num (.integer n))) :
    (declaredDecimals props).toNat = n ↔ n < 256 := by
  rw [declaredDecimals, declared, Option.bind_some, asU64_natural]
  by_cases word : n < 2 ^ 64
  · rw [if_pos word, Option.getD_some, UInt8.toNat_ofNat', BitVec.toNat_ofNat,
      Nat.mod_eq_of_lt word]
    omega
  · rw [if_neg word]
    refine iff_of_false (fun same => ?_) (by omega)
    have zero : n = 0 := same.symm
    omega

theorem declaredDecimals_undeclared {props : List (String × Json JsonNumber)}
    (undeclared : ∀ n : ℕ, props.lookup "tokenDecimals" ≠ some (.num (.integer n))) :
    declaredDecimals props = 0 := by
  rw [declaredDecimals]
  cases found : props.lookup "tokenDecimals" with
  | none => rfl
  | some value =>
    cases read : asU64 value with
    | none =>
      rw [Option.bind_some, read]
      rfl
    | some b =>
      obtain ⟨n, rfl⟩ := asU64_eq_some read
      exact absurd found (undeclared n)

/-- What the client computes is safe: its conversions are, and the declared count is the node's. -/
structure SafeAmounts (reports : ChainReports) (p : ChainProperties) : Prop where
  unit : ∃ one, p.oneToken = some one ∧ p.parseAmount ['1'] = .ok one
  lossless : ∀ plancks, p.parseAmount (p.formatAmount plancks) = .ok plancks
  declared : ∀ n, reports.Declares n → p.tokenDecimalsDeclared.toNat = n

/-- The declared count is a byte; the deposit is no power of ten from 36 on, and where it is none the
declared count is at most 38. -/
structure SmallCounts (reports : ChainReports) (ed : BitVec 128) : Prop where
  declared : ∀ n, reports.Declares n → n < 256
  power : ∀ k, ed.toNat = 10 ^ k → k ≤ 35
  fallback : (∀ k, ed.toNat ≠ 10 ^ k) → ∀ n, reports.Declares n → n ≤ 38

theorem readProperties_eq_ok {reports : ChainReports} {ed : BitVec 128} {p : ChainProperties}
    (deposit : reports.existentialDeposit = .ok (some ed))
    (connected : readProperties reports = .ok p) :
    ∃ props, reports.systemProperties = .ok props ∧
      p.tokenDecimalsDeclared = declaredDecimals props ∧
      p.tokenDecimalsEffective =
        (decimalsFromExistentialDeposit ed).getD (declaredDecimals props) := by
  unfold readProperties readExistentialDeposit at connected
  rw [deposit] at connected
  split at connected
  · cases connected
  · split at connected
    · cases connected
    · rename_i props served
      cases connected
      exact ⟨props, served, rfl, rfl⟩

/-- The effective count is one that the conversions are safe at, where the declared count is right. -/
theorem effective_small_iff {reports : ChainReports} {ed : BitVec 128}
    {props : List (String × Json JsonNumber)} (served : reports.systemProperties = .ok props)
    (right : ∀ n, reports.Declares n → (declaredDecimals props).toNat = n) :
    ((decimalsFromExistentialDeposit ed).getD (declaredDecimals props)).toNat ≤ 38 ↔
      (∀ k, ed.toNat = 10 ^ k → k ≤ 35) ∧
        ((∀ k, ed.toNat ≠ 10 ^ k) → ∀ n, reports.Declares n → n ≤ 38) := by
  cases implied : decimalsFromExistentialDeposit ed with
  | some d =>
    obtain ⟨k, power, count⟩ := (decimalsFromExistentialDeposit_eq_some_iff ed d).mp implied
    rw [Option.getD_some, count]
    constructor
    · intro few
      refine ⟨fun k' power' => ?_, fun none_ => absurd power (none_ k)⟩
      have same : k' = k := Nat.pow_right_injective (by decide) (power'.symm.trans power)
      omega
    · rintro ⟨few, -⟩
      have small := few k power
      omega
  | none =>
    have no_power : ∀ k, ed.toNat ≠ 10 ^ k := by
      intro k power
      have small := exponent_small power
      have count : (UInt8.ofNat (k + 3)).toNat = k + 3 := by
        rw [UInt8.toNat_ofNat', Nat.mod_eq_of_lt (by omega)]
      have found := (decimalsFromExistentialDeposit_eq_some_iff ed _).mpr ⟨k, power, count⟩
      rw [implied] at found
      cases found
    rw [Option.getD_none]
    constructor
    · intro few
      refine ⟨fun k power => absurd power (no_power k), fun _ n declares => ?_⟩
      rw [← right n declares]
      exact few
    · rintro ⟨-, few⟩
      by_cases declared : ∃ n : ℕ, props.lookup "tokenDecimals" = some (.num (.integer n))
      · obtain ⟨n, declared⟩ := declared
        rw [right n ⟨props, served, declared⟩]
        exact few no_power n ⟨props, served, declared⟩
      · rw [declaredDecimals_undeclared (not_exists.mp declared)]
        decide

/-- Amounts are safe on a connected client iff the deposit and the declared count are small. -/
theorem safeAmounts_iff {reports : ChainReports} {ed : BitVec 128} {p : ChainProperties}
    (deposit : reports.existentialDeposit = .ok (some ed))
    (connected : readProperties reports = .ok p) :
    SafeAmounts reports p ↔ SmallCounts reports ed := by
  obtain ⟨props, served, declared, effective⟩ := readProperties_eq_ok deposit connected
  have conversions := safeConversions_iff p.tokenDecimalsEffective
  have right_iff : (∀ n, reports.Declares n → p.tokenDecimalsDeclared.toNat = n) ↔
      ∀ n, reports.Declares n → n < 256 := by
    rw [declared]
    refine forall_congr' fun n => imp_congr_right ?_
    rintro ⟨props', served', found⟩
    rw [served, Except.ok.injEq] at served'
    subst served'
    exact declaredDecimals_declared found
  constructor
  · rintro ⟨unit, lossless, right⟩
    have few := conversions.mp ⟨unit, lossless⟩
    rw [effective, effective_small_iff served (declared ▸ right)] at few
    exact ⟨right_iff.mp right, few.1, few.2⟩
  · rintro ⟨bytes, power, fallback⟩
    have right := right_iff.mpr bytes
    have few : p.tokenDecimalsEffective.toNat ≤ 38 := by
      rw [effective, effective_small_iff served (declared ▸ right)]
      exact ⟨power, fallback⟩
    obtain ⟨unit, lossless⟩ := conversions.mpr few
    exact ⟨unit, lossless, right⟩

/-- A node with this deposit that declares this count, and says nothing else. -/
def declaring (ed : BitVec 128) (n : ℕ) : ChainReports where
  genesisHash := []
  specVersion := 0
  systemChain := .ok ""
  systemProperties := .ok [("tokenDecimals", .num (.integer n))]
  existentialDeposit := .ok (some ed)

def declaring.properties (ed : BitVec 128) (n : ℕ) : ChainProperties where
  genesisHash := []
  chainName := ""
  specVersion := 0
  tokenSymbol := ""
  ss58Prefix := 42
  tokenDecimalsDeclared := declaredDecimals [("tokenDecimals", .num (.integer n))]
  tokenDecimalsEffective := (decimalsFromExistentialDeposit ed).getD
    (declaredDecimals [("tokenDecimals", .num (.integer n))])
  existentialDeposit := ed

theorem safeAmounts_eighteen :
    SafeAmounts (declaring 1000000000000000 18) (declaring.properties 1000000000000000 18) := by
  have declares : ∀ n, (declaring 1000000000000000 18).Declares n → n = 18 := by
    rintro n ⟨props, served, found⟩
    cases served
    have same : (.num (.integer 18) : Json JsonNumber) = .num (.integer n) := Option.some.inj found
    simp only [Json.num.injEq, JsonNumber.integer.injEq] at same
    omega
  have power : ∀ k, (1000000000000000 : BitVec 128).toNat = 10 ^ k → k = 15 := by
    intro k same
    have fifteen : (1000000000000000 : BitVec 128).toNat = 10 ^ 15 := by decide
    exact Nat.pow_right_injective (by decide : 2 ≤ 10) (same.symm.trans fifteen)
  refine (safeAmounts_iff rfl rfl).mpr ⟨fun n declared => ?_, fun k same => ?_, fun none_ => ?_⟩
  · rw [declares n declared]
    decide
  · rw [power k same]
    decide
  · exact absurd (by decide) (none_ 15)

/-- A deposit of `10 ^ 36` implies 39 decimals, at which no amount can be read. -/
theorem hugeDeposit_unsafe : ¬ ∀ (reports : ChainReports) (ed : BitVec 128) (p : ChainProperties),
    reports.existentialDeposit = .ok (some ed) → readProperties reports = .ok p →
      SafeAmounts reports p := by
  intro safe
  have lossless := (safe (declaring (10 ^ 36) 39) (10 ^ 36) _ rfl rfl).lossless 0
  have implied : decimalsFromExistentialDeposit (10 ^ 36) = some 39 :=
    (decimalsFromExistentialDeposit_eq_some_iff _ _).mpr ⟨36, by decide, by decide⟩
  refine parseAmount_refused ?_ _ _ lossless
  show 38 < ((decimalsFromExistentialDeposit (10 ^ 36)).getD _).toNat
  rw [implied]
  decide

end MatterSdk.Rust
