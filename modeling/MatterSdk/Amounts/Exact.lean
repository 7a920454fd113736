import Mathlib.Data.Rat.Defs
import Mathlib.Algebra.Order.Field.Rat
import Mathlib.Data.Rat.Cast.Defs
import Mathlib.Tactic.NormNum
import MatterSdk.Amounts.RoundTrip
import MatterSdk.Lib.DigitString

/-!
# Exact amounts

A numeral has a rational value.  Rust reads a text as the plancks of the numeral it spells or not at
all, and renders plancks as the one shortest numeral that is read as them.
-/

namespace MatterSdk

open DigitString

/-- Digits, and maybe a point and more digits. -/
structure Numeral where
  whole : List Char
  fraction : Option (List Char)
  some_whole : whole ≠ []
  whole_digits : IsDigits whole
  some_fraction : ∀ digits ∈ fraction, digits ≠ []
  fraction_digits : ∀ digits ∈ fraction, IsDigits digits

namespace Numeral

variable (num other : Numeral)

/-- The digits after the point. -/
def places : List Char := num.fraction.getD []

def text : List Char :=
  num.whole ++ (match num.fraction with
    | none => []
    | some digits => '.' :: digits)

def value : ℚ :=
  DigitString.value num.whole + DigitString.value num.places / 10 ^ num.places.length

/-- No zero stands before another digit of the whole part, or at the end of the fraction. -/
structure Canonical : Prop where
  no_leading : num.whole.head? = some '0' → num.whole = ['0']
  no_trailing : num.places.getLast? ≠ some '0'

theorem places_digits : IsDigits num.places := by
  unfold places
  cases shown : num.fraction with
  | none => exact fun _ inside => by cases inside
  | some digits => exact num.fraction_digits digits shown

theorem fraction_eq : num.fraction = if num.places = [] then none else some num.places := by
  unfold places
  cases shown : num.fraction with
  | none => rfl
  | some digits => exact (if_neg (num.some_fraction digits shown)).symm

theorem text_eq_rendered : num.text = rendered num.whole num.places := by
  unfold text rendered
  rw [num.fraction_eq]
  by_cases nothing : num.places = []
  · rw [if_pos nothing, nothing]
    exact List.append_nil _
  · rw [if_neg nothing, if_neg (by simpa using nothing)]

theorem whole_all : num.whole.all Char.isDigit = true := List.all_eq_true.mpr num.whole_digits

theorem places_all : num.places.all Char.isDigit = true := List.all_eq_true.mpr num.places_digits

theorem ascii_whole : asciiDigits num.whole = true :=
  asciiDigits_iff.mpr ⟨num.some_whole, num.whole_all⟩

/-- The numeral of given digits. -/
def ofDigits (whole fraction : List Char) (whole_digits : asciiDigits whole = true)
    (fraction_digits : fraction.all Char.isDigit = true) : Numeral where
  whole := whole
  fraction := if fraction = [] then none else some fraction
  some_whole := (asciiDigits_iff.mp whole_digits).1
  whole_digits := List.all_eq_true.mp (asciiDigits_iff.mp whole_digits).2
  some_fraction := by
    intro digits shown
    split at shown
    · cases shown
    · rename_i some_
      cases shown
      exact some_
  fraction_digits := by
    intro digits shown
    split at shown
    · cases shown
    · cases shown
      exact List.all_eq_true.mp fraction_digits

section

variable {whole fraction : List Char} (whole_digits : asciiDigits whole = true)
  (fraction_digits : fraction.all Char.isDigit = true)

theorem places_ofDigits : (ofDigits whole fraction whole_digits fraction_digits).places = fraction := by
  show (if fraction = [] then none else some fraction).getD [] = fraction
  split
  · rename_i nothing
    exact nothing.symm
  · rfl

theorem text_ofDigits :
    (ofDigits whole fraction whole_digits fraction_digits).text = rendered whole fraction := by
  rw [text_eq_rendered, places_ofDigits]
  rfl

end

variable {num other}

theorem ext_parts (wholes : num.whole = other.whole) (places_ : num.places = other.places) :
    num = other := by
  have fractions : num.fraction = other.fraction := by
    rw [num.fraction_eq, other.fraction_eq, places_]
  cases num
  cases other
  cases wholes
  cases fractions
  rfl

theorem length_text : num.text.length =
    num.whole.length + if num.places.length = 0 then 0 else num.places.length + 1 := by
  rw [text_eq_rendered]
  unfold rendered
  cases num.places with
  | nil => rfl
  | cons c places => rw [if_neg (by simp), if_neg (by simp), List.length_append, List.length_cons]

/-! ## Amounts -/

/-- The plancks of a numeral, as a whole number: nothing of it is lost if its places fit. -/
theorem amount_eq {decimals : ℕ} (fits : num.places.length ≤ decimals) :
    (amountOf num.whole num.places decimals : ℚ) = num.value * 10 ^ decimals := by
  obtain ⟨rest, rfl⟩ := Nat.exists_eq_add_of_le fits
  have digits : amountOf num.whole num.places (num.places.length + rest) =
      DigitString.value num.whole * 10 ^ (num.places.length + rest) +
        DigitString.value num.places * 10 ^ rest := by
    show DigitString.value (num.whole ++ (num.places ++
      List.replicate (num.places.length + rest - num.places.length) '0')) = _
    rw [value_append, value_append, value_zeros, Nat.add_zero, List.length_append,
      List.length_replicate, Nat.add_sub_cancel_left]
  have nonzero : (10 : ℚ) ^ num.places.length ≠ 0 := pow_ne_zero _ (by norm_num)
  have cancelled : (DigitString.value num.places : ℚ) / 10 ^ num.places.length *
      10 ^ (num.places.length + rest) = DigitString.value num.places * 10 ^ rest := by
    rw [pow_add, ← mul_assoc, div_mul_cancel₀ _ nonzero]
  rw [digits, value, add_mul, cancelled]
  push_cast
  rfl

theorem eq_amountOf_iff {decimals n : ℕ} (fits : num.places.length ≤ decimals) :
    n = amountOf num.whole num.places decimals ↔ (n : ℚ) = num.value * 10 ^ decimals := by
  rw [← amount_eq fits, Nat.cast_inj]

/-! ## Shortest numerals -/

/-- Numerals of one amount have the same digits, up to zeros before and behind. -/
theorem digits_of_amount_eq {decimals : ℕ} (fits : num.places.length ≤ decimals)
    (fits' : other.places.length ≤ decimals)
    (longer : num.whole.length ≤ other.whole.length)
    (same : amountOf other.whole other.places decimals = amountOf num.whole num.places decimals) :
    other.whole = List.replicate (other.whole.length - num.whole.length) '0' ++ num.whole ∧
      padded other.places decimals = padded num.places decimals := by
  have lengths : ∀ {places : List Char}, places.length ≤ decimals →
      (padded places decimals).length = decimals := by
    intro places few
    rw [padded, List.length_append, List.length_replicate]
    omega
  have digits : ∀ m : Numeral, IsDigits (m.whole ++ padded m.places decimals) := fun m =>
    m.whole_digits.append (m.places_digits.append (IsDigits.zeros _))
  have aligned := eq_zeros_append (digits other) (digits num)
    (by rw [List.length_append, List.length_append, lengths fits, lengths fits']; omega) same
  rw [List.length_append, List.length_append, lengths fits, lengths fits',
    Nat.add_sub_add_right, ← List.append_assoc] at aligned
  exact List.append_inj' aligned (by rw [lengths fits, lengths fits'])

theorem Canonical.whole_le (canonical : num.Canonical) {decimals : ℕ}
    (fits : num.places.length ≤ decimals) (fits' : other.places.length ≤ decimals)
    (same : amountOf other.whole other.places decimals = amountOf num.whole num.places decimals) :
    num.whole.length ≤ other.whole.length := by
  cases shown : num.whole with
  | nil => exact absurd shown num.some_whole
  | cons c whole =>
    by_cases leading : c = '0'
    · subst leading
      have single := canonical.no_leading (by rw [shown]; rfl)
      rw [shown] at single
      rw [single]
      exact List.length_pos_iff.mpr other.some_whole
    · have digits : ∀ m : Numeral, IsDigits (m.whole ++ padded m.places decimals) := fun m =>
        m.whole_digits.append (m.places_digits.append (IsDigits.zeros _))
      have num_digits := digits num
      change DigitString.value (other.whole ++ padded other.places decimals) =
        DigitString.value (num.whole ++ padded num.places decimals) at same
      rw [shown, List.cons_append] at num_digits same
      have longer := length_le_of_value_eq num_digits leading (digits other) same
      simp only [List.length_cons, List.length_append, padded, List.length_replicate] at longer ⊢
      omega

/-- The places of a canonical numeral are those of any other of its amount without zeros at the
end. -/
theorem Canonical.places_eq (canonical : num.Canonical) {decimals : ℕ}
    (same : padded other.places decimals = padded num.places decimals) :
    other.places.rdropWhile (· = '0') = num.places := by
  have zeros : ∀ places : List Char,
      (padded places decimals).rdropWhile (· = '0') = places.rdropWhile (· = '0') := by
    intro places
    refine Text.rdropWhile_append_of_forall (fun c inside => ?_) places
    exact decide_eq_true (List.eq_of_mem_replicate inside)
  have kept : num.places.rdropWhile (· = '0') = num.places := by
    rw [List.rdropWhile_eq_self_iff]
    intro some_ zero
    apply canonical.no_trailing
    rw [List.getLast?_eq_some_getLast some_]
    exact congrArg some (by simpa using zero)
  rw [← zeros other.places, same, zeros, kept]

/-- A canonical numeral is the one shortest numeral of its amount. -/
theorem Canonical.shortest (canonical : num.Canonical) {decimals : ℕ}
    (fits : num.places.length ≤ decimals) (fits' : other.places.length ≤ decimals)
    (same : amountOf other.whole other.places decimals = amountOf num.whole num.places decimals) :
    num.text.length ≤ other.text.length ∧ (other.text.length = num.text.length → other = num) := by
  have wholes := canonical.whole_le fits fits' same
  obtain ⟨whole_eq, padded_eq⟩ := digits_of_amount_eq fits fits' wholes same
  have places_eq := canonical.places_eq padded_eq
  have before : num.places <+: other.places := places_eq ▸ List.rdropWhile_prefix _ _
  have places_le := before.length_le
  rw [length_text, length_text]
  constructor
  · split <;> split <;> omega
  · intro lengths
    have whole_length : other.whole.length = num.whole.length := by
      split at lengths <;> split at lengths <;> omega
    have places_length : num.places.length = other.places.length := by
      split at lengths <;> split at lengths <;> omega
    refine ext_parts ?_ (before.eq_of_length places_length).symm
    rw [whole_eq, whole_length, Nat.sub_self]
    rfl

end Numeral

/-! ## Reading and rendering -/

theorem cut_text {body : List Char} : body =
    (cut body).1 ++ if (cut body).2.2 then '.' :: (cut body).2.1 else [] := by
  unfold cut
  split <;> rename_i rest
  · exact (List.append_nil body).symm
  · rename_i point fraction
    have first := List.head?_dropWhile_not (· != '.') body
    rw [rest] at first
    obtain rfl : point = '.' := by simpa using first
    rw [if_pos rfl, ← rest]
    exact List.takeWhile_append_dropWhile.symm

/-- A text spells digits if and only if its body is the numeral of them. -/
theorem spelt_iff_numeral {isMargin : Char → Bool} {text whole fraction : List Char} :
    Spelt isMargin asciiDigit text whole fraction ↔
      ∃ num : Numeral, amountBody isMargin text = num.text ∧ whole = num.whole ∧
        fraction = num.places := by
  rw [spelt_ascii_iff]
  constructor
  · rintro ⟨⟨whole_digits, fraction_digits⟩, rfl, rfl⟩
    have all_fraction : (cut (amountBody isMargin text)).2.1.all Char.isDigit = true := by
      by_cases point : (cut (amountBody isMargin text)).2.2 = true
      · exact (asciiDigits_iff.mp (fraction_digits point)).2
      · rw [cut_no_point (by simpa using point)]
        rfl
    refine ⟨Numeral.ofDigits _ _ whole_digits all_fraction, ?_, rfl,
      (Numeral.places_ofDigits whole_digits all_fraction).symm⟩
    rw [Numeral.text_ofDigits, rendered]
    by_cases point : (cut (amountBody isMargin text)).2.2 = true
    · have some_ := (asciiDigits_iff.mp (fraction_digits point)).1
      rw [if_neg (by simpa using some_)]
      exact cut_text.trans (by rw [if_pos point])
    · have nothing := cut_no_point (by simpa using point)
      rw [if_pos (by rw [nothing]; rfl)]
      exact cut_text.trans (by rw [if_neg point, List.append_nil])
  · rintro ⟨num, body, rfl, rfl⟩
    rw [body, num.text_eq_rendered, cut_rendered num.whole_all]
    refine ⟨⟨num.ascii_whole, fun point => asciiDigits_iff.mpr ⟨?_, num.places_all⟩⟩, rfl, rfl⟩
    simpa using point

theorem length_amountBody (isMargin : Char → Bool) (text : List Char) :
    (amountBody isMargin text).length ≤ text.length ∧
      ((amountBody isMargin text).length = text.length → amountBody isMargin text = text) := by
  have stripped : ∀ s : List Char, stripPlus s <:+ s := by
    intro s
    unfold stripPlus
    split
    · exact List.suffix_cons _ _
    · exact List.suffix_refl _
  have trimmed : (Text.trim isMargin text).Sublist text :=
    (List.rdropWhile_prefix _ _).sublist.trans (List.dropWhile_suffix _).sublist
  have all : (amountBody isMargin text).Sublist text := (stripped _).sublist.trans trimmed
  exact ⟨all.length_le, all.eq_of_length⟩

namespace Rust

theorem parseAmount_iff_numeral {decimals : UInt8} (few : decimals.toNat ≤ 38) (text : List Char)
    (n : BitVec 128) :
    parseAmount text decimals = .ok n ↔
      ∃ num : Numeral, amountBody Text.isWhiteSpace text = num.text ∧
        num.places.length ≤ decimals.toNat ∧
        n.toNat = amountOf num.whole num.places decimals.toNat := by
  rw [parseAmount_eq_ok_iff]
  simp only [spelt_iff_numeral]
  constructor
  · rintro ⟨_, _, ⟨num, body, rfl, rfl⟩, fits, _, small, rfl⟩
    exact ⟨num, body, fits, by rw [BitVec.toNat_ofNat, Nat.mod_eq_of_lt small]⟩
  · rintro ⟨num, body, fits, value⟩
    refine ⟨_, _, ⟨num, body, rfl, rfl⟩, fits, few, ?_, ?_⟩
    · rw [← value]
      exact n.isLt
    · rw [← value, BitVec.ofNat_toNat, BitVec.setWidth_eq]

/-- The digits of a number start with zero only if it is zero. -/
theorem toDigits_head {n : ℕ} (leading : (Nat.toDigits 10 n).head? = some '0') :
    Nat.toDigits 10 n = ['0'] := by
  have all_digits : IsDigits (Nat.toDigits 10 n) :=
    List.all_eq_true.mp (asciiDigits_iff.mp (toDigits_digits n)).2
  have number : DigitString.value (Nat.toDigits 10 n) = n := Nat.ofDigitChars_ten_toDigits
  cases shown : Nat.toDigits 10 n with
  | nil => exact absurd shown Nat.toDigits_ne_nil
  | cons c rest =>
    rw [shown] at leading all_digits number
    obtain rfl : c = '0' := by simpa using leading
    have small : n < 10 ^ rest.length := by
      have below := value_lt all_digits.of_cons.2
      rw [value_cons, show '0'.toNat - '0'.toNat = 0 from rfl, Nat.zero_mul, Nat.zero_add] at number
      rwa [number] at below
    cases rest with
    | nil => rfl
    | cons d rest =>
      have short := (Nat.length_toDigits_le_iff (b := 10) (by decide) (k := (d :: rest).length)
        (Nat.succ_pos _)).mpr small
      rw [shown, List.length_cons] at short
      exact absurd short (Nat.not_succ_le_self _)

theorem exists_canonical (plancks : BitVec 128) (decimals : UInt8) :
    ∃ num : Numeral, formatAmount plancks decimals = num.text ∧ num.Canonical ∧
      num.places.length ≤ decimals.toNat ∧
      plancks.toNat = amountOf num.whole num.places decimals.toNat := by
  have long := length_filled plancks.toNat decimals.toNat
  obtain ⟨whole_digits, fraction_digits, fits, value⟩ :=
    cut_digits (filled_digits plancks.toNat decimals.toNat) long
  rw [ofDigitChars_filled] at value
  have places := Numeral.places_ofDigits whole_digits fraction_digits
  refine ⟨Numeral.ofDigits _ _ whole_digits fraction_digits, ?_, ⟨fun leading => ?_, ?_⟩, ?_, ?_⟩
  · rw [Numeral.text_ofDigits, formatAmount_eq_rendered]
  · -- Zeros are filled in only up to one digit before the point.
    change ((filled plancks.toNat decimals.toNat).take _).head? = some '0' at leading
    show (filled plancks.toNat decimals.toNat).take _ = ['0']
    by_cases short : (Nat.toDigits 10 plancks.toNat).length ≤ decimals.toNat
    · have one : (filled plancks.toNat decimals.toNat).length - decimals.toNat = 1 := by
        rw [filled, List.length_append, List.length_replicate]
        omega
      rw [one] at leading ⊢
      cases start : filled plancks.toNat decimals.toNat with
      | nil => rw [start] at long; cases long
      | cons c rest =>
        rw [start] at leading
        rw [show c = '0' by simpa using leading]
        rfl
    · have unfilled : filled plancks.toNat decimals.toNat = Nat.toDigits 10 plancks.toNat := by
        rw [filled, show decimals.toNat + 1 - (Nat.toDigits 10 plancks.toNat).length = 0 by omega]
        rfl
      have some_ : 0 < (Nat.toDigits 10 plancks.toNat).length - decimals.toNat := by omega
      rw [unfilled] at leading ⊢
      rw [List.head?_take, if_neg (by omega)] at leading
      rw [toDigits_head leading] at some_ ⊢
      exact List.take_of_length_le some_
  · rw [places]
    intro trailing
    obtain ⟨some_, last⟩ := List.mem_getLast?_eq_getLast trailing
    exact absurd (decide_eq_true last.symm) (List.rdropWhile_last_not _ _ some_)
  · rw [places]
    exact fits
  · rw [places]
    exact value.symm

/-- Amounts are exact: a text is read as `n` if and only if its body is a numeral whose places fit
and whose value is `n` plancks, what is rendered is read back, and it is the one shortest text
that is read as the amount. -/
theorem amounts_exact (decimals : UInt8) (few : decimals.toNat ≤ 38) :
    (∀ text n, parseAmount text decimals = .ok n ↔
      ∃ num : Numeral, amountBody Text.isWhiteSpace text = num.text ∧
        num.places.length ≤ decimals.toNat ∧
        (n.toNat : ℚ) = num.value * 10 ^ decimals.toNat) ∧
    (∀ plancks, parseAmount (formatAmount plancks decimals) decimals = .ok plancks) ∧
    (∀ plancks, ∃ num : Numeral, formatAmount plancks decimals = num.text ∧ num.Canonical) ∧
    ∀ plancks text, parseAmount text decimals = .ok plancks →
      (formatAmount plancks decimals).length ≤ text.length ∧
        (text.length = (formatAmount plancks decimals).length →
          text = formatAmount plancks decimals) := by
  refine ⟨fun text n => ?_, parseAmount_formatAmount few, fun plancks => ?_,
    fun plancks text read => ?_⟩
  · rw [parseAmount_iff_numeral few]
    refine exists_congr fun num => and_congr_right fun _ => and_congr_right fun fits => ?_
    exact Numeral.eq_amountOf_iff fits
  · obtain ⟨num, shown, canonical, -, -⟩ := exists_canonical plancks decimals
    exact ⟨num, shown, canonical⟩
  · obtain ⟨num, shown, canonical, fits, value⟩ := exists_canonical plancks decimals
    obtain ⟨other, body, fits', value'⟩ := (parseAmount_iff_numeral few text plancks).mp read
    obtain ⟨shorter, unique⟩ := canonical.shortest fits fits' (value'.symm.trans value)
    obtain ⟨body_le, body_eq⟩ := length_amountBody Text.isWhiteSpace text
    rw [body] at body_le body_eq
    rw [shown]
    refine ⟨shorter.trans body_le, fun lengths => ?_⟩
    have same : other.text.length = num.text.length :=
      le_antisymm (lengths ▸ body_le) shorter
    rw [← body_eq (same.trans lengths.symm), unique same]

theorem amounts_exact_twelve :
    (12 : UInt8).toNat ≤ 38 ∧ ∀ plancks, parseAmount (formatAmount plancks 12) 12 = .ok plancks :=
  ⟨by decide, (amounts_exact 12 (by decide)).2.1⟩

end Rust

end MatterSdk
