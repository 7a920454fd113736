import MatterSdk.Amounts.Reading

/-!
# Rendered amounts

What `formatAmount` renders spells the amount again, and `parseAmount` reads it up to 38 decimals.
-/

namespace MatterSdk

/-- Digits, and after a point more of them if there are any. -/
def rendered (whole fraction : List Char) : List Char :=
  if fraction.isEmpty then whole else whole ++ '.' :: fraction

section

variable {isMargin : Char → Bool} {whole fraction : List Char}

theorem not_point_of_digits {s : List Char} (digits : s.all Char.isDigit = true) :
    ∀ c ∈ s, (c != '.') = true := by
  intro c inside
  rw [bne_iff_ne]
  rintro rfl
  exact absurd (List.all_eq_true.mp digits _ inside) (by decide)

theorem cut_rendered (whole_digits : whole.all Char.isDigit = true) :
    cut (rendered whole fraction) = (whole, fraction, !fraction.isEmpty) := by
  have no_point := not_point_of_digits whole_digits
  unfold rendered
  cases fraction with
  | nil =>
    have all : whole.dropWhile (· != '.') = [] := List.dropWhile_eq_nil_iff.mpr no_point
    rw [if_pos (by rfl), cut, all]
    rfl
  | cons c fraction =>
    have before : (whole ++ '.' :: c :: fraction).takeWhile (· != '.') = whole := by
      rw [List.takeWhile_append_of_pos no_point]
      simp
    have after : (whole ++ '.' :: c :: fraction).dropWhile (· != '.') = '.' :: c :: fraction := by
      rw [List.dropWhile_append_of_pos no_point]
      rfl
    rw [if_neg (by simp), cut, after, before]
    rfl

theorem mem_rendered {c : Char} (inside : c ∈ rendered whole fraction) :
    c ∈ whole ∨ c = '.' ∨ c ∈ fraction := by
  unfold rendered at inside
  split at inside
  · exact .inl inside
  · simpa using inside

/-- What is rendered of digits has no margins, and no `+` before. -/
theorem amountBody_rendered (no_margin : ∀ c : Char, c = '.' ∨ c.isDigit = true → isMargin c = false)
    (whole_digits : asciiDigits whole = true) (fraction_digits : fraction.all Char.isDigit = true) :
    amountBody isMargin (rendered whole fraction) = rendered whole fraction := by
  obtain ⟨some_whole, all_digits⟩ := asciiDigits_iff.mp whole_digits
  have kept : Text.trim isMargin (rendered whole fraction) = rendered whole fraction := by
    refine Text.trim_eq_self fun c inside => no_margin c ?_
    rcases mem_rendered inside with before | point | after
    · exact .inr (List.all_eq_true.mp all_digits c before)
    · exact .inl point
    · exact .inr (List.all_eq_true.mp fraction_digits c after)
  have head : (rendered whole fraction).head? = whole.head? := by
    unfold rendered
    split
    · rfl
    · exact List.head?_append_of_ne_nil _ some_whole
  rw [amountBody, kept]
  unfold stripPlus
  split
  · rename_i body eq
    rw [eq] at head
    have plus : '+' ∈ whole := List.mem_of_head? head.symm
    exact absurd (List.all_eq_true.mp all_digits _ plus) (by decide)
  · rfl

theorem spelt_rendered (no_margin : ∀ c : Char, c = '.' ∨ c.isDigit = true → isMargin c = false)
    (whole_digits : asciiDigits whole = true) (fraction_digits : fraction.all Char.isDigit = true) :
    Spelt isMargin asciiDigit (rendered whole fraction) whole fraction := by
  have body := amountBody_rendered no_margin whole_digits fraction_digits
  obtain ⟨some_whole, all_digits⟩ := asciiDigits_iff.mp whole_digits
  have parts : cut (amountBody isMargin (rendered whole fraction)) =
      (whole, fraction, !fraction.isEmpty) := by rw [body, cut_rendered all_digits]
  refine ⟨?_, ?_, some_whole, ?_⟩
  · rw [parts]
    exact mapM_asciiDigit.mpr ⟨all_digits, rfl⟩
  · rw [parts]
    exact mapM_asciiDigit.mpr ⟨fraction_digits, rfl⟩
  · rw [parts]
    simp

end

/-! ## Digits of a number -/

/-- Taking the zeros off the end and filling up again is nothing. -/
theorem padded_rdropWhile (l : List Char) : padded (l.rdropWhile (· = '0')) l.length = l := by
  have split : l.rdropWhile (· = '0') ++ l.rtakeWhile (· = '0') = l :=
    List.rdropWhile_append_rtakeWhile
  have zeros : l.rtakeWhile (· = '0') =
      List.replicate (l.length - (l.rdropWhile (· = '0')).length) '0' := by
    rw [List.eq_replicate_iff]
    refine ⟨?_, fun c inside => by simpa using List.mem_rtakeWhile_imp inside⟩
    have lengths := congrArg List.length split
    rw [List.length_append] at lengths
    omega
  rw [padded, ← zeros, split]

theorem ofDigitChars_zeros (count : ℕ) (l : List Char) :
    Nat.ofDigitChars 10 (List.replicate count '0' ++ l) 0 = Nat.ofDigitChars 10 l 0 := by
  rw [Nat.ofDigitChars_append, Nat.ofDigitChars_replicate_zero]
  simp

theorem toDigits_digits (n : ℕ) : asciiDigits (Nat.toDigits 10 n) = true := by
  refine asciiDigits_iff.mpr ⟨Nat.toDigits_ne_nil, ?_⟩
  rw [List.all_eq_true]
  exact fun c inside => Nat.isDigit_of_mem_toDigits (by decide) (by decide) inside

/-- Digits that are cut before the last few, without the zeros at their end, stand for the same
number. -/
theorem cut_digits {digits : List Char} {decimals : ℕ}
    (all_digits : ∀ c ∈ digits, c.isDigit = true) (long : decimals < digits.length) :
    asciiDigits (digits.take (digits.length - decimals)) = true ∧
      ((digits.drop (digits.length - decimals)).rdropWhile (· = '0')).all Char.isDigit = true ∧
      ((digits.drop (digits.length - decimals)).rdropWhile (· = '0')).length ≤ decimals ∧
      amountOf (digits.take (digits.length - decimals))
        ((digits.drop (digits.length - decimals)).rdropWhile (· = '0')) decimals =
          Nat.ofDigitChars 10 digits 0 := by
  have after : (digits.drop (digits.length - decimals)).length = decimals := by
    rw [List.length_drop]
    omega
  refine ⟨asciiDigits_iff.mpr ⟨?_, ?_⟩, ?_, ?_, ?_⟩
  · rw [← List.length_pos_iff, List.length_take]
    omega
  · exact List.all_eq_true.mpr fun c inside => all_digits c (List.mem_of_mem_take inside)
  · refine List.all_eq_true.mpr fun c inside => all_digits c ?_
    exact List.mem_of_mem_drop ((List.rdropWhile_prefix _ _).subset inside)
  · calc
      _ ≤ (digits.drop (digits.length - decimals)).length := (List.rdropWhile_prefix _ _).length_le
      _ = decimals := after
  · have again := padded_rdropWhile (digits.drop (digits.length - decimals))
    rw [after] at again
    rw [amountOf, again, List.take_append_drop]

namespace Rust

/-- The digits of an amount, with zeros before if there are not more of them than decimals. -/
def filled (plancks decimals : ℕ) : List Char :=
  List.replicate (decimals + 1 - (Nat.toDigits 10 plancks).length) '0' ++ Nat.toDigits 10 plancks

theorem length_filled (plancks decimals : ℕ) : decimals < (filled plancks decimals).length := by
  rw [filled, List.length_append, List.length_replicate]
  omega

theorem filled_digits (plancks decimals : ℕ) : ∀ c ∈ filled plancks decimals, c.isDigit = true := by
  intro c inside
  rcases List.mem_append.mp inside with zero | shown
  · rw [List.eq_of_mem_replicate zero]
    decide
  · exact List.all_eq_true.mp (asciiDigits_iff.mp (toDigits_digits plancks)).2 c shown

theorem ofDigitChars_filled (plancks decimals : ℕ) :
    Nat.ofDigitChars 10 (filled plancks decimals) 0 = plancks := by
  rw [filled, ofDigitChars_zeros, Nat.ofDigitChars_ten_toDigits]

/-- The chain's decimals cut off a whole part and a fraction, of which the zeros at the end go. -/
theorem formatAmount_eq_rendered (plancks : BitVec 128) (decimals : UInt8) :
    formatAmount plancks decimals =
      rendered ((filled plancks.toNat decimals.toNat).take
          ((filled plancks.toNat decimals.toNat).length - decimals.toNat))
        (((filled plancks.toNat decimals.toNat).drop
          ((filled plancks.toNat decimals.toNat).length - decimals.toNat)).rdropWhile (· = '0')) := by
  unfold formatAmount
  by_cases none_ : decimals = 0
  · subst none_
    have all_shown : filled plancks.toNat (0 : UInt8).toNat = Nat.toDigits 10 plancks.toNat := by
      have some_ : 0 < (Nat.toDigits 10 plancks.toNat).length := Nat.length_toDigits_pos
      have no_zeros : (0 : UInt8).toNat + 1 - (Nat.toDigits 10 plancks.toNat).length = 0 := by
        show 0 + 1 - _ = 0
        omega
      rw [filled, no_zeros]
      rfl
    rw [if_pos rfl, all_shown, show (0 : UInt8).toNat = 0 from rfl, Nat.sub_zero, List.take_length,
      List.drop_length]
    rfl
  · rw [if_neg none_]
    rfl

/-- The digits that `formatAmount` shows, cut where the chain's decimals begin. -/
theorem exists_formatAmount (plancks : BitVec 128) (decimals : UInt8) :
    ∃ whole fraction, formatAmount plancks decimals = rendered whole fraction ∧
      asciiDigits whole = true ∧ fraction.all Char.isDigit = true ∧
      fraction.length ≤ decimals.toNat ∧ amountOf whole fraction decimals.toNat = plancks.toNat := by
  have parts := cut_digits (filled_digits plancks.toNat decimals.toNat)
    (length_filled plancks.toNat decimals.toNat)
  rw [ofDigitChars_filled] at parts
  exact ⟨_, _, formatAmount_eq_rendered plancks decimals, parts⟩

theorem not_whiteSpace_of_amount (c : Char) (part : c = '.' ∨ c.isDigit = true) :
    Text.isWhiteSpace c = false := by
  rcases part with rfl | is_digit
  · decide
  · rw [Bool.eq_false_iff]
    intro space
    exact Bool.false_ne_true ((Text.not_wide_of_isDigit is_digit).symm.trans
      (Text.wide_of_whiteSpace space))

theorem parseAmount_formatAmount {decimals : UInt8} (few : decimals.toNat ≤ 38)
    (plancks : BitVec 128) : parseAmount (formatAmount plancks decimals) decimals = .ok plancks := by
  obtain ⟨whole, fraction, shown, whole_digits, fraction_digits, fits, value⟩ :=
    exists_formatAmount plancks decimals
  rw [parseAmount_eq_ok_iff, shown]
  refine ⟨whole, fraction, spelt_rendered not_whiteSpace_of_amount whole_digits fraction_digits,
    fits, few, ?_, ?_⟩
  · rw [value]
    exact plancks.isLt
  · rw [value, BitVec.ofNat_toNat, BitVec.setWidth_eq]

end Rust

end MatterSdk
