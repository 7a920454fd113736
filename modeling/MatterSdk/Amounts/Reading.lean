import MatterSdk.Amounts.Parse

/-!
# What an amount spells

A text spells an amount if it is digits, maybe with a point and more digits, between margins.  Each
client's parser returns the number spelt, and refuses what its own limits exclude.
-/

namespace MatterSdk

/-- What is left of a text without its margins and one `+`. -/
def amountBody (isMargin : Char → Bool) (text : List Char) : List Char :=
  stripPlus (Text.trim isMargin text)

/-- The ASCII digits before and after the point that `text` spells, with `digit` reading each. -/
structure Spelt (isMargin : Char → Bool) (digit : Char → Option Char)
    (text whole fraction : List Char) : Prop where
  read_whole : (cut (amountBody isMargin text)).1.mapM digit = some whole
  read_fraction : (cut (amountBody isMargin text)).2.1.mapM digit = some fraction
  some_whole : whole ≠ []
  some_fraction : (cut (amountBody isMargin text)).2.2 = true → fraction ≠ []

/-- The plancks that the digits stand for. -/
def amountOf (whole fraction : List Char) (decimals : ℕ) : ℕ :=
  Nat.ofDigitChars 10 (whole ++ padded fraction decimals) 0

def asciiDigit (c : Char) : Option Char := if c.isDigit then some c else none

/-! ## Digits -/

section

variable {digit : Char → Option Char} {s out : List Char}

theorem mapM_cons_eq_some {c : Char} :
    (c :: s).mapM digit = some out ↔
      ∃ a rest, digit c = some a ∧ s.mapM digit = some rest ∧ out = a :: rest := by
  rw [List.mapM_cons]
  cases digit c with
  | none => simp
  | some a =>
    cases s.mapM digit with
    | none => simp
    | some rest =>
      show some (a :: rest) = some out ↔ _
      simp [eq_comm]

theorem mapM_append_eq_some {s' : List Char} :
    (s ++ s').mapM digit = some out ↔
      ∃ first rest, s.mapM digit = some first ∧ s'.mapM digit = some rest ∧ out = first ++ rest := by
  rw [List.mapM_append]
  cases s.mapM digit with
  | none => simp
  | some first =>
    cases s'.mapM digit with
    | none => simp
    | some rest =>
      show some (first ++ rest) = some out ↔ _
      simp [eq_comm]

theorem digit_of_mapM (read : s.mapM digit = some out) : ∀ c ∈ s, ∃ a, digit c = some a := by
  induction s generalizing out with
  | nil => simp
  | cons c s ih =>
    obtain ⟨a, rest, here, later, -⟩ := mapM_cons_eq_some.mp read
    exact List.forall_mem_cons.mpr ⟨⟨a, here⟩, ih later⟩

theorem length_of_mapM (read : s.mapM digit = some out) : out.length = s.length := by
  induction s generalizing out with
  | nil =>
    obtain rfl : [] = out := by simpa using read
    rfl
  | cons c s ih =>
    obtain ⟨a, rest, -, later, rfl⟩ := mapM_cons_eq_some.mp read
    rw [List.length_cons, List.length_cons, ih later]

theorem nonempty_of_mapM (read : s.mapM digit = some out) : out ≠ [] ↔ s ≠ [] := by
  rw [← List.length_pos_iff, ← List.length_pos_iff, length_of_mapM read]

theorem mapM_of_agree {digit' : Char → Option Char} (agree : ∀ c ∈ s, digit c = digit' c) :
    s.mapM digit = s.mapM digit' := by
  induction s with
  | nil => rfl
  | cons c s ih =>
    rw [List.forall_mem_cons] at agree
    rw [List.mapM_cons, List.mapM_cons, agree.1, ih agree.2]

theorem asciiDigit_eq_some {c a : Char} : asciiDigit c = some a ↔ c.isDigit = true ∧ a = c := by
  unfold asciiDigit
  by_cases is_digit : c.isDigit = true
  · rw [if_pos is_digit, Option.some_inj]
    exact ⟨fun same => ⟨is_digit, same.symm⟩, fun both => both.2.symm⟩
  · rw [if_neg is_digit]
    exact iff_of_false (by simp) fun both => is_digit both.1

theorem mapM_asciiDigit : s.mapM asciiDigit = some out ↔ s.all Char.isDigit = true ∧ out = s := by
  induction s generalizing out with
  | nil => simp [eq_comm]
  | cons c s ih =>
    rw [mapM_cons_eq_some, List.all_cons, Bool.and_eq_true]
    constructor
    · rintro ⟨a, rest, here, later, rfl⟩
      obtain ⟨is_digit, rfl⟩ := asciiDigit_eq_some.mp here
      obtain ⟨all, rfl⟩ := ih.mp later
      exact ⟨⟨is_digit, all⟩, rfl⟩
    · rintro ⟨⟨is_digit, all⟩, rfl⟩
      exact ⟨c, s, asciiDigit_eq_some.mpr ⟨is_digit, rfl⟩, ih.mpr ⟨all, rfl⟩, rfl⟩

end

/-! ## Cutting -/

theorem cut_head {body : List Char} (some_whole : (cut body).1 ≠ []) :
    body.head? = (cut body).1.head? := by
  unfold cut at some_whole ⊢
  split at some_whole <;> rename_i rest
  · rfl
  · show body.head? = (body.takeWhile (· != '.')).head?
    cases body with
    | nil => exact absurd rfl some_whole
    | cons c body =>
      change (c :: body).takeWhile (· != '.') ≠ [] at some_whole
      rw [List.takeWhile_cons] at some_whole ⊢
      split
      · rfl
      · rename_i is_point
        exact absurd (if_neg is_point) some_whole

theorem cut_no_point {body : List Char} (no_point : (cut body).2.2 = false) :
    (cut body).2.1 = [] := by
  unfold cut at no_point ⊢
  split at no_point
  · rfl
  · cases no_point

/-- A text is its parts and maybe a point. -/
theorem mem_cut {body : List Char} {c : Char} (inside : c ∈ body) :
    c ∈ (cut body).1 ∨ c = '.' ∨ c ∈ (cut body).2.1 := by
  unfold cut
  split <;> rename_i rest
  · exact .inl inside
  · rename_i point fraction
    have first := List.head?_dropWhile_not (· != '.') body
    rw [rest] at first
    have is_point : point = '.' := by simpa using first
    rw [← List.takeWhile_append_dropWhile (p := (· != '.')) (l := body), rest] at inside
    rcases List.mem_append.mp inside with inside | inside
    · exact .inl inside
    · rcases List.mem_cons.mp inside with rfl | inside
      · exact .inr (.inl is_point)
      · exact .inr (.inr inside)

/-! ## Checks -/

section

variable {isMargin : Char → Bool} {text whole fraction : List Char}

/-- What the checks of the four parsers come to, if `digits` holds of texts that are not empty and do
not start with a minus. -/
theorem checks_eq_ok_iff {digits : List Char → Bool} (none_empty : digits [] = false)
    (no_minus : ∀ s, digits s = true → s.head? ≠ some '-') (body : List Char) (decimals : ℕ)
    (empty negative malformed excess : String) (value : Except String ℕ) (n : ℕ) :
    (if body.isEmpty then .error empty
      else if body.head? = some '-' then .error negative
      else if !digits (cut body).1 || (cut body).2.2 && !digits (cut body).2.1 then .error malformed
      else if decimals < (cut body).2.1.length then .error excess
      else value) = Except.ok n ↔
      digits (cut body).1 = true ∧ ((cut body).2.2 = true → digits (cut body).2.1 = true) ∧
        (cut body).2.1.length ≤ decimals ∧ value = .ok n := by
  by_cases spelt : digits (cut body).1 = true
  · have some_whole : (cut body).1 ≠ [] := by
      intro nothing
      rw [nothing, none_empty] at spelt
      cases spelt
    have head := cut_head some_whole
    have not_empty : body.isEmpty = false := by
      cases body with
      | nil => exact absurd rfl some_whole
      | cons => rfl
    have not_minus : body.head? ≠ some '-' := head ▸ no_minus _ spelt
    rw [not_empty, if_neg (by simp), if_neg not_minus]
    by_cases point : (cut body).2.2 = true
    · by_cases after : digits (cut body).2.1 = true
      · by_cases fits : (cut body).2.1.length ≤ decimals
        · simp [spelt, after, fits, Nat.not_lt.mpr fits]
        · simp [spelt, after, fits, Nat.lt_of_not_le fits]
      · simp [spelt, point, after]
    · by_cases fits : (cut body).2.1.length ≤ decimals
      · simp [spelt, point, fits, Nat.not_lt.mpr fits]
      · simp [spelt, point, fits, Nat.lt_of_not_le fits]
  · simp only [spelt, Bool.not_false, Bool.true_or, if_true, false_and, iff_false, Bool.false_eq_true]
    split
    · simp
    · split <;> simp

/-- One or more ASCII digits. -/
def asciiDigits (s : List Char) : Bool := !s.isEmpty && s.all Char.isDigit

theorem asciiDigits_iff {s : List Char} :
    asciiDigits s = true ↔ s ≠ [] ∧ s.all Char.isDigit = true := by
  cases s <;> simp [asciiDigits]

theorem asciiDigits_head {s : List Char} (digits : asciiDigits s = true) : s.head? ≠ some '-' := by
  intro minus
  have first : '-' ∈ s := List.mem_of_head? minus
  exact absurd (List.all_eq_true.mp (asciiDigits_iff.mp digits).2 _ first) (by decide)

theorem spelt_ascii_iff : Spelt isMargin asciiDigit text whole fraction ↔
    (asciiDigits (cut (amountBody isMargin text)).1 = true ∧
      ((cut (amountBody isMargin text)).2.2 = true →
        asciiDigits (cut (amountBody isMargin text)).2.1 = true)) ∧
      whole = (cut (amountBody isMargin text)).1 ∧
      fraction = (cut (amountBody isMargin text)).2.1 := by
  constructor
  · rintro ⟨read_whole, read_fraction, some_whole, some_fraction⟩
    obtain ⟨whole_digits, rfl⟩ := mapM_asciiDigit.mp read_whole
    obtain ⟨fraction_digits, rfl⟩ := mapM_asciiDigit.mp read_fraction
    exact ⟨⟨asciiDigits_iff.mpr ⟨some_whole, whole_digits⟩, fun point =>
      asciiDigits_iff.mpr ⟨some_fraction point, fraction_digits⟩⟩, rfl, rfl⟩
  · rintro ⟨⟨whole_digits, fraction_digits⟩, rfl, rfl⟩
    rw [asciiDigits_iff] at whole_digits
    have all_fraction : (cut (amountBody isMargin text)).2.1.all Char.isDigit = true := by
      by_cases point : (cut (amountBody isMargin text)).2.2 = true
      · exact (asciiDigits_iff.mp (fraction_digits point)).2
      · rw [cut_no_point (by simpa using point)]
        rfl
    exact ⟨mapM_asciiDigit.mpr ⟨whole_digits.2, rfl⟩, mapM_asciiDigit.mpr ⟨all_fraction, rfl⟩,
      whole_digits.1, fun point => (asciiDigits_iff.mp (fraction_digits point)).1⟩

/-- The checks of a parser that takes ASCII digits. -/
theorem ascii_checks_eq_ok_iff (decimals : ℕ) (empty negative malformed excess : String) (n : ℕ) :
    (if (amountBody isMargin text).isEmpty then .error empty
      else if (amountBody isMargin text).head? = some '-' then .error negative
      else if !asciiDigits (cut (amountBody isMargin text)).1 ||
        (cut (amountBody isMargin text)).2.2 && !asciiDigits (cut (amountBody isMargin text)).2.1
        then .error malformed
      else if decimals < (cut (amountBody isMargin text)).2.1.length then .error excess
      else .ok (amountOf (cut (amountBody isMargin text)).1 (cut (amountBody isMargin text)).2.1
        decimals)) = Except.ok n ↔
      ∃ whole fraction, Spelt isMargin asciiDigit text whole fraction ∧
        fraction.length ≤ decimals ∧ n = amountOf whole fraction decimals := by
  rw [checks_eq_ok_iff rfl fun s => asciiDigits_head]
  simp only [spelt_ascii_iff, Except.ok.injEq]
  constructor
  · rintro ⟨whole_digits, fraction_digits, fits, rfl⟩
    exact ⟨_, _, ⟨⟨whole_digits, fraction_digits⟩, rfl, rfl⟩, fits, rfl⟩
  · rintro ⟨_, _, ⟨⟨whole_digits, fraction_digits⟩, rfl, rfl⟩, fits, rfl⟩
    exact ⟨whole_digits, fraction_digits, fits, rfl⟩

end

/-! ## The parsers -/

theorem Go.parseAmount_eq_ok_iff (text : List Char) (decimals : UInt8) (n : ℕ) :
    Go.parseAmount text decimals = .ok n ↔
      ∃ whole fraction, Spelt Text.isWhiteSpace asciiDigit text whole fraction ∧
        fraction.length ≤ decimals.toNat ∧ n = amountOf whole fraction decimals.toNat :=
  ascii_checks_eq_ok_iff decimals.toNat _ _ _ _ n

theorem TypeScript.parseAmount_eq_ok_iff (text : List Char) (decimals n : ℕ) :
    TypeScript.parseAmount text decimals = .ok n ↔
      ∃ whole fraction, Spelt Text.isEcmaSpace asciiDigit text whole fraction ∧
        fraction.length ≤ decimals ∧ n = amountOf whole fraction decimals :=
  ascii_checks_eq_ok_iff decimals _ _ _ _ n

namespace Python

variable (digits : Digits) (maxStrDigits : Option ℕ)

theorem isdigit_iff {s : List Char} :
    isdigit digits s = true ↔ s ≠ [] ∧ ∀ c ∈ s, digits.isDigit c = true := by
  cases s <;> simp [isdigit]

theorem isdigit_head {s : List Char} (all : isdigit digits s = true) : s.head? ≠ some '-' := by
  intro minus
  have minus_digit := (isdigit_iff digits).mp all |>.2 _ (List.mem_of_head? minus)
  rw [(digits.ascii '-' (by decide)).1] at minus_digit
  exact absurd minus_digit (by decide)

theorem toAscii_zero : digits.toAscii '0' = some '0' :=
  (digits.ascii '0' (by decide)).2

theorem mapM_zeros (count : ℕ) :
    (List.replicate count '0').mapM digits.toAscii = some (List.replicate count '0') := by
  induction count with
  | zero => rfl
  | succ count ih =>
    exact mapM_cons_eq_some.mpr ⟨'0', _, toAscii_zero digits, ih, rfl⟩

theorem isDigit_of_mapM {s out : List Char} (read : s.mapM digits.toAscii = some out) :
    ∀ c ∈ s, digits.isDigit c = true := by
  intro c inside
  obtain ⟨a, here⟩ := digit_of_mapM read c inside
  exact (digits.decimal c a here).1

theorem int_eq_ok_iff (s : List Char) (n : ℕ) :
    int digits maxStrDigits s = .ok n ↔
      ∃ ascii, s.mapM digits.toAscii = some ascii ∧ (∀ limit ∈ maxStrDigits, ascii.length ≤ limit) ∧
        n = Nat.ofDigitChars 10 ascii 0 := by
  unfold int
  cases s.mapM digits.toAscii with
  | none => simp
  | some ascii =>
    cases maxStrDigits with
    | none => simp [eq_comm]
    | some limit =>
      by_cases fits : ascii.length ≤ limit
      · simp [fits, Nat.not_lt.mpr fits, eq_comm]
      · simp [fits, Nat.lt_of_not_le fits]

/-- Converting pads the fraction first, so that a number has as many digits as its whole part and
the chain's decimals together. -/
theorem int_padded_eq_ok_iff {s s' : List Char} {decimals : ℕ} (fits : s'.length ≤ decimals) (n : ℕ) :
    int digits maxStrDigits (s ++ padded s' decimals) = .ok n ↔
      ∃ whole fraction, s.mapM digits.toAscii = some whole ∧ s'.mapM digits.toAscii = some fraction ∧
        (∀ limit ∈ maxStrDigits, whole.length + decimals ≤ limit) ∧
        n = amountOf whole fraction decimals := by
  rw [int_eq_ok_iff]
  simp only [padded, mapM_append_eq_some]
  constructor
  · rintro ⟨_, ⟨whole, _, read_whole, ⟨fraction, _, read_fraction, read_zeros, rfl⟩, rfl⟩,
      limited, rfl⟩
    rw [mapM_zeros, Option.some_inj] at read_zeros
    subst read_zeros
    have same := length_of_mapM read_fraction
    refine ⟨whole, fraction, read_whole, read_fraction, fun limit most => ?_, ?_⟩
    · have few := limited limit most
      simp only [List.length_append, List.length_replicate] at few
      omega
    · rw [amountOf, padded, same]
  · rintro ⟨whole, fraction, read_whole, read_fraction, limited, rfl⟩
    have same := length_of_mapM read_fraction
    refine ⟨_, ⟨whole, _, read_whole, ⟨fraction, _, read_fraction, mapM_zeros digits _, rfl⟩, rfl⟩,
      fun limit most => ?_, ?_⟩
    · have few := limited limit most
      simp only [List.length_append, List.length_replicate]
      omega
    · rw [amountOf, padded, same]

theorem parseAmount_eq_ok_iff (text : List Char) (decimals n : ℕ) :
    parseAmount digits maxStrDigits text decimals = .ok n ↔
      ∃ whole fraction, Spelt Text.isPythonSpace digits.toAscii text whole fraction ∧
        fraction.length ≤ decimals ∧ (∀ limit ∈ maxStrDigits, whole.length + decimals ≤ limit) ∧
        n = amountOf whole fraction decimals := by
  refine Iff.trans (checks_eq_ok_iff rfl (fun s => isdigit_head digits)
    (amountBody Text.isPythonSpace text) decimals _ _ _ _ _ n) ?_
  constructor
  · rintro ⟨whole_digits, fraction_digits, fits, converted⟩
    obtain ⟨whole, fraction, read_whole, read_fraction, limited, rfl⟩ :=
      (int_padded_eq_ok_iff digits maxStrDigits fits n).mp converted
    refine ⟨whole, fraction, ⟨read_whole, read_fraction, ?_, fun point => ?_⟩, ?_, limited, rfl⟩
    · exact (nonempty_of_mapM read_whole).mpr ((isdigit_iff digits).mp whole_digits).1
    · exact (nonempty_of_mapM read_fraction).mpr
        ((isdigit_iff digits).mp (fraction_digits point)).1
    · rw [length_of_mapM read_fraction]
      exact fits
  · rintro ⟨whole, fraction, spelt, fits, limited, rfl⟩
    have few : (cut (amountBody Text.isPythonSpace text)).2.1.length ≤ decimals := by
      rw [← length_of_mapM spelt.read_fraction]
      exact fits
    refine ⟨(isdigit_iff digits).mpr ⟨(nonempty_of_mapM spelt.read_whole).mp spelt.some_whole,
      isDigit_of_mapM digits spelt.read_whole⟩, fun point => (isdigit_iff digits).mpr
      ⟨(nonempty_of_mapM spelt.read_fraction).mp (spelt.some_fraction point),
        isDigit_of_mapM digits spelt.read_fraction⟩, few, ?_⟩
    exact (int_padded_eq_ok_iff digits maxStrDigits few _).mpr
      ⟨whole, fraction, spelt.read_whole, spelt.read_fraction, limited, rfl⟩

end Python

namespace Rust

theorem ofDigitChars_dropWhile (l : List Char) :
    Nat.ofDigitChars 10 (l.dropWhile (· = '0')) 0 = Nat.ofDigitChars 10 l 0 := by
  induction l with
  | nil => rfl
  | cons c l ih =>
    by_cases zero : c = '0'
    · subst zero
      rw [List.dropWhile_cons_of_pos (by simp), ih, Nat.ofDigitChars_cons]
      rfl
    · rw [List.dropWhile_cons_of_neg (by simpa using zero)]

/-- Reading the digits without leading zeros, with zero apart, is reading the digits. -/
theorem parseU128_eq_ok_iff (l : List Char) (error : String → SdkError) (v : BitVec 128) :
    (match parseU128 (l.dropWhile (· = '0')) with
      | .ok plancks => Except.ok plancks
      | .error e => if l.all (· = '0') then .ok 0 else .error (error e)) = .ok v ↔
      Nat.ofDigitChars 10 l 0 < 2 ^ 128 ∧ v = BitVec.ofNat 128 (Nat.ofDigitChars 10 l 0) := by
  rw [← ofDigitChars_dropWhile l]
  unfold parseU128
  by_cases zeros : l.dropWhile (· = '0') = []
  · have all : l.all (· = '0') = true := by
      rw [List.all_eq_true]
      exact List.dropWhile_eq_nil_iff.mp zeros
    rw [if_pos zeros, zeros]
    simp only [all, if_true, Except.ok.injEq]
    exact ⟨fun same => ⟨by decide, same.symm⟩, fun both => both.2.symm⟩
  · have some_nonzero : l.all (· = '0') = false := by
      rw [Bool.eq_false_iff]
      intro all
      exact zeros (List.dropWhile_eq_nil_iff.mpr (List.all_eq_true.mp all))
    rw [if_neg zeros]
    by_cases small : Nat.ofDigitChars 10 (l.dropWhile (· = '0')) 0 < 2 ^ 128
    · simp only [small, if_true, Except.ok.injEq, true_and]
      exact eq_comm
    · simp only [small, if_false, some_nonzero, Bool.false_eq_true, false_and, reduceCtorEq]

/-- The two checks of the digits come to the one check that the other parsers make. -/
theorem digit_checks (body : List Char) :
    (((cut body).1.isEmpty || (cut body).2.2 && (cut body).2.1.isEmpty) = false ∧
      (!(cut body).1.all Char.isDigit || !(cut body).2.1.all Char.isDigit) = false) ↔
    asciiDigits (cut body).1 = true ∧
      ((cut body).2.2 = true → asciiDigits (cut body).2.1 = true) := by
  by_cases point : (cut body).2.2 = true
  · simp only [point, asciiDigits, Bool.true_and, Bool.or_eq_false_iff, Bool.not_eq_false',
      Bool.and_eq_true, Bool.not_eq_true', forall_const]
    tauto
  · rw [cut_no_point (by simpa using point)]
    simp [point, asciiDigits]

/-- A text that passes the check of the digits passes the checks before it. -/
theorem not_empty_of_digits {body : List Char} (digits : asciiDigits (cut body).1 = true) :
    body.isEmpty = false ∧ body.head? ≠ some '-' := by
  have some_whole : (cut body).1 ≠ [] := (asciiDigits_iff.mp digits).1
  constructor
  · cases body with
    | nil => exact absurd rfl some_whole
    | cons => rfl
  · rw [cut_head some_whole]
    exact asciiDigits_head digits

/-- What the checks after the one of the decimals come to. -/
theorem checks_eq_ok_iff (body : List Char) (decimals : ℕ)
    (empty negative sides malformed excess : SdkError) (value : Except SdkError (BitVec 128))
    (v : BitVec 128) :
    (if body.isEmpty then .error empty
      else if body.head? = some '-' then .error negative
      else if (cut body).1.isEmpty || (cut body).2.2 && (cut body).2.1.isEmpty then .error sides
      else if !(cut body).1.all Char.isDigit || !(cut body).2.1.all Char.isDigit then
        .error malformed
      else if decimals < (cut body).2.1.length then .error excess
      else value) = Except.ok v ↔
      (asciiDigits (cut body).1 = true ∧
        ((cut body).2.2 = true → asciiDigits (cut body).2.1 = true)) ∧
        (cut body).2.1.length ≤ decimals ∧ value = .ok v := by
  rw [← digit_checks]
  by_cases digits : ((cut body).1.isEmpty || (cut body).2.2 && (cut body).2.1.isEmpty) = false ∧
      (!(cut body).1.all Char.isDigit || !(cut body).2.1.all Char.isDigit) = false
  · obtain ⟨not_empty, not_minus⟩ := not_empty_of_digits ((digit_checks body).mp digits).1
    rw [not_empty, if_neg Bool.false_ne_true, if_neg not_minus, digits.1, digits.2,
      if_neg Bool.false_ne_true, if_neg Bool.false_ne_true]
    by_cases excess_ : decimals < (cut body).2.1.length
    · rw [if_pos excess_]
      exact iff_of_false (by simp) fun all => absurd all.2.1 (Nat.not_le.mpr excess_)
    · rw [if_neg excess_]
      exact ⟨fun same => ⟨⟨rfl, rfl⟩, Nat.not_lt.mp excess_, same⟩, fun all => all.2.2⟩
  · refine iff_of_false (fun parsed => digits ?_) fun all => digits all.1
    split at parsed
    · cases parsed
    split at parsed
    · cases parsed
    split at parsed
    · cases parsed
    rename_i both_sides
    split at parsed
    · cases parsed
    rename_i all_digits
    exact ⟨by simpa using both_sides, by simpa using all_digits⟩

theorem parseAmount_eq_ok_iff (text : List Char) (decimals : UInt8) (v : BitVec 128) :
    parseAmount text decimals = .ok v ↔
      ∃ whole fraction, Spelt Text.isWhiteSpace asciiDigit text whole fraction ∧
        fraction.length ≤ decimals.toNat ∧ decimals.toNat ≤ 38 ∧
        amountOf whole fraction decimals.toNat < 2 ^ 128 ∧
        v = BitVec.ofNat 128 (amountOf whole fraction decimals.toNat) := by
  unfold parseAmount
  by_cases large : 38 < decimals.toNat
  · rw [if_pos large]
    refine iff_of_false (by simp) ?_
    rintro ⟨_, _, _, _, few, _⟩
    omega
  rw [if_neg large]
  have number := parseU128_eq_ok_iff ((cut (amountBody Text.isWhiteSpace text)).1 ++
    padded (cut (amountBody Text.isWhiteSpace text)).2.1 decimals.toNat)
    (fun e => badAmount ("amount does not fit in u128 (" ++ e ++ ")")) v
  refine (checks_eq_ok_iff (amountBody Text.isWhiteSpace text) decimals.toNat _ _ _ _ _ _ v).trans ?_
  simp only [spelt_ascii_iff]
  constructor
  · rintro ⟨digits, fits, parsed⟩
    obtain ⟨small, rfl⟩ := number.mp parsed
    exact ⟨_, _, ⟨digits, rfl, rfl⟩, fits, Nat.not_lt.mp large, small, rfl⟩
  · rintro ⟨_, _, ⟨digits, rfl, rfl⟩, fits, _, small, rfl⟩
    exact ⟨digits, fits, number.mpr ⟨small, rfl⟩⟩

end Rust

end MatterSdk
