import MatterSdk.Amounts.Reading

/-!
# When the four amount parsers agree

The widest reading takes for margins and for digits what any of the clients does.  A text that spells
an amount on the widest reading is read as that amount by each client whose limits it keeps, and
refused by the others.
-/

namespace MatterSdk

/-- No character that some client takes for white space is left after trimming. -/
def CleanMargins (isMargin : Char → Bool) (text : List Char) : Prop :=
  ∀ c ∈ Text.trim isMargin text, Text.isWideSpace c = false

/-- The text's digits are ASCII ones. -/
def AsciiDigits (digits : Python.Digits) (text : List Char) : Prop :=
  ∀ c ∈ text, digits.isDigit c = true → c.isDigit = true

theorem mem_stripPlus {text : List Char} {c : Char} (inside : c ∈ text) :
    c = '+' ∨ c ∈ stripPlus text := by
  unfold stripPlus
  split
  · exact List.mem_cons.mp inside
  · exact .inr inside

theorem mem_of_mem_stripPlus {text : List Char} {c : Char} (inside : c ∈ stripPlus text) :
    c ∈ text := by
  unfold stripPlus at inside
  split at inside
  · exact List.mem_cons_of_mem _ inside
  · exact inside

theorem mem_of_mem_cut {body : List Char} {c : Char}
    (inside : c ∈ (cut body).1 ∨ c ∈ (cut body).2.1) : c ∈ body := by
  unfold cut at inside
  split at inside <;> rename_i rest
  · simpa using inside
  · rcases inside with before | after
    · exact (List.takeWhile_prefix _).subset before
    · apply (List.dropWhile_suffix (· != '.')).subset
      rw [rest]
      exact List.mem_cons_of_mem _ after

section

variable {isMargin : Char → Bool} {digit : Char → Option Char} {text whole fraction : List Char}

/-- Between its margins, an amount has digits, a `+` and a point. -/
theorem Spelt.mem_trim (spelt : Spelt isMargin digit text whole fraction) {c : Char}
    (inside : c ∈ Text.trim isMargin text) : c = '+' ∨ c = '.' ∨ ∃ a, digit c = some a := by
  rcases mem_stripPlus inside with plus | inside
  · exact .inl plus
  rcases mem_cut inside with before | point | after
  · exact .inr (.inr (digit_of_mapM spelt.read_whole c before))
  · exact .inr (.inl point)
  · exact .inr (.inr (digit_of_mapM spelt.read_fraction c after))

theorem Spelt.of_agree {digit' : Char → Option Char}
    (spelt : Spelt isMargin digit text whole fraction)
    (agree : ∀ c ∈ Text.trim isMargin text, digit' c = digit c) :
    Spelt isMargin digit' text whole fraction := by
  have inside {c : Char} (part : c ∈ (cut (amountBody isMargin text)).1 ∨
      c ∈ (cut (amountBody isMargin text)).2.1) : digit' c = digit c :=
    agree c (mem_of_mem_stripPlus (mem_of_mem_cut part))
  refine ⟨?_, ?_, spelt.some_whole, spelt.some_fraction⟩
  · rw [mapM_of_agree fun c before => inside (.inl before)]
    exact spelt.read_whole
  · rw [mapM_of_agree fun c after => inside (.inr after)]
    exact spelt.read_fraction

theorem spelt_of_trim_eq {isMargin' : Char → Bool}
    (same : Text.trim isMargin' text = Text.trim isMargin text) :
    Spelt isMargin' digit text whole fraction ↔ Spelt isMargin digit text whole fraction := by
  have body : amountBody isMargin' text = amountBody isMargin text := by
    rw [amountBody, same, amountBody]
  constructor <;> rintro ⟨read_whole, read_fraction, some_whole, some_fraction⟩
  · rw [body] at read_whole read_fraction some_fraction
    exact ⟨read_whole, read_fraction, some_whole, some_fraction⟩
  · rw [← body] at read_whole read_fraction some_fraction
    exact ⟨read_whole, read_fraction, some_whole, some_fraction⟩

theorem Spelt.unique {whole' fraction' : List Char}
    (spelt : Spelt isMargin digit text whole fraction)
    (spelt' : Spelt isMargin digit text whole' fraction') :
    whole' = whole ∧ fraction' = fraction := by
  constructor
  · exact Option.some.inj (spelt'.read_whole.symm.trans spelt.read_whole)
  · exact Option.some.inj (spelt'.read_fraction.symm.trans spelt.read_fraction)

end

/-! ## The widest reading -/

section

variable (digits : Python.Digits) {text whole fraction : List Char}

theorem not_space_of_amount {c : Char} (part : c = '+' ∨ c = '.' ∨ ∃ a, digits.toAscii c = some a) :
    Text.isWideSpace c = false := by
  rcases part with rfl | rfl | ⟨a, read⟩
  · decide
  · decide
  · have space := digits.space c (digits.decimal c a read).1
    simp [Text.isWideSpace, space]

/-- A client that takes less for margins reads what the widest reading does, where it leaves none
of the wider margins. -/
theorem spelt_margins_iff {isMargin : Char → Bool}
    (narrower : ∀ c, isMargin c = true → Text.isWideSpace c = true) :
    Spelt isMargin digits.toAscii text whole fraction ↔
      Spelt Text.isWideSpace digits.toAscii text whole fraction ∧ CleanMargins isMargin text := by
  constructor
  · intro spelt
    have clean : CleanMargins isMargin text := fun c inside =>
      not_space_of_amount digits (spelt.mem_trim inside)
    have same : Text.trim Text.isWideSpace text = Text.trim isMargin text :=
      Text.trim_eq_of_agree narrower fun c inside wide => by
        rw [clean c inside] at wide
        cases wide
    exact ⟨(spelt_of_trim_eq same).mpr spelt, clean⟩
  · rintro ⟨spelt, clean⟩
    have same : Text.trim Text.isWideSpace text = Text.trim isMargin text :=
      Text.trim_eq_of_agree narrower fun c inside wide => by
        rw [clean c inside] at wide
        cases wide
    exact (spelt_of_trim_eq same).mp spelt

theorem toAscii_of_isDigit {c : Char} (is_digit : c.isDigit = true) :
    digits.isDigit c = true ∧ digits.toAscii c = some c := by
  have bound : c.toNat ≤ 57 := (Char.isDigit_iff_toNat.mp is_digit).2
  obtain ⟨same, read⟩ := digits.ascii c (by omega)
  exact ⟨same.trans is_digit, read.trans (if_pos is_digit)⟩

theorem asciiDigit_eq_toAscii {c : Char} (ascii : digits.isDigit c = true → c.isDigit = true)
    (part : c = '+' ∨ c = '.' ∨ ∃ a, digits.toAscii c = some a) :
    asciiDigit c = digits.toAscii c := by
  rcases part with rfl | rfl | ⟨a, read⟩
  · exact (digits.ascii '+' (by decide)).2.symm
  · exact (digits.ascii '.' (by decide)).2.symm
  · have is_digit := ascii (digits.decimal c a read).1
    rw [asciiDigit, if_pos is_digit, (toAscii_of_isDigit digits is_digit).2]

/-- A client that takes ASCII digits only reads a text with no others. -/
theorem spelt_digits_iff {isMargin : Char → Bool}
    (narrower : ∀ c, isMargin c = true → Text.isWideSpace c = true) :
    Spelt isMargin asciiDigit text whole fraction ↔
      Spelt isMargin digits.toAscii text whole fraction ∧ AsciiDigits digits text := by
  constructor
  · intro spelt
    have parts : ∀ c ∈ Text.trim isMargin text, c = '+' ∨ c = '.' ∨ c.isDigit = true := by
      intro c inside
      rcases spelt.mem_trim inside with plus | point | ⟨a, read⟩
      · exact .inl plus
      · exact .inr (.inl point)
      · exact .inr (.inr (asciiDigit_eq_some.mp read).1)
    refine ⟨spelt.of_agree fun c inside => ?_, fun c inside is_digit => ?_⟩
    · rcases parts c inside with rfl | rfl | is_digit
      · exact (digits.ascii '+' (by decide)).2
      · exact (digits.ascii '.' (by decide)).2
      · rw [asciiDigit, if_pos is_digit, (toAscii_of_isDigit digits is_digit).2]
    · have not_space : Text.isWideSpace c = false := by
        simp [Text.isWideSpace, digits.space c is_digit]
      have trimmed : c ∈ Text.trim isMargin text := by
        refine Text.mem_trim_of_mem inside ?_
        rw [Bool.eq_false_iff]
        intro margin
        rw [narrower c margin] at not_space
        cases not_space
      rcases parts c trimmed with rfl | rfl | ascii
      · rwa [(digits.ascii '+' (by decide)).1] at is_digit
      · rwa [(digits.ascii '.' (by decide)).1] at is_digit
      · exact ascii
  · rintro ⟨spelt, ascii⟩
    exact spelt.of_agree fun c inside =>
      asciiDigit_eq_toAscii digits (ascii c (Text.mem_of_mem_trim inside)) (spelt.mem_trim inside)

/-- The amount that the widest reading of the text spells, with no more digits after the point than
the chain's decimals. -/
structure WidelySpelt (text : List Char) (decimals : ℕ) (whole fraction : List Char) : Prop where
  spelt : Spelt Text.isWideSpace digits.toAscii text whole fraction
  fits : fraction.length ≤ decimals

end

/-! ## What each client reads -/

/-- What the Rust client makes of a widely spelt amount is the amount, under these conditions. -/
structure Rust.ReadsAmount (digits : Python.Digits) (text : List Char) (decimals : ℕ)
    (whole fraction : List Char) : Prop where
  margins : CleanMargins Text.isWhiteSpace text
  ascii : AsciiDigits digits text
  few : decimals ≤ 38
  fits : amountOf whole fraction decimals < 2 ^ 128

structure Go.ReadsAmount (digits : Python.Digits) (text : List Char) : Prop where
  margins : CleanMargins Text.isWhiteSpace text
  ascii : AsciiDigits digits text

structure TypeScript.ReadsAmount (digits : Python.Digits) (text : List Char) : Prop where
  margins : CleanMargins Text.isEcmaSpace text
  ascii : AsciiDigits digits text

structure Python.ReadsAmount (maxStrDigits : Option ℕ) (text : List Char) (decimals : ℕ)
    (whole : List Char) : Prop where
  margins : CleanMargins Text.isPythonSpace text
  limit : ∀ limit ∈ maxStrDigits, whole.length + decimals ≤ limit

section

variable (digits : Python.Digits) (maxStrDigits : Option ℕ) (text : List Char) (decimals : UInt8)

/-- The number that the Rust client's parser returns, if it returns one. -/
def Rust.plancks : Option ℕ := (Rust.parseAmount text decimals).toOption.map BitVec.toNat

theorem spelt_ascii_margins_iff {isMargin : Char → Bool} {whole fraction : List Char}
    (narrower : ∀ c, isMargin c = true → Text.isWideSpace c = true) :
    Spelt isMargin asciiDigit text whole fraction ↔
      Spelt Text.isWideSpace digits.toAscii text whole fraction ∧ CleanMargins isMargin text ∧
        AsciiDigits digits text := by
  rw [spelt_digits_iff digits narrower, spelt_margins_iff digits narrower, and_assoc]

theorem toOption_eq_some {ε α : Type} {result : Except ε α} {a : α} :
    result.toOption = some a ↔ result = .ok a := by
  cases result <;> simp [Except.toOption]

theorem Rust.plancks_eq_some_iff (n : ℕ) :
    plancks text decimals = some n ↔
      ∃ whole fraction, WidelySpelt digits text decimals.toNat whole fraction ∧
        ReadsAmount digits text decimals.toNat whole fraction ∧
        n = amountOf whole fraction decimals.toNat := by
  have value {m : ℕ} (small : m < 2 ^ 128) : (BitVec.ofNat 128 m).toNat = m := by
    rw [BitVec.toNat_ofNat, Nat.mod_eq_of_lt small]
  simp only [plancks, Option.map_eq_some_iff, toOption_eq_some, Rust.parseAmount_eq_ok_iff,
    spelt_ascii_margins_iff digits text fun _ => Text.wide_of_whiteSpace]
  constructor
  · rintro ⟨_, ⟨whole, fraction, ⟨spelt, margins, ascii⟩, fits, few, small, rfl⟩, rfl⟩
    exact ⟨whole, fraction, ⟨spelt, fits⟩, ⟨margins, ascii, few, small⟩, value small⟩
  · rintro ⟨whole, fraction, ⟨spelt, fits⟩, ⟨margins, ascii, few, small⟩, rfl⟩
    exact ⟨_, ⟨whole, fraction, ⟨spelt, margins, ascii⟩, fits, few, small, rfl⟩, value small⟩

/-- A client that takes ASCII digits returns the amounts that are widely spelt, where it leaves no
margins and finds no other digits. -/
theorem ascii_eq_some_iff {isMargin : Char → Bool}
    (narrower : ∀ c, isMargin c = true → Text.isWideSpace c = true) {result : Except String ℕ}
    {n : ℕ}
    (reads : result = .ok n ↔ ∃ whole fraction, Spelt isMargin asciiDigit text whole fraction ∧
      fraction.length ≤ decimals.toNat ∧ n = amountOf whole fraction decimals.toNat) :
    result.toOption = some n ↔
      ∃ whole fraction, WidelySpelt digits text decimals.toNat whole fraction ∧
        (CleanMargins isMargin text ∧ AsciiDigits digits text) ∧
        n = amountOf whole fraction decimals.toNat := by
  simp only [toOption_eq_some, reads, spelt_ascii_margins_iff digits text narrower]
  constructor
  · rintro ⟨whole, fraction, ⟨spelt, clean⟩, fits, rfl⟩
    exact ⟨whole, fraction, ⟨spelt, fits⟩, clean, rfl⟩
  · rintro ⟨whole, fraction, ⟨spelt, fits⟩, clean, rfl⟩
    exact ⟨whole, fraction, ⟨spelt, clean⟩, fits, rfl⟩

theorem Go.readsAmount_iff : ReadsAmount digits text ↔
    CleanMargins Text.isWhiteSpace text ∧ AsciiDigits digits text :=
  ⟨fun reads => ⟨reads.margins, reads.ascii⟩, fun both => ⟨both.1, both.2⟩⟩

theorem Go.parseAmount_eq_some_iff (n : ℕ) :
    (parseAmount text decimals).toOption = some n ↔
      ∃ whole fraction, WidelySpelt digits text decimals.toNat whole fraction ∧
        ReadsAmount digits text ∧ n = amountOf whole fraction decimals.toNat := by
  rw [ascii_eq_some_iff digits text decimals (fun _ => Text.wide_of_whiteSpace)
    (Go.parseAmount_eq_ok_iff text decimals n), readsAmount_iff]

theorem TypeScript.readsAmount_iff : ReadsAmount digits text ↔
    CleanMargins Text.isEcmaSpace text ∧ AsciiDigits digits text :=
  ⟨fun reads => ⟨reads.margins, reads.ascii⟩, fun both => ⟨both.1, both.2⟩⟩

theorem TypeScript.parseAmount_eq_some_iff (n : ℕ) :
    (parseAmount text decimals.toNat).toOption = some n ↔
      ∃ whole fraction, WidelySpelt digits text decimals.toNat whole fraction ∧
        ReadsAmount digits text ∧ n = amountOf whole fraction decimals.toNat := by
  rw [ascii_eq_some_iff digits text decimals (fun _ => Text.wide_of_ecmaSpace)
    (TypeScript.parseAmount_eq_ok_iff text decimals.toNat n), readsAmount_iff]

theorem Python.parseAmount_eq_some_iff (n : ℕ) :
    (parseAmount digits maxStrDigits text decimals.toNat).toOption = some n ↔
      ∃ whole fraction, WidelySpelt digits text decimals.toNat whole fraction ∧
        ReadsAmount maxStrDigits text decimals.toNat whole ∧
        n = amountOf whole fraction decimals.toNat := by
  simp only [toOption_eq_some, Python.parseAmount_eq_ok_iff,
    spelt_margins_iff digits fun _ => Text.wide_of_pythonSpace]
  constructor
  · rintro ⟨whole, fraction, ⟨spelt, margins⟩, fits, limit, rfl⟩
    exact ⟨whole, fraction, ⟨spelt, fits⟩, ⟨margins, limit⟩, rfl⟩
  · rintro ⟨whole, fraction, ⟨spelt, fits⟩, ⟨margins, limit⟩, rfl⟩
    exact ⟨whole, fraction, ⟨spelt, margins⟩, fits, limit, rfl⟩

/-! ## Agreement -/

/-- All four parsers return the same number of plancks, or none returns any. -/
structure AmountsAgree : Prop where
  go : Rust.plancks text decimals = (Go.parseAmount text decimals).toOption
  typescript : Rust.plancks text decimals = (TypeScript.parseAmount text decimals.toNat).toOption
  python : Rust.plancks text decimals =
    (Python.parseAmount digits maxStrDigits text decimals.toNat).toOption

structure AllRead (whole fraction : List Char) : Prop where
  rust : Rust.ReadsAmount digits text decimals.toNat whole fraction
  go : Go.ReadsAmount digits text
  typescript : TypeScript.ReadsAmount digits text
  python : Python.ReadsAmount maxStrDigits text decimals.toNat whole

structure NoneReads (whole fraction : List Char) : Prop where
  rust : ¬ Rust.ReadsAmount digits text decimals.toNat whole fraction
  go : ¬ Go.ReadsAmount digits text
  typescript : ¬ TypeScript.ReadsAmount digits text
  python : ¬ Python.ReadsAmount maxStrDigits text decimals.toNat whole

variable {digits maxStrDigits text decimals}

/-- Two readers of the amounts that are widely spelt agree iff they read the same ones. -/
theorem reading_eq_iff {left right : Option ℕ} {Reads Reads' : List Char → List Char → Prop}
    (reads : ∀ n, left = some n ↔ ∃ whole fraction,
      WidelySpelt digits text decimals.toNat whole fraction ∧ Reads whole fraction ∧
        n = amountOf whole fraction decimals.toNat)
    (reads' : ∀ n, right = some n ↔ ∃ whole fraction,
      WidelySpelt digits text decimals.toNat whole fraction ∧ Reads' whole fraction ∧
        n = amountOf whole fraction decimals.toNat) :
    left = right ↔ ∀ whole fraction, WidelySpelt digits text decimals.toNat whole fraction →
      (Reads whole fraction ↔ Reads' whole fraction) := by
  constructor
  · rintro rfl whole fraction spelt
    constructor
    · intro read
      obtain ⟨whole', fraction', spelt', read', -⟩ :=
        (reads' _).mp ((reads _).mpr ⟨whole, fraction, spelt, read, rfl⟩)
      obtain ⟨rfl, rfl⟩ := spelt.spelt.unique spelt'.spelt
      exact read'
    · intro read
      obtain ⟨whole', fraction', spelt', read', -⟩ :=
        (reads _).mp ((reads' _).mpr ⟨whole, fraction, spelt, read, rfl⟩)
      obtain ⟨rfl, rfl⟩ := spelt.spelt.unique spelt'.spelt
      exact read'
  · intro same
    ext n
    rw [reads, reads']
    constructor
    · rintro ⟨whole, fraction, spelt, read, rfl⟩
      exact ⟨whole, fraction, spelt, (same whole fraction spelt).mp read, rfl⟩
    · rintro ⟨whole, fraction, spelt, read, rfl⟩
      exact ⟨whole, fraction, spelt, (same whole fraction spelt).mpr read, rfl⟩

end

section

variable (digits : Python.Digits) (maxStrDigits : Option ℕ) (text : List Char) (decimals : UInt8)

/-- The four parsers agree on a text iff the amount that its widest reading spells, if any, is one
that each of them reads, or one that none does. -/
theorem amounts_agree_iff : AmountsAgree digits maxStrDigits text decimals ↔
    ∀ whole fraction, WidelySpelt digits text decimals.toNat whole fraction →
      AllRead digits maxStrDigits text decimals whole fraction ∨
        NoneReads digits maxStrDigits text decimals whole fraction := by
  have go := reading_eq_iff (Rust.plancks_eq_some_iff digits text decimals)
    (Go.parseAmount_eq_some_iff digits text decimals)
  have typescript := reading_eq_iff (Rust.plancks_eq_some_iff digits text decimals)
    (TypeScript.parseAmount_eq_some_iff digits text decimals)
  have python := reading_eq_iff (Rust.plancks_eq_some_iff digits text decimals)
    (Python.parseAmount_eq_some_iff digits maxStrDigits text decimals)
  constructor
  · intro agree whole fraction spelt
    have same_go := go.mp agree.go whole fraction spelt
    have same_typescript := typescript.mp agree.typescript whole fraction spelt
    have same_python := python.mp agree.python whole fraction spelt
    by_cases read : Rust.ReadsAmount digits text decimals.toNat whole fraction
    · exact .inl ⟨read, same_go.mp read, same_typescript.mp read, same_python.mp read⟩
    · exact .inr ⟨read, mt same_go.mpr read, mt same_typescript.mpr read, mt same_python.mpr read⟩
  · intro alike
    refine ⟨go.mpr ?_, typescript.mpr ?_, python.mpr ?_⟩ <;> intro whole fraction spelt <;>
      rcases alike whole fraction spelt with all | none_
    · exact iff_of_true all.rust all.go
    · exact iff_of_false none_.rust none_.go
    · exact iff_of_true all.rust all.typescript
    · exact iff_of_false none_.rust none_.typescript
    · exact iff_of_true all.rust all.python
    · exact iff_of_false none_.rust none_.python

end

theorem asciiDigit_isDigit {c a : Char} (read : asciiDigit c = some a) :
    c.isDigit = true ∧ a.isDigit = true := by
  obtain ⟨is_digit, rfl⟩ := asciiDigit_eq_some.mp read
  exact ⟨is_digit, is_digit⟩

theorem not_pythonSpace_of_isDigit {c : Char} (is_digit : c.isDigit = true) :
    Text.isPythonSpace c = false ∧ c.toNat ≠ 0xFEFF := by
  have narrow := Bool.or_eq_false_iff.mp (Text.not_wide_of_isDigit is_digit)
  exact ⟨narrow.1, of_decide_eq_false narrow.2⟩

/-- Digits of a text that has none but ASCII ones. -/
def asciiOnly : Python.Digits where
  isDigit := Char.isDigit
  toAscii := asciiDigit
  ascii _ _ := ⟨rfl, rfl⟩
  decimal _ _ := asciiDigit_isDigit
  space _ := not_pythonSpace_of_isDigit

/-- At 39 decimals the Rust client refuses one token, which the others read. -/
theorem oneAtThirtyNine_disagrees :
    ¬ ∀ (digits : Python.Digits) (maxStrDigits : Option ℕ) (text : List Char) (decimals : UInt8),
      AmountsAgree digits maxStrDigits text decimals := by
  intro agree
  exact absurd (agree asciiOnly (some 4300) ['1'] 39).go (by decide)

end MatterSdk
