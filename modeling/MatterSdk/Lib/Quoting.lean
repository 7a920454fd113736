import Mathlib.Data.List.Basic

/-!
# Strings in quotes

How the `{:?}` of Rust, the `%q` of Go, the `!r` of Python and `JSON.stringify` print a string, and
which strings all four print alike.
-/

namespace Quoting

/-- `n` in hexadecimal, in `width` digits at least. -/
def hex (width n : ℕ) : List Char :=
  List.replicate (width - (Nat.toDigits 16 n).length) '0' ++ Nat.toDigits 16 n

/-- What is printed as it stands: all of ASCII but the control characters, and beyond it what the
language's own table has. -/
def isPrint (table : Char → Bool) (c : Char) : Bool :=
  if c.toNat < 0x80 then 0x20 ≤ c.toNat && c.toNat < 0x7f else table c

/-- A text between two marks, its characters escaped. -/
def quoted (mark : Char) (escape : Char → List Char) (text : List Char) : List Char :=
  mark :: (text.flatMap escape ++ [mark])

/-! ## The four languages -/

/-- A character in the `Debug` of a `str`. -/
def debugEscape (table : Char → Bool) (c : Char) : List Char :=
  if c = '\x00' then ['\\', '0']
  else if c = '\t' then ['\\', 't']
  else if c = '\r' then ['\\', 'r']
  else if c = '\n' then ['\\', 'n']
  else if c = '"' ∨ c = '\\' then ['\\', c]
  else if isPrint table c then [c]
  else ['\\', 'u', '\x7b'] ++ hex 1 c.toNat ++ ['\x7d']

def debug (table : Char → Bool) (text : List Char) : List Char :=
  quoted '"' (debugEscape table) text

/-- A rune in what `strconv.Quote` returns. -/
def quoteEscape (table : Char → Bool) (c : Char) : List Char :=
  if c = '"' ∨ c = '\\' then ['\\', c]
  else if isPrint table c then [c]
  else if c = '\x07' then ['\\', 'a']
  else if c = '\x08' then ['\\', 'b']
  else if c = '\x0c' then ['\\', 'f']
  else if c = '\n' then ['\\', 'n']
  else if c = '\r' then ['\\', 'r']
  else if c = '\t' then ['\\', 't']
  else if c = '\x0b' then ['\\', 'v']
  else if c.toNat < 0x20 ∨ c.toNat = 0x7f then ['\\', 'x'] ++ hex 2 c.toNat
  else if c.toNat < 0x10000 then ['\\', 'u'] ++ hex 4 c.toNat
  else ['\\', 'U'] ++ hex 8 c.toNat

def quote (table : Char → Bool) (text : List Char) : List Char :=
  quoted '"' (quoteEscape table) text

/-- The mark that `repr` puts around a text. -/
def reprMark (text : List Char) : Char := if '\'' ∈ text ∧ '"' ∉ text then '"' else '\''

/-- A character in the `repr` of a `str`. -/
def reprEscape (table : Char → Bool) (mark c : Char) : List Char :=
  if c = mark ∨ c = '\\' then ['\\', c]
  else if c = '\t' then ['\\', 't']
  else if c = '\n' then ['\\', 'n']
  else if c = '\r' then ['\\', 'r']
  else if isPrint table c then [c]
  else if c.toNat < 0x100 then ['\\', 'x'] ++ hex 2 c.toNat
  else if c.toNat < 0x10000 then ['\\', 'u'] ++ hex 4 c.toNat
  else ['\\', 'U'] ++ hex 8 c.toNat

def repr (table : Char → Bool) (text : List Char) : List Char :=
  quoted (reprMark text) (reprEscape table (reprMark text)) text

/-- A character in what `JSON.stringify` returns. -/
def stringifyEscape (c : Char) : List Char :=
  if c = '"' ∨ c = '\\' then ['\\', c]
  else if c = '\x08' then ['\\', 'b']
  else if c = '\t' then ['\\', 't']
  else if c = '\n' then ['\\', 'n']
  else if c = '\x0c' then ['\\', 'f']
  else if c = '\r' then ['\\', 'r']
  else if c.toNat < 0x20 then ['\\', 'u'] ++ hex 4 c.toNat
  else [c]

def stringify (text : List Char) : List Char := quoted '"' stringifyEscape text

/-! ## What they print alike -/

/-- What the languages print as it stands beyond ASCII. -/
structure Tables where
  rust : Char → Bool
  go : Char → Bool
  python : Char → Bool

/-- All print the character as it stands, or the same short escape for it.  The backslash, which all
escape alike, is one that `isPrint` has. -/
def Common (tables : Tables) (c : Char) : Prop :=
  c = '\t' ∨ c = '\n' ∨ c = '\r' ∨
    isPrint tables.rust c = true ∧ isPrint tables.go c = true ∧ isPrint tables.python c = true

/-- Python has cause to put the text between double quotes, and every character is common. -/
structure Uniform (tables : Tables) (text : List Char) : Prop where
  apostrophe : '\'' ∈ text
  mark : '"' ∉ text
  common : ∀ c ∈ text, Common tables c

/-- The four quote the text alike. -/
def QuotedAlike (tables : Tables) (text : List Char) : Prop :=
  quote tables.go text = debug tables.rust text ∧ repr tables.python text = debug tables.rust text ∧
    stringify text = debug tables.rust text

variable {tables : Tables} {table : Char → Bool} {c : Char} {text : List Char}

theorem isPrint_ascii (ascii : c.toNat < 0x80) :
    isPrint table c = true ↔ 0x20 ≤ c.toNat ∧ c.toNat < 0x7f := by
  simp [isPrint, ascii]

theorem toNat_of_isPrint (printed : isPrint table c = true) : 0x20 ≤ c.toNat := by
  by_cases ascii : c.toNat < 0x80
  · exact ((isPrint_ascii ascii).mp printed).1
  · omega

theorem ne_of_toNat {d : Char} (other : c.toNat ≠ d.toNat) : c ≠ d := fun same => other (same ▸ rfl)

/-- The escapes of what is no control character. -/
theorem escapes_above (table : Char → Bool) (above : 0x20 ≤ c.toNat) (backslash : c ≠ '\\')
    (mark : c ≠ '"') :
    debugEscape table c = (if isPrint table c then [c]
        else ['\\', 'u', '\x7b'] ++ hex 1 c.toNat ++ ['\x7d']) ∧
      stringifyEscape c = [c] ∧ (isPrint table c = true → quoteEscape table c = [c]) ∧
      (isPrint table c = true → reprEscape table '"' c = [c]) := by
  have low {d : Char} (small : d.toNat < 0x20) : c ≠ d := ne_of_toNat (by omega)
  have h0 := low (d := '\x00') (by decide)
  have h8 := low (d := '\x08') (by decide)
  have h9 := low (d := '\t') (by decide)
  have h10 := low (d := '\n') (by decide)
  have h12 := low (d := '\x0c') (by decide)
  have h13 := low (d := '\r') (by decide)
  have high : ¬ c.toNat < 0x20 := by omega
  have plain : ¬ (c = '"' ∨ c = '\\') := not_or.mpr ⟨mark, backslash⟩
  refine ⟨?_, ?_, fun printed => ?_, fun printed => ?_⟩
  · rw [debugEscape, if_neg h0, if_neg h9, if_neg h13, if_neg h10, if_neg plain]
  · rw [stringifyEscape, if_neg plain, if_neg h8, if_neg h9, if_neg h10, if_neg h12, if_neg h13,
      if_neg high]
  · rw [quoteEscape, if_neg plain, if_pos printed]
  · rw [reprEscape, if_neg plain, if_neg h9, if_neg h10, if_neg h13, if_pos printed]

/-- All four have the same escape for a common character other than the double quote. -/
theorem escape_common (common : Common tables c) (mark : c ≠ '"') :
    quoteEscape tables.go c = debugEscape tables.rust c ∧
      reprEscape tables.python '"' c = debugEscape tables.rust c ∧
      stringifyEscape c = debugEscape tables.rust c := by
  rcases common with rfl | rfl | rfl | ⟨rust, go, python⟩
  · exact ⟨rfl, rfl, rfl⟩
  · exact ⟨rfl, rfl, rfl⟩
  · exact ⟨rfl, rfl, rfl⟩
  · by_cases backslash : c = '\\'
    · subst backslash
      exact ⟨rfl, rfl, rfl⟩
    · have above := toNat_of_isPrint rust
      obtain ⟨debugs, -, -, -⟩ := escapes_above tables.rust above backslash mark
      obtain ⟨-, strings, quotes, -⟩ := escapes_above tables.go above backslash mark
      obtain ⟨-, -, -, reprs⟩ := escapes_above tables.python above backslash mark
      rw [debugs, if_pos rust]
      exact ⟨quotes go, reprs python, strings⟩

/-- Of a control character without a common escape, Go and Rust have escapes that part at the second
character. -/
theorem escape_control (control : c.toNat < 0x20 ∨ c.toNat = 0x7f) (tab : c ≠ '\t')
    (newline : c ≠ '\n') (return_ : c ≠ '\r') (rest rest' : List Char) :
    quoteEscape tables.go c ++ rest' ≠ debugEscape tables.rust c ++ rest := by
  have ascii : c.toNat < 0x80 := by omega
  have unprinted (table : Char → Bool) : isPrint table c = false := by
    rw [Bool.eq_false_iff, ne_eq, isPrint_ascii ascii]
    omega
  have mark : c ≠ '"' ∧ c ≠ '\\' := by
    constructor
    · exact ne_of_toNat (by simp; omega)
    · exact ne_of_toNat (by simp; omega)
  have plain : ¬ (c = '"' ∨ c = '\\') := not_or.mpr mark
  have hidden (table : Char → Bool) : ¬ isPrint table c = true := by simp [unprinted table]
  have rust : ∃ d tail, debugEscape tables.rust c = '\\' :: d :: tail ∧ d ∈ ['0', 'u'] := by
    rw [debugEscape, if_neg tab, if_neg return_, if_neg newline, if_neg plain, if_neg (hidden _)]
    split
    · exact ⟨'0', [], rfl, by simp⟩
    · exact ⟨'u', _, rfl, by simp⟩
  have go : ∃ d tail, quoteEscape tables.go c = '\\' :: d :: tail ∧
      d ∈ ['a', 'b', 'f', 'v', 'x'] := by
    rw [quoteEscape, if_neg plain, if_neg (hidden _), if_neg newline, if_neg return_, if_neg tab,
      if_pos control]
    split_ifs
    · exact ⟨'a', [], rfl, by simp⟩
    · exact ⟨'b', [], rfl, by simp⟩
    · exact ⟨'f', [], rfl, by simp⟩
    · exact ⟨'v', [], rfl, by simp⟩
    · exact ⟨'x', _, rfl, by simp⟩
  obtain ⟨d, tail, rust, inRust⟩ := rust
  obtain ⟨d', tail', go, inGo⟩ := go
  rw [rust, go]
  intro same
  obtain rfl : d' = d := (List.cons.inj (List.cons.inj same).2).1
  rcases List.mem_pair.mp inRust with rfl | rfl <;> simp at inGo

theorem backslash_ite {p : Prop} [Decidable p] {a b : List Char} (ha : ∃ tail, a = '\\' :: tail)
    (hb : ∃ tail, b = '\\' :: tail) : ∃ tail, (if p then a else b) = '\\' :: tail := by
  split_ifs
  · exact ha
  · exact hb

/-- What Go or Python does not print as it stands starts with a backslash. -/
theorem escape_hidden (hidden : ¬ isPrint table c = true) :
    (∃ tail, quoteEscape table c = '\\' :: tail) ∧
      ∃ tail, reprEscape table '"' c = '\\' :: tail := by
  constructor
  · rw [quoteEscape, if_neg hidden]
    repeat' apply backslash_ite
    all_goals exact ⟨_, rfl⟩
  · rw [reprEscape, if_neg hidden]
    repeat' apply backslash_ite
    all_goals exact ⟨_, rfl⟩

/-- Beyond ASCII, only what all print as it stands is escaped alike. -/
theorem escape_beyond (beyond : 0x80 ≤ c.toNat) {rest rest₁ rest₂ rest₃ : List Char}
    (go : quoteEscape tables.go c ++ rest₁ = debugEscape tables.rust c ++ rest)
    (python : reprEscape tables.python '"' c ++ rest₂ = debugEscape tables.rust c ++ rest)
    (typescript : stringifyEscape c ++ rest₃ = debugEscape tables.rust c ++ rest) :
    Common tables c := by
  have mark : c ≠ '"' := ne_of_toNat (by simp; omega)
  have backslash : c ≠ '\\' := ne_of_toNat (by simp; omega)
  obtain ⟨debugs, strings, -, -⟩ :=
    escapes_above tables.rust (by omega) backslash mark
  have rust : isPrint tables.rust c = true := by
    by_contra hidden
    rw [strings, debugs, if_neg hidden] at typescript
    exact backslash (List.cons.inj typescript).1
  rw [debugs, if_pos rust] at go python
  refine .inr (.inr (.inr ⟨rust, ?_, ?_⟩))
  · by_contra hidden
    obtain ⟨tail, starts⟩ := (escape_hidden hidden).1
    rw [starts] at go
    exact backslash (List.cons.inj go).1.symm
  · by_contra hidden
    obtain ⟨tail, starts⟩ := (escape_hidden hidden).2
    rw [starts] at python
    exact backslash (List.cons.inj python).1.symm

/-- Escaped texts are the same only if all their characters are common. -/
theorem common_of_escaped {rest rest₁ rest₂ rest₃ : List Char} (absent : '"' ∉ text)
    (go : text.flatMap (quoteEscape tables.go) ++ rest₁ =
      text.flatMap (debugEscape tables.rust) ++ rest)
    (python : text.flatMap (reprEscape tables.python '"') ++ rest₂ =
      text.flatMap (debugEscape tables.rust) ++ rest)
    (typescript : text.flatMap stringifyEscape ++ rest₃ =
      text.flatMap (debugEscape tables.rust) ++ rest) : ∀ c ∈ text, Common tables c := by
  induction text with
  | nil => simp
  | cons c text ih =>
    rw [List.mem_cons, not_or] at absent
    simp only [List.flatMap_cons, List.append_assoc] at go python typescript
    have common : Common tables c := by
      by_cases beyond : 0x80 ≤ c.toNat
      · exact escape_beyond beyond go python typescript
      by_contra rare
      simp only [Common, not_or] at rare
      obtain ⟨tab, newline, return_, hidden⟩ := rare
      refine escape_control ?_ tab newline return_ _ _ go
      by_contra plain
      have ascii : c.toNat < 0x80 := by omega
      exact hidden ⟨(isPrint_ascii ascii).mpr (by omega), (isPrint_ascii ascii).mpr (by omega),
        (isPrint_ascii ascii).mpr (by omega)⟩
    obtain ⟨sameGo, samePython, sameTypescript⟩ := escape_common common (Ne.symm absent.1)
    rw [sameGo] at go
    rw [samePython] at python
    rw [sameTypescript] at typescript
    exact List.forall_mem_cons.mpr ⟨common, ih absent.2 (List.append_cancel_left go)
      (List.append_cancel_left python) (List.append_cancel_left typescript)⟩

theorem flatMap_congr_of_common (absent : '"' ∉ text) (common : ∀ c ∈ text, Common tables c) :
    text.flatMap (quoteEscape tables.go) = text.flatMap (debugEscape tables.rust) ∧
      text.flatMap (reprEscape tables.python '"') = text.flatMap (debugEscape tables.rust) ∧
      text.flatMap stringifyEscape = text.flatMap (debugEscape tables.rust) := by
  have each (c : Char) (mem : c ∈ text) := escape_common (common c mem) fun same => absent (same ▸ mem)
  exact ⟨List.flatMap_congr fun c mem => (each c mem).1, List.flatMap_congr fun c mem => (each c mem).2.1,
    List.flatMap_congr fun c mem => (each c mem).2.2⟩

theorem quotedAlike_iff : QuotedAlike tables text ↔ Uniform tables text := by
  constructor
  · rintro ⟨go, python, typescript⟩
    have mark : reprMark text = '"' := (List.cons.inj python).1
    have cause : '\'' ∈ text ∧ '"' ∉ text := by
      by_contra other
      rw [reprMark, if_neg other] at mark
      revert mark
      decide
    refine ⟨cause.1, cause.2, ?_⟩
    unfold repr at python
    rw [mark] at python
    exact common_of_escaped cause.2 (List.cons.inj go).2 (List.cons.inj python).2
      (List.cons.inj typescript).2
  · rintro ⟨apostrophe, absent, common⟩
    have mark : reprMark text = '"' := if_pos ⟨apostrophe, absent⟩
    obtain ⟨go, python, typescript⟩ := flatMap_congr_of_common absent common
    refine ⟨?_, ?_, ?_⟩
    · rw [quote, debug, quoted, quoted, go]
    · rw [repr, mark, debug, quoted, quoted, python]
    · rw [stringify, debug, quoted, quoted, typescript]

end Quoting
