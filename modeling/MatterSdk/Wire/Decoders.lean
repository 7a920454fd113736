import MatterSdk.Lib.Text
import MatterSdk.Wire

/-!
# When the hex helpers agree

The four encoders write the same text.  Of the decoders, Go's refuses what the core's does; Python's
allows white space between the pairs, and TypeScript's reads anything of even length.
-/

namespace MatterSdk

/-! ## The encoders -/

/-- The digits of Go's `hextable` and of Python's `Py_hexdigits`. -/
def hexTable : List Char := "0123456789abcdef".toList

/-- The digits that a table gives for the two halves of a byte. -/
def tableDigits (b : UInt8) : List Char :=
  [hexTable.getD (b >>> 4).toNat '0', hexTable.getD (b &&& 0x0F).toNat '0']

namespace Go

def toHex (bytes : Bytes) : String := String.ofList ('0' :: 'x' :: bytes.flatMap tableDigits)

end Go

namespace Python

def toHex (bytes : Bytes) : String := String.ofList ('0' :: 'x' :: bytes.flatMap tableDigits)

end Python

namespace TypeScript

/-- `text.padStart(width, fill)`. -/
def padStart (width : ℕ) (fill : Char) (text : List Char) : List Char :=
  List.replicate (width - text.length) fill ++ text

/-- The loop of `toHex`, which appends to a string. -/
def toHex (bytes : Bytes) : String :=
  String.ofList (bytes.foldl (fun s b => s ++ padStart 2 '0' (Nat.toDigits 16 b.toNat)) ['0', 'x'])

end TypeScript

theorem tableDigits_eq (b : UInt8) :
    tableDigits b = [Hex.digitChar (b.toNat / 16), Hex.digitChar (b.toNat % 16)] := by
  have small : b.toNat < 256 := b.toNat_lt
  have table : ∀ d < 16, hexTable.getD d '0' = Hex.digitChar d := by decide
  have high : (b >>> 4).toNat = b.toNat / 16 := by
    rw [UInt8.toNat_shiftRight, Nat.shiftRight_eq_div_pow]
    rfl
  have low : (b &&& 0x0F).toNat = b.toNat % 16 := by
    rw [UInt8.toNat_and]
    exact Nat.and_two_pow_sub_one_eq_mod b.toNat 4
  rw [tableDigits, high, low, table _ (by omega), table _ (by omega)]

theorem digitChar_eq {d : ℕ} (small : d < 16) : Nat.digitChar d = Hex.digitChar d := by
  interval_cases d <;> rfl

theorem padStart_toDigits (b : UInt8) :
    TypeScript.padStart 2 '0' (Nat.toDigits 16 b.toNat) =
      [Hex.digitChar (b.toNat / 16), Hex.digitChar (b.toNat % 16)] := by
  have small : b.toNat < 256 := b.toNat_lt
  by_cases one : b.toNat < 16
  · rw [Nat.toDigits_of_lt_base one, Nat.div_eq_of_lt one, Nat.mod_eq_of_lt one, digitChar_eq one]
    rfl
  · have whole : 16 * (b.toNat / 16) + b.toNat % 16 = b.toNat := Nat.div_add_mod ..
    have high : b.toNat / 16 < 16 := by omega
    have low : b.toNat % 16 < 16 := by omega
    rw [← whole, ← Nat.toDigits_append_toDigits (by decide) (by omega) low,
      Nat.toDigits_of_lt_base high, Nat.toDigits_of_lt_base low, digitChar_eq high,
      digitChar_eq low, whole]
    rfl

theorem Go.toHex_eq (bytes : Bytes) : Go.toHex bytes = to0x bytes := by
  rw [Go.toHex, to0x, Hex.encode, funext tableDigits_eq]

theorem Python.toHex_eq (bytes : Bytes) : Python.toHex bytes = to0x bytes := Go.toHex_eq bytes

theorem TypeScript.toHex_eq (bytes : Bytes) : TypeScript.toHex bytes = to0x bytes := by
  have loop (text : List Char) :
      bytes.foldl (fun s b => s ++ padStart 2 '0' (Nat.toDigits 16 b.toNat)) text =
        text ++ Hex.encode bytes := by
    induction bytes generalizing text with
    | nil => exact (List.append_nil text).symm
    | cons b rest ih =>
      rw [List.foldl_cons, ih, padStart_toDigits, List.append_assoc]
      rfl
  rw [TypeScript.toHex, loop]
  rfl

/-! ## The Rust and the Go decoder -/

theorem strip0x_to0x (bytes : Bytes) : strip0x (to0x bytes) = Hex.encode bytes := by
  rw [strip0x, to0x, String.toList_ofList]
  rfl

theorem utf8_of_ascii {text : List Char} (ascii : ∀ c ∈ text, c.toNat < 128) :
    ∀ b ∈ utf8 text, b.toNat < 128 := by
  intro b inside
  obtain ⟨c, listed, byte⟩ := List.mem_flatMap.mp inside
  have plain := ascii c listed
  rw [Utf8.bytes_of_ascii plain, List.mem_singleton] at byte
  rw [byte, UInt8.toNat_ofNat']
  omega

/-- The characters of a text, which are the numbers that the Python decoder reads. -/
def codesOf (s : String) : List ℕ := (strip0x s).map Char.toNat

theorem spelled_eq (s : String) : spelled s = Hex.decode (codesOf s) := by
  apply Option.ext
  intro bytes
  rw [spelled]
  constructor
  · intro read
    have ascii : ∀ b ∈ utf8 (strip0x s), b.toNat < 128 := fun b inside =>
      Hex.lt_of_decode read b.toNat (List.mem_map_of_mem inside)
    rwa [(ascii_codes ascii).1] at read
  · intro read
    have ascii := utf8_of_ascii fun c inside =>
      Hex.lt_of_decode read c.toNat (List.mem_map_of_mem inside)
    rwa [(ascii_codes ascii).1]

theorem spelled_to0x (bytes : Bytes) : spelled (to0x bytes) = some bytes := by
  rw [spelled_eq, codesOf, strip0x_to0x, Hex.decode_encode]

theorem from0x_to0x (hex : HexCrate) (bytes : Bytes) : from0x hex (to0x bytes) = .ok bytes :=
  (from0x_ok_iff hex _ bytes).mpr (spelled_to0x bytes)

theorem toOption_from0x (hex : HexCrate) (s : String) :
    (from0x hex s).toOption = Hex.decode (codesOf s) := by
  rw [← spelled_eq]
  apply Option.ext
  intro bytes
  rw [← from0x_ok_iff hex]
  cases from0x hex s <;> simp [Except.toOption]

theorem Go.decode_of_hexPairs {text bytes : Bytes} (read : Go.hexPairs text = .ok bytes) :
    Hex.decode (text.map UInt8.toNat) = some bytes := by
  induction text using Hex.pairInduction generalizing bytes with
  | nil =>
    cases read
    rfl
  | single a =>
    rw [Go.hexPairs] at read
    split at read <;> cases read
  | pair a b rest ih =>
    rw [Go.hexPairs] at read
    cases ha : Hex.digitValue a.toNat with
    | none => simp [ha] at read
    | some x =>
      cases hb : Hex.digitValue b.toNat with
      | none => simp [ha, hb] at read
      | some y =>
        cases rest_read : Go.hexPairs rest with
        | error e => simp [ha, hb, rest_read, Except.map] at read
        | ok tail =>
          simp only [ha, hb, rest_read, Except.map, Except.ok.injEq] at read
          exact Hex.decode_cons_cons.2 ⟨x, y, tail, ha, hb, ih rest_read, read.symm⟩

/-- The Go decoder is as strict as the core's. -/
theorem Go.toOption_fromHex (s : String) : (Go.fromHex s).toOption = spelled s := by
  cases core : spelled s with
  | some bytes =>
    rw [(fromHex_of_wellFormed core).1]
    rfl
  | none =>
    cases read : Go.fromHex s with
    | error e' => rfl
    | ok bytes =>
      have core' : spelled s = some bytes := Go.decode_of_hexPairs read
      rw [core] at core'
      cases core'

/-! ## The Python decoder -/

/-- Pairs of digits with white space between them. -/
def SpacedPairs (codes : List ℕ) : Prop :=
  ∀ field ∈ Text.fields Python.isSpace codes, Hex.Pairs field

theorem forall_current_iff (current : List ℕ) :
    (∀ field ∈ (if current.isEmpty then [] else [current]), Hex.Pairs field) ↔
      Hex.Pairs current := by
  cases current with
  | nil => exact ⟨fun _ => ⟨rfl, List.forall_mem_nil _⟩, fun _ => List.forall_mem_nil _⟩
  | cons c rest => exact List.forall_mem_singleton

/-- Two digits more in front of a field leave it pairs of digits, or not. -/
theorem forall_fieldsFrom_iff {a b : ℕ} (ha : (Hex.digitValue a).isSome = true)
    (hb : (Hex.digitValue b).isSome = true) (current codes : List ℕ) :
    (∀ field ∈ Text.fieldsFrom Python.isSpace (a :: b :: current) codes, Hex.Pairs field) ↔
      ∀ field ∈ Text.fieldsFrom Python.isSpace current codes, Hex.Pairs field := by
  have first (current : List ℕ) : Hex.Pairs (a :: b :: current) ↔ Hex.Pairs current := by
    rw [Hex.pairs_cons_cons]
    exact ⟨fun pairs => pairs.2.2, fun pairs => ⟨ha, hb, pairs⟩⟩
  induction codes generalizing current with
  | nil =>
    rw [Text.fieldsFrom, Text.fieldsFrom, forall_current_iff, forall_current_iff, first]
  | cons c rest ih =>
    cases space : Python.isSpace c with
    | true =>
      rw [Text.fieldsFrom_sep _ rest space, Text.fieldsFrom_sep _ rest space,
        List.forall_mem_append, List.forall_mem_append, forall_current_iff, forall_current_iff,
        first]
    | false =>
      rw [Text.fieldsFrom_plain _ space, Text.fieldsFrom_plain _ space]
      exact ih (current ++ [c])

theorem not_isSpace_of_digit {c : ℕ} (digit : (Hex.digitValue c).isSome = true) :
    Python.isSpace c = false := by
  obtain ⟨x, digit⟩ := Option.isSome_iff_exists.mp digit
  have low := Hex.le_of_digitValue digit
  simp only [Python.isSpace, Bool.or_eq_false_iff, Bool.and_eq_false_iff, decide_eq_false_iff_not]
  omega

theorem not_pairs_single (c : ℕ) : ¬ Hex.Pairs [c] := fun pairs =>
  absurd (show 1 % 2 = 0 from pairs.1) (by decide)

/-- A character that is neither white space nor a digit spoils the text. -/
theorem not_spacedPairs {codes : List ℕ} {c : ℕ} (listed : c ∈ codes)
    (plain : Python.isSpace c = false) (other : Hex.digitValue c = none) : ¬ SpacedPairs codes := by
  intro pairs
  obtain ⟨field, found, inside⟩ := Text.exists_field listed plain
  have digit := (pairs field found).2 c inside
  rw [other] at digit
  cases digit

theorem Python.hexPairs_space {c : ℕ} (space : Python.isSpace c = true) (rest : List ℕ) :
    Python.hexPairs (c :: rest) = Python.hexPairs rest := by
  rw [Python.hexPairs.eq_def]
  exact if_pos space

theorem Python.hexPairs_pair {c d : ℕ} (plain : ¬ Python.isSpace c = true) (rest : List ℕ) :
    Python.hexPairs (c :: d :: rest) =
      (Hex.digitValue c).bind fun x => (Hex.digitValue d).bind fun y =>
        (Python.hexPairs rest).map (Hex.byteOf x y :: ·) := by
  rw [Python.hexPairs.eq_def]
  simp only [plain]
  cases Hex.digitValue c with
  | none => rfl
  | some x => cases Hex.digitValue d <;> rfl

/-- Two characters of which the second or the first is no digit begin no pair. -/
theorem not_spacedPairs_cons {c d : ℕ} {rest : List ℕ} (plain : Python.isSpace c = false)
    (bad : ∀ x y, Hex.digitValue c = some x → Hex.digitValue d = some y → False) :
    ¬ SpacedPairs (c :: d :: rest) := by
  cases hc : Hex.digitValue c with
  | none => exact not_spacedPairs (List.mem_cons_self ..) plain hc
  | some x =>
    have hd : Hex.digitValue d = none := by
      cases hd : Hex.digitValue d with
      | none => rfl
      | some y => exact absurd hd (bad x y hc)
    cases space : Python.isSpace d with
    | false => exact not_spacedPairs (List.mem_cons_of_mem _ (List.mem_cons_self ..)) space hd
    | true =>
      intro pairs
      refine not_pairs_single c (pairs [c] ?_)
      rw [Text.fields, Text.fieldsFrom_plain _ plain, Text.fieldsFrom_sep _ rest space]
      exact List.mem_append_left _ (List.mem_singleton_self _)

/-- A pair of digits in front changes nothing. -/
theorem spacedPairs_pair_iff {c d : ℕ} (digit_c : (Hex.digitValue c).isSome = true)
    (digit_d : (Hex.digitValue d).isSome = true) (rest : List ℕ) :
    SpacedPairs (c :: d :: rest) ↔ SpacedPairs rest := by
  have fields : Text.fields Python.isSpace (c :: d :: rest) =
      Text.fieldsFrom Python.isSpace [c, d] rest := by
    rw [Text.fields, Text.fieldsFrom_plain _ (not_isSpace_of_digit digit_c),
      Text.fieldsFrom_plain _ (not_isSpace_of_digit digit_d)]
    rfl
  rw [SpacedPairs, SpacedPairs, fields]
  exact forall_fieldsFrom_iff digit_c digit_d [] rest

/-- The Python decoder accepts pairs of digits, with white space between them. -/
theorem Python.exists_hexPairs_iff (codes : List ℕ) :
    (∃ bytes, Python.hexPairs codes = some bytes) ↔ SpacedPairs codes := by
  induction codes using Python.hexPairs.induct with
  | case1 => exact ⟨fun _ => List.forall_mem_nil _, fun _ => ⟨[], rfl⟩⟩
  | case2 c rest space ih =>
    rw [Python.hexPairs_space space, ih, SpacedPairs, SpacedPairs, Text.fields_cons space]
  | case3 c plain =>
    have plain := Bool.eq_false_iff.mpr plain
    have alone : [c] ∈ Text.fields Python.isSpace [c] := by
      rw [Text.fields_word (by simpa using plain) (List.cons_ne_nil c [])]
      exact List.mem_singleton_self _
    refine iff_of_false ?_ fun pairs => not_pairs_single c (pairs _ alone)
    rintro ⟨bytes, read⟩
    rw [Python.hexPairs.eq_def] at read
    simp [plain] at read
  | case4 c plain d rest x y hd hc ih =>
    have digit_c : (Hex.digitValue c).isSome = true := Option.isSome_iff_exists.mpr ⟨x, hc⟩
    have digit_d : (Hex.digitValue d).isSome = true := Option.isSome_iff_exists.mpr ⟨y, hd⟩
    have read : (∃ bytes, Python.hexPairs (c :: d :: rest) = some bytes) ↔
        ∃ bytes, Python.hexPairs rest = some bytes := by
      rw [Python.hexPairs_pair plain, hc, hd]
      cases Python.hexPairs rest <;> simp
    rw [read, ih, spacedPairs_pair_iff digit_c digit_d]
  | case5 c plain d rest bad =>
    refine iff_of_false ?_ (not_spacedPairs_cons (Bool.eq_false_iff.mpr plain) bad)
    rintro ⟨bytes, read⟩
    rw [Python.hexPairs_pair plain] at read
    obtain ⟨x, hc, read⟩ := Option.bind_eq_some_iff.mp read
    obtain ⟨y, hd, -⟩ := Option.bind_eq_some_iff.mp read
    exact bad x y hc hd

/-! ## All four -/

/-- The three other decoders accept the text iff the core's does, and return the same bytes. -/
structure DecodersAgree (hex : HexCrate) (s : String) : Prop where
  go : (Go.fromHex s).toOption = (from0x hex s).toOption
  python : Python.fromHex s = (from0x hex s).toOption
  typeScript : TypeScript.fromHex s = (from0x hex s).toOption

/-- The encoders write one text, which every decoder reads as the bytes. -/
structure EncodersAgree (hex : HexCrate) (bytes : Bytes) : Prop where
  go : Go.toHex bytes = to0x bytes
  python : Python.toHex bytes = to0x bytes
  typeScript : TypeScript.toHex bytes = to0x bytes
  rust_undone : from0x hex (to0x bytes) = .ok bytes
  go_undone : Go.fromHex (Go.toHex bytes) = .ok bytes
  python_undone : Python.fromHex (Python.toHex bytes) = some bytes
  typeScript_undone : TypeScript.fromHex (TypeScript.toHex bytes) = some bytes

theorem encodersAgree (hex : HexCrate) (bytes : Bytes) : EncodersAgree hex bytes := by
  obtain ⟨go, python, typeScript⟩ := fromHex_of_wellFormed (spelled_to0x bytes)
  exact {
    go := Go.toHex_eq bytes
    python := Python.toHex_eq bytes
    typeScript := TypeScript.toHex_eq bytes
    rust_undone := from0x_to0x hex bytes
    go_undone := by rw [Go.toHex_eq, go]
    python_undone := by rw [Python.toHex_eq, python]
    typeScript_undone := by rw [TypeScript.toHex_eq, typeScript] }

/-- The text is pairs of hex digits; or it has an odd number of UTF-16 units and is not pairs of hex
digits with ASCII white space between them. -/
def DecodedAlike (s : String) : Prop :=
  Hex.Pairs (codesOf s) ∨
    (TypeScript.utf16 (strip0x s)).length % 2 = 1 ∧ ¬ SpacedPairs (codesOf s)

theorem decodersAgree_iff (hex : HexCrate) (s : String) :
    DecodersAgree hex s ↔ DecodedAlike s := by
  have go : (Go.fromHex s).toOption = (from0x hex s).toOption := by
    rw [Go.toOption_fromHex, toOption_from0x, spelled_eq]
  have refused (other : ¬ Hex.Pairs (codesOf s)) : (from0x hex s).toOption = none := by
    rw [toOption_from0x, Option.eq_none_iff_forall_ne_some]
    exact fun bytes read => other ((Hex.exists_decode_iff _).mp ⟨bytes, read⟩)
  constructor
  · rintro ⟨-, python, typeScript⟩
    by_cases pairs : Hex.Pairs (codesOf s)
    · exact .inl pairs
    · rw [refused pairs] at python typeScript
      refine .inr ⟨?_, fun spaced => ?_⟩
      · by_contra even
        rw [TypeScript.fromHex, if_neg even] at typeScript
        cases typeScript
      · obtain ⟨bytes, read⟩ := (Python.exists_hexPairs_iff _).mpr spaced
        have read : Python.fromHex s = some bytes := read
        rw [python] at read
        cases read
  · intro alike
    by_cases pairs : Hex.Pairs (codesOf s)
    · obtain ⟨bytes, read⟩ := (Hex.exists_decode_iff _).mpr pairs
      have core : (from0x hex s).toOption = some bytes := (toOption_from0x hex s).trans read
      obtain ⟨-, python, typeScript⟩ := fromHex_of_wellFormed ((spelled_eq s).trans read)
      exact ⟨go, python.trans core.symm, typeScript.trans core.symm⟩
    · obtain ⟨odd, unspaced⟩ := alike.resolve_left pairs
      refine ⟨go, ?_, ?_⟩
      · rw [refused pairs, Option.eq_none_iff_forall_ne_some]
        exact fun bytes read => unspaced ((Python.exists_hexPairs_iff _).mp ⟨bytes, read⟩)
      · rw [refused pairs, TypeScript.fromHex, if_pos odd]

/-- The decoders agree on a text iff it is read alike, and the encoders agree on every byte string. -/
theorem hexHelpers_agree_iff (hex : HexCrate) (s : String) :
    (DecodersAgree hex s ↔ DecodedAlike s) ∧ ∀ bytes, EncodersAgree hex bytes :=
  ⟨decodersAgree_iff hex s, encodersAgree hex⟩

/-- The core refuses `zz`, which the TypeScript helper reads as a zero byte, and `ab cd`, of which the
Python helper reads two bytes. -/
theorem hexHelpers_disagree : ¬ DecodersAgree hexCrate "zz" ∧ ¬ DecodersAgree hexCrate "ab cd" := by
  constructor
  · intro agree
    exact absurd agree.typeScript (by decide)
  · intro agree
    exact absurd agree.python (by decide)

end MatterSdk
