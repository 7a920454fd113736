import Mathlib.Data.Nat.Size
import MatterSdk.Lib.BigInt
import MatterSdk.Lib.Compact
import MatterSdk.Lib.DigitString
import MatterSdk.Wire.Decoders

/-!
# Secret ids

The Go client keeps a `u128` in two words of 64 bits.  Every form that it writes is read back, and a
text is read as the integer it denotes or refused.
-/

namespace MatterSdk

namespace Go

/-- A secret id, by its high and its low word. -/
structure SecretID where
  hi : BitVec 64
  lo : BitVec 64
deriving DecidableEq, Repr

/-- `binary.LittleEndian.PutUint64`. -/
def putUint64LE (v : BitVec 64) : Bytes := Compact.leBytes 8 v.toNat

/-- `binary.BigEndian.PutUint64`. -/
def putUint64BE (v : BitVec 64) : Bytes := (Compact.leBytes 8 v.toNat).reverse

/-- `binary.BigEndian.Uint64`. -/
def uint64BE (b : Bytes) : BitVec 64 := BitVec.ofNat 64 (Compact.ofLeBytes b.reverse)

/-- `SecretIDFromBytes`, of sixteen bytes. -/
def secretIDFromBytes (b : Bytes) : SecretID := ⟨uint64BE (b.take 8), uint64BE (b.drop 8)⟩

/-- `FillBytes` of a buffer of `size` bytes. -/
def fillBytes (size n : ℕ) : Bytes := (Compact.leBytes size n).reverse

/-- What stands behind `0x` and base 16, or all of it and base 10. -/
def cutRadix : Bytes → Bytes × ℕ
  | 48 :: 120 :: body => (body, 16)
  | s => (s, 10)

section

-- How a text is printed with `%q`.
variable (quote : Bytes → String)

def parseSecretID (s : Bytes) : Except String SecretID :=
  let s := Utf8.trimSpace s
  if s = [] then .error "empty secret id"
  else
    let (s, base) := cutRadix s
    match BigInt.setString s base with
    | none => .error ("invalid secret id " ++ quote s)
    | some n =>
      if n < 0 then .error ("invalid secret id " ++ quote s)
      else if 128 < n.natAbs.size then .error ("secret id " ++ quote s ++ " exceeds u128")
      else .ok (secretIDFromBytes (fillBytes 16 n.natAbs))

/-- What `UnmarshalText` leaves in its receiver, and the error. -/
def unmarshalText (receiver : SecretID) (b : Bytes) : SecretID × Option String :=
  match parseSecretID quote b with
  | .error e => (receiver, some e)
  | .ok parsed => (parsed, none)

end

namespace SecretID

variable (s : SecretID)

def bytes : Bytes := putUint64BE s.hi ++ putUint64BE s.lo

def leBytes : Bytes := putUint64LE s.lo ++ putUint64LE s.hi

def hex : String := toHex s.bytes

/-- `BigInt`, by `SetBytes`. -/
def bigInt : ℕ := Compact.ofLeBytes s.bytes.reverse

/-- The method `String`. -/
def string : String := String.ofList (Nat.toDigits 10 s.bigInt)

def marshalText : Bytes := utf8 s.string.toList

/-- The number that the two words stand for. -/
def value : ℕ := s.hi.toNat * 2 ^ 64 + s.lo.toNat

end SecretID

end Go

namespace TypeScript

/-- The loop of `secretIdToHex`, from the last byte to the first. -/
def idBytes : ℕ → ℤ → Bytes → Bytes
  | 0, _, bytes => bytes
  | i + 1, v, bytes => idBytes i (v / 256) (UInt8.ofNat (v % 256).toNat :: bytes)

/-- `secretIdToHex`; `none` is the `Error` for a number out of range. -/
def secretIdToHex (secretId : ℤ) : Option String :=
  if secretId < 0 ∨ 2 ^ 128 ≤ secretId then none else some (toHex (idBytes 16 secretId []))

end TypeScript

namespace Go

/-! ## Words and bytes -/

namespace SecretID

variable (s : SecretID)

theorem value_lt : s.value < 2 ^ 128 := by
  have high := s.hi.isLt
  have low := s.lo.isLt
  unfold value
  omega

theorem value_injective {s t : SecretID} (same : s.value = t.value) : s = t := by
  have low := s.lo.isLt
  have low' := t.lo.isLt
  unfold value at same
  have hi : s.hi = t.hi := BitVec.eq_of_toNat_eq (by omega)
  have lo : s.lo = t.lo := BitVec.eq_of_toNat_eq (by omega)
  cases s
  cases t
  rw [mk.injEq]
  exact ⟨hi, lo⟩

theorem leBytes_eq_reverse : s.leBytes = s.bytes.reverse := by
  rw [leBytes, bytes, List.reverse_append, putUint64BE, putUint64BE, List.reverse_reverse,
    List.reverse_reverse]
  rfl

theorem ofLeBytes_leBytes : Compact.ofLeBytes s.leBytes = s.value := by
  have word (v : BitVec 64) : Compact.ofLeBytes (putUint64LE v) = v.toNat :=
    Compact.ofLeBytes_leBytes v.isLt
  have length : (putUint64LE s.lo).length = 8 := Compact.length_leBytes 8 s.lo.toNat
  have size : 256 ^ 8 = 2 ^ 64 := by decide
  rw [leBytes, Compact.ofLeBytes_append, word, word, length, size, value, Nat.mul_comm,
    Nat.add_comm]

theorem length_leBytes : s.leBytes.length = 16 := by
  rw [leBytes, List.length_append, putUint64LE, putUint64LE, Compact.length_leBytes,
    Compact.length_leBytes]

/-- The bytes are those of the value. -/
theorem bytes_eq : s.bytes = fillBytes 16 s.value := by
  have word := Compact.leBytes_ofLeBytes s.leBytes
  rw [length_leBytes, ofLeBytes_leBytes] at word
  rw [fillBytes, word, leBytes_eq_reverse, List.reverse_reverse]

theorem bigInt_eq : s.bigInt = s.value := by
  rw [bigInt, ← leBytes_eq_reverse, ofLeBytes_leBytes]

end SecretID

theorem value_secretIDFromBytes {b : Bytes} (length : b.length = 16) :
    (secretIDFromBytes b).value = Compact.ofLeBytes b.reverse := by
  have high : (b.take 8).reverse.length = 8 := by
    rw [List.length_reverse, List.length_take, length]
    rfl
  have low : (b.drop 8).reverse.length = 8 := by
    rw [List.length_reverse, List.length_drop, length]
  have split : b.reverse = (b.drop 8).reverse ++ (b.take 8).reverse := by
    rw [← List.reverse_append, List.take_append_drop]
  have word {w : Bytes} (size : w.length = 8) : Compact.ofLeBytes w < 2 ^ 64 := by
    have bound := Compact.ofLeBytes_lt w
    rwa [size] at bound
  have size : 256 ^ 8 = 2 ^ 64 := by decide
  rw [split, Compact.ofLeBytes_append, low, size, SecretID.value, secretIDFromBytes, uint64BE,
    uint64BE, BitVec.toNat_ofNat, BitVec.toNat_ofNat, Nat.mod_eq_of_lt (word high),
    Nat.mod_eq_of_lt (word low), Nat.mul_comm, Nat.add_comm]

theorem value_fillBytes {n : ℕ} (small : n < 2 ^ 128) :
    (secretIDFromBytes (fillBytes 16 n)).value = n := by
  have length : (fillBytes 16 n).length = 16 := by
    rw [fillBytes, List.length_reverse, Compact.length_leBytes]
  rw [value_secretIDFromBytes length, fillBytes, List.reverse_reverse,
    Compact.ofLeBytes_leBytes small]

/-- Every number below `2 ^ 128` is the value of an id. -/
theorem exists_value {n : ℕ} (small : n < 2 ^ 128) : ∃ s : SecretID, s.value = n :=
  ⟨_, value_fillBytes small⟩

theorem secretIDFromBytes_bytes (s : SecretID) : secretIDFromBytes s.bytes = s := by
  apply SecretID.value_injective
  rw [s.bytes_eq, value_fillBytes s.value_lt]

/-! ## What a text is read as -/

/-- What `ParseSecretID` takes a text for: a signed decimal, or `0x` and a signed hexadecimal. -/
def Reads (text : Bytes) (z : ℤ) : Prop :=
  BigInt.Signed 10 text z ∨ ∃ body, text = 48 :: 120 :: body ∧ BigInt.Signed 16 body z

theorem not_signed_radix (body : Bytes) (z : ℤ) : ¬ BigInt.Signed 10 (48 :: 120 :: body) z := by
  have beyond : ¬ BigInt.digitOf 120 < 10 := by decide
  rintro ⟨digits, ⟨-, all⟩, ⟨rfl | same, -⟩ | ⟨same, -⟩⟩
  · exact beyond (all 120 (List.mem_cons_of_mem _ (List.mem_cons_self ..)))
  · exact absurd (List.cons.inj same).1 (by decide)
  · exact absurd (List.cons.inj same).1 (by decide)

theorem not_reads_nil (z : ℤ) : ¬ Reads [] z := by
  rintro (⟨digits, ⟨some_, -⟩, ⟨rfl | same, -⟩ | ⟨same, -⟩⟩ | ⟨body, same, -⟩)
  · exact some_ rfl
  · cases same
  · cases same
  · cases same

theorem reads_iff (text : Bytes) (z : ℤ) :
    Reads text z ↔ BigInt.Signed (cutRadix text).2 (cutRadix text).1 z := by
  unfold cutRadix
  split
  · rename_i body
    constructor
    · rintro (decimal | ⟨body', same, hex⟩)
      · exact absurd decimal (not_signed_radix body z)
      · rw [(List.cons.inj (List.cons.inj same).2).2]
        exact hex
    · exact fun hex => .inr ⟨body, rfl, hex⟩
  · rename_i other
    constructor
    · rintro (decimal | ⟨body, same, -⟩)
      · exact decimal
      · exact absurd same (other body)
    · exact .inl

theorem radix_le (text : Bytes) : (cutRadix text).2 ≤ 36 := by
  unfold cutRadix
  split
  · exact (by decide : 16 ≤ 36)
  · exact (by decide : 10 ≤ 36)

section

variable (quote : Bytes → String)

/-- The texts that are read are those taken for the value of an id. -/
theorem parseSecretID_eq_ok_iff (text : Bytes) (s : SecretID) :
    parseSecretID quote text = .ok s ↔ Reads (Utf8.trimSpace text) s.value := by
  by_cases empty : Utf8.trimSpace text = []
  · rw [parseSecretID]
    simp only [empty, if_true, reduceCtorEq, false_iff]
    exact not_reads_nil _
  rw [reads_iff, ← BigInt.setString_eq_some_iff (radix_le _)]
  have size (n : ℕ) : 128 < n.size ↔ 2 ^ 128 ≤ n := by
    rw [← Nat.not_le, Nat.size_le, Nat.not_lt]
  rw [parseSecretID]
  simp only [empty, if_false]
  cases read : BigInt.setString (cutRadix (Utf8.trimSpace text)).1 (cutRadix (Utf8.trimSpace text)).2 with
  | none => simp only [reduceCtorEq]
  | some n =>
    simp only [size, Option.some.injEq]
    by_cases negative : n < 0
    · rw [if_pos negative]
      simp only [reduceCtorEq, false_iff]
      omega
    rw [if_neg negative]
    by_cases large : 2 ^ 128 ≤ n.natAbs
    · rw [if_pos large]
      have bound := s.value_lt
      simp only [reduceCtorEq, false_iff]
      omega
    rw [if_neg large, Except.ok.injEq]
    have back := value_fillBytes (Nat.not_le.mp large)
    constructor
    · rintro rfl
      rw [back]
      omega
    · rintro rfl
      rw [Int.natAbs_natCast] at back ⊢
      exact SecretID.value_injective back

end

/-! ## The forms of an id -/

theorem utf8_cons {c : Char} (ascii : c.toNat < 128) (text : List Char) :
    utf8 (c :: text) = UInt8.ofNat c.toNat :: utf8 text := by
  show String.utf8EncodeChar c ++ utf8 text = _
  rw [Utf8.bytes_of_ascii ascii]
  rfl

theorem utf8_eq_map {text : List Char} (ascii : ∀ c ∈ text, c.toNat < 128) :
    utf8 text = text.map fun c => UInt8.ofNat c.toNat := by
  induction text with
  | nil => rfl
  | cons c rest ih =>
    rw [List.forall_mem_cons] at ascii
    rw [utf8_cons ascii.1, List.map_cons, ih ascii.2]

theorem trimSpace_utf8 {text : List Char} (plain : ∀ c ∈ text, Text.isWhiteSpace c = false) :
    Utf8.trimSpace (utf8 text) = utf8 text := by
  show Utf8.trimSpace (Utf8.encode text) = Utf8.encode text
  rw [Utf8.trimSpace_encode, Text.trim_eq_self plain]

theorem digitOf_decimal {c : Char} (digit : c.isDigit = true) :
    BigInt.digitOf (UInt8.ofNat c.toNat) = c.toNat - '0'.toNat := by
  obtain ⟨low, high⟩ := Char.isDigit_iff_toNat.mp digit
  have low : 48 ≤ c.toNat := low
  have high : c.toNat ≤ 57 := high
  rw [BigInt.digitOf, UInt8.toNat_ofNat', Nat.mod_eq_of_lt (by omega), if_pos ⟨low, high⟩]
  rfl

theorem value_decimal {text : List Char} (digits : DigitString.IsDigits text) :
    BigInt.value 10 (text.map fun c => UInt8.ofNat c.toNat) = DigitString.value text := by
  induction text with
  | nil => rfl
  | cons c rest ih =>
    rw [List.map_cons, BigInt.value_cons, List.length_map, ih digits.of_cons.2,
      digitOf_decimal digits.of_cons.1, DigitString.value_cons]

theorem ascii_of_isDigit {c : Char} (digit : c.isDigit = true) : c.toNat < 128 := by
  have high : c.toNat ≤ 57 := (Char.isDigit_iff_toNat.mp digit).2
  omega

theorem signed_decimal (n : ℕ) : BigInt.Signed 10 (utf8 (Nat.toDigits 10 n)) n := by
  have digits : DigitString.IsDigits (Nat.toDigits 10 n) := fun c inside =>
    Nat.isDigit_of_mem_toDigits (by decide) (by decide) inside
  have bytes := utf8_eq_map fun c inside => ascii_of_isDigit (digits c inside)
  refine ⟨_, ⟨?_, ?_⟩, .inl ⟨.inl rfl, ?_⟩⟩
  · rw [bytes]
    exact fun none_ => Nat.toDigits_ne_nil (List.map_eq_nil_iff.mp none_)
  · rw [bytes, List.forall_mem_map]
    intro c inside
    rw [digitOf_decimal (digits c inside)]
    exact DigitString.digit_lt (digits c inside)
  · rw [bytes, value_decimal digits, DigitString.value, Nat.ofDigitChars_ten_toDigits]

theorem digitOf_hex {d : ℕ} (small : d < 16) :
    BigInt.digitOf (UInt8.ofNat (Hex.digitChar d).toNat) = d := by
  have code := Hex.toNat_digitChar small
  rw [BigInt.digitOf, UInt8.toNat_ofNat', Nat.mod_eq_of_lt (by split at code <;> omega), code]
  split_ifs <;> omega

theorem value_hex (bytes : Bytes) :
    BigInt.value 16 ((Hex.encode bytes).map fun c => UInt8.ofNat c.toNat) =
      Compact.ofLeBytes bytes.reverse := by
  induction bytes with
  | nil => rfl
  | cons b rest ih =>
    have small : b.toNat < 256 := b.toNat_lt
    have square : 16 ^ (2 * rest.length) = 256 ^ rest.length := by
      rw [Nat.pow_mul]
    have whole : 16 * (b.toNat / 16) + b.toNat % 16 = b.toNat := Nat.div_add_mod ..
    have digits : Hex.encode (b :: rest) = Hex.digitChar (b.toNat / 16) ::
        Hex.digitChar (b.toNat % 16) :: Hex.encode rest := rfl
    have byte : Compact.ofLeBytes [b] = b.toNat := rfl
    rw [digits, List.map_cons, List.map_cons, BigInt.value_cons, BigInt.value_cons, ih,
      digitOf_hex (by omega), digitOf_hex (by omega), List.length_cons, List.length_map,
      Hex.length_encode, Nat.pow_succ, square, List.reverse_cons, Compact.ofLeBytes_append, byte,
      List.length_reverse]
    calc
      _ = (16 * (b.toNat / 16) + b.toNat % 16) * 256 ^ rest.length +
          Compact.ofLeBytes rest.reverse := by ring
      _ = _ := by rw [whole]; ring

theorem ascii_of_digitChar {d : ℕ} (small : d < 16) : (Hex.digitChar d).toNat < 128 := by
  rw [Hex.toNat_digitChar small]
  split <;> omega

theorem signed_hex {bytes : Bytes} (some_ : bytes ≠ []) :
    BigInt.Signed 16 (utf8 (Hex.encode bytes)) (Compact.ofLeBytes bytes.reverse) := by
  have digit {c : Char} (inside : c ∈ Hex.encode bytes) : ∃ d < 16, c = Hex.digitChar d :=
    Hex.exists_of_mem_encode inside
  have mapped : utf8 (Hex.encode bytes) = (Hex.encode bytes).map fun c => UInt8.ofNat c.toNat := by
    apply utf8_eq_map
    intro c inside
    obtain ⟨d, small, rfl⟩ := digit inside
    exact ascii_of_digitChar small
  refine ⟨_, ⟨?_, ?_⟩, .inl ⟨.inl rfl, ?_⟩⟩
  · rw [mapped, Ne, List.map_eq_nil_iff, ← List.length_eq_zero_iff, Hex.length_encode]
    have length := List.length_pos_iff.mpr some_
    omega
  · rw [mapped, List.forall_mem_map]
    intro c inside
    obtain ⟨d, small, rfl⟩ := digit inside
    rw [digitOf_hex small]
    exact small
  · rw [mapped, value_hex]

theorem not_whiteSpace_of_digitChar {d : ℕ} (small : d < 16) :
    Text.isWhiteSpace (Hex.digitChar d) = false := by
  have code := Hex.toNat_digitChar small
  simp only [Text.isWhiteSpace, Bool.or_eq_false_iff, Bool.and_eq_false_iff,
    decide_eq_false_iff_not]
  split at code <;> omega

theorem beBytes_eq (n : BitVec 128) : beBytes n = fillBytes 16 n.toNat := by
  rw [fillBytes, Compact.reverse_leBytes, beBytes]
  apply List.map_congr_left
  intro i inside
  have place : 2 ^ (8 * (15 - i)) = 256 ^ (15 - i) := by rw [Nat.pow_mul]
  apply UInt8.toNat_inj.mp
  rw [UInt8.toNat_ofNat', UInt8.toNat_ofNat', Nat.mod_mod, Nat.shiftRight_eq_div_pow, place]

theorem idBytes_eq (k : ℕ) {v : ℤ} {n : ℕ} (same : v = n) (bytes : Bytes) :
    TypeScript.idBytes k v bytes = (Compact.leBytes k n).reverse ++ bytes := by
  induction k generalizing v n bytes with
  | zero => rfl
  | succ k ih =>
    have low : (v % 256).toNat = n % 256 := by omega
    have byte : UInt8.ofNat (n % 256) = UInt8.ofNat n := by
      apply UInt8.toNat_inj.mp
      rw [UInt8.toNat_ofNat', UInt8.toNat_ofNat', Nat.mod_mod]
    have rest : v / 256 = (n / 256 : ℕ) := by omega
    rw [TypeScript.idBytes, ih rest, low, byte, Compact.leBytes, List.reverse_cons,
      List.append_assoc]
    rfl

namespace SecretID

variable (quote : Bytes → String) (s : SecretID)

theorem parse_string : parseSecretID quote (utf8 s.string.toList) = .ok s := by
  have plain : ∀ c ∈ s.string.toList, Text.isWhiteSpace c = false := by
    rw [string, String.toList_ofList]
    intro c inside
    have digit := Nat.isDigit_of_mem_toDigits (by decide) (by decide) inside
    have narrow := Text.not_wide_of_isDigit digit
    rw [Bool.eq_false_iff] at narrow ⊢
    exact fun space => narrow (Text.wide_of_whiteSpace space)
  rw [parseSecretID_eq_ok_iff, trimSpace_utf8 plain, string, String.toList_ofList, s.bigInt_eq]
  exact .inl (signed_decimal s.value)

theorem parse_hex : parseSecretID quote (utf8 s.hex.toList) = .ok s := by
  have text : s.hex.toList = '0' :: 'x' :: Hex.encode s.bytes := by
    rw [hex, toHex_eq, to0x, String.toList_ofList]
  have plain : ∀ c ∈ s.hex.toList, Text.isWhiteSpace c = false := by
    rw [text, List.forall_mem_cons, List.forall_mem_cons]
    refine ⟨by decide, by decide, fun c inside => ?_⟩
    obtain ⟨d, small, rfl⟩ := Hex.exists_of_mem_encode inside
    exact not_whiteSpace_of_digitChar small
  have some_ : s.bytes ≠ [] := by
    have length := s.length_leBytes
    rw [leBytes_eq_reverse, List.length_reverse] at length
    exact List.length_pos_iff.mp (by omega)
  have value_eq : Compact.ofLeBytes s.bytes.reverse = s.value := s.bigInt_eq
  rw [parseSecretID_eq_ok_iff, trimSpace_utf8 plain, text, ← value_eq, utf8_cons (by decide),
    utf8_cons (by decide)]
  exact .inr ⟨_, rfl, signed_hex some_⟩

theorem hex_eq : s.hex = MatterSdk.secretIdToHex (BitVec.ofNat 128 s.value) := by
  rw [hex, toHex_eq, MatterSdk.secretIdToHex, beBytes_eq, BitVec.toNat_ofNat,
    Nat.mod_eq_of_lt s.value_lt, bytes_eq]

theorem secretIdToHex_value : TypeScript.secretIdToHex s.value = some s.hex := by
  have bound := s.value_lt
  rw [TypeScript.secretIdToHex, if_neg (by omega), idBytes_eq 16 rfl, List.append_nil,
    TypeScript.toHex_eq, hex, toHex_eq, bytes_eq]
  rfl

end SecretID

/-! ## What a text denotes -/

/-- A decimal integer, or `0x` and hexadecimal digits, with an optional sign in front. -/
def Denotes (text : Bytes) (z : ℤ) : Prop :=
  BigInt.Signed 10 text z ∨
    ∃ digits, BigInt.IsNumeral 16 digits ∧
      (((text = 48 :: 120 :: digits ∨ text = 43 :: 48 :: 120 :: digits) ∧
          z = BigInt.value 16 digits) ∨
        (text = 45 :: 48 :: 120 :: digits ∧ z = -BigInt.value 16 digits))

/-- `0x` with a sign behind it: a plus and the digits of an id, or a minus and those of zero. -/
def SignBehindRadix (text : Bytes) : Prop :=
  ∃ digits, BigInt.IsNumeral 16 digits ∧
    ((text = 48 :: 120 :: 43 :: digits ∧ BigInt.value 16 digits < 2 ^ 128) ∨
      (text = 48 :: 120 :: 45 :: digits ∧ BigInt.value 16 digits = 0))

/-- What stands behind `0x` denotes nothing unless it is a digit. -/
theorem not_denotes_radix {c : UInt8} (beyond : ¬ BigInt.digitOf c < 16) (rest : Bytes) (z : ℤ) :
    ¬ Denotes (48 :: 120 :: c :: rest) z := by
  rintro (decimal | ⟨digits, ⟨-, all⟩, ⟨same | same, -⟩ | ⟨same, -⟩⟩)
  · exact not_signed_radix _ z decimal
  · have behind : c :: rest = digits := (List.cons.inj (List.cons.inj same).2).2
    apply beyond
    apply all
    rw [← behind]
    exact List.mem_cons_self ..
  · exact absurd (List.cons.inj same).1 (by decide)
  · exact absurd (List.cons.inj same).1 (by decide)

theorem not_denotes_of_signBehindRadix {text : Bytes} (behind : SignBehindRadix text) (z : ℤ) :
    ¬ Denotes text z := by
  obtain ⟨digits, -, ⟨rfl, -⟩ | ⟨rfl, -⟩⟩ := behind
  · exact not_denotes_radix (by decide) digits z
  · exact not_denotes_radix (by decide) digits z

/-- A sign behind `0x` is read nevertheless. -/
theorem exists_reads_of_signBehindRadix {text : Bytes} (behind : SignBehindRadix text) :
    ∃ s : SecretID, Reads text s.value := by
  obtain ⟨digits, numeral, ⟨rfl, small⟩ | ⟨rfl, zero⟩⟩ := behind
  · obtain ⟨s, value_eq⟩ := exists_value small
    exact ⟨s, .inr ⟨_, rfl, digits, numeral, .inl ⟨.inr rfl, by rw [value_eq]⟩⟩⟩
  · obtain ⟨s, value_eq⟩ := exists_value (n := 0) (by decide)
    exact ⟨s, .inr ⟨_, rfl, digits, numeral, .inr ⟨rfl, by rw [value_eq, zero]; rfl⟩⟩⟩

/-- Every other text denotes what it is taken for. -/
theorem denotes_of_reads {text : Bytes} {s : SecretID} (front : ¬ SignBehindRadix text)
    (read : Reads text s.value) : Denotes text s.value := by
  obtain decimal | ⟨body, rfl, digits, numeral, ⟨rfl | rfl, same⟩ | ⟨rfl, same⟩⟩ := read
  · exact .inl decimal
  · exact .inr ⟨body, numeral, .inl ⟨.inl rfl, same⟩⟩
  · have small := s.value_lt
    exact absurd ⟨digits, numeral, .inl ⟨rfl, by omega⟩⟩ front
  · exact absurd ⟨digits, numeral, .inr ⟨rfl, by omega⟩⟩ front

/-- An id is read back from each of its forms, and a failed `UnmarshalText` leaves its receiver
alone.  A text is read as what it denotes or not at all, exactly if no sign stands behind `0x`. -/
theorem secretID_faithful_iff (quote : Bytes → String) :
    (∀ n, n < 2 ^ 128 → ∃ s : SecretID, s.value = n) ∧
    (∀ s : SecretID,
      parseSecretID quote (utf8 s.string.toList) = .ok s ∧
      parseSecretID quote (utf8 s.hex.toList) = .ok s ∧
      secretIDFromBytes s.bytes = s ∧
      (∀ receiver, unmarshalText quote receiver s.marshalText = (s, none)) ∧
      s.leBytes = s.bytes.reverse ∧
      s.hex = MatterSdk.secretIdToHex (BitVec.ofNat 128 s.value) ∧
      TypeScript.secretIdToHex s.value = some s.hex) ∧
    (∀ text, (∀ s, parseSecretID quote text = .ok s →
      Denotes (Utf8.trimSpace text) s.value ∧ s.value < 2 ^ 128) ↔
        ¬ SignBehindRadix (Utf8.trimSpace text)) ∧
    (∀ receiver text e, (unmarshalText quote receiver text).2 = some e →
      (unmarshalText quote receiver text).1 = receiver) := by
  refine ⟨fun n => exists_value, fun s => ⟨s.parse_string quote, s.parse_hex quote,
    secretIDFromBytes_bytes s, fun receiver => ?_, s.leBytes_eq_reverse, s.hex_eq,
    s.secretIdToHex_value⟩, fun text => ⟨fun faithful behind => ?_, fun front s parsed => ?_⟩,
    fun receiver text e failed => ?_⟩
  · rw [unmarshalText, SecretID.marshalText, s.parse_string quote]
  · obtain ⟨s, read⟩ := exists_reads_of_signBehindRadix behind
    have parsed := (parseSecretID_eq_ok_iff quote text s).mpr read
    exact not_denotes_of_signBehindRadix behind _ (faithful s parsed).1
  · exact ⟨denotes_of_reads front ((parseSecretID_eq_ok_iff quote text s).mp parsed), s.value_lt⟩
  · unfold unmarshalText at failed ⊢
    cases read : parseSecretID quote text with
    | error e' => rfl
    | ok parsed =>
      rw [read] at failed
      cases failed

/-- `0x+5`. -/
def plusBehind : Bytes := [48, 120, 43, 53]

/-- `0x-0`. -/
def minusBehind : Bytes := [48, 120, 45, 48]

theorem trimSpace_plusBehind : Utf8.trimSpace plusBehind = plusBehind := by decide

theorem trimSpace_minusBehind : Utf8.trimSpace minusBehind = minusBehind := by decide

/-- They are read as 5 and as 0, and denote no integer. -/
theorem signBehindRadix_misread :
    ((∀ quote, parseSecretID quote plusBehind = .ok ⟨0, 5⟩) ∧
      ∀ z, ¬ Denotes (Utf8.trimSpace plusBehind) z) ∧
    ((∀ quote, parseSecretID quote minusBehind = .ok ⟨0, 0⟩) ∧
      ∀ z, ¬ Denotes (Utf8.trimSpace minusBehind) z) := by
  refine ⟨⟨fun quote => ?_, ?_⟩, ⟨fun quote => ?_, ?_⟩⟩
  · rw [parseSecretID, trimSpace_plusBehind]
    rfl
  · rw [trimSpace_plusBehind]
    exact not_denotes_radix (by decide) _
  · rw [parseSecretID, trimSpace_minusBehind]
    rfl
  · rw [trimSpace_minusBehind]
    exact not_denotes_radix (by decide) _

end Go

end MatterSdk
