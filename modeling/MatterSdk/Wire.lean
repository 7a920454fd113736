import Mathlib.Data.Int.Notation
import MatterSdk.Lib.Hex
import MatterSdk.Lib.Utf8

/-!
# The `/partial-decrypt` wire contract

Requests and answers of the committee nodes, and the hex helpers of the four clients: Rust `wire`,
Go `hexutil`, Python `hexutil` and TypeScript `util`.  The Rust and Go decoders read the bytes of a
string, the Python one its code points and the TypeScript one its UTF-16 units.
-/

namespace MatterSdk

abbrev Bytes := List UInt8

/-! ## Rust `wire` -/

/-- The bytes of a text in UTF-8. -/
def utf8 (text : List Char) : Bytes := text.flatMap String.utf8EncodeChar

/-- `s.strip_prefix("0x").unwrap_or(s)`, the same in every client. -/
def strip0x (s : String) : List Char :=
  match s.toList with
  | '0' :: 'x' :: rest => rest
  | text => text

def to0x (bytes : Bytes) : String := String.ofList ('0' :: 'x' :: Hex.encode bytes)

/-- Why the `hex` crate refuses a text. -/
inductive FromHexError where
  | oddLength
  | invalidHexCharacter (c : UInt8) (index : ℕ)
deriving DecidableEq, Repr

/-- The crate `hex`, whose decoder takes pairs of hex digits and nothing else. -/
structure HexCrate where
  decode : Bytes → Except FromHexError Bytes
  decode_ok_iff : ∀ text bytes,
    decode text = .ok bytes ↔ Hex.decode (text.map UInt8.toNat) = some bytes

/-- `from_0x`, less the field name its error carries. -/
def from0x (hex : HexCrate) (s : String) : Except FromHexError Bytes :=
  hex.decode (utf8 (strip0x s))

/-- The sixteen big-endian bytes of a `u128`. -/
def beBytes (n : BitVec 128) : Bytes :=
  (List.range 16).map fun i => UInt8.ofNat (n.toNat >>> (8 * (15 - i)) % 256)

def secretIdToHex (secretId : BitVec 128) : String := to0x (beBytes secretId)

/-- How a request is authenticated. -/
inductive AuthScheme where
  | substrate
  | ethereum
deriving DecidableEq, Repr

structure PartialDecryptRequest where
  secretId : String
  subset : List ℕ
  lagrangeCoeff : String
  requester : String
  blockHash : String
  signature : String
  auth : AuthScheme
  ethAddress : Option String
  validUntil : Option ℕ
  ethSignature : Option String
deriving DecidableEq, Repr

/-- A node's `/health` answer as the typed clients decode it, absent numbers being `0`. -/
structure Health where
  status : String
  epoch : ℕ
  cryptoProtocolVersion : ℕ
deriving DecidableEq, Repr

/-- The fields of a `/partial-decrypt` answer that a client reads. -/
structure PartialDecryptResponse where
  partialHex : String
  proof : String
  servedEpoch : ℕ
deriving DecidableEq, Repr

/-! ## The other clients' decoders -/

namespace Go

/-- The pairs of `hex.DecodeString`, which reports a lone last byte only after the pairs. -/
def hexPairs : Bytes → Except String Bytes
  | a :: b :: rest =>
    match Hex.digitValue a.toNat, Hex.digitValue b.toNat with
    | some x, some y => (hexPairs rest).map (Hex.byteOf x y :: ·)
    | _, _ => .error "encoding/hex: invalid byte"
  | [a] =>
    match Hex.digitValue a.toNat with
    | none => .error "encoding/hex: invalid byte"
    | some _ => .error "encoding/hex: odd length hex string"
  | [] => .ok []

def fromHex (s : String) : Except String Bytes := hexPairs (utf8 (strip0x s))

end Go

namespace Python

/-- The ASCII white space that `bytes.fromhex` skips between two pairs. -/
def isSpace (c : ℕ) : Bool := c = 32 || (9 ≤ c && c ≤ 13)

/-- The pairs of `bytes.fromhex`. -/
def hexPairs : List ℕ → Option Bytes
  | [] => some []
  | c :: rest =>
    if isSpace c then hexPairs rest
    else
      match rest with
      | [] => none
      | d :: rest' =>
        match Hex.digitValue c, Hex.digitValue d with
        | some x, some y => (hexPairs rest').map (Hex.byteOf x y :: ·)
        | _, _ => none

/-- `from_hex`; `none` is the `ValueError` of `bytes.fromhex`. -/
def fromHex (s : String) : Option Bytes := hexPairs ((strip0x s).map Char.toNat)

end Python

namespace TypeScript

/-- The UTF-16 units of a code point. -/
def utf16Char (c : Char) : List ℕ :=
  if c.toNat < 0x10000 then [c.toNat]
  else [0xD800 + (c.toNat - 0x10000) / 0x400, 0xDC00 + (c.toNat - 0x10000) % 0x400]

def utf16 (text : List Char) : List ℕ := text.flatMap utf16Char

/-- The white space that `parseInt` skips. -/
def isSpace (c : ℕ) : Bool :=
  (9 ≤ c && c ≤ 13) || c = 32 || c = 0xA0 || c = 0x1680 || (0x2000 ≤ c && c ≤ 0x200A) ||
    c = 0x2028 || c = 0x2029 || c = 0x202F || c = 0x205F || c = 0x3000 || c = 0xFEFF

/-- The sign of a number and what follows it. -/
def takeSign : List ℕ → ℤ × List ℕ
  | 45 :: rest => (-1, rest)
  | 43 :: rest => (1, rest)
  | rest => (1, rest)

/-- What follows the `0x` that `parseInt` allows for radix 16. -/
def dropRadix : List ℕ → List ℕ
  | 48 :: 120 :: rest => rest
  | 48 :: 88 :: rest => rest
  | rest => rest

/-- `parseInt(units, 16)`; `none` is `NaN`. -/
def parseInt16 (units : List ℕ) : Option ℤ :=
  let (sign, body) := takeSign (units.dropWhile isSpace)
  let digits := (dropRadix body).takeWhile fun c => (Hex.digitValue c).isSome
  if digits = [] then none
  else some (sign * (digits.foldl (fun n c => 16 * n + (Hex.digitValue c).getD 0) 0 : ℕ))

/-- What a `Uint8Array` keeps of a number. -/
def toUint8 : Option ℤ → UInt8
  | none => 0
  | some n => UInt8.ofNat (n % 256).toNat

/-- The loop over the pairs of units. -/
def hexPairs : List ℕ → Bytes
  | a :: b :: rest => toUint8 (parseInt16 [a, b]) :: hexPairs rest
  | _ => []

/-- `fromHex`; `none` is the `Error` for an odd length. -/
def fromHex (s : String) : Option Bytes :=
  let h := utf16 (strip0x s)
  if h.length % 2 = 1 then none else some (hexPairs h)

end TypeScript

/-! ## Texts that every decoder reads alike -/

/-- The bytes that a text spells in pairs of hex digits, after an optional `0x`. -/
def spelled (s : String) : Option Bytes := Hex.decode ((utf8 (strip0x s)).map UInt8.toNat)

def WellFormedHex (s : String) : Prop := ∃ bytes, spelled s = some bytes

theorem from0x_ok_iff (hex : HexCrate) (s : String) (bytes : Bytes) :
    from0x hex s = .ok bytes ↔ spelled s = some bytes := hex.decode_ok_iff _ _

theorem spelled_of_error {hex : HexCrate} {s : String} {source : FromHexError}
    (refused : from0x hex s = .error source) : spelled s = none := by
  apply Option.eq_none_iff_forall_ne_some.mpr
  intro bytes read
  rw [(from0x_ok_iff hex s bytes).mpr read] at refused
  cases refused

theorem Go.hexPairs_of_decode {text bytes : Bytes}
    (h : Hex.decode (text.map UInt8.toNat) = some bytes) : Go.hexPairs text = .ok bytes := by
  induction text using Hex.pairInduction generalizing bytes with
  | nil => simpa [Hex.decode, Go.hexPairs] using h
  | single a => simp [Hex.decode] at h
  | pair a b rest ih =>
    obtain ⟨x, y, tail, ha, hb, ht, rfl⟩ := Hex.decode_cons_cons.1 h
    simp [Go.hexPairs, ha, hb, ih ht, Except.map]

theorem Python.hexPairs_of_decode {codes : List ℕ} {bytes : Bytes}
    (h : Hex.decode codes = some bytes) : Python.hexPairs codes = some bytes := by
  induction codes using Hex.pairInduction generalizing bytes with
  | nil => simpa [Hex.decode, Python.hexPairs] using h
  | single a => simp [Hex.decode] at h
  | pair a b rest ih =>
    obtain ⟨x, y, tail, ha, hb, ht, rfl⟩ := Hex.decode_cons_cons.1 h
    have digit : Python.isSpace a = false := by
      simp only [Python.isSpace, Bool.or_eq_false_iff, Bool.and_eq_false_iff, decide_eq_false_iff_not]
      have := Hex.le_of_digitValue ha
      omega
    simp [Python.hexPairs, digit, ha, hb, ih ht]

/-- A pair of digits is read by `parseInt` as its byte. -/
theorem TypeScript.toUint8_pair {a b x y : ℕ} (ha : Hex.digitValue a = some x)
    (hb : Hex.digitValue b = some y) : toUint8 (parseInt16 [a, b]) = Hex.byteOf x y := by
  have la := Hex.le_of_digitValue ha
  have space : isSpace a = false := by
    simp only [isSpace, Bool.or_eq_false_iff, Bool.and_eq_false_iff, decide_eq_false_iff_not]
    omega
  have sign : takeSign [a, b] = (1, [a, b]) := by
    unfold takeSign
    split <;> simp_all
  have radix : dropRadix [a, b] = [a, b] := by
    unfold dropRadix
    split <;> simp_all [Hex.digitValue]
  have lx := (Hex.digitValue_lt ha).2
  have ly := (Hex.digitValue_lt hb).2
  simp only [parseInt16, List.dropWhile_cons, space, Bool.false_eq_true, if_false, sign, radix,
    List.takeWhile_cons, ha, hb, Option.isSome_some, if_true, List.takeWhile_nil, reduceCtorEq,
    List.foldl_cons, List.foldl_nil, Option.getD_some, toUint8, Hex.byteOf, Int.one_mul]
  congr 1
  omega

theorem TypeScript.hexPairs_of_decode {codes : List ℕ} {bytes : Bytes}
    (h : Hex.decode codes = some bytes) : TypeScript.hexPairs codes = bytes := by
  induction codes using Hex.pairInduction generalizing bytes with
  | nil => simpa [Hex.decode, TypeScript.hexPairs] using h
  | single a => simp [Hex.decode] at h
  | pair a b rest ih =>
    obtain ⟨x, y, tail, ha, hb, ht, rfl⟩ := Hex.decode_cons_cons.1 h
    rw [TypeScript.hexPairs, toUint8_pair ha hb, ih ht]

/-- A character beyond ASCII has a UTF-8 byte beyond ASCII. -/
theorem lt_of_utf8 {c : Char} (h : ∀ b ∈ String.utf8EncodeChar c, b.toNat < 128) :
    c.toNat < 128 := by
  by_contra large
  have high := Utf8.bytes_of_foreign (Nat.not_lt.1 large)
  cases bytes : String.utf8EncodeChar c with
  | nil => exact Utf8.bytes_ne_nil c bytes
  | cons b rest =>
    rw [bytes, List.forall_mem_cons] at h high
    omega

/-- Bytes, code points and UTF-16 units of an ASCII text are the same numbers. -/
theorem ascii_codes {text : List Char} (h : ∀ b ∈ utf8 text, b.toNat < 128) :
    (utf8 text).map UInt8.toNat = text.map Char.toNat ∧
      TypeScript.utf16 text = text.map Char.toNat := by
  induction text with
  | nil => exact ⟨rfl, rfl⟩
  | cons c rest ih =>
    simp only [utf8, List.flatMap_cons, List.mem_append] at h
    have small := lt_of_utf8 fun b hb => h b (Or.inl hb)
    obtain ⟨bytes, units⟩ := ih fun b hb => h b (Or.inr hb)
    have one := Utf8.bytes_of_ascii small
    constructor
    · simp only [utf8, List.flatMap_cons, one, List.map_append, List.map_cons, List.map_nil]
      rw [← bytes, UInt8.toNat_ofNat']
      simp only [utf8, List.singleton_append, List.cons.injEq, and_true]
      omega
    · simp only [TypeScript.utf16, List.flatMap_cons, TypeScript.utf16Char, List.map_cons]
      rw [if_pos (by omega), ← units]
      rfl

/-- The other clients read a well-formed text as the core does. -/
theorem fromHex_of_wellFormed {s : String} {bytes : Bytes} (h : spelled s = some bytes) :
    Go.fromHex s = .ok bytes ∧ Python.fromHex s = some bytes ∧
      TypeScript.fromHex s = some bytes := by
  have pairs : Hex.decode ((utf8 (strip0x s)).map UInt8.toNat) = some bytes := h
  have ascii : ∀ b ∈ utf8 (strip0x s), b.toNat < 128 := fun b hb =>
    Hex.lt_of_decode pairs b.toNat (List.mem_map_of_mem hb)
  obtain ⟨points, units⟩ := ascii_codes ascii
  refine ⟨Go.hexPairs_of_decode pairs, Python.hexPairs_of_decode (points ▸ pairs), ?_⟩
  have pairs' : Hex.decode (TypeScript.utf16 (strip0x s)) = some bytes := by
    rw [units, ← points, pairs]
  have even := Hex.decode_length pairs'
  unfold TypeScript.fromHex
  rw [if_neg (by omega), TypeScript.hexPairs_of_decode pairs']

/-! ## A decoder -/

/-- The pairs of a text of even length, the first one at `index`. -/
def hexPairs (index : ℕ) : Bytes → Except FromHexError Bytes
  | a :: b :: rest =>
    match Hex.digitValue a.toNat with
    | none => .error (.invalidHexCharacter a index)
    | some x =>
      match Hex.digitValue b.toNat with
      | none => .error (.invalidHexCharacter b (index + 1))
      | some y => (hexPairs (index + 2) rest).map (Hex.byteOf x y :: ·)
  | _ => .ok []

theorem hexPairs_toOption (text : Bytes) (even : text.length % 2 = 0) (index : ℕ) :
    (hexPairs index text).toOption = Hex.decode (text.map UInt8.toNat) := by
  induction text using Hex.pairInduction generalizing index with
  | nil => rfl
  | single a => simp at even
  | pair a b rest ih =>
    simp only [List.length_cons] at even
    rw [hexPairs, List.map_cons, List.map_cons, Hex.decode, ← ih (by omega) (index + 2)]
    cases Hex.digitValue a.toNat with
    | none => rfl
    | some x =>
      cases Hex.digitValue b.toNat with
      | none => rfl
      | some y => cases hexPairs (index + 2) rest <;> rfl

/-- A decoder that names the first character which is no digit. -/
def hexCrate : HexCrate where
  decode text := if text.length % 2 = 1 then .error .oddLength else hexPairs 0 text
  decode_ok_iff text bytes := by
    split_ifs with odd
    · simp only [false_iff]
      intro h
      have := Hex.decode_length h
      rw [List.length_map] at this
      omega
    · rw [← hexPairs_toOption text (by omega) 0]
      cases hexPairs 0 text <;> simp [Except.toOption]

end MatterSdk
