import MatterSdk.Chain.Extrinsic
import MatterSdk.Chain.Mode

/-!
# The chain's answer about a key

The Go client decodes an `Option` of a principal and a scope set.  It takes every tag but zero for a
`Some`, and reads no further than the scope set.
-/

namespace MatterSdk.Go

def agentKeyStateCall : String := "BudgetsApi_agent_key"

/-- The decoder of the SCALE library, as far as it is used here: it reads a byte, an array of 32 bytes
and a `u32`, and fails where bytes are missing. -/
structure ScaleDecoder where
  readOneByte : Reader String UInt8 UInt8
  decodeArray : Reader String UInt8 Bytes
  decodeU32 : Reader String UInt8 (BitVec 32)
  reads_byte : ∀ b, Reader.Decodes readOneByte [b] b
  reads_array : ∀ word : Bytes, word.length = 32 → Reader.Decodes decodeArray word word
  reads_u32 : ∀ n, Reader.Decodes decodeU32 (u32le n) n

variable (d : ScaleDecoder)

def decodeAgentKey (raw : Bytes) : Except String (Option Delegation) :=
  match d.readOneByte raw with
  | .error e => .error (agentKeyStateCall ++ ": reading the Option tag: " ++ e)
  | .ok (tag, rest) =>
    if tag = 0 then .ok none
    else
      match d.decodeArray rest with
      | .error e => .error (agentKeyStateCall ++ ": decoding the principal: " ++ e)
      | .ok (principal, rest) =>
        match d.decodeU32 rest with
        | .error e => .error (agentKeyStateCall ++ ": decoding the scope set: " ++ e)
        | .ok (bits, _) => .ok (some ⟨principal, ⟨bits⟩⟩)

/-! ## What is read -/

theorem exists_u32le {word : Bytes} (length : word.length = 4) : ∃ n, u32le n = word := by
  have small : Compact.ofLeBytes word < 2 ^ 32 := by
    have bound := Compact.ofLeBytes_lt word
    rwa [length] at bound
  refine ⟨BitVec.ofNat 32 (Compact.ofLeBytes word), ?_⟩
  rw [u32le, BitVec.toNat_ofNat, Nat.mod_eq_of_lt small, ← length]
  exact Compact.leBytes_ofLeBytes word

theorem length_u32le (n : BitVec 32) : (u32le n).length = 4 := Compact.length_leBytes 4 n.toNat

theorem decodeAgentKey_nil : ∃ e, decodeAgentKey d [] = .error e := by
  obtain ⟨e, failed⟩ := (d.reads_byte 0).refuses [] [0] rfl (List.cons_ne_nil _ _)
  rw [decodeAgentKey, failed]
  exact ⟨_, rfl⟩

theorem decodeAgentKey_zero (rest : Bytes) : decodeAgentKey d (0 :: rest) = .ok none := by
  have tag := (d.reads_byte 0).takes rest
  rw [List.singleton_append] at tag
  rw [decodeAgentKey, tag]
  rfl

/-- Any other tag, a principal and a scope set are read, whatever follows. -/
theorem decodeAgentKey_some {tag : UInt8} (nonzero : tag ≠ 0) {principal : Bytes}
    (length : principal.length = 32) (bits : BitVec 32) (rest : Bytes) :
    decodeAgentKey d (tag :: (principal ++ (u32le bits ++ rest))) =
      .ok (some ⟨principal, ⟨bits⟩⟩) := by
  have first := (d.reads_byte tag).takes (principal ++ (u32le bits ++ rest))
  rw [List.singleton_append] at first
  have second := (d.reads_array principal length).takes (u32le bits ++ rest)
  have third := (d.reads_u32 bits).takes rest
  rw [decodeAgentKey, first]
  simp only [if_neg nonzero, second, third]

theorem exists_of_length {rest : Bytes} (enough : 36 ≤ rest.length) :
    ∃ principal bits after, rest = principal ++ (u32le bits ++ after) ∧ principal.length = 32 ∧
      after.length = rest.length - 36 := by
  have length : ((rest.drop 32).take 4).length = 4 := by
    rw [List.length_take, List.length_drop]
    omega
  obtain ⟨bits, word⟩ := exists_u32le length
  refine ⟨rest.take 32, bits, (rest.drop 32).drop 4, ?_, ?_, ?_⟩
  · rw [word, List.take_append_drop, List.take_append_drop]
  · rw [List.length_take]
    omega
  · rw [List.length_drop, List.length_drop]
    omega

/-- A `Some` that is cut short is refused. -/
theorem decodeAgentKey_short {tag : UInt8} (nonzero : tag ≠ 0) {rest : Bytes}
    (short : rest.length < 36) : ∃ e, decodeAgentKey d (tag :: rest) = .error e := by
  have first := (d.reads_byte tag).takes rest
  rw [List.singleton_append] at first
  by_cases principal : rest.length < 32
  · have whole : (rest ++ List.replicate (32 - rest.length) 0).length = 32 := by
      rw [List.length_append, List.length_replicate]
      omega
    have missing : List.replicate (32 - rest.length) (0 : UInt8) ≠ [] := by
      rw [Ne, List.replicate_eq_nil_iff]
      omega
    obtain ⟨e, failed⟩ := (d.reads_array _ whole).refuses rest _ rfl missing
    rw [decodeAgentKey, first]
    simp only [if_neg nonzero, failed]
    exact ⟨_, rfl⟩
  · have length : (rest.take 32).length = 32 := by
      rw [List.length_take]
      omega
    have taken := (d.reads_array _ length).takes (rest.drop 32)
    rw [List.take_append_drop] at taken
    have left : (rest.drop 32).length < 4 := by
      rw [List.length_drop]
      omega
    have whole : (rest.drop 32 ++ List.replicate (4 - (rest.drop 32).length) 0).length = 4 := by
      rw [List.length_append, List.length_replicate]
      omega
    have missing : List.replicate (4 - (rest.drop 32).length) (0 : UInt8) ≠ [] := by
      rw [Ne, List.replicate_eq_nil_iff]
      omega
    obtain ⟨bits, word⟩ := exists_u32le whole
    obtain ⟨e, failed⟩ := (d.reads_u32 bits).refuses _ _ word missing
    rw [decodeAgentKey, first]
    simp only [if_neg nonzero, taken, failed]
    exact ⟨_, rfl⟩

/-! ## Exactly the encodings -/

/-- The SCALE encoding of an answer. -/
def encodeAnswer : Option Delegation → Bytes
  | none => [0]
  | some grant => 1 :: (grant.principal ++ u32le grant.scopes.bits)

/-- The bytes are the encoding of the answer, whose principal has 32 bytes. -/
def Encodes (raw : Bytes) (answer : Option Delegation) : Prop :=
  raw = encodeAnswer answer ∧ ∀ grant, answer = some grant → grant.principal.length = 32

/-- The bytes are read as what they encode, and refused if they encode nothing. -/
structure DecodedExactly (raw : Bytes) : Prop where
  accepted : ∀ answer, decodeAgentKey d raw = .ok answer ↔ Encodes raw answer
  refused : (∃ e, decodeAgentKey d raw = .error e) ↔ ∀ answer, ¬ Encodes raw answer

/-- Nothing follows a zero tag, at most 36 bytes follow a one, and fewer than 36 follow any other. -/
def Unpadded (raw : Bytes) : Prop :=
  ∀ tag rest, raw = tag :: rest → (tag = 0 → rest = []) ∧ (tag = 1 → rest.length ≤ 36) ∧
    (tag ≠ 0 → tag ≠ 1 → rest.length < 36)

theorem length_encodeAnswer {grant : Delegation} (length : grant.principal.length = 32) :
    (encodeAnswer (some grant)).length = 37 := by
  rw [encodeAnswer, List.length_cons, List.length_append, length, length_u32le]

theorem decodeAgentKey_encodes {raw : Bytes} {answer : Option Delegation}
    (encodes : Encodes raw answer) : decodeAgentKey d raw = .ok answer := by
  obtain ⟨rfl, length⟩ := encodes
  cases answer with
  | none => exact decodeAgentKey_zero d []
  | some grant =>
    have read := decodeAgentKey_some d (by decide : (1 : UInt8) ≠ 0) (length grant rfl)
      grant.scopes.bits []
    rwa [List.append_nil] at read

/-- What is read exactly has nothing behind it. -/
theorem unpadded_of_exact {raw : Bytes} (exact_ : DecodedExactly d raw) : Unpadded raw := by
  rintro tag rest rfl
  refine ⟨?_, ?_, ?_⟩
  · rintro rfl
    have encodes := (exact_.accepted none).mp (decodeAgentKey_zero d rest)
    exact (List.cons.inj encodes.1).2
  · rintro rfl
    by_contra long
    obtain ⟨principal, bits, after, rfl, length, -⟩ :=
      exists_of_length (Nat.le_of_lt (Nat.not_le.mp long))
    obtain ⟨same, -⟩ :=
      (exact_.accepted _).mp (decodeAgentKey_some d (by decide) length bits after)
    have sizes := congrArg List.length same
    rw [length_encodeAnswer length, List.length_cons] at sizes
    omega
  · intro nonzero not_one
    by_contra enough
    obtain ⟨principal, bits, after, rfl, length, -⟩ := exists_of_length (Nat.not_lt.mp enough)
    obtain ⟨same, -⟩ := (exact_.accepted _).mp (decodeAgentKey_some d nonzero length bits after)
    exact not_one (List.cons.inj same).1

/-- An answer that is read from unpadded bytes is the one they encode. -/
theorem encodes_of_unpadded {raw : Bytes} (unpadded : Unpadded raw) {answer : Option Delegation}
    (read : decodeAgentKey d raw = .ok answer) : Encodes raw answer := by
  cases raw with
  | nil =>
    obtain ⟨e, failed⟩ := decodeAgentKey_nil d
    rw [failed] at read
    cases read
  | cons tag rest =>
    obtain ⟨alone, fits, other⟩ := unpadded tag rest rfl
    by_cases zero : tag = 0
    · subst zero
      rw [decodeAgentKey_zero, Except.ok.injEq] at read
      subst read
      exact ⟨by rw [alone rfl]; rfl, fun grant none_ => by cases none_⟩
    · by_cases short : rest.length < 36
      · obtain ⟨e, failed⟩ := decodeAgentKey_short d zero short
        rw [failed] at read
        cases read
      · have one : tag = 1 := by
          by_contra not_one
          exact short (other zero not_one)
        obtain ⟨principal, bits, after, rfl, length, left⟩ :=
          exists_of_length (Nat.not_lt.mp short)
        have fits := fits one
        have nothing : after = [] := List.length_eq_zero_iff.mp (by omega)
        rw [decodeAgentKey_some d zero length, Except.ok.injEq] at read
        subst read
        refine ⟨?_, fun grant same => ?_⟩
        · rw [nothing, List.append_nil, one]
          rfl
        · cases same
          exact length

/-- Bytes of which only encodings are read are refused if they encode nothing. -/
theorem exact_of_encodes {raw : Bytes}
    (only : ∀ answer, decodeAgentKey d raw = .ok answer → Encodes raw answer) :
    DecodedExactly d raw := by
  refine ⟨fun answer => ⟨only answer, decodeAgentKey_encodes d⟩, ?_⟩
  cases read : decodeAgentKey d raw with
  | error e =>
    refine ⟨fun _ answer encodes => ?_, fun _ => ⟨e, rfl⟩⟩
    rw [decodeAgentKey_encodes d encodes] at read
    cases read
  | ok answer =>
    refine iff_of_false ?_ fun none_ => none_ answer (only answer read)
    rintro ⟨e, failed⟩
    cases failed

/-- The bytes are decoded exactly iff they are unpadded. -/
theorem decodeAgentKey_exact_iff (raw : Bytes) : DecodedExactly d raw ↔ Unpadded raw :=
  ⟨unpadded_of_exact d, fun unpadded => exact_of_encodes d fun _ => encodes_of_unpadded d unpadded⟩

/-- The decoder of the library. -/
def scaleDecoder : ScaleDecoder where
  readOneByte := Reader.item "EOF"
  decodeArray := Reader.take "EOF" 32
  decodeU32 := (Reader.take "EOF" 4).bind fun word =>
    Reader.pure (BitVec.ofNat 32 (Compact.ofLeBytes word))
  reads_byte := Reader.decodes_item "EOF"
  reads_array _ length := Reader.decodes_take "EOF" length
  reads_u32 n := by
    apply (Reader.decodes_take "EOF" (length_u32le n)).bind_last
    have back : BitVec.ofNat 32 (Compact.ofLeBytes (u32le n)) = n := by
      rw [u32le, Compact.ofLeBytes_leBytes n.isLt, BitVec.ofNat_toNat, BitVec.setWidth_eq]
    rw [back]
    exact Reader.decodes_pure n

/-- A tag of two is read as a grant, and a byte behind a `None` is not seen. -/
theorem decodeAgentKey_garbled :
    ¬ DecodedExactly scaleDecoder (2 :: List.replicate 36 0) ∧
      ¬ DecodedExactly scaleDecoder [0, 0] := by
  constructor
  · intro exact_
    obtain ⟨same, -⟩ := (exact_.accepted (some ⟨List.replicate 32 0, ⟨0⟩⟩)).mp (by decide)
    exact absurd (List.cons.inj same).1 (by decide)
  · intro exact_
    obtain ⟨same, -⟩ := (exact_.accepted none).mp (by decide)
    exact absurd same (by decide)

end MatterSdk.Go
