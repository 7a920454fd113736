import MatterSdk.Wire
import MatterSdk.Lib.Utf8

/-!
# Byte strings through scalecodec

How the Python chain client reads a `Bytes` value, which scalecodec hands it as a `str`: the text of
the bytes where they are UTF-8, their hex otherwise.
-/

namespace MatterSdk

theorem utf8_eq_encode (text : List Char) : utf8 text = Utf8.encode text := rfl

namespace Python

/-- A `Bytes` value as scalecodec renders it. -/
def renderedBytes (b : Bytes) : String :=
  match Utf8.decode b with
  | some text => String.ofList text
  | none => to0x b

/-- `_bytes_field`, of a `str`; `none` is the `ValueError` of `bytes.fromhex`. -/
def bytesField (v : String) : Option Bytes :=
  match v.toList with
  | '0' :: 'x' :: digits => hexPairs (digits.map Char.toNat)
  | text => some (utf8 text)

/-- What a chain read raises. -/
inductive ReadError where
  | runtimeError (message : String)
  | valueError
  | chainError (message pallet call : String)
deriving DecidableEq, Repr

/-- `_committee_error`. -/
def committeeError (method detail : String) : ReadError :=
  .chainError (method ++ ": " ++ detail) "Kgc" method

/-- `_bytes_field` of a value that must not be falsy. -/
def presentBytes (missing : ReadError) : Option Bytes → Except ReadError Bytes
  | none => .error missing
  | some b =>
    if renderedBytes b = "" then .error missing
    else
      match bytesField (renderedBytes b) with
      | none => .error .valueError
      | some read => .ok read

/-- `joint_pk`. -/
def jointPk (stored : Option Bytes) : Except ReadError Bytes :=
  presentBytes (.runtimeError "KGC DKG not finalised on chain (joint_pk is None)") stored

/-- `shared_a`. -/
def sharedA (stored : Option Bytes) : Except ReadError Bytes :=
  presentBytes (.runtimeError "KGC shared_a unavailable (DKG not finalised)") stored

/-- `share_commitment`. -/
def shareCommitment (stored : Option Bytes) : Except ReadError Bytes :=
  presentBytes (.runtimeError "missing share commitment for a node") stored

/-- The `shared_a` of `committee_at`; the output is a pair, which is never falsy. -/
def dkgSharedA (epoch : BitVec 32) (output : Option (Bytes × Bytes)) : Except ReadError Bytes :=
  match output with
  | none => .error (committeeError "KgcApi_dkg_output_at_epoch"
      ("no DKG output at epoch " ++ toString epoch.toNat))
  | some (_, sharedA) =>
    match bytesField (renderedBytes sharedA) with
    | none => .error .valueError
    | some read => .ok read

/-- The share commitment of a kept member in `committee_at`. -/
def memberCommitment (epoch : BitVec 32) (index : ℕ) (stored : Option Bytes) :
    Except ReadError Bytes :=
  presentBytes (committeeError "KgcApi_share_commitment"
    ("share commitment missing for reachable node " ++ toString index ++ " at epoch " ++
      toString epoch.toNat)) stored

/-- `EncSecretWire`. -/
@[ext] structure EncSecretWire where
  bindingId : Bytes
  capsule : Bytes
  proof : Bytes
  ct : Bytes
deriving DecidableEq, Repr

/-- `secret_payload`. -/
def secretPayload (secretId : BitVec 128) (stored : Option EncSecretWire) :
    Except ReadError EncSecretWire :=
  match stored with
  | none => .error (.runtimeError ("secret " ++ toString secretId.toNat ++ " not found on chain"))
  | some e =>
    match bytesField (renderedBytes e.bindingId), bytesField (renderedBytes e.capsule),
      bytesField (renderedBytes e.proof), bytesField (renderedBytes e.ct) with
    | some bindingId, some capsule, some proof, some ct => .ok { bindingId, capsule, proof, ct }
    | _, _, _, _ => .error .valueError

/-! ## What is read back -/

/-- The bytes are those of a text that starts like the hex of other bytes. -/
def LooksHex (b : Bytes) : Prop := ∃ digits, b = utf8 ('0' :: 'x' :: digits)

theorem hexPairs_length {codes : List ℕ} {bytes : Bytes} (h : hexPairs codes = some bytes) :
    bytes.length ≤ codes.length := by
  induction codes using hexPairs.induct generalizing bytes with
  | case1 =>
    obtain rfl : [] = bytes := by simpa [hexPairs] using h
    exact le_rfl
  | case2 c rest space ih =>
    rw [hexPairs.eq_def] at h
    have short := ih (by simpa [space] using h)
    simp only [List.length_cons]
    omega
  | case3 c space =>
    simp [hexPairs, space] at h
  | case4 c space d rest x y low high ih =>
    simp only [hexPairs, space, low, high, Bool.false_eq_true, if_false] at h
    obtain ⟨tail, read, rfl⟩ := Option.map_eq_some_iff.1 h
    have short := ih read
    simp only [List.length_cons]
    omega
  | case5 c space d rest unread =>
    simp only [hexPairs, space, Bool.false_eq_true, if_false] at h
    cases h

/-- A byte string is read back just when it does not look like hex. -/
theorem bytesField_renderedBytes_iff (b : Bytes) :
    bytesField (renderedBytes b) = some b ↔ ¬ LooksHex b := by
  unfold renderedBytes
  cases read : Utf8.decode b with
  | none =>
    have plain : ¬ LooksHex b := by
      rintro ⟨digits, rfl⟩
      rw [utf8_eq_encode, Utf8.decode_encode] at read
      cases read
    simp only [bytesField, to0x, String.toList_ofList, plain, not_false_iff, iff_true]
    exact hexPairs_of_decode (Hex.decode_encode b)
  | some text =>
    obtain rfl := Utf8.decode_eq_some_iff.1 read
    simp only [bytesField, String.toList_ofList]
    split
    · rename_i digits
      have looks : LooksHex (Utf8.encode ('0' :: 'x' :: digits)) := ⟨digits, rfl⟩
      simp only [looks, not_true, iff_false]
      intro same
      have short := hexPairs_length same
      have long := Utf8.length_le_encode ('0' :: 'x' :: digits)
      simp only [List.length_map, List.length_cons] at short long
      omega
    · rename_i other
      simp only [utf8_eq_encode, true_iff]
      rintro ⟨digits, same⟩
      exact other digits (Utf8.encode_injective same)

/-- Only no bytes at all render as the empty text. -/
theorem renderedBytes_ne_empty {b : Bytes} (nonempty : b ≠ []) : renderedBytes b ≠ "" := by
  intro empty
  unfold renderedBytes at empty
  cases read : Utf8.decode b with
  | none =>
    simp only [read, to0x] at empty
    have chars := congrArg String.toList empty
    rw [String.toList_ofList] at chars
    cases chars
  | some text =>
    simp only [read] at empty
    have chars := congrArg String.toList empty
    rw [String.toList_ofList] at chars
    obtain rfl := Utf8.decode_eq_some_iff.1 read
    exact nonempty (by rw [chars]; rfl)

theorem presentBytes_iff (missing : ReadError) {b : Bytes} (nonempty : b ≠ []) :
    presentBytes missing (some b) = .ok b ↔ ¬ LooksHex b := by
  rw [← bytesField_renderedBytes_iff]
  simp only [presentBytes, if_neg (renderedBytes_ne_empty nonempty)]
  cases bytesField (renderedBytes b) <;> simp

theorem dkgSharedA_iff (epoch : BitVec 32) (jointPk b : Bytes) :
    dkgSharedA epoch (some (jointPk, b)) = .ok b ↔ ¬ LooksHex b := by
  rw [← bytesField_renderedBytes_iff]
  simp only [dkgSharedA]
  cases bytesField (renderedBytes b) <;> simp

theorem secretPayload_iff (secretId : BitVec 128) (e : EncSecretWire) :
    secretPayload secretId (some e) = .ok e ↔ ¬ LooksHex e.bindingId ∧ ¬ LooksHex e.capsule ∧
      ¬ LooksHex e.proof ∧ ¬ LooksHex e.ct := by
  simp only [← bytesField_renderedBytes_iff, secretPayload]
  cases bytesField (renderedBytes e.bindingId) <;> cases bytesField (renderedBytes e.capsule) <;>
    cases bytesField (renderedBytes e.proof) <;> cases bytesField (renderedBytes e.ct) <;>
    simp [EncSecretWire.ext_iff]

/-- Every read of the byte string returns it. -/
structure Lossless (b : Bytes) : Prop where
  jointPk : jointPk (some b) = .ok b
  sharedA : sharedA (some b) = .ok b
  shareCommitment : shareCommitment (some b) = .ok b
  dkgSharedA : ∀ epoch jointPk, dkgSharedA epoch (some (jointPk, b)) = .ok b
  memberCommitment : ∀ epoch index, memberCommitment epoch index (some b) = .ok b
  secretPayload : ∀ secretId, secretPayload secretId (some ⟨b, b, b, b⟩) = .ok ⟨b, b, b, b⟩

/-- A byte string is read back everywhere just when it does not look like hex, and an envelope just
when none of its fields does. -/
theorem reads_lossless_iff (secretId : BitVec 128) (e : EncSecretWire) :
    (∀ b, b ≠ [] → (Lossless b ↔ ¬ LooksHex b)) ∧
      (secretPayload secretId (some e) = .ok e ↔ ¬ LooksHex e.bindingId ∧
        ¬ LooksHex e.capsule ∧ ¬ LooksHex e.proof ∧ ¬ LooksHex e.ct) := by
  refine ⟨fun b nonempty => ⟨fun h => ?_, fun plain => ?_⟩, secretPayload_iff secretId e⟩
  · exact (presentBytes_iff _ nonempty).1 h.jointPk
  · exact
      { jointPk := (presentBytes_iff _ nonempty).2 plain
        sharedA := (presentBytes_iff _ nonempty).2 plain
        shareCommitment := (presentBytes_iff _ nonempty).2 plain
        dkgSharedA := fun epoch jointPk => (dkgSharedA_iff epoch jointPk b).2 plain
        memberCommitment := fun _ _ => (presentBytes_iff _ nonempty).2 plain
        secretPayload := fun secretId => (secretPayload_iff secretId _).2
          ⟨plain, plain, plain, plain⟩ }

theorem reads_lossless_iff_letter : Lossless [65] :=
  ((reads_lossless_iff 0 ⟨[], [], [], []⟩).1 [65] (List.cons_ne_nil _ _)).2 fun ⟨_, same⟩ => by
    have first : (65 : UInt8) = 48 := (List.cons.inj same).1
    exact absurd first (by decide)

/-- The text `0x41` is read as the byte of `A`. -/
theorem hexText_misread : ¬ Lossless [48, 120, 52, 49] := fun h =>
  (presentBytes_iff _ (List.cons_ne_nil _ _)).1 h.jointPk ⟨['4', '1'], by decide⟩

end Python

end MatterSdk
