import MatterSdk.OpeningChecks

/-!
# Sealing a secret

`encrypt`, and the two calls that read what it seals.  They fit together as far as the joint key is
concerned only if it is read alike: sealing takes bytes behind the key, and a key of any length.
-/

namespace MatterSdk

/-- What sealing and its check use of `matter_crypto`, `matter_kgc_config` and `bincode`, besides
`Crypto`.  `readKey` is a key and the bytes behind it. -/
structure SealCrypto (crypto : Crypto) where
  PublicKey : Type
  PlaintextProof : Type
  Random : Type
  readKey : Bytes → Except String (PublicKey × Bytes)
  sealSecret : PublicKey → Bytes → Bytes → ℕ → Bytes → Random →
    crypto.Capsule × PlaintextProof × SealedSecrets
  serializeCapsule : crypto.Capsule → Except String Bytes
  encodeTagged : PlaintextProof → Except String Bytes
  untag : Bytes → Except String Bytes
  decodePlaintextProof : Bytes → Except String PlaintextProof
  verifySecretProof : PublicKey → crypto.Capsule → PlaintextProof → Bytes → ℕ → Bool

/-- The bounds of `matter_kgc_config`, with the one of a proof. -/
structure SealLimits extends Limits where
  proof : ℕ

/-- The random bytes of a binding id that the caller leaves out. -/
abbrev DefaultBindingId := { bytes : Bytes // bytes.length = 32 }

section

variable {crypto : Crypto} (sealing : SealCrypto crypto) (limits : SealLimits)

/-- `bincode::deserialize`, which leaves bytes behind the value unread. -/
def deserializeKey (bytes : Bytes) : Except String sealing.PublicKey :=
  match sealing.readKey bytes with
  | .error detail => .error detail
  | .ok (pk, _) => .ok pk

/-- The key as `de` decodes it. -/
def decodeKey (bytes : Bytes) : Except String sealing.PublicKey :=
  match sealing.readKey bytes with
  | .error detail => .error detail
  | .ok (pk, []) => .ok pk
  | .ok (_, _ :: _) => .error "Slice had bytes remaining after deserialization"

def encrypt (jointPk : Bytes) (epoch : BitVec 32) (plaintext aad : Bytes)
    (bindingId : Option Bytes) (fill : DefaultBindingId) (random : sealing.Random) :
    Except CoreError EncryptedSecret :=
  if plaintext = [] then .error (.empty "plaintext")
  else do
    let pk ← (deserializeKey sealing jointPk).mapError (CoreError.decode "joint_pk")
    let bindingId := bindingId.getD fill
    bound "binding_id" bindingId.length limits.bindingId
    let (capsule, ptProof, stored) :=
      sealing.sealSecret pk bindingId aad epoch.toNat plaintext random
    let ct := stored.nonce ++ stored.ciphertext
    let capsule ← (sealing.serializeCapsule capsule).mapError (CoreError.decode "capsule")
    let proof ← (sealing.encodeTagged ptProof).mapError (CoreError.decode "proof")
    bound "capsule" capsule.length limits.capsule
    bound "proof" proof.length limits.proof
    bound "ct" ct.length limits.ciphertext
    return { bindingId, capsule, proof, ct }

/-- `de_tagged`: the size check and the tag, then the body as `de` decodes it. -/
def deTagged (field : String) (bytes : Bytes) (max : ℕ) : Except CoreError sealing.PlaintextProof := do
  bound field bytes.length max
  let body ← (sealing.untag bytes).mapError (CoreError.decode field)
  de sealing.decodePlaintextProof field body max

def verifyPlaintextProof (jointPk capsule taggedProof bindingId : Bytes) (epoch : BitVec 32) :
    Except CoreError Bool := do
  bound "binding_id" bindingId.length limits.bindingId
  let pk ← de (decodeKey sealing) "joint_pk" jointPk maxDecodeBytes
  let capsule ← de crypto.decodeCapsule "capsule" capsule limits.capsule
  let proof ← deTagged sealing "proof" taggedProof limits.proof
  return sealing.verifySecretProof pk capsule proof bindingId epoch.toNat

/-! ## What sealing returns -/

/-- An envelope and what was sealed into it. -/
structure SealedAs (jointPk : Bytes) (epoch : BitVec 32) (plaintext aad : Bytes)
    (random : sealing.Random) (env : EncryptedSecret) (pk : sealing.PublicKey)
    (capsule : crypto.Capsule) (ptProof : sealing.PlaintextProof) (stored : SealedSecrets) :
    Prop where
  key : deserializeKey sealing jointPk = .ok pk
  seal_eq : sealing.sealSecret pk env.bindingId aad epoch.toNat plaintext random =
    (capsule, ptProof, stored)
  capsule_eq : sealing.serializeCapsule capsule = .ok env.capsule
  proof_eq : sealing.encodeTagged ptProof = .ok env.proof
  ct_eq : env.ct = stored.nonce ++ stored.ciphertext
  bindingId_le : env.bindingId.length ≤ limits.bindingId
  capsule_le : env.capsule.length ≤ limits.capsule
  proof_le : env.proof.length ≤ limits.proof
  ct_le : env.ct.length ≤ limits.ciphertext

variable {sealing limits}

theorem mapError_eq_ok_iff {α : Type} {r : Except String α} {field : String} {a : α} :
    r.mapError (CoreError.decode field) = .ok a ↔ r = .ok a := by
  cases r <;> simp [Except.mapError]

theorem bind_eq_ok_iff {α β : Type} {x : Except CoreError α} {f : α → Except CoreError β} {b : β} :
    x >>= f = .ok b ↔ ∃ a, x = .ok a ∧ f a = .ok b := by
  cases x with
  | error e => simp [bind, Except.bind]
  | ok a => simp [bind, Except.bind]

theorem exists_sealedAs {jointPk : Bytes} {epoch : BitVec 32} {plaintext aad : Bytes}
    {bindingId : Option Bytes} {fill : DefaultBindingId} {random : sealing.Random}
    {env : EncryptedSecret}
    (sealed : encrypt sealing limits jointPk epoch plaintext aad bindingId fill random = .ok env) :
    ∃ pk capsule ptProof stored,
      SealedAs sealing limits jointPk epoch plaintext aad random env pk capsule ptProof stored := by
  unfold encrypt at sealed
  split at sealed
  · cases sealed
  simp only [bind_eq_ok_iff, mapError_eq_ok_iff] at sealed
  obtain ⟨pk, key, _, binding, bytes, capsule, tagged, proof, _, capsule_le, _, proof_le, _, ct_le,
    env_eq⟩ := sealed
  cases env_eq
  exact ⟨pk, _, _, _, key, rfl, capsule, proof, rfl, bound_eq_ok_iff.mp binding,
    bound_eq_ok_iff.mp capsule_le, bound_eq_ok_iff.mp proof_le, bound_eq_ok_iff.mp ct_le⟩

end

/-! ## What the cryptography promises -/

/-- The genuine partials for a capsule under a key: those of the committee's shares, by
`shared_a`, the secret's id, the epoch, the point and the coefficient that they are made for. -/
abbrev Genuineness {crypto : Crypto} (sealing : SealCrypto crypto) :=
  sealing.PublicKey → crypto.Capsule → crypto.SharedA → Bytes → ℕ → ℕ → crypto.Lambda →
    crypto.Share → crypto.Proof → crypto.Commitment → Prop

section

variable {crypto : Crypto} (sealing : SealCrypto crypto) (threshold : ℕ)
  (genuine : Genuineness sealing)

/-- What is serialized is decoded again, an honest seal verifies, and `threshold` genuine partials
open it. -/
structure CompleteCrypto : Prop where
  nonce_length : ∀ pk bindingId aad epoch plaintext random,
    (sealing.sealSecret pk bindingId aad epoch plaintext random).2.2.nonce.length = 12
  capsule_again : ∀ capsule bytes, sealing.serializeCapsule capsule = .ok bytes →
    crypto.decodeCapsule bytes = .ok capsule
  proof_again : ∀ proof bytes, sealing.encodeTagged proof = .ok bytes →
    ∃ body, sealing.untag bytes = .ok body ∧ body.length ≤ bytes.length ∧
      sealing.decodePlaintextProof body = .ok proof
  verifies : ∀ pk bindingId aad epoch plaintext random capsule proof stored,
    sealing.sealSecret pk bindingId aad epoch plaintext random = (capsule, proof, stored) →
      sealing.verifySecretProof pk capsule proof bindingId epoch = true
  opens : ∀ pk bindingId aad epoch plaintext random capsule proof stored,
    sealing.sealSecret pk bindingId aad epoch plaintext random = (capsule, proof, stored) →
      ∀ sharedA secretId points entries, ValidSubset points → points.length = threshold →
        List.Forall₂ (fun point entry =>
          entry.lambda = crypto.lagrangeCoefficient point points ∧
            genuine pk capsule sharedA secretId epoch point entry.lambda entry.share entry.proof
              entry.commitment) points entries →
        crypto.verifyAggregateOpen entries capsule sharedA secretId epoch bindingId aad stored =
          .ok plaintext

/-- The partial decodes to a genuine one for the capsule, made for the coefficient. -/
def GenuinePartial (pk : sealing.PublicKey) (capsule : crypto.Capsule) (sharedA : crypto.SharedA)
    (secretId : Bytes) (epoch : ℕ) (lambda : crypto.Lambda) (p : PartialInput) : Prop :=
  ∃ share proof commitment,
    de crypto.decodeShare "partial" p.share maxDecodeBytes = .ok share ∧
    de crypto.decodeProof "partial proof" p.proof maxDecodeBytes = .ok proof ∧
    de crypto.decodeCommitment "commitment" p.commitment maxDecodeBytes = .ok commitment ∧
    genuine pk capsule sharedA secretId epoch p.point lambda share proof commitment

/-- Enough genuine partials at good points, each made for its coefficient over all of them. -/
structure Quorum (pk : sealing.PublicKey) (capsule : crypto.Capsule) (sharedA : Bytes)
    (secretId : BitVec 128) (epoch : BitVec 32) (partials : List PartialInput) : Prop where
  length : partials.length = threshold
  points : ValidSubset (partials.map (·.point))
  each : ∃ a, de crypto.decodeSharedA "shared_a" sharedA maxDecodeBytes = .ok a ∧
    ∀ p ∈ partials, GenuinePartial sealing genuine pk capsule a (beBytes secretId) epoch.toNat
      (crypto.lagrangeCoefficient p.point (partials.map (·.point))) p

variable (limits : SealLimits)

/-- What was sealed verifies under the same key, and opens for every quorum of that key. -/
structure SealFits (jointPk : Bytes) (epoch : BitVec 32) (plaintext aad : Bytes)
    (env : EncryptedSecret) : Prop where
  verifies : verifyPlaintextProof sealing limits jointPk env.capsule env.proof env.bindingId epoch =
    .ok true
  opens : ∀ pk capsule sharedA secretId partials, deserializeKey sealing jointPk = .ok pk →
    sealing.serializeCapsule capsule = .ok env.capsule →
      Quorum sealing threshold genuine pk capsule sharedA secretId epoch partials →
        openSecret crypto limits.toLimits
          ⟨sharedA, env.capsule, secretId, epoch.toNat, env.bindingId, aad, env.ct⟩ partials =
            .ok plaintext

/-- The bytes are a key and nothing else, within the decode ceiling. -/
def StrictKey (jointPk : Bytes) : Prop :=
  jointPk.length ≤ maxDecodeBytes ∧ ∀ pk rest, sealing.readKey jointPk = .ok (pk, rest) → rest = []

variable {sealing threshold genuine limits}

theorem de_eq_ok_iff {α : Type} {decode : Bytes → Except String α} {field : String} {bytes : Bytes}
    {max : ℕ} {a : α} :
    de decode field bytes max = .ok a ↔ bytes.length ≤ max ∧ decode bytes = .ok a := by
  unfold de
  rw [bind_eq_ok_iff]
  constructor
  · rintro ⟨_, sized, decoded⟩
    exact ⟨bound_eq_ok_iff.mp sized, mapError_eq_ok_iff.mp decoded⟩
  · rintro ⟨sized, decoded⟩
    exact ⟨(), bound_eq_ok_iff.mpr sized, mapError_eq_ok_iff.mpr decoded⟩

theorem deserializeKey_eq_ok_iff {bytes : Bytes} {pk : sealing.PublicKey} :
    deserializeKey sealing bytes = .ok pk ↔ ∃ rest, sealing.readKey bytes = .ok (pk, rest) := by
  unfold deserializeKey
  cases sealing.readKey bytes with
  | error detail => simp
  | ok pair => simp [Prod.ext_iff]

theorem decodeKey_eq_ok_iff {bytes : Bytes} {pk : sealing.PublicKey} :
    decodeKey sealing bytes = .ok pk ↔ sealing.readKey bytes = .ok (pk, []) := by
  unfold decodeKey
  cases sealing.readKey bytes with
  | error detail => simp
  | ok pair =>
    obtain ⟨pk', rest⟩ := pair
    cases rest <;> simp

variable {jointPk : Bytes} {epoch : BitVec 32} {plaintext aad : Bytes} {random : sealing.Random}
  {env : EncryptedSecret} {pk : sealing.PublicKey} {capsule : crypto.Capsule}
  {ptProof : sealing.PlaintextProof} {stored : SealedSecrets}

theorem SealedAs.strictKey_iff
    (sealed : SealedAs sealing limits jointPk epoch plaintext aad random env pk capsule ptProof stored) :
    StrictKey sealing jointPk ↔ ∃ pk', de (decodeKey sealing) "joint_pk" jointPk maxDecodeBytes =
      .ok pk' := by
  obtain ⟨rest, read⟩ := deserializeKey_eq_ok_iff.mp sealed.key
  simp only [de_eq_ok_iff, decodeKey_eq_ok_iff, StrictKey, read, Except.ok.injEq, Prod.mk.injEq]
  constructor
  · rintro ⟨sized, strict⟩
    exact ⟨pk, sized, rfl, strict pk rest ⟨rfl, rfl⟩⟩
  · rintro ⟨_, sized, -, strict⟩
    exact ⟨sized, fun _ _ same => same.2 ▸ strict⟩

/-- Verifying what was sealed fails for the key alone. -/
theorem SealedAs.verify_iff (complete : CompleteCrypto sealing threshold genuine)
    (sealed : SealedAs sealing limits jointPk epoch plaintext aad random env pk capsule ptProof stored) :
    verifyPlaintextProof sealing limits jointPk env.capsule env.proof env.bindingId epoch = .ok true ↔
      StrictKey sealing jointPk := by
  rw [sealed.strictKey_iff]
  unfold verifyPlaintextProof
  constructor
  · intro verified
    simp only [bind_eq_ok_iff] at verified
    obtain ⟨_, -, pk', decoded, -⟩ := verified
    exact ⟨pk', decoded⟩
  · rintro ⟨pk', decoded⟩
    have strict := decodeKey_eq_ok_iff.mp (de_eq_ok_iff.mp decoded).2
    obtain ⟨rest, read⟩ := deserializeKey_eq_ok_iff.mp sealed.key
    obtain rfl : pk' = pk := by
      rw [strict] at read
      cases read
      rfl
    have capsule_eq : de crypto.decodeCapsule "capsule" env.capsule limits.capsule = .ok capsule :=
      de_eq_ok_iff.mpr ⟨sealed.capsule_le, complete.capsule_again _ _ sealed.capsule_eq⟩
    have proof_eq : deTagged sealing "proof" env.proof limits.proof = .ok ptProof := by
      obtain ⟨body, tagged, shorter, again⟩ := complete.proof_again _ _ sealed.proof_eq
      unfold deTagged
      simp only [bind_eq_ok_iff, mapError_eq_ok_iff]
      exact ⟨(), bound_eq_ok_iff.mpr sealed.proof_le, body, tagged,
        de_eq_ok_iff.mpr ⟨shorter.trans sealed.proof_le, again⟩⟩
    simp only [bind_eq_ok_iff]
    refine ⟨(), bound_eq_ok_iff.mpr sealed.bindingId_le, pk', decoded, capsule, capsule_eq, ptProof,
      proof_eq, ?_⟩
    rw [complete.verifies _ _ _ _ _ _ _ _ _ sealed.seal_eq]
    rfl

theorem exists_entries {sharedA : crypto.SharedA} {secretId : Bytes} {e : ℕ} (points : List ℕ)
    {partials : List PartialInput}
    (each : ∀ p ∈ partials, GenuinePartial sealing genuine pk capsule sharedA secretId e
      (crypto.lagrangeCoefficient p.point points) p) :
    ∃ entries, List.Forall₂ (fun p entry => EntryOf crypto points p entry ∧
      genuine pk capsule sharedA secretId e p.point entry.lambda entry.share entry.proof
        entry.commitment) partials entries := by
  induction partials with
  | nil => exact ⟨[], .nil⟩
  | cons p rest ih =>
    rw [List.forall_mem_cons] at each
    obtain ⟨entries, later⟩ := ih each.2
    obtain ⟨share, proof, commitment, share_eq, proof_eq, commitment_eq, good⟩ := each.1
    exact ⟨⟨share, proof, commitment, crypto.lagrangeCoefficient p.point points⟩ :: entries,
      .cons ⟨⟨share_eq, proof_eq, commitment_eq, rfl⟩, good⟩ later⟩

/-- What was sealed opens for every quorum. -/
theorem SealedAs.opens (complete : CompleteCrypto sealing threshold genuine)
    (sealed : SealedAs sealing limits jointPk epoch plaintext aad random env pk capsule ptProof stored)
    {sharedA : Bytes} {secretId : BitVec 128} {partials : List PartialInput}
    (quorum : Quorum sealing threshold genuine pk capsule sharedA secretId epoch partials) :
    openSecret crypto limits.toLimits
      ⟨sharedA, env.capsule, secretId, epoch.toNat, env.bindingId, aad, env.ct⟩ partials =
        .ok plaintext := by
  obtain ⟨length, points, a, sharedA_eq, each⟩ := quorum
  have nonce : stored.nonce.length = 12 := by
    have nonce := complete.nonce_length pk env.bindingId aad epoch.toNat plaintext random
    rwa [sealed.seal_eq] at nonce
  have split : (⟨env.ct.drop 12, env.ct.take 12⟩ : SealedSecrets) = stored := by
    rw [sealed.ct_eq, ← nonce, List.drop_left, List.take_left]
  obtain ⟨entries, decoded⟩ := exists_entries (partials.map (·.point)) each
  have opened := complete.opens _ _ _ _ _ _ _ _ _ sealed.seal_eq a (beBytes secretId)
    (partials.map (·.point)) entries points (by rw [List.length_map, length])
    (List.forall₂_map_left_iff.mpr (decoded.imp fun p entry of => ⟨of.1.lambda, of.2⟩))
  refine openSecret_eq_ok_iff.mpr ⟨points, a, capsule, entries, ⟨sealed.bindingId_le, sealed.ct_le,
    sharedA_eq, ?_, ?_, decoded.imp fun _ _ of => of.1⟩, ?_⟩
  · exact de_eq_ok_iff.mpr ⟨sealed.capsule_le, complete.capsule_again _ _ sealed.capsule_eq⟩
  · show 12 ≤ env.ct.length
    rw [sealed.ct_eq, List.length_append]
    omega
  · unfold aggregate
    rw [split]
    exact opened

/-- What `encrypt` sealed fits if and only if the joint key's bytes are the key and nothing else,
within the decode ceiling. -/
theorem encrypt_fits_iff (complete : CompleteCrypto sealing threshold genuine)
    {bindingId : Option Bytes} {fill : DefaultBindingId}
    (sealed : encrypt sealing limits jointPk epoch plaintext aad bindingId fill random = .ok env) :
    SealFits sealing threshold genuine limits jointPk epoch plaintext aad env ↔
      StrictKey sealing jointPk := by
  obtain ⟨pk, capsule, ptProof, stored, sealed⟩ := exists_sealedAs sealed
  refine ⟨fun fits => (sealed.verify_iff complete).mp fits.verifies, fun strict =>
    ⟨(sealed.verify_iff complete).mpr strict, ?_⟩⟩
  intro pk' capsule' sharedA secretId partials key again quorum
  obtain rfl : pk' = pk := Except.ok.inj (key.symm.trans sealed.key)
  have capsules : capsule' = capsule := Except.ok.inj
    ((complete.capsule_again _ _ again).symm.trans (complete.capsule_again _ _ sealed.capsule_eq))
  exact sealed.opens complete (capsules ▸ quorum)

end

/-! ## Keys on a line -/

/-- A committee on a line, whose value at zero is the key that encrypts.  A joint key is two bytes,
that value and the slope; a proof is the binding id, behind a version tag of one byte. -/
def lineSealing : SealCrypto interpolation where
  PublicKey := UInt8 × UInt8
  PlaintextProof := Bytes
  Random := Unit
  readKey
    | value :: slope :: rest => .ok ((value, slope), rest)
    | _ => .error "unexpected end of file"
  sealSecret pk bindingId _ _ plaintext _ :=
    ([], bindingId, ⟨pk.1 :: plaintext.map (· + pk.1), List.replicate 12 0⟩)
  serializeCapsule := .ok
  encodeTagged proof := .ok (1 :: proof)
  untag
    | 1 :: body => .ok body
    | _ => .error "UnknownVersion"
  decodePlaintextProof := .ok
  verifySecretProof _ _ proof bindingId _ := proof = bindingId

/-- The commitment is the value of the line at the point, and the share is made for the coefficient. -/
def onLine : Genuineness lineSealing := fun pk _ _ _ _ point lambda share _ commitment =>
  OnLine pk.1.toNat pk.2.toNat point lambda share commitment

theorem lineSealing_complete : CompleteCrypto lineSealing 2 onLine where
  nonce_length _ _ _ _ _ _ := List.length_replicate
  capsule_again _ _ same := same.symm
  proof_again proof bytes tagged := by
    obtain rfl : 1 :: proof = bytes := Except.ok.inj tagged
    exact ⟨proof, rfl, Nat.le_succ _, rfl⟩
  verifies pk bindingId _ _ _ _ capsule proof stored same := by
    cases same
    exact decide_eq_true rfl
  opens pk bindingId aad epoch plaintext random capsule proof stored same := by
    cases same
    intro sharedA secretId points entries valid length each
    exact interpolateOpen_line pk.1 pk.2.toNat valid length each plaintext (List.replicate 12 0)

def lineLimits : SealLimits := ⟨⟨64, 1024, 4096⟩, 1024⟩

/-- What `[7]` is sealed to under the line `1 + 2 x`. -/
def lineEnvelope : EncryptedSecret := ⟨[4], [], [1, 4], List.replicate 12 0 ++ [1, 8]⟩

theorem encrypt_fits_line :
    encrypt lineSealing lineLimits [1, 2] 5 [7] [] (some [4]) ⟨List.replicate 32 0, rfl⟩ () =
        .ok lineEnvelope ∧
      (SealFits lineSealing 2 onLine lineLimits [1, 2] 5 [7] [] lineEnvelope ↔
        StrictKey lineSealing [1, 2]) :=
  have sealed : encrypt lineSealing lineLimits [1, 2] 5 [7] [] (some [4])
      ⟨List.replicate 32 0, rfl⟩ () = .ok lineEnvelope := rfl
  ⟨sealed, encrypt_fits_iff lineSealing_complete sealed⟩

/-- A key with a byte behind it is sealed under, and refused by the check of the seal. -/
theorem trailingKey_unfit : ¬ ∀ (crypto : Crypto) (sealing : SealCrypto crypto) (threshold : ℕ)
    (genuine : Genuineness sealing) (limits : SealLimits) (jointPk : Bytes) (epoch : BitVec 32)
    (plaintext aad : Bytes) (bindingId : Option Bytes) (fill : DefaultBindingId)
    (random : sealing.Random) (env : EncryptedSecret), CompleteCrypto sealing threshold genuine →
      encrypt sealing limits jointPk epoch plaintext aad bindingId fill random = .ok env →
        SealFits sealing threshold genuine limits jointPk epoch plaintext aad env := by
  intro fits
  have verified := (fits interpolation lineSealing 2 onLine lineLimits [1, 2, 9] 5 [7] [] (some [4])
    ⟨List.replicate 32 0, rfl⟩ () lineEnvelope lineSealing_complete rfl).verifies
  have refused : verifyPlaintextProof lineSealing lineLimits [1, 2, 9] [] [1, 4] [4] 5 =
    .error (.decode "joint_pk" "Slice had bytes remaining after deserialization") := rfl
  rw [show lineEnvelope.capsule = [] from rfl, show lineEnvelope.proof = [1, 4] from rfl,
    show lineEnvelope.bindingId = [4] from rfl, refused] at verified
  cases verified

end MatterSdk
