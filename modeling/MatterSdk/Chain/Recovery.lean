import MatterSdk.Chain.Snapshot
import MatterSdk.Committee.Delivery
import MatterSdk.Sealing

/-!
# Recovery, from the sealing to the plaintext

What `recover` returns for a secret that was sealed under the joint key of its epoch: the plaintext of
one version of it, through rotations by the owner and with nodes of the committee down.
-/

namespace MatterSdk.Rust.Recover

open World (Act)

variable {ω : Type}

/-- `Secrets::recover`, of what `read_secret` returns to it; a client without a key is refused. -/
def recover (payload : Payload) (deps : Deps ω) (key : Option (KeySigner ω)) (secretId : BitVec 128)
    (aad : Bytes) (answers : BitVec 32 → ChainAnswers) (finalizedHead : Except String Bytes)
    (read : Except SdkError StoredSecret) (world : ω) : Except SdkError Plaintext :=
  match key with
  | none => .error .readOnly
  | some key =>
    match read with
    | .error e => .error e
    | .ok stored =>
      match recoverRead secretId aad answers finalizedHead stored with
      | .error e => .error e
      | .ok request =>
        (decrypt { deps with signer := partialDecryptAuth payload key } request world).result

/-! ## The reads -/

section

variable {deps : Deps ω} (sealing : SealCrypto deps.crypto) (limits : SealLimits)
  (genuine : ℕ → Genuineness sealing) (proto : AuthScheme.Proto) (key : KeySigner ω)
  (secretId : BitVec 128) (aad : Bytes) (answers : BitVec 32 → ChainAnswers)
  (finalizedHead : Except String Bytes)

/-- What the owner sealed into a record, under the joint key of its epoch and the recorded AAD. -/
structure Version (stored : StoredSecret) where
  plaintext : Plaintext
  jointPk : Bytes
  sharedA : Bytes
  bindingId : Option Bytes
  fill : DefaultBindingId
  random : sealing.Random
  joint : (answers stored.epoch).dkgOutput = some (jointPk, sharedA)
  seal_eq : encrypt sealing limits jointPk stored.epoch plaintext stored.aad bindingId fill random =
    .ok stored.envelope

/-- The committee of the version's epoch can be read, its nodes may crash but do not lie: what they
contribute are genuine partials for the capsule; and the caller is equipped to ask them. -/
def Served {stored : StoredSecret} (version : Version sealing limits answers stored) : Prop :=
  ∃ committee serving pk capsule a,
    committeeInfoAt (answers stored.epoch) finalizedHead stored.epoch = .ok committee ∧
    deserializeKey sealing version.jointPk = .ok pk ∧
    sealing.serializeCapsule capsule = .ok stored.envelope.capsule ∧
    de deps.crypto.decodeSharedA "shared_a" version.sharedA maxDecodeBytes = .ok a ∧
    CrashFaulty { deps with signer := partialDecryptAuth proto.payload key } proto
      (decryptRequest secretId committee stored.envelope aad)
      (GenuinePartial sealing (genuine committee.threshold) pk capsule a (beBytes secretId)
        stored.epoch.toNat) serving ∧
    Equipped { deps with signer := partialDecryptAuth proto.payload key } proto
      (decryptRequest secretId committee stored.envelope aad) key

variable {sealing limits genuine proto key secretId aad answers finalizedHead}

theorem committeeInfoAt_sharedA {a : ChainAnswers} {epoch : BitVec 32} {committee : CommitteeInfo}
    (found : committeeInfoAt a finalizedHead epoch = .ok committee) {jointPk sharedA : Bytes}
    (joint : a.dkgOutput = some (jointPk, sharedA)) : committee.sharedA = sharedA := by
  unfold committeeInfoAt at found
  cases joined : committeeInfo a epoch with
  | error e => simp [joined] at found
  | ok seated =>
    have shared : seated.sharedA = sharedA := by
      unfold committeeInfo at joined
      simp only [joint] at joined
      split_ifs at joined
      split at joined
      · cases joined
      · split_ifs at joined
        cases joined
        rfl
    cases finalizedHead with
    | error detail => simp [joined] at found
    | ok blockHash =>
      simp only [joined, Except.ok.injEq] at found
      rw [← found]
      exact shared

/-- A version whose committee serves it is opened under its own AAD. -/
theorem Served.opens (complete : ∀ threshold, CompleteCrypto sealing threshold (genuine threshold))
    (same : deps.limits = limits.toLimits)
    {stored : StoredSecret} {version : Version sealing limits answers stored}
    (served : Served sealing limits genuine proto key secretId stored.aad answers finalizedHead version)
    (world : ω) :
    recover proto.payload deps (some key) secretId stored.aad answers finalizedHead (.ok stored)
      world = .ok version.plaintext := by
  obtain ⟨committee, serving, pk, capsule, a, found, pk_eq, capsule_eq, a_eq, faulty, equipped⟩ :=
    served
  obtain ⟨pk', capsule', ptProof, parts, sealed⟩ := exists_sealedAs version.seal_eq
  obtain rfl : pk = pk' := Except.ok.inj (pk_eq.symm.trans sealed.key)
  obtain rfl : capsule = capsule' := Except.ok.inj
    (((complete 0).capsule_again _ _ capsule_eq).symm.trans
      ((complete 0).capsule_again _ _ sealed.capsule_eq))
  have request : recoverRead secretId stored.aad answers finalizedHead stored =
      .ok (decryptRequest secretId committee stored.envelope stored.aad) := by
    unfold recoverRead checkAad
    simp only [or_true, if_true, found]
  unfold recover
  simp only [request]
  refine decrypt_delivers equipped faulty (fun partials length points good => ?_) world
  have quorum : Quorum sealing committee.threshold (genuine committee.threshold) pk capsule
      version.sharedA secretId stored.epoch partials := ⟨length, points, a, a_eq, good⟩
  have opened := sealed.opens (complete committee.threshold) quorum
  have epoch : committee.epoch = stored.epoch := committeeInfoAt_epoch found
  have shared : committee.sharedA = version.sharedA := committeeInfoAt_sharedA found version.joint
  unfold decryptRequest DecryptRequest.openInput
  rw [epoch, shared]
  show openSecret deps.crypto deps.limits _ partials = _
  rw [same]
  exact opened

end

/-! ## A committee of three, one of them down -/

section Line

def lineHead : Bytes := List.replicate 32 9

/-- The shares of the line, each for the subset that is asked; the first node is down by the time that
it is. -/
def lineTransport : Transport Unit String Health PartialDecryptResponse where
  health _ w := (.ok activeHealth, w)
  partialDecrypt endpoint request w :=
    if endpoint = "https://one" then (.error "connection refused", w)
    else
      (.ok ⟨trioShare (if endpoint = "https://two" then 2 else 3) request.subset, "0x", 5⟩, w)

def lineDeps : Deps Unit where
  crypto := interpolation
  hex := hexCrate
  limits := lineLimits.toLimits
  protocolVersion := 1
  transport := lineTransport
  signer := willing
  sampler := firstNodes

/-- `[x]`, sealed under the line and the AAD `[6]`. -/
def lineStored (x : UInt8) : StoredSecret where
  envelope := ⟨[4], [], [1, 4], List.replicate 12 0 ++ [1, x + 1]⟩
  epoch := 5
  aad := [6]

end Line

end MatterSdk.Rust.Recover
