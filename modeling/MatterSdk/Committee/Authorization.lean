import MatterSdk.Committee.Agreement
import MatterSdk.Committee.Hostile
import MatterSdk.Ffi.Contract
import MatterSdk.Wire.SecretId

/-!
# Authorized requests

How the four clients frame a key's signature over a `/partial-decrypt` request, and what a node that
gets the request can check of it.  The payload is that of `matter_kgc_proto`.
-/

namespace MatterSdk

open Loop

variable {ω τ η ρ κ ε : Type}

/-- The canonical bytes of a secret's id, a subset, a block hash and a recipient. -/
abbrev Payload := BitVec 128 → List ℕ → Bytes → ℕ → Bytes

/-- An account and what signs for it: a key in the process, or a callback. -/
structure Key (ω : Type) where
  accountId : Bytes
  sign : Bytes → ω → Except String Bytes × ω

/-- The index of `MultiSignature::Sr25519`. -/
def multisignatureSr25519 : UInt8 := 1

def sr25519SignatureBytes : ℕ := 64

def accountIdBytes : ℕ := 32

/-- Substrate auth fields, written by `toHex`. -/
def substrateAuth (toHex : Bytes → String) (accountId signature : Bytes) : RequestAuth :=
  { auth := .substrate
    requester := toHex accountId
    signature := toHex (multisignatureSr25519 :: signature)
    ethAddress := none
    validUntil := none
    ethSignature := none }

/-! ## The clients -/

namespace Rust

/-- A `KeySigner`, whose account and signatures are arrays. -/
structure KeySigner (ω : Type) extends Key ω where
  accountId_length : accountId.length = accountIdBytes
  sign_length : ∀ message w signature w', sign message w = (.ok signature, w') →
    signature.length = sr25519SignatureBytes

def partialDecryptAuth (payload : Payload) (key : KeySigner ω) : MatterSdk.Signer ω where
  authorize req w :=
    match key.sign (payload req.secretId req.subset req.blockHash req.recipientIndex) w with
    | (.error e, w) => (.error e, w)
    | (.ok signature, w) => (.ok (substrateAuth to0x key.accountId signature), w)

/-- `secret_id_from_hex`. -/
def secretIdFromHex (hex : HexCrate) (s : String) : Except CoreError (BitVec 128) := do
  let bytes ← (from0x hex s).mapError (CoreError.hex "secret_id")
  if bytes.length = 16 then .ok (Ffi.fromBeBytes bytes)
  else .error (.invalidLength "secret_id" 16 bytes.length)

end Rust

namespace Go

def errorText : Ffi.Go.Error → String
  | .errInvalidArg => "matter-sdk: invalid argument"
  | .errCrypto => "matter-sdk: cryptographic operation failed"
  | .errBadAPIKey => "matter-sdk: api key is empty, malformed, or names an unsupported scheme"
  | .errInternal => "matter-sdk: internal error in the shared core"

def subsetPtr (subset : List ℕ) : Ffi.Pointer ℕ := if subset = [] then none else some subset

/-- `SigningPayload`, through the C ABI. -/
def signingPayload {κ : Type} (lib : Ffi.Library κ) (secretId : SecretID) (subset : List ℕ)
    (blockHash : Bytes) (recipientIndex : ℕ) : Except Ffi.Go.Error Bytes :=
  let (rc, out) := Ffi.msdkSigningPayload lib (some secretId.bytes) (subsetPtr subset) subset.length
    (some blockHash) recipientIndex (some (.buf .empty))
  match Ffi.Go.errFromStatus rc with
  | some err => .error err
  | none => .ok (Ffi.Go.goBytesAndFree (Ffi.Go.bufOf out))

/-- `Authorize` of a `substrateSigner`. -/
def authorize {κ : Type} (lib : Ffi.Library κ) (key : Key ω) : MatterSdk.Signer ω where
  authorize req w :=
    match signingPayload lib (secretIDFromBytes (beBytes req.secretId)) req.subset req.blockHash
      req.recipientIndex with
    | .error err => (.error (errorText err), w)
    | .ok payload =>
      match key.sign payload w with
      | (.error e, w) => (.error e, w)
      | (.ok sig, w) =>
        if sig.length ≠ MatterSdk.sr25519SignatureBytes then
          (.error ("sr25519 signature must be 64 bytes, got " ++ toString sig.length), w)
        else (.ok (substrateAuth toHex key.accountId sig), w)

/-- `SubstrateSigner`. -/
def substrateSigner {κ : Type} (lib : Ffi.Library κ) (key : Key ω) :
    Except String (MatterSdk.Signer ω) :=
  if key.accountId.length ≠ accountIdBytes then
    .error ("accountID must be 32 bytes, got " ++ toString key.accountId.length)
  else .ok (authorize lib key)

end Go

namespace Python

/-- The native `signing_payload`; what stands for an index is a `u64`. -/
def signingPayload (payload : Payload) (secretId : BitVec 128) (subset : List ℕ) (blockHash : Bytes)
    (recipientIndex : ℕ) : Except String Bytes :=
  if ¬ (∀ i ∈ recipientIndex :: subset, i < 2 ^ 64) then
    .error "OverflowError: int too big to convert"
  else if blockHash.length ≠ 32 then .error "ValueError: block_hash must be 32 bytes"
  else .ok (payload secretId subset blockHash recipientIndex)

/-- `authorize` of a `_SubstrateSigner`. -/
def authorize (payload : Payload) (key : Key ω) : Signer ω where
  authorize req w :=
    match signingPayload payload req.secretId req.subset req.blockHash req.recipientIndex with
    | .error e => (.error e, w)
    | .ok payload =>
      match key.sign payload w with
      | (.error e, w) => (.error e, w)
      | (.ok sig, w) =>
        if sig.length ≠ sr25519SignatureBytes then
          (.error ("ValueError: sr25519 signature must be 64 bytes, got " ++ toString sig.length), w)
        else (.ok (substrateAuth toHex key.accountId sig), w)

/-- `substrate_signer`. -/
def substrateSigner (payload : Payload) (key : Key ω) : Except String (Signer ω) :=
  if key.accountId.length ≠ accountIdBytes then .error "ValueError: account_id must be 32 bytes"
  else .ok (authorize payload key)

end Python

namespace TypeScript

/-- `partialDecryptSigningPayload` of the wasm binding, whose indices are taken modulo `2 ^ 64`. -/
def wasmSigningPayload (hex : HexCrate) (payload : Payload) (secretIdHex : String)
    (subset : List ℕ) (blockHashHex : String) (recipientIndex : ℕ) : Except String Bytes :=
  match Rust.secretIdFromHex hex secretIdHex with
  | .error _ => .error "secret_id"
  | .ok secretId =>
    match from0x hex blockHashHex with
    | .error _ => .error "block_hash"
    | .ok blockHash =>
      if blockHash.length ≠ 32 then .error "block_hash must be 32 bytes"
      else .ok (payload secretId (subset.map (· % 2 ^ 64)) blockHash (recipientIndex % 2 ^ 64))

def signingPayload (hex : HexCrate) (payload : Payload) (secretId : BitVec 128) (subset : List ℕ)
    (blockHash : Bytes) (recipientIndex : ℕ) : Except String Bytes :=
  match secretIdToHex secretId.toNat with
  | none => .error "secret_id out of u128 range"
  | some secretIdHex =>
    wasmSigningPayload hex payload secretIdHex subset (toHex blockHash) recipientIndex

/-- `partialDecryptAuth`, which `keySigner` adapts. -/
def partialDecryptAuth (hex : HexCrate) (payload : Payload) (key : Key ω) : Signer ω where
  authorize req w :=
    if key.accountId.length ≠ accountIdBytes then
      (.error ("accountId must be 32 bytes, got " ++ toString key.accountId.length), w)
    else
      match signingPayload hex payload req.secretId req.subset req.blockHash req.recipientIndex with
      | .error e => (.error e, w)
      | .ok payload =>
        match key.sign payload w with
        | (.error e, w) => (.error e, w)
        | (.ok sig, w) =>
          if sig.length ≠ sr25519SignatureBytes then
            (.error ("sr25519 signature must be 64 bytes, got " ++ toString sig.length), w)
          else (.ok (substrateAuth toHex key.accountId sig), w)

/-- `substrateSigner`. -/
def substrateSigner (hex : HexCrate) (payload : Payload) (key : Key ω) : Except String (Signer ω) :=
  if key.accountId.length ≠ accountIdBytes then .error "accountId must be 32 bytes"
  else .ok (partialDecryptAuth hex payload key)

end TypeScript

/-! ## One framing -/

/-- A context of the types that the clients give it: a block hash is an array, an index a `u64`. -/
structure SigningRequest.Typed (context : SigningRequest) : Prop where
  blockHash : context.blockHash.length = 32
  index : ∀ i ∈ context.recipientIndex :: context.subset, i < 2 ^ 64

def SigningRequest.payload (payload : Payload) (context : SigningRequest) : Bytes :=
  payload context.secretId context.subset context.blockHash context.recipientIndex

/-- What the signer returns for a typed context is the framed signature over its payload. -/
structure Frames (payload : Payload) (key : Key ω) (signer : Signer ω) : Prop where
  accountId : key.accountId.length = accountIdBytes
  signed : ∀ context w auth w', context.Typed → signer.authorize context w = (.ok auth, w') →
    ∃ signature, key.sign (context.payload payload) w = (.ok signature, w') ∧
      signature.length = sr25519SignatureBytes ∧ auth = substrateAuth to0x key.accountId signature

theorem fromBeBytes_beBytes (v : BitVec 128) : Ffi.fromBeBytes (beBytes v) = v := by
  have small : v.toNat < 256 ^ 16 := v.isLt
  rw [Ffi.fromBeBytes, Go.beBytes_eq, Go.fillBytes, List.reverse_reverse,
    Compact.ofLeBytes_leBytes small]
  exact BitVec.ofNat_toNat 128 v |>.trans (BitVec.setWidth_eq v)

theorem length_beBytes (v : BitVec 128) : (beBytes v).length = 16 := by
  rw [Go.beBytes_eq, Go.fillBytes, List.length_reverse, Compact.length_leBytes]

theorem Rust.secretIdFromHex_secretIdToHex (hex : HexCrate) (v : BitVec 128) :
    secretIdFromHex hex (MatterSdk.secretIdToHex v) = .ok v := by
  unfold secretIdFromHex MatterSdk.secretIdToHex
  rw [from0x_to0x]
  have sized : (if (beBytes v).length = 16 then .ok (Ffi.fromBeBytes (beBytes v))
      else .error (.invalidLength "secret_id" 16 (beBytes v).length) : Except CoreError _) = .ok v := by
    rw [if_pos (length_beBytes v), fromBeBytes_beBytes]
  exact sized

theorem Rust.frames (payload : Payload) (key : KeySigner ω) :
    Frames payload key.toKey (partialDecryptAuth payload key) := by
  refine ⟨key.accountId_length, fun context w auth w' _ authorized => ?_⟩
  simp only [partialDecryptAuth] at authorized
  split at authorized
  · simp at authorized
  · rename_i signature w₁ signed
    simp only [Prod.mk.injEq, Except.ok.injEq] at authorized
    obtain ⟨rfl, rfl⟩ := authorized
    exact ⟨signature, signed, key.sign_length _ _ _ _ signed, rfl⟩

/-- The library's payload is the one of `matter_kgc_proto`. -/
def Ffi.Library.Implements {κ : Type} (lib : Ffi.Library κ) (payload : Payload) : Prop :=
  ∀ secretId subset blockHash recipientIndex,
    lib.signingPayload secretId subset blockHash recipientIndex =
      .value (payload secretId subset blockHash recipientIndex)

theorem Go.goBytesAndFree_intoBuf (v : Bytes) : Ffi.Go.goBytesAndFree (Ffi.intoBuf v) = v := by
  unfold Ffi.Go.goBytesAndFree Ffi.intoBuf
  split
  · rename_i empty
    exact (List.eq_nil_of_length_eq_zero empty).symm
  · exact List.take_length

theorem Go.asSlice_subsetPtr (subset : List ℕ) :
    Ffi.asSlice (subsetPtr subset) subset.length = some subset := by
  unfold subsetPtr
  split
  · rename_i empty
    rw [empty]
    rfl
  · exact congrArg some List.take_length

theorem Go.signingPayload_eq {κ : Type} {lib : Ffi.Library κ} {payload : Payload}
    (implements : lib.Implements payload) (secretId : BitVec 128) (subset : List ℕ)
    {blockHash : Bytes} (sized : blockHash.length = 32) (recipientIndex : ℕ) :
    signingPayload lib (secretIDFromBytes (beBytes secretId)) subset blockHash recipientIndex =
      .ok (payload secretId subset blockHash recipientIndex) := by
  have bytes : (secretIDFromBytes (beBytes secretId)).bytes = beBytes secretId := by
    rw [SecretID.bytes_eq, beBytes_eq, value_fillBytes secretId.isLt]
  have sid : Ffi.asSlice (some (beBytes secretId)) 16 = some (beBytes secretId) :=
    congrArg some (List.take_of_length_le (length_beBytes secretId).le)
  have bh : Ffi.asSlice (some blockHash) 32 = some blockHash :=
    congrArg some (List.take_of_length_le sized.le)
  have ended : ((Ffi.Call.signingPayload (some (beBytes secretId)) (subsetPtr subset) subset.length
      (some blockHash) recipientIndex).contract lib).outcome =
        some (.value (payload secretId subset blockHash recipientIndex)) := by
    show (do
      let sid ← Ffi.asSlice (some (beBytes secretId)) 16
      let bh ← Ffi.asSlice (some blockHash) 32
      let subset ← Ffi.asSlice (subsetPtr subset) subset.length
      if sid.length = 16 ∧ bh.length = 32 then
        some (lib.signingPayload (Ffi.fromBeBytes sid) subset bh recipientIndex)
      else none) = _
    rw [sid, bh, asSlice_subsetPtr]
    show (if (beBytes secretId).length = 16 ∧ blockHash.length = 32 then _ else none) = _
    rw [if_pos ⟨length_beBytes secretId, sized⟩, fromBeBytes_beBytes, implements]
    rfl
  unfold signingPayload
  rw [bytes, Ffi.run_signingPayload, Ffi.Call.answer, Boundary.Contract.answer_of_value ended]
  exact congrArg Except.ok (goBytesAndFree_intoBuf _)

theorem Go.frames {κ : Type} {lib : Ffi.Library κ} {payload : Payload}
    (implements : lib.Implements payload) {key : Key ω} {signer : MatterSdk.Signer ω}
    (built : substrateSigner lib key = .ok signer) : Frames payload key signer := by
  unfold substrateSigner at built
  split at built
  · cases built
  rename_i sized
  cases built
  refine ⟨not_not.mp sized, fun context w auth w' typed authorized => ?_⟩
  simp only [authorize, signingPayload_eq implements _ _ typed.blockHash, toHex_eq, substrateAuth]
    at authorized
  split at authorized
  · simp at authorized
  · rename_i signature w₁ signed
    split at authorized
    · simp at authorized
    · rename_i sized
      simp only [Prod.mk.injEq, Except.ok.injEq] at authorized
      obtain ⟨rfl, rfl⟩ := authorized
      exact ⟨signature, signed, not_not.mp sized, rfl⟩

theorem Python.frames {payload : Payload} {key : Key ω} {signer : Signer ω}
    (built : substrateSigner payload key = .ok signer) : Frames payload key signer := by
  unfold substrateSigner at built
  split at built
  · cases built
  rename_i sized
  cases built
  refine ⟨not_not.mp sized, fun context w auth w' typed authorized => ?_⟩
  simp only [authorize, signingPayload, if_neg (not_not_intro typed.index),
    if_neg (not_not_intro typed.blockHash), toHex_eq, substrateAuth] at authorized
  split at authorized
  · simp at authorized
  · rename_i signature w₁ signed
    split at authorized
    · simp at authorized
    · rename_i sized
      simp only [Prod.mk.injEq, Except.ok.injEq] at authorized
      obtain ⟨rfl, rfl⟩ := authorized
      exact ⟨signature, signed, not_not.mp sized, rfl⟩

theorem TypeScript.signingPayload_eq (hex : HexCrate) (payload : Payload) {context : SigningRequest}
    (typed : context.Typed) :
    signingPayload hex payload context.secretId context.subset context.blockHash
      context.recipientIndex = .ok (context.payload payload) := by
  have named : secretIdToHex context.secretId.toNat =
      some (MatterSdk.secretIdToHex context.secretId) := by
    have small : ¬ ((context.secretId.toNat : ℤ) < 0 ∨ 2 ^ 128 ≤ (context.secretId.toNat : ℤ)) := by
      have bound := context.secretId.isLt
      omega
    rw [secretIdToHex, if_neg small, Go.idBytes_eq 16 rfl, List.append_nil, toHex_eq,
      MatterSdk.secretIdToHex, Go.beBytes_eq, Go.fillBytes]
  have index := List.forall_mem_cons.mp typed.index
  have subset : context.subset.map (· % 2 ^ 64) = context.subset := by
    conv_rhs => rw [← List.map_id context.subset]
    exact List.map_congr_left fun i mem => Nat.mod_eq_of_lt (index.2 i mem)
  unfold signingPayload wasmSigningPayload
  simp only [named, Rust.secretIdFromHex_secretIdToHex, toHex_eq, from0x_to0x,
    if_neg (not_not_intro typed.blockHash), subset, Nat.mod_eq_of_lt index.1]
  rfl

theorem TypeScript.frames {hex : HexCrate} {payload : Payload} {key : Key ω} {signer : Signer ω}
    (built : substrateSigner hex payload key = .ok signer) : Frames payload key signer := by
  unfold substrateSigner at built
  split at built
  · cases built
  rename_i sized
  cases built
  refine ⟨not_not.mp sized, fun context w auth w' typed authorized => ?_⟩
  simp only [partialDecryptAuth, if_neg sized, signingPayload_eq hex payload typed, toHex_eq,
    substrateAuth] at authorized
  split at authorized
  · simp at authorized
  · rename_i signature w₁ signed
    split at authorized
    · simp at authorized
    · rename_i sized
      simp only [Prod.mk.injEq, Except.ok.injEq] at authorized
      obtain ⟨rfl, rfl⟩ := authorized
      exact ⟨signature, signed, not_not.mp sized, rfl⟩

/-! ## What a node checks -/

/-- The payload names its recipient. -/
structure AuthScheme.Proto where
  hex : HexCrate
  payload : Payload
  verify : Bytes → Bytes → Bytes → Bool
  recipient : ∀ {secretId subset blockHash i j}, i < 2 ^ 64 → j < 2 ^ 64 →
    payload secretId subset blockHash i = payload secretId subset blockHash j → i = j

/-- `authenticates`: the check of the signature by the node at `ourIndex`. -/
def authenticates (proto : AuthScheme.Proto) (secretId : BitVec 128) (blockHash : Bytes)
    (ourIndex : ℕ) (req : PartialDecryptRequest) : Bool :=
  match from0x proto.hex req.requester, from0x proto.hex req.signature with
  | .ok requester, .ok multisig =>
    if requester.length ≠ 32 ∨ multisig.length ≠ 65 ∨ multisig.head? ≠ some 1 then false
    else proto.verify requester (proto.payload secretId req.subset blockHash ourIndex) multisig.tail
  | _, _ => false

/-- Whatever the key signs verifies. -/
def Key.Correct (key : Key ω) (proto : AuthScheme.Proto) : Prop :=
  ∀ message w signature w', key.sign message w = (.ok signature, w') →
    proto.verify key.accountId message signature = true

structure Task.Typed (task : Task) : Prop where
  blockHash : task.blockHash.length = 32
  index : ∀ n ∈ task.nodes, n.index < 2 ^ 64
  distinct : Distinct task.nodes

/-- What the key has signed one message with also passes for another. -/
def Key.Forged (key : Key ω) (proto : AuthScheme.Proto) (message message' signature : Bytes) : Prop :=
  message ≠ message' ∧ (∃ w w', key.sign message w = (.ok signature, w')) ∧
    proto.verify key.accountId message' signature = true

/-- The request names the secret and the block of the task, and verifies for them at the node it is
sent to.  At any other it passes as a forgery, of the payload that names the other, or not at all. -/
structure Authentic (proto : AuthScheme.Proto) (key : Key ω) (task : Task) (node : CommitteeNode)
    (request : PartialDecryptRequest) : Prop where
  secret : Rust.secretIdFromHex proto.hex request.secretId = .ok task.secretId
  block : from0x proto.hex request.blockHash = .ok task.blockHash
  own : authenticates proto task.secretId task.blockHash node.index request = true
  others : ∃ signature, request.signature = to0x (multisignatureSr25519 :: signature) ∧
    ∀ index < 2 ^ 64, index ≠ node.index →
      authenticates proto task.secretId task.blockHash index request = true →
        key.Forged proto (proto.payload task.secretId request.subset task.blockHash node.index)
          (proto.payload task.secretId request.subset task.blockHash index) signature

/-- Every request of the log is authentic. -/
def Authenticated (proto : AuthScheme.Proto) (key : Key ω) (task : Task) (log : List (Message τ ρ)) :
    Prop :=
  ∀ node request answer, .asked node request answer ∈ log → Authentic proto key task node request

/-- Where a framed signature passes. -/
theorem authenticates_framed_iff {proto : AuthScheme.Proto} {key : Key ω}
    (sized : key.accountId.length = accountIdBytes) {secretId : BitVec 128} {blockHash : Bytes}
    {index : ℕ} {signature : Bytes} (length : signature.length = sr25519SignatureBytes)
    {request : PartialDecryptRequest} (requester : request.requester = to0x key.accountId)
    (multisig : request.signature = to0x (multisignatureSr25519 :: signature)) :
    authenticates proto secretId blockHash index request = true ↔
      proto.verify key.accountId (proto.payload secretId request.subset blockHash index) signature =
        true := by
  have shape : ¬ (key.accountId.length ≠ 32 ∨
      (multisignatureSr25519 :: signature).length ≠ 65 ∨
        (multisignatureSr25519 :: signature).head? ≠ some 1) := by
    simp [length, sized, accountIdBytes, sr25519SignatureBytes, multisignatureSr25519]
  unfold authenticates
  simp only [requester, multisig, from0x_to0x, if_neg shape, List.tail_cons]

/-- Every request in the log of a client whose signer frames a correct key is authenticated. -/
theorem Justified.authenticated {c : Client ω τ η ρ κ ε} {task : Task} {active : List CommitteeNode}
    {log : List (Message τ ρ)} (justified : Justified c task active log)
    (inside : ∀ n ∈ active, n ∈ task.nodes) (typed : task.Typed) {proto : AuthScheme.Proto}
    {key : Key ω} (correct : key.Correct proto) (frames : Frames proto.payload key c.signer) :
    Authenticated proto key task log := by
  intro node request answer sent
  obtain ⟨newer, older, rfl⟩ := List.append_of_mem sent
  obtain ⟨signed, eligible⟩ := justified.asked
  have small : ∀ n ∈ lastQuorum older, n.index < 2 ^ 64 := fun n mem =>
    typed.index n (inside n (eligible.active n mem))
  have subset := signed.subset
  obtain ⟨lambda, auth, before, world, after, rest, -, authorized, built, -, -⟩ := signed.sent
  have context : (task.context ((lastQuorum older).map (·.index)) node.index).Typed := by
    refine ⟨typed.blockHash, fun i mem => ?_⟩
    rcases List.mem_cons.mp mem with rfl | mem
    · exact small node signed.mem
    · obtain ⟨n, listed, rfl⟩ := List.mem_map.mp mem
      exact small n listed
  obtain ⟨signature, made, length, rfl⟩ := frames.signed _ _ _ _ context authorized
  have requester : request.requester = to0x key.accountId := by rw [built]; rfl
  have multisig : request.signature = to0x (multisignatureSr25519 :: signature) := by rw [built]; rfl
  have signs : key.sign (proto.payload task.secretId request.subset task.blockHash node.index) before =
      (.ok signature, world) := by
    rw [subset]
    exact made
  refine ⟨?_, ?_, ?_, signature, multisig, fun index typed' other accepted => ?_⟩
  · rw [built]
    exact Rust.secretIdFromHex_secretIdToHex proto.hex task.secretId
  · rw [built]
    exact from0x_to0x proto.hex task.blockHash
  · exact (authenticates_framed_iff frames.accountId length requester multisig).mpr
      (correct _ _ _ _ signs)
  · refine ⟨fun same => ?_, ⟨before, world, signs⟩,
      (authenticates_framed_iff frames.accountId length requester multisig).mp accepted⟩
    exact other (proto.recipient (small node signed.mem) typed' same).symm

theorem decryptActive_justified {c : Client ω τ η ρ κ ε} (task : Task) {s : Probed ω τ η}
    (sound : s.Sound c task.nodes) (distinct : Distinct task.nodes) :
    Justified c task s.active (decryptActive c task s).log := by
  unfold decryptActive
  split_ifs with few
  · trivial
  · exact (quorumLoop_closed sound distinct (Nat.le_of_not_lt few)).justified

theorem decrypt_authenticated {c : Client ω τ η ρ κ ε} {task : Task} (typed : task.Typed)
    {proto : AuthScheme.Proto} {key : Key ω} (correct : key.Correct proto)
    (frames : Frames proto.payload key c.signer) (world : ω) :
    Authenticated proto key task (decrypt c task world).log := by
  refine decrypt_rule (D := fun s => s.Sound c task.nodes) (C := fun _ _ => True)
    (P := fun run => Authenticated proto key task run.log)
    ?_ (fun _ _ _ => by simp [Authenticated]) (fun _ _ _ => by simp [Authenticated]) ?_
  · have probed := probe_sound c task.nodes world
    generalize forEach (probeNode c) task.nodes ⟨world, [], [], []⟩ = ended at probed
    cases ended with
    | done b => trivial
    | next s => exact probed
  · intro s sound enough
    exact (quorumLoop_closed sound typed.distinct enough).justified.authenticated
      (fun n mem => sound.sublist.subset mem) typed correct frames

theorem TypeScript.decrypt_authenticated {deps : Deps ω} {params : DecryptParams}
    (typed : params.task.Typed) {proto : AuthScheme.Proto} {key : Key ω} (correct : key.Correct proto)
    (frames : Frames proto.payload key deps.signer) (world : ω) :
    Authenticated proto key params.task (decrypt deps params world).log := by
  obtain ⟨nodes, sent⟩ := settle_sent deps.transport params.nodes world
  unfold decrypt
  rcases hs : settle deps.transport params.nodes world with ⟨probes, world'⟩
  rw [hs] at nodes sent
  have sorted := sortProbes_sound (client deps params) probes sent world'
  dsimp only
  cases hf : forEach (sortProbe (client deps params).toDialect) probes ⟨world', [], [], []⟩ with
  | done b => simp [Authenticated]
  | next s =>
    rw [hf] at sorted
    change s.Sound _ (probes.map Prod.fst) at sorted
    rw [nodes] at sorted
    exact (decryptActive_justified params.task sorted typed.distinct).authenticated
      (fun n mem => sorted.sublist.subset mem) typed correct frames

section Clients

variable {proto : AuthScheme.Proto} {params : Rust.DecryptRequest}

/-- In all four clients a request that a key signs verifies at the node it is sent to, and at another
only if the signature is a forgery there. -/
theorem requests_authenticated {κ : Type} {lib : Ffi.Library κ} (typed : params.task.Typed)
    (implements : lib.Implements proto.payload) (world : ω) :
    (∀ (key : Rust.KeySigner ω) (deps : Rust.Deps ω), key.Correct proto →
      deps.signer = Rust.partialDecryptAuth proto.payload key →
        Authenticated proto key.toKey params.task (Rust.decrypt deps params world).log) ∧
    (∀ (key : Key ω) (deps : Go.Deps ω), key.Correct proto →
      Go.substrateSigner lib key = .ok deps.signer →
        Authenticated proto key params.task (Go.decrypt deps params world).log) ∧
    (∀ (key : Key ω) (deps : Python.Deps ω), key.Correct proto →
      Python.substrateSigner proto.payload key = .ok deps.signer →
        Authenticated proto key params.task (Python.decrypt deps params world).log) ∧
    ∀ (key : Key ω) (deps : TypeScript.Deps ω), key.Correct proto →
      TypeScript.substrateSigner proto.hex proto.payload key = .ok deps.signer →
        Authenticated proto key params.task (TypeScript.decrypt deps params world).log := by
  refine ⟨fun key deps correct built => ?_, fun key deps correct built => ?_,
    fun key deps correct built => ?_, fun key deps correct built => ?_⟩
  · have frames := Rust.frames proto.payload key
    rw [← built] at frames
    exact decrypt_authenticated (c := Rust.client deps params) typed correct frames world
  · exact decrypt_authenticated (c := Go.client deps params) typed correct
      (Go.frames implements built) world
  · exact decrypt_authenticated (c := Python.client deps params) typed correct
      (Python.frames built) world
  · exact TypeScript.decrypt_authenticated typed correct (TypeScript.frames built) world

end Clients

/-! ### Three members that are asked under a key -/

/-- `v1_payload`: the payload before it named a recipient. -/
def v1Payload (secretId : BitVec 128) (subset : List ℕ) (blockHash : Bytes) : Bytes :=
  utf8 "matter-kgc/partial-decrypt/v1/".toList ++ beBytes secretId ++
    Go.fillBytes 8 subset.length ++ subset.flatMap (Go.fillBytes 8) ++ blockHash

theorem fillBytes_injective {i j : ℕ} (hi : i < 2 ^ 64) (hj : j < 2 ^ 64)
    (same : Go.fillBytes 8 i = Go.fillBytes 8 j) : i = j := by
  have words := List.reverse_injective same
  have value {n : ℕ} (small : n < 2 ^ 64) : Compact.ofLeBytes (Compact.leBytes 8 n) = n :=
    Compact.ofLeBytes_leBytes small
  rw [← value hi, words, value hj]

/-- The last 64 bytes, backwards. -/
def digest (message : Bytes) : Bytes :=
  (message.reverse ++ List.replicate sr25519SignatureBytes 0).take sr25519SignatureBytes

theorem length_digest (message : Bytes) : (digest message).length = sr25519SignatureBytes := by
  simp [digest]

/-- A message is signed by its digest. -/
def digestProto : AuthScheme.Proto where
  hex := hexCrate
  payload secretId subset blockHash index := v1Payload secretId subset blockHash ++ Go.fillBytes 8 index
  verify _ message signature := signature = digest message
  recipient hi hj same := fillBytes_injective hi hj (List.append_cancel_left same)

/-- A key that signs every message. -/
def digestKey : Rust.KeySigner Unit where
  accountId := List.replicate 32 7
  sign message w := (.ok (digest message), w)
  accountId_length := rfl
  sign_length := by
    intro message w signature w' signed
    cases signed
    exact length_digest message

theorem digestKey_correct : digestKey.toKey.Correct digestProto := by
  intro message w signature w' signed
  cases signed
  exact decide_eq_true rfl

theorem digest_fillBytes (front : Bytes) (index : ℕ) :
    (digest (front ++ Go.fillBytes 8 index)).take 8 = Compact.leBytes 8 index := by
  have short : min 8 sr25519SignatureBytes = 8 := rfl
  rw [digest, List.take_take, short, List.reverse_append, List.append_assoc, Go.fillBytes,
    List.reverse_reverse]
  exact List.take_left' (Compact.length_leBytes 8 index)

/-- No signature for one recipient passes for another. -/
theorem digestKey_unforged {secretId : BitVec 128} {subset : List ℕ} {blockHash signature : Bytes}
    {i j : ℕ} (hi : i < 2 ^ 64) (hj : j < 2 ^ 64) :
    ¬ digestKey.toKey.Forged digestProto (digestProto.payload secretId subset blockHash i)
      (digestProto.payload secretId subset blockHash j) signature := by
  rintro ⟨differ, ⟨w, w', signed⟩, verified⟩
  obtain rfl : digest _ = signature := Except.ok.inj (congrArg Prod.fst signed)
  have same : Compact.leBytes 8 i = Compact.leBytes 8 j := by
    rw [← digest_fillBytes (v1Payload secretId subset blockHash) i,
      ← digest_fillBytes (v1Payload secretId subset blockHash) j]
    exact congrArg (List.take 8) (of_decide_eq_true verified)
  have equal : i = j := fillBytes_injective hi hj (congrArg List.reverse same)
  exact differ (equal ▸ rfl)

/-- A library whose payloads are those of the scheme. -/
def payloadLibrary : Ffi.Library Unit where
  signingPayload secretId subset blockHash index :=
    .value (digestProto.payload secretId subset blockHash index)
  lagrangeFor _ _ := .panic
  encrypt _ _ _ _ _ := .panic
  openSecret _ _ _ _ _ _ _ _ := .panic
  parse _ := .panic
  accountId _ := .panic
  scheme _ := .panic
  sign _ _ := .panic

def signedRequest : Rust.DecryptRequest :=
  { pairRequest 3 with blockHash := List.replicate 32 9 }

/-- Setting of three members in step, with a signer of one's own. -/
def signedSetting (signer : Signer Unit) : Setting Unit := { splitSetting 5 with signer }

/-- All four clients ask the members, under a key that signs every message and whose signatures do
not pass for another recipient. -/
theorem requests_authenticated_three :
    Authenticated digestProto digestKey.toKey signedRequest.task (Rust.decrypt
        (signedSetting (Rust.partialDecryptAuth digestProto.payload digestKey)).rust
          signedRequest ()).log ∧
      Authenticated digestProto digestKey.toKey signedRequest.task (Go.decrypt
        (signedSetting (Go.authorize payloadLibrary digestKey.toKey)).go signedRequest ()).log ∧
      Authenticated digestProto digestKey.toKey signedRequest.task (Python.decrypt
        (signedSetting (Python.authorize digestProto.payload digestKey.toKey)).python
          signedRequest ()).log ∧
      Authenticated digestProto digestKey.toKey signedRequest.task (TypeScript.decrypt
        (signedSetting (TypeScript.partialDecryptAuth hexCrate digestProto.payload
          digestKey.toKey)).typescript signedRequest ()).log ∧
      ∀ subset blockHash signature, ∀ i < 2 ^ 64, ∀ j < 2 ^ 64,
        ¬ digestKey.toKey.Forged digestProto
          (digestProto.payload signedRequest.secretId subset blockHash i)
          (digestProto.payload signedRequest.secretId subset blockHash j) signature := by
  have typed : signedRequest.task.Typed :=
    ⟨rfl, by decide, by unfold Distinct; decide⟩
  obtain ⟨rust, go, python, typescript⟩ :=
    @requests_authenticated Unit digestProto signedRequest Unit payloadLibrary typed
      (fun _ _ _ _ => rfl) ()
  exact ⟨rust _ _ digestKey_correct rfl, go _ _ digestKey_correct rfl,
    python _ _ digestKey_correct rfl, typescript _ _ digestKey_correct rfl,
    fun _ _ _ _ hi _ hj => digestKey_unforged hi hj⟩

end MatterSdk
