import MatterSdk.Chain.CommitteeAt
import MatterSdk.Committee.Rust

/-!
# Recovery of a stored secret

`Secrets::recover` of the Rust client.  It reads a secret by three calls, each at the block that is
the latest when it is served, and the owner may rotate or delete the secret between them.
-/

namespace MatterSdk.Rust.Recover

/-- A stored secret as the chain holds it. -/
@[ext] structure StoredSecret where
  envelope : EncryptedSecret
  epoch : BitVec 32
  aad : Bytes
deriving DecidableEq, Repr

structure CommitteeInfo where
  epoch : BitVec 32
  threshold : ℕ
  sharedA : Bytes
  nodes : List CommitteeNode
  blockHash : Bytes

/-! ## Reading the secret -/

/-- How far `read_secret` is: before its call for the payload, the epoch or the AAD, or done. -/
inductive ReadSecret where
  | payload
  | epoch (envelope : EncryptedSecret)
  | aad (envelope : EncryptedSecret) (epoch : BitVec 32)
  | done (result : Except SdkError StoredSecret)

/-- The runtime API that the next call asks. -/
def ReadSecret.method : ReadSecret → String
  | .payload => "SecretsApi_secret_payload"
  | .epoch _ => "SecretsApi_secret_epoch"
  | .aad .. => "SecretsApi_secret_aad"
  | .done _ => ""

/-- The next call is answered from a block with this record of the secret. -/
def ReadSecret.answered (secretId : BitVec 128) (read : ReadSecret) (record : Option StoredSecret) :
    ReadSecret :=
  match read with
  | .payload =>
    match record with
    | none => .done (.error (chainErr read.method
        ("secret " ++ toString secretId.toNat ++ " does not exist")))
    | some stored => .epoch stored.envelope
  | .epoch envelope =>
    match record with
    | none => .done (.error (chainErr read.method
        ("secret " ++ toString secretId.toNat ++ " has no record")))
    | some stored => .aad envelope stored.epoch
  | .aad envelope epoch_ => .done (.ok ⟨envelope, epoch_, (record.map StoredSecret.aad).getD []⟩)
  | .done result => .done result

/-- The next call fails, or its answer cannot be decoded. -/
def ReadSecret.failed (read : ReadSecret) (detail : String) : ReadSecret :=
  match read with
  | .done result => .done result
  | _ => .done (.error (chainErr read.method detail))

/-- The chain's blocks, by the record of the secret, and the reader. -/
structure World where
  head : Option StoredSecret
  past : List (Option StoredSecret)
  read : ReadSecret

namespace World

def blocks (w : World) : List (Option StoredSecret) := w.head :: w.past

/-- A new latest block, or the outcome of the reader's next call. -/
inductive Act where
  | block (record : Option StoredSecret)
  | served
  | failed (detail : String)

def step (secretId : BitVec 128) (w : World) : Act → World
  | .block record => { w with head := record, past := w.head :: w.past }
  | .served => { w with read := w.read.answered secretId w.head }
  | .failed detail => { w with read := w.read.failed detail }

def run (secretId : BitVec 128) (w : World) (acts : List Act) : World :=
  acts.foldl (step secretId) w

end World

/-! ## What is made of it -/

/-- An empty recorded AAD passes. -/
def checkAad (secretId : BitVec 128) (sealedUnder requested : Bytes) : Except SdkError Unit :=
  if sealedUnder = [] ∨ sealedUnder = requested then .ok ()
  else .error (.aadMismatch secretId sealedUnder requested)

/-- A seat as `CommitteeNode`, whose endpoint is a `String`. -/
def nodeOf (seat : Seat) : CommitteeNode :=
  { index := seat.index, endpoint := String.ofList ((Utf8.decode seat.endpoint).getD [])
    shareCommitment := seat.shareCommitment }

/-- `committee_info`, with the finalized head. -/
def committeeInfoAt (a : ChainAnswers) (finalizedHead : Except String Bytes) (epoch : BitVec 32) :
    Except SdkError CommitteeInfo :=
  match committeeInfo a epoch with
  | .error e => .error e
  | .ok committee =>
    match finalizedHead with
    | .error detail => .error (chainErr "chain_getFinalizedHead" detail)
    | .ok blockHash => .ok
        { epoch, threshold := committee.threshold.toNat, sharedA := committee.sharedA
          nodes := committee.nodes.map nodeOf, blockHash }

/-- The request that `recover_secret` decrypts. -/
def decryptRequest (secretId : BitVec 128) (committee : CommitteeInfo) (secret : EncryptedSecret)
    (aad : Bytes) : DecryptRequest :=
  { secretId, epoch := committee.epoch.toNat, bindingId := secret.bindingId, aad
    capsule := secret.capsule, ct := secret.ct, sharedA := committee.sharedA
    blockHash := committee.blockHash, threshold := committee.threshold, nodes := committee.nodes }

/-- `recover` of what was read, up to the decryption; the chain's answers for the committee depend
on the epoch. -/
def recoverRead (secretId : BitVec 128) (aad : Bytes) (answers : BitVec 32 → ChainAnswers)
    (finalizedHead : Except String Bytes) (stored : StoredSecret) : Except SdkError DecryptRequest :=
  match checkAad secretId stored.aad aad with
  | .error e => .error e
  | .ok () =>
    match committeeInfoAt (answers stored.epoch) finalizedHead stored.epoch with
    | .error e => .error e
    | .ok committee => .ok (decryptRequest secretId committee stored.envelope aad)

/-- The request carries the envelope and the epoch, and a tag that the record allows. -/
structure Carries (request : DecryptRequest) (stored : StoredSecret) : Prop where
  bindingId : request.bindingId = stored.envelope.bindingId
  capsule : request.capsule = stored.envelope.capsule
  ct : request.ct = stored.envelope.ct
  epoch : request.epoch = stored.epoch.toNat
  aad : stored.aad = [] ∨ stored.aad = request.aad

theorem committeeInfoAt_epoch {a : ChainAnswers} {finalizedHead : Except String Bytes}
    {epoch : BitVec 32} {committee : CommitteeInfo}
    (found : committeeInfoAt a finalizedHead epoch = .ok committee) : committee.epoch = epoch := by
  unfold committeeInfoAt at found
  cases joined : committeeInfo a epoch with
  | error e => simp [joined] at found
  | ok seated =>
    cases finalizedHead with
    | error detail => simp [joined] at found
    | ok blockHash =>
      simp only [joined, Except.ok.injEq] at found
      rw [← found]

theorem carries_of_recoverRead {secretId : BitVec 128} {aad : Bytes}
    {answers : BitVec 32 → ChainAnswers} {finalizedHead : Except String Bytes}
    {stored : StoredSecret} {request : DecryptRequest}
    (made : recoverRead secretId aad answers finalizedHead stored = .ok request) :
    Carries request stored := by
  unfold recoverRead checkAad at made
  by_cases allowed : stored.aad = [] ∨ stored.aad = aad
  · simp only [if_pos allowed] at made
    cases found : committeeInfoAt (answers stored.epoch) finalizedHead stored.epoch with
    | error e => simp [found] at made
    | ok committee =>
      simp only [found, Except.ok.injEq] at made
      subst made
      exact
        { bindingId := rfl
          capsule := rfl
          ct := rfl
          epoch := by
            show committee.epoch.toNat = stored.epoch.toNat
            rw [committeeInfoAt_epoch found]
          aad := allowed }
  · simp [if_neg allowed] at made

end MatterSdk.Rust.Recover
