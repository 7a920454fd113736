import MatterSdk.Committee.Rust

/-!
# A scripted committee

A closed world in which to run the clients: nodes that always answer the same, a signer that always
agrees, a random source that takes the first nodes it is offered, and a cryptography in which a
partial is genuine when its proof repeats its share.
-/

namespace MatterSdk

variable {ω τ η ρ : Type}

/-- Nodes that answer by their endpoint alone. -/
def scripted (health : String → Except τ η) (answer : String → Except τ ρ) :
    Transport ω τ η ρ where
  health endpoint w := (health endpoint, w)
  partialDecrypt endpoint _ w := (answer endpoint, w)

def willingAuth : RequestAuth :=
  { auth := .substrate, requester := "0x01", signature := "0x02", ethAddress := none
    validUntil := none, ethSignature := none }

/-- A signer that authorizes every request. -/
def willing : Signer ω where
  authorize _ w := (.ok willingAuth, w)

/-- The first `amount` nodes. -/
def firstNodes : Sampler ω where
  chooseMultiple available amount w := (available.take amount, w)
  subperm available amount _ := (available.take_sublist amount).subperm
  length _ _ _ := List.length_take

/-- Open the ciphertext as it stands, once every proof repeats its share. -/
def mirrorOpen (entries : List (PartialEntry Bytes Bytes Bytes ℕ)) (stored : SealedSecrets) :
    Except OpenError Plaintext :=
  if ∀ e ∈ entries, e.share = e.proof then .ok stored.ciphertext
  else .error (.aggregate "proof mismatch")

def mirrorCrypto : Crypto where
  Share := Bytes
  Proof := Bytes
  Commitment := Bytes
  Lambda := ℕ
  Capsule := Bytes
  SharedA := Bytes
  decodeShare bytes := if bytes = [] then .error "empty share" else .ok bytes
  decodeProof := .ok
  decodeCommitment := .ok
  decodeCapsule := .ok
  decodeSharedA := .ok
  lagrangeCoefficient point subset := point + subset.length
  serializeLambda lambda := .ok [UInt8.ofNat lambda]
  verifyAggregateOpen entries _ _ _ _ _ _ stored := mirrorOpen entries stored

def member (index : ℕ) : CommitteeNode :=
  { index, endpoint := "node" ++ toString index, shareCommitment := [] }

/-- Threshold two among `size` members; the ciphertext is `[1]` after its nonce. -/
def pairRequest (size : ℕ) : Rust.DecryptRequest where
  secretId := 7
  epoch := 5
  bindingId := []
  aad := []
  capsule := []
  ct := List.replicate 12 0 ++ [1]
  sharedA := []
  blockHash := []
  threshold := 2
  nodes := (List.range size).map fun i => member (i + 1)

def activeHealth : Health := { status := "active", epoch := 5, cryptoProtocolVersion := 1 }

def goodAnswer : PartialDecryptResponse := { partialHex := "0x07", proof := "0x07", servedEpoch := 5 }

def scriptedDeps (health : String → Except String Health)
    (answer : String → Except String PartialDecryptResponse) : Rust.Deps Unit where
  hex := hexCrate
  crypto := mirrorCrypto
  limits := { bindingId := 64, capsule := 1024, ciphertext := 4096 }
  protocolVersion := 1
  transport := scripted health answer
  signer := willing
  sampler := firstNodes

/-- All nodes well: the secret opens. -/
example : (Rust.decrypt (scriptedDeps (fun _ => .ok activeHealth) fun _ => .ok goodAnswer)
    (pairRequest 3) ()).result = .ok [1] := by decide

end MatterSdk
