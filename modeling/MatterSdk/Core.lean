import MatterSdk.Errors

/-!
# Opening a secret

The pure decryption steps of the Rust core.  The cryptography and the decoders it is built on are
external: `Crypto` holds what the core uses of them, and `Limits` the size bounds of the chain.
-/

namespace MatterSdk

abbrev Plaintext := Bytes

/-- A sealed secret. -/
structure EncryptedSecret where
  bindingId : Bytes
  capsule : Bytes
  proof : Bytes
  ct : Bytes
deriving DecidableEq, Repr

/-- `nonce(12) ‖ ciphertext`, split. -/
structure SealedSecrets where
  ciphertext : Bytes
  nonce : Bytes
deriving DecidableEq, Repr

inductive OpenError where
  | aggregate (detail : String)
  | aead
deriving DecidableEq, Repr

/-- A decoded partial with what it is verified against. -/
structure PartialEntry (P Q C L : Type) where
  share : P
  proof : Q
  commitment : C
  lambda : L

/-- What the core uses of `matter_crypto` and of `bincode`. -/
structure Crypto where
  Share : Type
  Proof : Type
  Commitment : Type
  Lambda : Type
  Capsule : Type
  SharedA : Type
  decodeShare : Bytes → Except String Share
  decodeProof : Bytes → Except String Proof
  decodeCommitment : Bytes → Except String Commitment
  decodeCapsule : Bytes → Except String Capsule
  decodeSharedA : Bytes → Except String SharedA
  lagrangeCoefficient : ℕ → List ℕ → Lambda
  serializeLambda : Lambda → Except String Bytes
  verifyAggregateOpen : List (PartialEntry Share Proof Commitment Lambda) → Capsule → SharedA →
    Bytes → ℕ → Bytes → Bytes → SealedSecrets → Except OpenError Plaintext

/-- The bounds of `matter_kgc_config`. -/
structure Limits where
  bindingId : ℕ
  capsule : ℕ
  ciphertext : ℕ

/-- Decode ceiling for inputs with no on-chain bound. -/
def maxDecodeBytes : ℕ := 16 <<< 20

/-- One node's contribution to a decrypt. -/
structure PartialInput where
  point : ℕ
  share : Bytes
  proof : Bytes
  commitment : Bytes
deriving DecidableEq, Repr

def bound (field : String) (actual max : ℕ) : Except CoreError Unit :=
  if actual > max then .error (.tooLarge field max actual) else .ok ()

/-- `de`: the size check, then `decode`, whose error is put under `field`. -/
def de {α : Type} (decode : Bytes → Except String α) (field : String) (bytes : Bytes) (max : ℕ) :
    Except CoreError α := do
  bound field bytes.length max
  (decode bytes).mapError (CoreError.decode field)

/-- The first element of a list that an earlier one equals. -/
def firstRepeat (seen : List ℕ) : List ℕ → Option ℕ
  | [] => none
  | p :: rest => if p ∈ seen then some p else firstRepeat (p :: seen) rest

/-- The evaluation points of `partials`: non-empty, non-zero, distinct. -/
def subsetPoints (partials : List PartialInput) : Except CoreError (List ℕ) :=
  if partials = [] then .error (.invalidSubset "no partials supplied")
  else
    let points := partials.map (·.point)
    if 0 ∈ points then .error (.invalidSubset "point 0 is not an evaluation point")
    else
      match firstRepeat [] points with
      | some dup => .error (.invalidSubset ("point " ++ toString dup ++ " appears twice"))
      | none => .ok points

/-- `lagrange_for`: the coefficient of `point` over `subset`, serialized. -/
def lagrangeFor (crypto : Crypto) (point : ℕ) (subset : List ℕ) : Except CoreError Bytes :=
  (crypto.serializeLambda (crypto.lagrangeCoefficient point subset)).mapError
    (CoreError.decode "lambda")

/-- The parts of a stored secret that opening reads. -/
structure OpenInput where
  sharedA : Bytes
  capsule : Bytes
  secretId : BitVec 128
  epoch : ℕ
  bindingId : Bytes
  aad : Bytes
  ct : Bytes

/-- Decode one partial; the coefficient is that of its point over all of `points`. -/
def decodePartial (crypto : Crypto) (points : List ℕ) (p : PartialInput) :
    Except CoreError
      (PartialEntry crypto.Share crypto.Proof crypto.Commitment crypto.Lambda) := do
  let share ← de crypto.decodeShare "partial" p.share maxDecodeBytes
  let proof ← de crypto.decodeProof "partial proof" p.proof maxDecodeBytes
  let commitment ← de crypto.decodeCommitment "commitment" p.commitment maxDecodeBytes
  return { share, proof, commitment, lambda := crypto.lagrangeCoefficient p.point points }

/-- `open_secret`. -/
def openSecret (crypto : Crypto) (limits : Limits) (input : OpenInput)
    (partials : List PartialInput) : Except CoreError Plaintext := do
  let points ← subsetPoints partials
  bound "binding_id" input.bindingId.length limits.bindingId
  bound "ct" input.ct.length limits.ciphertext
  let sharedA ← de crypto.decodeSharedA "shared_a" input.sharedA maxDecodeBytes
  let capsule ← de crypto.decodeCapsule "capsule" input.capsule limits.capsule
  if input.ct.length < 12 then
    .error (.invalidLength "ct (nonce prefix)" 12 input.ct.length)
  else
    let stored : SealedSecrets := { ciphertext := input.ct.drop 12, nonce := input.ct.take 12 }
    let entries ← partials.mapM (decodePartial crypto points)
    match crypto.verifyAggregateOpen entries capsule sharedA (beBytes input.secretId) input.epoch
        input.bindingId input.aad stored with
    | .ok plaintext => .ok plaintext
    | .error (.aggregate detail) => .error (.aggregate detail)
    | .error .aead => .error .aead

end MatterSdk
