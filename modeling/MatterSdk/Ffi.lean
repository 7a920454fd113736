import MatterSdk.ApiKey
import MatterSdk.Core
import MatterSdk.Lib.Boundary
import MatterSdk.Lib.Compact
import MatterSdk.Lib.Utf8

/-!
# The C ABI

The entry points that return a buffer, an envelope or a handle, as the FFI crate marshals them, and
the Go constructor of API keys over them.  What they wrap is given by its outcomes.
-/

namespace MatterSdk.Ffi

open Boundary (Outcome Body call callTotal)

/-! ## Codes -/

def msdkOk : ℤ := 0

def msdkErrInvalidArg : ℤ := -1

def msdkErrCrypto : ℤ := -2

def msdkErrKey : ℤ := -3

def msdkErrInternal : ℤ := -4

/-! ## Memory -/

/-- What can be read from a pointer, if it is not null. -/
abbrev Pointer (α : Type) := Option (List α)

/-- An owned buffer; the bytes are those at its pointer. -/
structure MsdkBuf where
  ptr : Pointer UInt8
  len : ℕ
deriving DecidableEq, Repr

def MsdkBuf.empty : MsdkBuf where
  ptr := none
  len := 0

def intoBuf (v : Bytes) : MsdkBuf where
  ptr := some v
  len := v.length

structure MsdkEnvelope where
  bindingId : MsdkBuf
  capsule : MsdkBuf
  proof : MsdkBuf
  ct : MsdkBuf
deriving DecidableEq, Repr

def MsdkEnvelope.empty : MsdkEnvelope where
  bindingId := .empty
  capsule := .empty
  proof := .empty
  ct := .empty

/-- What an out-parameter points to; a handle is null or a key. -/
inductive Cell (κ : Type) where
  | buf (b : MsdkBuf)
  | envelope (e : MsdkEnvelope)
  | handle (key : Option κ)
deriving DecidableEq

/-- A `(ptr, len)` pair as a slice; null with a length is none. -/
def asSlice {α : Type} (ptr : Pointer α) (len : ℕ) : Option (List α) :=
  match ptr with
  | none => if len = 0 then some [] else none
  | some elements => some (elements.take len)

/-- `MsdkPartialInput`. -/
structure MsdkPartialInput where
  point : ℕ
  share : Pointer UInt8
  shareLen : ℕ
  proof : Pointer UInt8
  proofLen : ℕ
  commitment : Pointer UInt8
  commitmentLen : ℕ

/-! ## What is wrapped -/

def accountIdBytes : ℕ := 32

def signatureBytes : ℕ := 64

/-- How the functions of the core and of the key crate end. -/
structure Library (κ : Type) where
  signingPayload : BitVec 128 → List ℕ → Bytes → ℕ → Outcome Bytes Empty
  lagrangeFor : ℕ → List ℕ → Outcome Bytes CoreError
  encrypt : Bytes → BitVec 32 → Bytes → Bytes → Option Bytes → Outcome EncryptedSecret CoreError
  openSecret : Bytes → Bytes → BitVec 128 → ℕ → Bytes → Bytes → Bytes → List PartialInput →
    Outcome Plaintext CoreError
  parse : List Char → Outcome κ Rust.KeyError
  accountId : κ → Outcome { account : Bytes // account.length = accountIdBytes } Empty
  scheme : κ → Outcome Rust.KeyScheme Empty
  sign : κ → Bytes → Outcome { signature : Bytes // signature.length = signatureBytes } Rust.KeyError

/-- `u128::from_be_bytes`. -/
def fromBeBytes (bytes : Bytes) : BitVec 128 := BitVec.ofNat 128 (Compact.ofLeBytes bytes.reverse)

/-! ## Entry points -/

/-- An entry point, by what its out-parameter points to if that is not null. -/
abbrev Entry (κ : Type) := Option (Cell κ) → ℤ × Option (Cell κ)

section

variable {κ : Type}

def guard (body : Body (Option (Cell κ)) ℤ) : Entry κ := Boundary.catchPanic msdkErrInternal body

/-- `*out = cell`. -/
def setOut (cell : Cell κ) : Body (Option (Cell κ)) Unit := set (some cell)

/-- A `debug_assert_eq!`. -/
def debugAssertEq (a b : ℕ) : Body (Option (Cell κ)) Unit := if a = b then pure () else throw ()

variable (lib : Library κ)

def msdkSigningPayload (secretId : Pointer UInt8) (subset : Pointer ℕ) (subsetLen : ℕ)
    (blockHash : Pointer UInt8) (recipientIndex : ℕ) : Entry κ :=
  guard do
    if (← get).isNone then return msdkErrInvalidArg
    setOut (.buf .empty)
    let (some sid, some bh, some subset) :=
      (asSlice secretId 16, asSlice blockHash 32, asSlice subset subsetLen)
      | return msdkErrInvalidArg
    if sid.length ≠ 16 ∨ bh.length ≠ 32 then return msdkErrInvalidArg
    let payload ← callTotal (lib.signingPayload (fromBeBytes sid) subset bh recipientIndex)
    setOut (.buf (intoBuf payload))
    return msdkOk

def msdkLagrangeFor (point : ℕ) (subset : Pointer ℕ) (subsetLen : ℕ) : Entry κ :=
  guard do
    if (← get).isNone then return msdkErrInvalidArg
    setOut (.buf .empty)
    let some subset := asSlice subset subsetLen | return msdkErrInvalidArg
    match ← call (lib.lagrangeFor point subset) with
    | .ok bytes =>
      setOut (.buf (intoBuf bytes))
      return msdkOk
    | .error _ => return msdkErrCrypto

/-- The code of an error of `encrypt`. -/
def encryptStatus : CoreError → ℤ
  | .empty _ | .decode _ _ => msdkErrInvalidArg
  | _ => msdkErrCrypto

def msdkEncrypt (jointPk : Pointer UInt8) (jointPkLen : ℕ) (epoch : BitVec 32)
    (secrets : Pointer UInt8) (secretsLen : ℕ) (aad : Pointer UInt8) (aadLen : ℕ)
    (bindingId : Pointer UInt8) (bindingIdLen : ℕ) : Entry κ :=
  guard do
    if (← get).isNone then return msdkErrInvalidArg
    setOut (.envelope .empty)
    let (some pk, some sec, some aad, some binding) :=
      (asSlice jointPk jointPkLen, asSlice secrets secretsLen, asSlice aad aadLen,
        asSlice bindingId bindingIdLen)
      | return msdkErrInvalidArg
    let binding := if bindingId.isNone then none else some binding
    match ← call (lib.encrypt pk epoch sec aad binding) with
    | .ok env =>
      setOut (.envelope {
        bindingId := intoBuf env.bindingId
        capsule := intoBuf env.capsule
        proof := intoBuf env.proof
        ct := intoBuf env.ct })
      return msdkOk
    | .error e => return encryptStatus e

def toPartialInput (p : MsdkPartialInput) : Option PartialInput := do
  let share ← asSlice p.share p.shareLen
  let proof ← asSlice p.proof p.proofLen
  let commitment ← asSlice p.commitment p.commitmentLen
  return { point := p.point, share, proof, commitment }

/-- The code of an error of `open_secret`. -/
def openStatus : CoreError → ℤ
  | .invalidSubset _ => msdkErrInvalidArg
  | _ => msdkErrCrypto

def msdkOpenSecret (sharedA : Pointer UInt8) (sharedALen : ℕ) (capsule : Pointer UInt8)
    (capsuleLen : ℕ) (secretId : Pointer UInt8) (epoch : ℕ) (bindingId : Pointer UInt8)
    (bindingIdLen : ℕ) (aad : Pointer UInt8) (aadLen : ℕ) (ct : Pointer UInt8) (ctLen : ℕ)
    (partials : Pointer MsdkPartialInput) (partialsLen : ℕ) : Entry κ :=
  guard do
    if (← get).isNone then return msdkErrInvalidArg
    setOut (.buf .empty)
    let (some sa, some cap, some sid, some bid, some aad, some ct, some raw) :=
      (asSlice sharedA sharedALen, asSlice capsule capsuleLen, asSlice secretId 16,
        asSlice bindingId bindingIdLen, asSlice aad aadLen, asSlice ct ctLen,
        asSlice partials partialsLen)
      | return msdkErrInvalidArg
    if sid.length ≠ 16 then return msdkErrInvalidArg
    let some inputs := raw.mapM toPartialInput | return msdkErrInvalidArg
    match ← call (lib.openSecret sa cap (fromBeBytes sid) epoch bid aad ct inputs) with
    | .ok pt =>
      setOut (.buf (intoBuf pt))
      return msdkOk
    | .error e => return openStatus e

def keyStatus (_ : Rust.KeyError) : ℤ := msdkErrKey

def msdkApikeyParse (keyPtr : Pointer UInt8) (keyLen : ℕ) : Entry κ :=
  guard do
    if (← get).isNone then return msdkErrInvalidArg
    setOut (.handle none)
    let some bytes := keyPtr | return msdkErrInvalidArg
    let some text := Utf8.decode (bytes.take keyLen) | return msdkErrInvalidArg
    match ← call (lib.parse text) with
    | .ok key =>
      setOut (.handle (some key))
      return msdkOk
    | .error e => return keyStatus e

def msdkApikeyAccountId (key : Option κ) : Entry κ :=
  guard do
    if (← get).isNone then return msdkErrInvalidArg
    setOut (.buf .empty)
    let some key := key | return msdkErrInvalidArg
    let account ← callTotal (lib.accountId key)
    setOut (.buf (intoBuf account.val))
    debugAssertEq (intoBuf account.val).len accountIdBytes
    return msdkOk

def msdkApikeyScheme (key : Option κ) : Entry κ :=
  guard do
    if (← get).isNone then return msdkErrInvalidArg
    setOut (.buf .empty)
    let some key := key | return msdkErrInvalidArg
    let scheme ← callTotal (lib.scheme key)
    setOut (.buf (intoBuf (utf8 scheme.name.toList)))
    return msdkOk

def msdkApikeySign (key : Option κ) (msgPtr : Pointer UInt8) (msgLen : ℕ) : Entry κ :=
  guard do
    if (← get).isNone then return msdkErrInvalidArg
    setOut (.buf .empty)
    let some key := key | return msdkErrInvalidArg
    if msgPtr.isNone ∧ msgLen ≠ 0 then return msdkErrInvalidArg
    let msg := if msgLen = 0 then [] else (msgPtr.getD []).take msgLen
    match ← call (lib.sign key msg) with
    | .ok sig =>
      setOut (.buf (intoBuf sig.val))
      debugAssertEq (intoBuf sig.val).len signatureBytes
      return msdkOk
    | .error e => return keyStatus e

end

/-! ## Go -/

namespace Go

inductive Error where
  | errInvalidArg
  | errCrypto
  | errBadAPIKey
  | errInternal
deriving DecidableEq, Repr

def errFromStatus (rc : ℤ) : Option Error :=
  if rc = msdkOk then none
  else if rc = msdkErrInvalidArg then some .errInvalidArg
  else if rc = msdkErrKey then some .errBadAPIKey
  else if rc = msdkErrInternal then some .errInternal
  else some .errCrypto

/-- The bytes of a buffer; none is longer than an `int` can hold. -/
def goBytesAndFree (buf : MsdkBuf) : Bytes :=
  if buf.len = 0 then [] else (buf.ptr.getD []).take buf.len

structure ApiKey (κ : Type) where
  handle : κ
  accountId : Bytes
  scheme : Bytes
deriving DecidableEq, Repr

/-- The variable whose address was passed, after the call. -/
def bufOf {κ : Type} : Option (Cell κ) → MsdkBuf
  | some (.buf b) => b
  | _ => .empty

def handleOf {κ : Type} : Option (Cell κ) → Option κ
  | some (.handle key) => key
  | _ => none

/-- `NewApiKey`, on the bytes of its text. -/
def newApiKey {κ : Type} (lib : Library κ) (raw : Bytes) : Except Error (ApiKey κ) :=
  let ptr := if raw.length > 0 then some raw else none
  let (rc, out) := msdkApikeyParse lib ptr raw.length (some (.handle none))
  match errFromStatus rc with
  | some err => .error err
  | none =>
    match handleOf out with
    | none => .error .errBadAPIKey
    | some handle =>
      let (rc, out) := msdkApikeyAccountId lib (some handle) (some (.buf .empty))
      match errFromStatus rc with
      | some err => .error err
      | none =>
        let accountId := goBytesAndFree (bufOf out)
        let (rc, out) := msdkApikeyScheme lib (some handle) (some (.buf .empty))
        match errFromStatus rc with
        | some err => .error err
        | none => .ok { handle, accountId, scheme := goBytesAndFree (bufOf out) }

end Go

end MatterSdk.Ffi
