import MatterSdk.Ffi
import MatterSdk.Suri.Grammar

/-!
# What the C ABI promises

Every entry point answers by its contract: it refuses a null pointer with a length, takes one without
for an empty slice, succeeds just if the wrapped function returned a value, and clears its
out-parameter otherwise.  The parser of keys refuses a null pointer of any length.
-/

namespace MatterSdk.Ffi

open Boundary (Outcome Codes Contract)

/-! ## Calls -/

/-- A call of an entry point, less its out-parameter. -/
inductive Call (κ : Type) where
  | signingPayload (secretId : Pointer UInt8) (subset : Pointer ℕ) (subsetLen : ℕ)
    (blockHash : Pointer UInt8) (recipientIndex : ℕ)
  | lagrangeFor (point : ℕ) (subset : Pointer ℕ) (subsetLen : ℕ)
  | encrypt (jointPk : Pointer UInt8) (jointPkLen : ℕ) (epoch : BitVec 32)
    (secrets : Pointer UInt8) (secretsLen : ℕ) (aad : Pointer UInt8) (aadLen : ℕ)
    (bindingId : Pointer UInt8) (bindingIdLen : ℕ)
  | openSecret (sharedA : Pointer UInt8) (sharedALen : ℕ) (capsule : Pointer UInt8)
    (capsuleLen : ℕ) (secretId : Pointer UInt8) (epoch : ℕ) (bindingId : Pointer UInt8)
    (bindingIdLen : ℕ) (aad : Pointer UInt8) (aadLen : ℕ) (ct : Pointer UInt8) (ctLen : ℕ)
    (partials : Pointer MsdkPartialInput) (partialsLen : ℕ)
  | apikeyParse (keyPtr : Pointer UInt8) (keyLen : ℕ)
  | apikeyAccountId (key : Option κ)
  | apikeyScheme (key : Option κ)
  | apikeySign (key : Option κ) (msgPtr : Pointer UInt8) (msgLen : ℕ)

/-- A pair that is refused. -/
def NullWithLength {α : Type} (ptr : Pointer α) (len : ℕ) : Prop := ptr = none ∧ len ≠ 0

theorem asSlice_eq_none_iff {α : Type} (ptr : Pointer α) (len : ℕ) :
    asSlice ptr len = none ↔ NullWithLength ptr len := by
  cases ptr with
  | none => simp [asSlice, NullWithLength]
  | some elements => simp [asSlice, NullWithLength]

theorem asSlice_some {α : Type} (elements : List α) (len : ℕ) :
    asSlice (some elements) len = some (elements.take len) :=
  rfl

/-- A pair that is not refused is read up to its length. -/
theorem asSlice_eq_some {α : Type} {ptr : Pointer α} {len : ℕ} (valid : ¬ NullWithLength ptr len) :
    asSlice ptr len = some (if len = 0 then [] else (ptr.getD []).take len) := by
  cases ptr with
  | none =>
    have empty : len = 0 := by simpa [NullWithLength] using valid
    rw [asSlice, if_pos empty, if_pos empty]
  | some elements =>
    by_cases empty : len = 0
    · rw [asSlice, if_pos empty, empty, List.take_zero]
    · rw [asSlice, if_neg empty]
      rfl

def codes : Codes ℤ where
  ok := msdkOk
  invalid := msdkErrInvalidArg
  internal := msdkErrInternal
  invalid_ne := by decide
  internal_ne := by decide

section

variable {κ : Type} (lib : Library κ)

def Call.run : Call κ → Entry κ
  | .signingPayload secretId subset subsetLen blockHash recipientIndex =>
    msdkSigningPayload lib secretId subset subsetLen blockHash recipientIndex
  | .lagrangeFor point subset subsetLen => msdkLagrangeFor lib point subset subsetLen
  | .encrypt jointPk jointPkLen epoch secrets secretsLen aad aadLen bindingId bindingIdLen =>
    msdkEncrypt lib jointPk jointPkLen epoch secrets secretsLen aad aadLen bindingId bindingIdLen
  | .openSecret sharedA sharedALen capsule capsuleLen secretId epoch bindingId bindingIdLen aad aadLen
      ct ctLen partials partialsLen =>
    msdkOpenSecret lib sharedA sharedALen capsule capsuleLen secretId epoch bindingId bindingIdLen
      aad aadLen ct ctLen partials partialsLen
  | .apikeyParse keyPtr keyLen => msdkApikeyParse lib keyPtr keyLen
  | .apikeyAccountId key => msdkApikeyAccountId lib key
  | .apikeyScheme key => msdkApikeyScheme lib key
  | .apikeySign key msgPtr msgLen => msdkApikeySign lib key msgPtr msgLen

/-! ## Contracts -/

theorem encryptStatus_ne (e : CoreError) : encryptStatus e ≠ codes.ok := by
  unfold encryptStatus
  split <;> decide

theorem openStatus_ne (e : CoreError) : openStatus e ≠ codes.ok := by
  unfold openStatus
  split <;> decide

theorem keyStatus_ne (e : Rust.KeyError) : keyStatus e ≠ codes.ok := by
  unfold keyStatus
  decide

/-- What a call stands for: the wrapped function on the slices that the arguments are. -/
def Call.contract : Call κ → Contract codes (Cell κ)
  | .signingPayload secretId subset subsetLen blockHash recipientIndex =>
    { Value := Bytes
      Error := Empty
      outcome := do
        let sid ← asSlice secretId 16
        let bh ← asSlice blockHash 32
        let subset ← asSlice subset subsetLen
        if sid.length = 16 ∧ bh.length = 32 then
          some (lib.signingPayload (fromBeBytes sid) subset bh recipientIndex)
        else none
      status := nofun
      status_ne := nofun
      empty := .buf .empty
      hold := fun payload => .buf (intoBuf payload) }
  | .lagrangeFor point subset subsetLen =>
    { Value := Bytes
      Error := CoreError
      outcome := (asSlice subset subsetLen).map (lib.lagrangeFor point)
      status := fun _ => msdkErrCrypto
      status_ne := fun _ => by decide
      empty := .buf .empty
      hold := fun bytes => .buf (intoBuf bytes) }
  | .encrypt jointPk jointPkLen epoch secrets secretsLen aad aadLen bindingId bindingIdLen =>
    { Value := EncryptedSecret
      Error := CoreError
      outcome := do
        let pk ← asSlice jointPk jointPkLen
        let sec ← asSlice secrets secretsLen
        let aad ← asSlice aad aadLen
        let binding ← asSlice bindingId bindingIdLen
        some (lib.encrypt pk epoch sec aad (if bindingId.isNone then none else some binding))
      status := encryptStatus
      status_ne := encryptStatus_ne
      empty := .envelope .empty
      hold := fun env => .envelope {
        bindingId := intoBuf env.bindingId
        capsule := intoBuf env.capsule
        proof := intoBuf env.proof
        ct := intoBuf env.ct } }
  | .openSecret sharedA sharedALen capsule capsuleLen secretId epoch bindingId bindingIdLen aad aadLen
      ct ctLen partials partialsLen =>
    { Value := Plaintext
      Error := CoreError
      outcome := do
        let sa ← asSlice sharedA sharedALen
        let cap ← asSlice capsule capsuleLen
        let sid ← asSlice secretId 16
        let bid ← asSlice bindingId bindingIdLen
        let aad ← asSlice aad aadLen
        let ct ← asSlice ct ctLen
        let raw ← asSlice partials partialsLen
        if sid.length = 16 then
          (raw.mapM toPartialInput).map (lib.openSecret sa cap (fromBeBytes sid) epoch bid aad ct)
        else none
      status := openStatus
      status_ne := openStatus_ne
      empty := .buf .empty
      hold := fun pt => .buf (intoBuf pt) }
  | .apikeyParse keyPtr keyLen =>
    { Value := κ
      Error := Rust.KeyError
      outcome := do
        let text ← Utf8.decode (← asSlice keyPtr keyLen)
        some (lib.parse text)
      status := keyStatus
      status_ne := keyStatus_ne
      empty := .handle none
      hold := fun key => .handle (some key) }
  | .apikeyAccountId key =>
    { Value := { account : Bytes // account.length = accountIdBytes }
      Error := Empty
      outcome := key.map lib.accountId
      status := nofun
      status_ne := nofun
      empty := .buf .empty
      hold := fun account => .buf (intoBuf account.val) }
  | .apikeyScheme key =>
    { Value := Rust.KeyScheme
      Error := Empty
      outcome := key.map lib.scheme
      status := nofun
      status_ne := nofun
      empty := .buf .empty
      hold := fun scheme => .buf (intoBuf (utf8 scheme.name.toList)) }
  | .apikeySign key msgPtr msgLen =>
    { Value := { signature : Bytes // signature.length = signatureBytes }
      Error := Rust.KeyError
      outcome := do
        let key ← key
        let msg ← asSlice msgPtr msgLen
        some (lib.sign key msg)
      status := keyStatus
      status_ne := keyStatus_ne
      empty := .buf .empty
      hold := fun sig => .buf (intoBuf sig.val) }

/-- The answer of a contract, in the out-parameter. -/
def Call.answer (call : Call κ) : ℤ × Option (Cell κ) :=
  ((call.contract lib).answer.1, some (call.contract lib).answer.2)

/-! ## The entry points and their contracts -/

theorem run_signingPayload (secretId : Pointer UInt8) (subset : Pointer ℕ) (subsetLen : ℕ)
    (blockHash : Pointer UInt8) (recipientIndex : ℕ) (old : Cell κ) :
    msdkSigningPayload lib secretId subset subsetLen blockHash recipientIndex (some old) =
      (Call.signingPayload secretId subset subsetLen blockHash recipientIndex).answer lib := by
  dsimp only [msdkSigningPayload, Call.answer, Call.contract]
  cases asSlice secretId 16 with
  | none => rfl
  | some sid =>
    cases asSlice blockHash 32 with
    | none => rfl
    | some bh =>
      cases asSlice subset subsetLen with
      | none => rfl
      | some subset =>
        dsimp only [Option.bind_eq_bind, Option.bind_some]
        by_cases sized : sid.length = 16 ∧ bh.length = 32
        · rw [if_pos sized, if_neg (by simp [sized])]
          cases lib.signingPayload (fromBeBytes sid) subset bh recipientIndex with
          | value payload => rfl
          | error e => cases e
          | panic => rfl
        · rw [if_neg sized, if_pos (not_and_or.mp sized)]
          rfl

theorem run_lagrangeFor (point : ℕ) (subset : Pointer ℕ) (subsetLen : ℕ) (old : Cell κ) :
    msdkLagrangeFor lib point subset subsetLen (some old) =
      (Call.lagrangeFor point subset subsetLen).answer lib := by
  dsimp only [msdkLagrangeFor, Call.answer, Call.contract]
  cases asSlice subset subsetLen with
  | none => rfl
  | some subset =>
    dsimp only [Option.map_some]
    cases lib.lagrangeFor point subset <;> rfl

theorem run_encrypt (jointPk : Pointer UInt8) (jointPkLen : ℕ) (epoch : BitVec 32)
    (secrets : Pointer UInt8) (secretsLen : ℕ) (aad : Pointer UInt8) (aadLen : ℕ)
    (bindingId : Pointer UInt8) (bindingIdLen : ℕ) (old : Cell κ) :
    msdkEncrypt lib jointPk jointPkLen epoch secrets secretsLen aad aadLen bindingId bindingIdLen
        (some old) =
      (Call.encrypt jointPk jointPkLen epoch secrets secretsLen aad aadLen bindingId
        bindingIdLen).answer lib := by
  dsimp only [msdkEncrypt, Call.answer, Call.contract]
  cases asSlice jointPk jointPkLen with
  | none => rfl
  | some pk =>
    cases asSlice secrets secretsLen with
    | none => rfl
    | some sec =>
      cases asSlice aad aadLen with
      | none => rfl
      | some aad =>
        cases asSlice bindingId bindingIdLen with
        | none => rfl
        | some binding =>
          dsimp only [Option.bind_eq_bind, Option.bind_some]
          cases lib.encrypt pk epoch sec aad (if bindingId.isNone then none else some binding) <;>
            rfl

theorem run_openSecret (sharedA : Pointer UInt8) (sharedALen : ℕ) (capsule : Pointer UInt8)
    (capsuleLen : ℕ) (secretId : Pointer UInt8) (epoch : ℕ) (bindingId : Pointer UInt8)
    (bindingIdLen : ℕ) (aad : Pointer UInt8) (aadLen : ℕ) (ct : Pointer UInt8) (ctLen : ℕ)
    (partials : Pointer MsdkPartialInput) (partialsLen : ℕ) (old : Cell κ) :
    msdkOpenSecret lib sharedA sharedALen capsule capsuleLen secretId epoch bindingId bindingIdLen
        aad aadLen ct ctLen partials partialsLen (some old) =
      (Call.openSecret sharedA sharedALen capsule capsuleLen secretId epoch bindingId bindingIdLen
        aad aadLen ct ctLen partials partialsLen).answer lib := by
  dsimp only [msdkOpenSecret, Call.answer, Call.contract]
  cases asSlice sharedA sharedALen with
  | none => rfl
  | some sa =>
    cases asSlice capsule capsuleLen with
    | none => rfl
    | some cap =>
      cases asSlice secretId 16 with
      | none => rfl
      | some sid =>
        cases asSlice bindingId bindingIdLen with
        | none => rfl
        | some bid =>
          cases asSlice aad aadLen with
          | none => rfl
          | some aad =>
            cases asSlice ct ctLen with
            | none => rfl
            | some ct =>
              cases asSlice partials partialsLen with
              | none => rfl
              | some raw =>
                dsimp only [Option.bind_eq_bind, Option.bind_some]
                by_cases sized : sid.length = 16
                · rw [if_neg (not_not.mpr sized), if_pos sized]
                  cases raw.mapM toPartialInput with
                  | none => rfl
                  | some inputs =>
                    dsimp only [Option.map_some]
                    cases lib.openSecret sa cap (fromBeBytes sid) epoch bid aad ct inputs <;> rfl
                · rw [if_pos sized, if_neg sized]
                  rfl

/-- The assertion after the call holds of every account and of every signature. -/
theorem debugAssertEq_sized {n : ℕ} (v : { bytes : Bytes // bytes.length = n }) :
    @debugAssertEq κ (intoBuf v.val).len n = pure () :=
  if_pos v.property

/-- A key that is not null is read as its contract says. -/
theorem run_apikeyParse (bytes : Bytes) (keyLen : ℕ) (old : Cell κ) :
    msdkApikeyParse lib (some bytes) keyLen (some old) =
      (Call.apikeyParse (some bytes) keyLen).answer lib := by
  dsimp only [msdkApikeyParse, Call.answer, Call.contract, asSlice]
  dsimp only [Option.bind_eq_bind, Option.bind_some]
  cases Utf8.decode (bytes.take keyLen) with
  | none => rfl
  | some text =>
    dsimp only [Option.bind_some]
    cases lib.parse text <;> rfl

theorem run_apikeyParse_null (keyLen : ℕ) (old : Cell κ) :
    msdkApikeyParse lib none keyLen (some old) = (msdkErrInvalidArg, some (.handle none)) :=
  rfl

theorem run_apikeyAccountId (key : Option κ) (old : Cell κ) :
    msdkApikeyAccountId lib key (some old) = (Call.apikeyAccountId key).answer lib := by
  dsimp only [msdkApikeyAccountId, Call.answer, Call.contract]
  cases key with
  | none => rfl
  | some key =>
    dsimp only [Option.map_some]
    simp only [debugAssertEq_sized]
    cases lib.accountId key with
    | value account => rfl
    | error e => cases e
    | panic => rfl

theorem run_apikeyScheme (key : Option κ) (old : Cell κ) :
    msdkApikeyScheme lib key (some old) = (Call.apikeyScheme key).answer lib := by
  dsimp only [msdkApikeyScheme, Call.answer, Call.contract]
  cases key with
  | none => rfl
  | some key =>
    dsimp only [Option.map_some]
    cases lib.scheme key with
    | value scheme => rfl
    | error e => cases e
    | panic => rfl

theorem run_apikeySign (key : Option κ) (msgPtr : Pointer UInt8) (msgLen : ℕ) (old : Cell κ) :
    msdkApikeySign lib key msgPtr msgLen (some old) =
      (Call.apikeySign key msgPtr msgLen).answer lib := by
  dsimp only [msdkApikeySign, Call.answer, Call.contract]
  cases key with
  | none => rfl
  | some key =>
    dsimp only [Option.bind_eq_bind, Option.bind_some]
    simp only [debugAssertEq_sized]
    by_cases refused : NullWithLength msgPtr msgLen
    · rw [(asSlice_eq_none_iff msgPtr msgLen).mpr refused,
        if_pos ⟨Option.isNone_iff_eq_none.mpr refused.1, refused.2⟩]
      rfl
    · rw [asSlice_eq_some refused,
        if_neg fun null => refused ⟨Option.isNone_iff_eq_none.mp null.1, null.2⟩]
      dsimp only [Option.bind_some]
      cases lib.sign key (if msgLen = 0 then [] else (msgPtr.getD []).take msgLen) <;> rfl

/-! ## Null pointers -/

def MsdkPartialInput.HasNull (p : MsdkPartialInput) : Prop :=
  NullWithLength p.share p.shareLen ∨ NullWithLength p.proof p.proofLen ∨
    NullWithLength p.commitment p.commitmentLen

/-- Some pair of a call is null with a length. -/
def Call.HasNull : Call κ → Prop
  | .signingPayload secretId subset subsetLen blockHash _ =>
    NullWithLength secretId 16 ∨ NullWithLength subset subsetLen ∨ NullWithLength blockHash 32
  | .lagrangeFor _ subset subsetLen => NullWithLength subset subsetLen
  | .encrypt jointPk jointPkLen _ secrets secretsLen aad aadLen bindingId bindingIdLen =>
    NullWithLength jointPk jointPkLen ∨ NullWithLength secrets secretsLen ∨
      NullWithLength aad aadLen ∨ NullWithLength bindingId bindingIdLen
  | .openSecret sharedA sharedALen capsule capsuleLen secretId _ bindingId bindingIdLen aad aadLen ct
      ctLen partials partialsLen =>
    NullWithLength sharedA sharedALen ∨ NullWithLength capsule capsuleLen ∨
      NullWithLength secretId 16 ∨ NullWithLength bindingId bindingIdLen ∨
      NullWithLength aad aadLen ∨ NullWithLength ct ctLen ∨ NullWithLength partials partialsLen ∨
      ∃ raw, asSlice partials partialsLen = some raw ∧ ∃ p ∈ raw, p.HasNull
  | .apikeyParse keyPtr keyLen => NullWithLength keyPtr keyLen
  | .apikeyAccountId _ | .apikeyScheme _ => False
  | .apikeySign _ msgPtr msgLen => NullWithLength msgPtr msgLen

theorem toPartialInput_eq_none {p : MsdkPartialInput} (null : p.HasNull) :
    toPartialInput p = none := by
  unfold toPartialInput
  rcases null with null | null | null
  · rw [(asSlice_eq_none_iff _ _).mpr null]
    rfl
  · rw [(asSlice_eq_none_iff _ _).mpr null]
    cases asSlice p.share p.shareLen <;> rfl
  · rw [(asSlice_eq_none_iff _ _).mpr null]
    cases asSlice p.share p.shareLen <;> cases asSlice p.proof p.proofLen <;> rfl

theorem mapM_eq_none {α β : Type} {f : α → Option β} {l : List α} {a : α} (inside : a ∈ l)
    (refused : f a = none) : l.mapM f = none := by
  induction l with
  | nil => cases inside
  | cons b l ih =>
    rw [List.mapM_cons]
    rcases List.mem_cons.mp inside with rfl | later
    · rw [refused]
      rfl
    · rw [ih later]
      cases f b <;> rfl

/-- A call with a pair that is null with a length is refused. -/
theorem outcome_of_hasNull {call : Call κ} (null : call.HasNull) :
    (call.contract lib).outcome = none := by
  have refused {α : Type} {ptr : Pointer α} {len : ℕ} (null : NullWithLength ptr len) :
      asSlice ptr len = none :=
    (asSlice_eq_none_iff ptr len).mpr null
  cases call with
  | signingPayload =>
    rcases null with null | null | null <;> simp [Call.contract, refused null]
  | lagrangeFor => simp [Call.contract, refused null]
  | encrypt => rcases null with null | null | null | null <;> simp [Call.contract, refused null]
  | openSecret =>
    rcases null with null | null | null | null | null | null | pairs
    iterate 6
      next => simp [Call.contract, refused null]
    rcases pairs with null | ⟨raw, read, p, inside, null⟩
    · simp [Call.contract, refused null]
    · simp [Call.contract, read, mapM_eq_none inside (toPartialInput_eq_none null)]
  | apikeyParse => simp [Call.contract, refused null]
  | apikeyAccountId => cases null
  | apikeyScheme => cases null
  | apikeySign => simp [Call.contract, refused null]

/-! ## Empty slices -/

/-- The second pointer is the first, or an empty slice for a null without a length. -/
def Refill {α : Type} (ptr ptr' : Pointer α) (len : ℕ) : Prop :=
  ptr = ptr' ∨ ptr = none ∧ ptr' ≠ none ∧ len = 0

theorem asSlice_refill {α : Type} {ptr ptr' : Pointer α} {len : ℕ} (refill : Refill ptr ptr' len) :
    asSlice ptr len = asSlice ptr' len := by
  rcases refill with rfl | ⟨rfl, some_, rfl⟩
  · rfl
  · obtain ⟨elements, rfl⟩ := Option.ne_none_iff_exists'.mp some_
    rfl

structure MsdkPartialInput.Refill (p p' : MsdkPartialInput) : Prop where
  point : p.point = p'.point
  shareLen : p.shareLen = p'.shareLen
  share : Ffi.Refill p.share p'.share p.shareLen
  proofLen : p.proofLen = p'.proofLen
  proof : Ffi.Refill p.proof p'.proof p.proofLen
  commitmentLen : p.commitmentLen = p'.commitmentLen
  commitment : Ffi.Refill p.commitment p'.commitment p.commitmentLen

/-- The inputs of partials, with their own pairs. -/
inductive RefillPartials : Pointer MsdkPartialInput → Pointer MsdkPartialInput → ℕ → Prop where
  | whole {partials partials' : Pointer MsdkPartialInput} {len : ℕ} :
    Refill partials partials' len → RefillPartials partials partials' len
  | each {raw raw' : List MsdkPartialInput} {len : ℕ} :
    List.Forall₂ MsdkPartialInput.Refill raw raw' → RefillPartials (some raw) (some raw') len

/-- The second call has empty slices for pairs that are null without a length in the first one; the
label of `msdk_encrypt` is the same. -/
inductive Filled : Call κ → Call κ → Prop where
  | signingPayload {secretId subset subset' subsetLen blockHash recipientIndex} :
    Refill subset subset' subsetLen →
    Filled (.signingPayload secretId subset subsetLen blockHash recipientIndex)
      (.signingPayload secretId subset' subsetLen blockHash recipientIndex)
  | lagrangeFor {point subset subset' subsetLen} :
    Refill subset subset' subsetLen →
    Filled (.lagrangeFor point subset subsetLen) (.lagrangeFor point subset' subsetLen)
  | encrypt {jointPk jointPk' jointPkLen epoch secrets secrets' secretsLen aad aad' aadLen bindingId
      bindingIdLen} :
    Refill jointPk jointPk' jointPkLen → Refill secrets secrets' secretsLen →
    Refill aad aad' aadLen →
    Filled (.encrypt jointPk jointPkLen epoch secrets secretsLen aad aadLen bindingId bindingIdLen)
      (.encrypt jointPk' jointPkLen epoch secrets' secretsLen aad' aadLen bindingId bindingIdLen)
  | openSecret {sharedA sharedA' sharedALen capsule capsule' capsuleLen secretId epoch bindingId
      bindingId' bindingIdLen aad aad' aadLen ct ct' ctLen partials partials' partialsLen} :
    Refill sharedA sharedA' sharedALen → Refill capsule capsule' capsuleLen →
    Refill bindingId bindingId' bindingIdLen → Refill aad aad' aadLen → Refill ct ct' ctLen →
    RefillPartials partials partials' partialsLen →
    Filled (.openSecret sharedA sharedALen capsule capsuleLen secretId epoch bindingId bindingIdLen
        aad aadLen ct ctLen partials partialsLen)
      (.openSecret sharedA' sharedALen capsule' capsuleLen secretId epoch bindingId' bindingIdLen
        aad' aadLen ct' ctLen partials' partialsLen)
  | apikeyParse {keyPtr keyPtr' keyLen} :
    Refill keyPtr keyPtr' keyLen →
    Filled (.apikeyParse keyPtr keyLen) (.apikeyParse keyPtr' keyLen)
  | apikeySign {key msgPtr msgPtr' msgLen} :
    Refill msgPtr msgPtr' msgLen →
    Filled (.apikeySign key msgPtr msgLen) (.apikeySign key msgPtr' msgLen)

theorem toPartialInput_refill {p p' : MsdkPartialInput} (refill : p.Refill p') :
    toPartialInput p = toPartialInput p' := by
  unfold toPartialInput
  rw [asSlice_refill refill.share, asSlice_refill refill.proof, asSlice_refill refill.commitment,
    refill.shareLen, refill.proofLen, refill.commitmentLen, refill.point]

theorem mapM_congr {α β : Type} {f : α → Option β} {l l' : List α}
    (same : List.Forall₂ (fun a a' => f a = f a') l l') : l.mapM f = l'.mapM f := by
  induction same with
  | nil => rfl
  | cons first _ ih => rw [List.mapM_cons, List.mapM_cons, first, ih]

/-- A call and its filling stand for the same. -/
theorem contract_filled {call call' : Call κ} (filled : Filled call call') :
    call.contract lib = call'.contract lib := by
  cases filled with
  | signingPayload subset => simp only [Call.contract, asSlice_refill subset]
  | lagrangeFor subset => simp only [Call.contract, asSlice_refill subset]
  | encrypt jointPk secrets aad =>
    simp only [Call.contract, asSlice_refill jointPk, asSlice_refill secrets, asSlice_refill aad]
  | openSecret sharedA capsule bindingId aad ct partials =>
    cases partials with
    | whole partials =>
      simp only [Call.contract, asSlice_refill sharedA, asSlice_refill capsule,
        asSlice_refill bindingId, asSlice_refill aad, asSlice_refill ct, asSlice_refill partials]
    | @each raw raw' _ all =>
      have same (n : ℕ) :
          (raw.take n).mapM toPartialInput = (raw'.take n).mapM toPartialInput :=
        mapM_congr ((List.forall₂_take n all).imp fun _ _ => toPartialInput_refill)
      simp only [Call.contract, asSlice_refill sharedA, asSlice_refill capsule,
        asSlice_refill bindingId, asSlice_refill aad, asSlice_refill ct, asSlice_some,
        Option.bind_eq_bind, Option.bind_some, same]
  | apikeyParse key => simp only [Call.contract, asSlice_refill key]
  | apikeySign msg => simp only [Call.contract, asSlice_refill msg]

/-! ## Faithful calls -/

/-- What the ABI says of a call. -/
structure Faithful (call : Call κ) : Prop where
  refused : call.HasNull → ∀ out, (call.run lib out).1 = msdkErrInvalidArg
  filled : ∀ call', Filled call call' → ∀ out, call.run lib out = call'.run lib out
  returned : ∀ old, (call.run lib (some old)).1 = msdkOk ↔
    ∃ v, (call.contract lib).outcome = some (.value v)
  holds : ∀ old v, (call.contract lib).outcome = some (.value v) →
    (call.run lib (some old)).2 = some ((call.contract lib).hold v)
  cleared : ∀ old, (call.run lib (some old)).1 ≠ msdkOk →
    (call.run lib (some old)).2 = some (call.contract lib).empty

/-- A null out-parameter is refused, and nothing is written. -/
theorem run_none (call : Call κ) : call.run lib none = (msdkErrInvalidArg, none) := by
  cases call <;> rfl

theorem run_some {call : Call κ} (other : call ≠ .apikeyParse none 0) (old : Cell κ) :
    call.run lib (some old) = call.answer lib := by
  cases call with
  | signingPayload => exact run_signingPayload ..
  | lagrangeFor => exact run_lagrangeFor ..
  | encrypt => exact run_encrypt ..
  | openSecret => exact run_openSecret ..
  | apikeyParse keyPtr keyLen =>
    cases keyPtr with
    | some bytes => exact run_apikeyParse ..
    | none =>
      have long : keyLen ≠ 0 := fun empty => other (by rw [empty])
      have null : Call.HasNull (.apikeyParse none keyLen : Call κ) := ⟨rfl, long⟩
      rw [Call.answer, Contract.answer_of_none (outcome_of_hasNull lib null)]
      exact run_apikeyParse_null lib keyLen old
  | apikeyAccountId => exact run_apikeyAccountId ..
  | apikeyScheme => exact run_apikeyScheme ..
  | apikeySign => exact run_apikeySign ..

theorem filled_other {call call' : Call κ} (filled : Filled call call')
    (other : call ≠ .apikeyParse none 0) : call' ≠ .apikeyParse none 0 := by
  rintro rfl
  cases filled with
  | apikeyParse key =>
    rcases key with rfl | ⟨-, some_, -⟩
    · exact other rfl
    · exact some_ rfl

theorem faithful_of_ne {call : Call κ} (other : call ≠ .apikeyParse none 0) :
    Faithful lib call where
  refused := by
    intro null out
    cases out with
    | none => rw [run_none]
    | some old =>
      rw [run_some lib other, Call.answer, Contract.answer_of_none (outcome_of_hasNull lib null)]
      rfl
  filled := by
    intro call' filled out
    cases out with
    | none => rw [run_none, run_none]
    | some old =>
      rw [run_some lib other, run_some lib (filled_other filled other), Call.answer, Call.answer,
        contract_filled lib filled]
  returned := by
    intro old
    rw [run_some lib other]
    exact @Contract.answer_ok_iff ℤ (Cell κ) codes (call.contract lib)
  holds := by
    intro old v ended
    rw [run_some lib other, Call.answer, Contract.answer_of_value ended]
  cleared := by
    intro old failed
    rw [run_some lib other] at failed ⊢
    exact congrArg some (Contract.answer_cleared failed)

/-! ## Keys -/

/-- The answer of the parser of keys on a text, by how `ApiKey::parse` ended. -/
def parseAnswer : Outcome κ Rust.KeyError → ℤ × Option (Cell κ)
  | .value key => (msdkOk, some (.handle (some key)))
  | .error _ => (msdkErrKey, some (.handle none))
  | .panic => (msdkErrInternal, some (.handle none))

theorem apikeyParse_text (text : List Char) (old : Cell κ) :
    msdkApikeyParse lib (some (utf8 text)) (utf8 text).length (some old) =
      parseAnswer (lib.parse text) := by
  have read : Utf8.decode (utf8 text) = some text := Utf8.decode_encode text
  dsimp only [msdkApikeyParse]
  rw [List.take_length, read]
  dsimp only
  cases lib.parse text <;> rfl

theorem parseAnswer_ne (outcome : Outcome κ Rust.KeyError) :
    (parseAnswer outcome).1 ≠ msdkErrInvalidArg := by
  cases outcome <;> exact of_decide_eq_false rfl

/-- The empty slice is parsed; the null pointer is refused, and no parse has its code. -/
theorem not_faithful_null : ¬ Faithful lib (.apikeyParse none 0) := by
  intro faithful
  have filled : Filled (.apikeyParse none 0 : Call κ) (.apikeyParse (some []) 0) :=
    .apikeyParse (.inr ⟨rfl, nofun, rfl⟩)
  have same := congrArg Prod.fst (faithful.filled _ filled (some (.handle none)))
  have parsed : Call.run lib (.apikeyParse (some []) 0) (some (.handle none)) =
      parseAnswer (lib.parse []) :=
    apikeyParse_text lib [] (.handle none)
  rw [parsed] at same
  exact parseAnswer_ne _ same.symm

theorem faithful_iff (call : Call κ) : Faithful lib call ↔ call ≠ .apikeyParse none 0 := by
  constructor
  · rintro faithful rfl
    exact not_faithful_null lib faithful
  · exact faithful_of_ne lib

/-! ## Go -/

namespace Go

/-- A text that is rejected gives the error of keys, unless it is empty and goes as a null pointer. -/
theorem newApiKey_rejected {text : List Char} {e : Rust.KeyError}
    (rejected : lib.parse text = .error e) :
    newApiKey lib (utf8 text) = .error (if text = [] then .errInvalidArg else .errBadAPIKey) := by
  by_cases empty : text = []
  · subst empty
    rfl
  · have long : (utf8 text).length > 0 :=
      lt_of_lt_of_le (List.length_pos_iff.mpr empty) (Utf8.length_le_encode text)
    unfold newApiKey
    dsimp only
    rw [if_pos long, apikeyParse_text, rejected, if_neg empty]
    rfl

theorem newApiKey_iff {text : List Char} {e : Rust.KeyError} (rejected : lib.parse text = .error e) :
    newApiKey lib (utf8 text) = .error .errBadAPIKey ↔ text ≠ [] := by
  rw [newApiKey_rejected lib rejected]
  by_cases empty : text = []
  · simp [empty]
  · simp [empty]

end Go

/-- A call is answered as the ABI says iff it is not that of the parser of keys with a null pointer and
no length; the Go constructor has the error of keys for a text that is rejected iff it is not empty. -/
theorem abi_faithful_iff (call : Call κ) (text : List Char) :
    (Faithful lib call ↔ call ≠ .apikeyParse none 0) ∧
    ∀ e, lib.parse text = .error e →
      (Go.newApiKey lib (utf8 text) = .error .errBadAPIKey ↔ text ≠ []) :=
  ⟨faithful_iff lib call, fun _ => Go.newApiKey_iff lib⟩

end

/-- Libraries that refuse every secret. -/
def refusingKeys : Rust.KeyLibrary Unit Unit Unit Unit where
  decodeToSlice _ := .error ()
  mnemonicFromStr _ := .error ()
  fromPhrase _ _ := .error ()
  fromSecretKey _ := .error ()
  junction _ := ()
  derive _ _ := ()
  publicKey _ := []

/-- The parser of keys over them; nothing else returns. -/
def refusing : Library (Rust.ApiKey Unit) where
  signingPayload _ _ _ _ := .panic
  lagrangeFor _ _ := .panic
  encrypt _ _ _ _ _ := .panic
  openSecret _ _ _ _ _ _ _ _ := .panic
  parse text := .ofExcept (Rust.ApiKey.parse Rust.asciiUnicode refusingKeys text)
  accountId _ := .panic
  scheme _ := .panic
  sign _ _ := .panic

/-- A key that is empty is refused as an argument when its pointer is null, as it is from Go, and as a
key when it is not. -/
theorem null_key_diverges :
    ¬ Faithful refusing (.apikeyParse none 0) ∧
    (Call.run refusing (.apikeyParse none 0) (some (.handle none))).1 = msdkErrInvalidArg ∧
    (Call.run refusing (.apikeyParse (some []) 0) (some (.handle none))).1 = msdkErrKey ∧
    refusing.parse [] = .error .empty ∧
    Go.newApiKey refusing [] = .error .errInvalidArg := by
  have rejected : refusing.parse [] = .error .empty := rfl
  refine ⟨not_faithful_null refusing, rfl, ?_, rejected, rfl⟩
  have parsed := apikeyParse_text refusing [] (.handle none)
  rw [rejected] at parsed
  exact congrArg Prod.fst parsed

end MatterSdk.Ffi
