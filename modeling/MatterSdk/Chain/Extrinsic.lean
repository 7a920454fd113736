import MatterSdk.Chain.Errors
import MatterSdk.Lib.Compact
import MatterSdk.Wire

/-!
# Extrinsic framing

How the Go chain client builds a signed extrinsic from the signed extensions that the metadata
declares, and the version 4 layout by which a node reads it back.
-/

namespace MatterSdk.Go

/-! ## The client -/

/-- `extrinsicVersionSigned`. -/
def extrinsicVersionSigned : UInt8 := 0x84

/-- `multiAddressID`. -/
def multiAddressID : UInt8 := 0x00

/-- `eraImmortal`. -/
def eraImmortal : UInt8 := 0x00

/-- `metadataHashDisabled`. -/
def metadataHashDisabled : UInt8 := 0x00

/-- `optionNone`. -/
def optionNone : UInt8 := 0x00

/-- `maxUnhashedPayloadBytes`. -/
def maxUnhashedPayloadBytes : ℕ := 256

/-- `accountIDBytes`. -/
def accountIDBytes : ℕ := 32

/-- `multisignatureSr25519`. -/
def multisignatureSr25519 : UInt8 := 0x01

/-- `sr25519SignatureBytes`. -/
def sr25519SignatureBytes : ℕ := 64

/-- `SigningContext`. -/
structure SigningContext where
  specVersion : BitVec 32
  transactionVersion : BitVec 32
  genesisHash : Vector UInt8 32
  mortalityHash : Vector UInt8 32
  nonce : BitVec 32
  tip : BitVec 64

/-- `contributor`: the bytes that one signed extension adds to each segment. -/
structure Contributor where
  extra : Option (SigningContext → Bytes) := none
  additional : Option (SigningContext → Bytes) := none

/-- `UnsignedExtrinsic`. -/
structure UnsignedExtrinsic where
  call : Bytes
  extra : Bytes
  additional : Bytes
deriving DecidableEq, Repr

/-- `u32le`. -/
def u32le (v : BitVec 32) : Bytes := Compact.leBytes 4 v.toNat

section

-- `encodeUCompact` is `codec.Encode` of a `types.UCompact`; `quote` prints a text with `%q`.
variable (encodeUCompact : ℕ → Bytes) (quote : String → String)

/-- `compactUint`. -/
def compactUint (v : BitVec 64) : Bytes := encodeUCompact v.toNat

/-- `signedExtensions`. -/
def signedExtensions : List (String × Contributor) := [
  ("CheckNonZeroSender", {}),
  ("CheckSpecVersion", { additional := some fun ctx => u32le ctx.specVersion }),
  ("CheckTxVersion", { additional := some fun ctx => u32le ctx.transactionVersion }),
  ("CheckGenesis", { additional := some fun ctx => ctx.genesisHash.toList }),
  ("CheckMortality",
    { extra := some fun _ => [eraImmortal]
      additional := some fun ctx => ctx.mortalityHash.toList }),
  ("CheckEra",
    { extra := some fun _ => [eraImmortal]
      additional := some fun ctx => ctx.mortalityHash.toList }),
  ("CheckNonce",
    { extra := some fun ctx => compactUint encodeUCompact (ctx.nonce.setWidth 64) }),
  ("CheckWeight", {}),
  ("ChargeTransactionPayment",
    { extra := some fun ctx => compactUint encodeUCompact ctx.tip }),
  ("CheckMetadataHash",
    { extra := some fun _ => [metadataHashDisabled]
      additional := some fun _ => [optionNone] }),
  ("WeightReclaim", {})]

/-- What a contributor adds to a segment. -/
def contribution (supply : Option (SigningContext → Bytes)) (ctx : SigningContext) : Bytes :=
  match supply with
  | none => []
  | some supply => supply ctx

/-- The refusal of an extension that is not registered. -/
def unknownExtension (identifier : String) : Error :=
  .plain ("runtime declares signed extension " ++ quote identifier ++ ", which this SDK cannot " ++
    "contribute bytes for; refusing to sign a payload it cannot account for (the runtime likely " ++
    "upgraded — update packages/go/mattersdk/extrinsic.go)")

/-- One declared extension. -/
def contribute (ctx : SigningContext) (x : UnsignedExtrinsic) (identifier : String) :
    Except Error UnsignedExtrinsic :=
  match (signedExtensions encodeUCompact).lookup identifier with
  | none => .error (unknownExtension quote identifier)
  | some c =>
    .ok { x with
      extra := x.extra ++ contribution c.extra ctx
      additional := x.additional ++ contribution c.additional ctx }

/-- `PrepareExtrinsic`: `encoded` is `codec.Encode` of the call, `declared` are the identifiers of the
signed extensions. -/
def prepareExtrinsic (encoded : Except Error Bytes) (declared : List String) (ctx : SigningContext) :
    Except Error UnsignedExtrinsic :=
  match encoded with
  | .error e => .error (.wrapped ("encode call: " ++ e.text) e)
  | .ok callBytes =>
    if declared.length = 0 then
      .error (.plain
        "runtime metadata declares no signed extensions; cannot assemble a signed extrinsic")
    else
      declared.foldlM (contribute encodeUCompact quote ctx)
        { call := callBytes, extra := [], additional := [] }

/-- `SigningPayload`, `sum256` being `blake2b.Sum256`. -/
def UnsignedExtrinsic.signingPayload (sum256 : Bytes → Bytes) (x : UnsignedExtrinsic) : Bytes :=
  let raw := x.call ++ x.extra ++ x.additional
  if raw.length > maxUnhashedPayloadBytes then sum256 raw else raw

/-- The body that `Assemble` puts its length before. -/
def UnsignedExtrinsic.body (x : UnsignedExtrinsic) (accountID sig : Bytes) : Bytes :=
  [extrinsicVersionSigned, multiAddressID] ++ accountID ++ [multisignatureSr25519] ++ sig ++
    x.extra ++ x.call

/-- `Assemble`. -/
def UnsignedExtrinsic.assemble (x : UnsignedExtrinsic) (accountID sig : Bytes) :
    Except Error Bytes :=
  if accountID.length ≠ accountIDBytes then
    .error (.plain ("accountID must be " ++ toString accountIDBytes ++ " bytes, got " ++
      toString accountID.length))
  else if sig.length ≠ sr25519SignatureBytes then
    .error (.plain ("sr25519 signature must be " ++ toString sr25519SignatureBytes ++
      " bytes, got " ++ toString sig.length))
  else
    let body := x.body accountID sig
    .ok (compactUint encodeUCompact (BitVec.ofNat 64 body.length) ++ body)

end

/-! ## The layout -/

/-- What an extension's part of the extra bytes stands for. -/
inductive ExtensionValue where
  | unit
  | immortal
  | mortal (era : UInt8 × UInt8)
  | nonce (n : ℕ)
  | tip (n : ℕ)
  | metadataHash (enabled : Bool)
deriving DecidableEq, Repr

/-- What an extension's part of the additional bytes stands for. -/
inductive AdditionalValue where
  | unit
  | specVersion (n : ℕ)
  | transactionVersion (n : ℕ)
  | genesisHash (hash : Bytes)
  | mortalityHash (hash : Bytes)
  | metadataHash (digest : Option Bytes)
deriving DecidableEq, Repr

/-- A signed extrinsic of version 4, from an account by its id and with an sr25519 signature. -/
structure SignedExtrinsic where
  account : Bytes
  signature : Bytes
  extra : Bytes
  values : List ExtensionValue
  call : Bytes
deriving DecidableEq, Repr

/-- The byte `b`. -/
def expectByte (what : String) (b : UInt8) : Reader String UInt8 Unit :=
  (Reader.item "EOF").bind fun read => if read = b then Reader.pure () else Reader.fail what

/-- A compact number below a bound. -/
def compactBelow (bound : ℕ) : Reader String UInt8 ℕ :=
  Reader.bind Compact.decode fun n => if n < bound then Reader.pure n else Reader.fail "out of range"

def readEra : Reader String UInt8 ExtensionValue :=
  (Reader.item "EOF").bind fun first =>
    if first = 0 then Reader.pure .immortal
    else (Reader.item "EOF").bind fun second => Reader.pure (.mortal (first, second))

def readMode : Reader String UInt8 ExtensionValue :=
  (Reader.item "EOF").bind fun mode =>
    if mode = 0 then Reader.pure (.metadataHash false)
    else if mode = 1 then Reader.pure (.metadataHash true)
    else Reader.fail "unknown mode"

/-- An extension's part of the extra bytes, by the type that the runtime gives it. -/
def readExtension (identifier : String) : Reader String UInt8 ExtensionValue :=
  if identifier = "CheckMortality" ∨ identifier = "CheckEra" then readEra
  else if identifier = "CheckNonce" then
    (compactBelow (2 ^ 32)).bind fun n => Reader.pure (.nonce n)
  else if identifier = "ChargeTransactionPayment" then
    (compactBelow (2 ^ 128)).bind fun n => Reader.pure (.tip n)
  else if identifier = "CheckMetadataHash" then readMode
  else if identifier ∈ ["CheckNonZeroSender", "CheckSpecVersion", "CheckTxVersion", "CheckGenesis",
      "CheckWeight", "WeightReclaim"] then Reader.pure .unit
  else Reader.fail ("unknown extension " ++ identifier)

/-- A `u32`. -/
def readWord : Reader String UInt8 ℕ :=
  (Reader.take "EOF" 4).bind fun word => Reader.pure (Compact.ofLeBytes word)

def readDigest : Reader String UInt8 AdditionalValue :=
  (Reader.item "EOF").bind fun tag =>
    if tag = 0 then Reader.pure (.metadataHash none)
    else if tag = 1 then
      (Reader.take "EOF" 32).bind fun digest => Reader.pure (.metadataHash (some digest))
    else Reader.fail "unknown option"

/-- An extension's part of the additional bytes, by the type that the runtime gives it. -/
def readAdditional (identifier : String) : Reader String UInt8 AdditionalValue :=
  if identifier = "CheckSpecVersion" then
    readWord.bind fun n => Reader.pure (.specVersion n)
  else if identifier = "CheckTxVersion" then
    readWord.bind fun n => Reader.pure (.transactionVersion n)
  else if identifier = "CheckGenesis" then
    (Reader.take "EOF" 32).bind fun hash => Reader.pure (.genesisHash hash)
  else if identifier = "CheckMortality" ∨ identifier = "CheckEra" then
    (Reader.take "EOF" 32).bind fun hash => Reader.pure (.mortalityHash hash)
  else if identifier = "CheckMetadataHash" then readDigest
  else if identifier ∈ ["CheckNonZeroSender", "CheckNonce", "CheckWeight",
      "ChargeTransactionPayment", "WeightReclaim"] then Reader.pure .unit
  else Reader.fail ("unknown extension " ++ identifier)

/-- The body up to the call. -/
def readHeader (declared : List String) :
    Reader String UInt8 (Bytes × Bytes × List ExtensionValue × Bytes) :=
  (expectByte "version" 0x84).bind fun _ =>
    (expectByte "address" 0x00).bind fun _ =>
      (Reader.take "EOF" 32).bind fun account =>
        (expectByte "signature" 0x01).bind fun _ =>
          (Reader.take "EOF" 64).bind fun signature =>
            (Reader.traverse readExtension declared).spanned.bind fun (values, extra) =>
              Reader.pure (account, signature, values, extra)

/-- A signed extrinsic for the declared extensions. -/
def readExtrinsic (declared : List String) (bytes : Bytes) : Except String SignedExtrinsic :=
  match Compact.decode bytes with
  | .error e => .error e
  | .ok (length, body) =>
    if body.length ≠ length then .error "length"
    else
      match readHeader declared body with
      | .error e => .error e
      | .ok ((account, signature, values, extra), call) =>
        .ok { account, signature, extra, values, call }

/-! ## Preparing -/

section

variable (encodeUCompact : ℕ → Bytes) (quote : String → String) (ctx : SigningContext)

/-- The identifiers with a contributor. -/
def registered : List String := (signedExtensions encodeUCompact).map Prod.fst

/-- What an extension contributes to the extra bytes. -/
def extraOf (ctx : SigningContext) (identifier : String) : Bytes :=
  match (signedExtensions encodeUCompact).lookup identifier with
  | none => []
  | some c => contribution c.extra ctx

/-- What an extension contributes to the additional bytes. -/
def additionalOf (ctx : SigningContext) (identifier : String) : Bytes :=
  match (signedExtensions encodeUCompact).lookup identifier with
  | none => []
  | some c => contribution c.additional ctx

theorem lookup_eq_none_iff (identifier : String) :
    (signedExtensions encodeUCompact).lookup identifier = none ↔
      identifier ∉ registered encodeUCompact := by
  rw [List.lookup_eq_none_iff, registered, List.mem_map]
  constructor
  · rintro absent ⟨entry, mem, rfl⟩
    simpa using absent entry mem
  · intro absent entry mem
    simpa using fun same => absent ⟨entry, mem, same.symm⟩

theorem contribute_unknown {x : UnsignedExtrinsic} {identifier : String}
    (unknown : identifier ∉ registered encodeUCompact) :
    contribute encodeUCompact quote ctx x identifier =
      .error (unknownExtension quote identifier) := by
  unfold contribute
  rw [(lookup_eq_none_iff encodeUCompact identifier).mpr unknown]

theorem contribute_known {x : UnsignedExtrinsic} {identifier : String}
    (known : identifier ∈ registered encodeUCompact) :
    contribute encodeUCompact quote ctx x identifier =
      .ok { x with
        extra := x.extra ++ extraOf encodeUCompact ctx identifier
        additional := x.additional ++ additionalOf encodeUCompact ctx identifier } := by
  unfold contribute extraOf additionalOf
  cases found : (signedExtensions encodeUCompact).lookup identifier with
  | none => exact absurd known ((lookup_eq_none_iff encodeUCompact identifier).mp found)
  | some c => rfl

theorem foldlM_contribute_known : ∀ (declared : List String) (x : UnsignedExtrinsic),
    (∀ identifier ∈ declared, identifier ∈ registered encodeUCompact) →
      declared.foldlM (contribute encodeUCompact quote ctx) x =
        .ok { x with
          extra := x.extra ++ declared.flatMap (extraOf encodeUCompact ctx)
          additional := x.additional ++ declared.flatMap (additionalOf encodeUCompact ctx) }
  | [], x, _ => by
    rw [List.flatMap_nil, List.flatMap_nil, List.append_nil, List.append_nil]
    rfl
  | identifier :: declared, x, known => by
    have first := known identifier (List.mem_cons_self ..)
    have rest := foldlM_contribute_known declared
      { x with
        extra := x.extra ++ extraOf encodeUCompact ctx identifier
        additional := x.additional ++ additionalOf encodeUCompact ctx identifier }
      fun id mem => known id (List.mem_cons_of_mem identifier mem)
    rw [List.foldlM_cons, contribute_known encodeUCompact quote ctx first]
    refine rest.trans ?_
    simp only [List.flatMap_cons, List.append_assoc]

theorem foldlM_contribute_unknown {unknown : String} (absent : unknown ∉ registered encodeUCompact) :
    ∀ (declared : List String) (x : UnsignedExtrinsic), unknown ∈ declared →
      ∃ e, declared.foldlM (contribute encodeUCompact quote ctx) x = .error e
  | identifier :: declared, x, mem => by
    rw [List.foldlM_cons]
    by_cases known : identifier ∈ registered encodeUCompact
    · rw [contribute_known encodeUCompact quote ctx known]
      rcases List.mem_cons.mp mem with rfl | mem
      · exact absurd known absent
      · exact foldlM_contribute_unknown absent declared _ mem
    · rw [contribute_unknown encodeUCompact quote ctx known]
      exact ⟨_, rfl⟩

/-- Preparing an encoded call fails exactly for no extensions and for one that is not registered. -/
theorem prepareExtrinsic_error_iff (call : Bytes) (declared : List String) :
    (∃ e, prepareExtrinsic encodeUCompact quote (.ok call) declared ctx = .error e) ↔
      declared = [] ∨ ∃ identifier ∈ declared, identifier ∉ registered encodeUCompact := by
  unfold prepareExtrinsic
  by_cases none : declared.length = 0
  · exact iff_of_true ⟨_, if_pos none⟩ (.inl (List.length_eq_zero_iff.mp none))
  have some : declared ≠ [] := fun empty => none (List.length_eq_zero_iff.mpr empty)
  simp only [if_neg none, some, false_or]
  constructor
  · rintro ⟨e, failed⟩
    by_contra all
    have known : ∀ identifier ∈ declared, identifier ∈ registered encodeUCompact :=
      fun id mem => by_contra fun absent => all ⟨id, mem, absent⟩
    rw [foldlM_contribute_known encodeUCompact quote ctx declared _ known] at failed
    cases failed
  · rintro ⟨identifier, mem, absent⟩
    exact foldlM_contribute_unknown encodeUCompact quote ctx absent declared _ mem

/-- What is prepared holds the contributions in the declared order. -/
theorem prepareExtrinsic_eq_ok {call : Bytes} {declared : List String} {x : UnsignedExtrinsic}
    (prepared : prepareExtrinsic encodeUCompact quote (.ok call) declared ctx = .ok x) :
    (∀ identifier ∈ declared, identifier ∈ registered encodeUCompact) ∧
      x = { call
            extra := declared.flatMap (extraOf encodeUCompact ctx)
            additional := declared.flatMap (additionalOf encodeUCompact ctx) } := by
  have known : ∀ identifier ∈ declared, identifier ∈ registered encodeUCompact := by
    intro identifier mem
    by_contra absent
    obtain ⟨e, failed⟩ := (prepareExtrinsic_error_iff encodeUCompact quote ctx
      call declared).mpr (.inr ⟨identifier, mem, absent⟩)
    rw [failed] at prepared
    cases prepared
  refine ⟨known, ?_⟩
  unfold prepareExtrinsic at prepared
  dsimp only at prepared
  split at prepared
  · cases prepared
  · rw [foldlM_contribute_known encodeUCompact quote ctx declared _ known] at prepared
    exact (Except.ok.inj prepared).symm

/-! ## Reading back -/

/-- What an extension's contribution to the extra bytes stands for. -/
def SigningContext.valueOf (ctx : SigningContext) (identifier : String) : ExtensionValue :=
  if identifier = "CheckMortality" ∨ identifier = "CheckEra" then .immortal
  else if identifier = "CheckNonce" then .nonce ctx.nonce.toNat
  else if identifier = "ChargeTransactionPayment" then .tip ctx.tip.toNat
  else if identifier = "CheckMetadataHash" then .metadataHash false
  else .unit

/-- What is signed beside the extra bytes, by the extension it stands for. -/
def SigningContext.additionalOf (ctx : SigningContext) (identifier : String) : AdditionalValue :=
  if identifier = "CheckSpecVersion" then .specVersion ctx.specVersion.toNat
  else if identifier = "CheckTxVersion" then .transactionVersion ctx.transactionVersion.toNat
  else if identifier = "CheckGenesis" then .genesisHash ctx.genesisHash.toList
  else if identifier = "CheckMortality" ∨ identifier = "CheckEra" then
    .mortalityHash ctx.mortalityHash.toList
  else if identifier = "CheckMetadataHash" then .metadataHash none
  else .unit

theorem takes_readWord (v : BitVec 32) : readWord.Takes (u32le v) v.toNat := by
  refine (Reader.takes_take "EOF" (Compact.length_leBytes 4 v.toNat)).bind_last ?_
  rw [Compact.ofLeBytes_leBytes v.isLt]
  exact Reader.takes_pure _

theorem takes_hash (hash : Vector UInt8 32) :
    (Reader.take "EOF" 32).Takes hash.toList hash.toList :=
  Reader.takes_take "EOF" hash.length_toList

/-- Each registered extension's additional bytes are what the runtime signs for it. -/
theorem takes_readAdditional {identifier : String}
    (known : identifier ∈ registered encodeUCompact) :
    (readAdditional identifier).Takes (additionalOf encodeUCompact ctx identifier)
      (ctx.additionalOf identifier) := by
  simp only [registered, signedExtensions, List.map_cons, List.map_nil, List.mem_cons,
    List.not_mem_nil, or_false] at known
  rcases known with rfl | rfl | rfl | rfl | rfl | rfl | rfl | rfl | rfl | rfl | rfl
  · exact Reader.takes_pure _
  · exact (takes_readWord ctx.specVersion).bind_last (Reader.takes_pure _)
  · exact (takes_readWord ctx.transactionVersion).bind_last (Reader.takes_pure _)
  · exact (takes_hash ctx.genesisHash).bind_last (Reader.takes_pure _)
  · exact (takes_hash ctx.mortalityHash).bind_last (Reader.takes_pure _)
  · exact (takes_hash ctx.mortalityHash).bind_last (Reader.takes_pure _)
  · exact Reader.takes_pure _
  · exact Reader.takes_pure _
  · exact Reader.takes_pure _
  · exact (Reader.takes_item "EOF" optionNone).bind_last (Reader.takes_pure _)
  · exact Reader.takes_pure _

/-- The additional bytes are one value for each extension, and nothing else. -/
theorem readAdditional_flatMap {declared : List String}
    (known : ∀ identifier ∈ declared, identifier ∈ registered encodeUCompact) :
    Reader.traverse readAdditional declared
        (declared.flatMap (additionalOf encodeUCompact ctx)) =
      .ok (declared.map ctx.additionalOf, []) := by
  have taken := Reader.takes_traverse declared fun identifier mem =>
    takes_readAdditional encodeUCompact ctx (known identifier mem)
  have whole := taken []
  rwa [List.append_nil] at whole

theorem takes_expectByte (what : String) (b : UInt8) : (expectByte what b).Takes [b] () := by
  refine (Reader.takes_item "EOF" b).bind_last ?_
  rw [if_pos rfl]
  exact Reader.takes_pure ()

variable (correct : ∀ n < 2 ^ 64, encodeUCompact n = Compact.encode n)

include correct

/-- A compact field is read back at every size. -/
theorem takes_compactUint (bound : ℕ) (v : BitVec 64) (small : v.toNat < bound) :
    (compactBelow bound).Takes (compactUint encodeUCompact v) v.toNat := by
  have wide : v.toNat < 256 ^ 67 :=
    lt_of_lt_of_le v.isLt (Nat.pow_le_pow_right (n := 256) (i := 8) (by decide) (by decide))
  rw [compactUint, correct v.toNat v.isLt]
  refine (Compact.takes_encode wide).bind_last ?_
  rw [if_pos small]
  exact Reader.takes_pure _

/-- Each registered extension's contribution is what the runtime reads for it. -/
theorem takes_readExtension {identifier : String} (known : identifier ∈ registered encodeUCompact) :
    (readExtension identifier).Takes (extraOf encodeUCompact ctx identifier)
      (ctx.valueOf identifier) := by
  have nonce : (compactBelow (2 ^ 32)).Takes (compactUint encodeUCompact (ctx.nonce.setWidth 64))
      ctx.nonce.toNat := by
    have same : (ctx.nonce.setWidth 64).toNat = ctx.nonce.toNat :=
      BitVec.toNat_setWidth_of_le (by decide)
    have taken := takes_compactUint encodeUCompact correct (2 ^ 32)
      (ctx.nonce.setWidth 64) (by rw [same]; exact ctx.nonce.isLt)
    rwa [same] at taken
  have tip : (compactBelow (2 ^ 128)).Takes (compactUint encodeUCompact ctx.tip) ctx.tip.toNat :=
    takes_compactUint encodeUCompact correct _ _ (lt_trans ctx.tip.isLt (by decide))
  simp only [registered, signedExtensions, List.map_cons, List.map_nil, List.mem_cons,
    List.not_mem_nil, or_false] at known
  rcases known with rfl | rfl | rfl | rfl | rfl | rfl | rfl | rfl | rfl | rfl | rfl
  · exact Reader.takes_pure _
  · exact Reader.takes_pure _
  · exact Reader.takes_pure _
  · exact Reader.takes_pure _
  · exact (Reader.takes_item "EOF" eraImmortal).bind_last (Reader.takes_pure _)
  · exact (Reader.takes_item "EOF" eraImmortal).bind_last (Reader.takes_pure _)
  · exact nonce.bind_last (Reader.takes_pure _)
  · exact Reader.takes_pure _
  · exact tip.bind_last (Reader.takes_pure _)
  · exact (Reader.takes_item "EOF" metadataHashDisabled).bind_last (Reader.takes_pure _)
  · exact Reader.takes_pure _

theorem takes_readHeader {declared : List String} {account sig : Bytes}
    (known : ∀ identifier ∈ declared, identifier ∈ registered encodeUCompact)
    (accountLength : account.length = 32) (sigLength : sig.length = 64) :
    (readHeader declared).Takes
      ([extrinsicVersionSigned] ++ ([multiAddressID] ++ (account ++ ([multisignatureSr25519] ++
        (sig ++ declared.flatMap (extraOf encodeUCompact ctx))))))
      (account, sig, declared.map ctx.valueOf, declared.flatMap (extraOf encodeUCompact ctx)) := by
  have extensions := Reader.takes_traverse declared fun identifier mem =>
    takes_readExtension encodeUCompact ctx correct (known identifier mem)
  refine (takes_expectByte "version" extrinsicVersionSigned).bind ?_
  refine (takes_expectByte "address" multiAddressID).bind ?_
  refine (Reader.takes_take "EOF" accountLength).bind ?_
  refine (takes_expectByte "signature" multisignatureSr25519).bind ?_
  refine (Reader.takes_take "EOF" sigLength).bind ?_
  exact extensions.spanned.bind_last (Reader.takes_pure _)

/-- What is assembled is the body behind its length, and a node reads the parts back. -/
theorem readExtrinsic_assemble {declared : List String} {account sig call additional : Bytes}
    (known : ∀ identifier ∈ declared, identifier ∈ registered encodeUCompact)
    (accountLength : account.length = 32) (sigLength : sig.length = 64) {x : UnsignedExtrinsic}
    (built : x = { call, extra := declared.flatMap (extraOf encodeUCompact ctx), additional })
    (fits : (x.body account sig).length < 2 ^ 63) :
    ∃ full, x.assemble encodeUCompact account sig = .ok full ∧
      full = Compact.encode (x.body account sig).length ++ x.body account sig ∧
      readExtrinsic declared full = .ok
        { account, signature := sig, extra := x.extra, values := declared.map ctx.valueOf, call } := by
  have small : (x.body account sig).length < 2 ^ 64 := lt_trans fits (by decide)
  have prefixed : compactUint encodeUCompact (BitVec.ofNat 64 (x.body account sig).length) =
      Compact.encode (x.body account sig).length := by
    rw [compactUint, BitVec.toNat_ofNat, Nat.mod_eq_of_lt small, correct _ small]
  refine ⟨Compact.encode (x.body account sig).length ++ x.body account sig, ?_, rfl, ?_⟩
  · have account_fits : ¬ account.length ≠ accountIDBytes := not_not.mpr accountLength
    have sig_fits : ¬ sig.length ≠ sr25519SignatureBytes := not_not.mpr sigLength
    unfold UnsignedExtrinsic.assemble
    rw [if_neg account_fits, if_neg sig_fits, ← prefixed]
  · have wide : (x.body account sig).length < 256 ^ 67 :=
      lt_of_lt_of_le small (Nat.pow_le_pow_right (n := 256) (i := 8) (by decide) (by decide))
    have header := takes_readHeader encodeUCompact ctx correct known accountLength sigLength
      call
    have split : x.body account sig = [extrinsicVersionSigned] ++ ([multiAddressID] ++ (account ++
        ([multisignatureSr25519] ++ (sig ++ declared.flatMap (extraOf encodeUCompact ctx))))) ++
        call := by
      subst built
      simp [UnsignedExtrinsic.body]
    unfold readExtrinsic
    rw [Compact.takes_encode wide]
    dsimp only
    rw [if_neg (not_not.mpr rfl), split, header]
    subst built
    rfl

omit correct

/-- What is prepared for a call: its segments, the bytes that are signed and those that are sent.  The
runtime reads both segments, one value for each extension. -/
structure Framed (sum256 : Bytes → Bytes) (ctx : SigningContext) (declared : List String)
    (call : Bytes) (x : UnsignedExtrinsic) : Prop where
  call : x.call = call
  extra : x.extra = declared.flatMap (extraOf encodeUCompact ctx)
  additional : x.additional = declared.flatMap (additionalOf encodeUCompact ctx)
  covered : Reader.traverse readAdditional declared x.additional =
    .ok (declared.map ctx.additionalOf, [])
  signed : x.signingPayload sum256 =
    if (x.call ++ x.extra ++ x.additional).length > 256 then sum256 (x.call ++ x.extra ++ x.additional)
    else x.call ++ x.extra ++ x.additional
  sent : ∀ account sig : Bytes, account.length = 32 → sig.length = 64 →
    (x.body account sig).length < 2 ^ 63 →
      ∃ full, x.assemble encodeUCompact account sig = .ok full ∧
        full = Compact.encode (x.body account sig).length ++ x.body account sig ∧
        readExtrinsic declared full = .ok
          { account, signature := sig, extra := x.extra, values := declared.map ctx.valueOf
            call := x.call }

/-- A call is prepared unless an extension is missing, and what is signed and sent is framed as the
metadata declares.  The body's length is an `int`. -/
theorem prepareExtrinsic_framed (quote : String → String) (sum256 : Bytes → Bytes)
    (declared : List String) (call : Bytes) (ctx : SigningContext)
    (correct : ∀ n < 2 ^ 64, encodeUCompact n = Compact.encode n) :
    ((∃ e, prepareExtrinsic encodeUCompact quote (.ok call) declared ctx = .error e) ↔
      declared = [] ∨ ∃ identifier ∈ declared, identifier ∉ registered encodeUCompact) ∧
    ∀ x, prepareExtrinsic encodeUCompact quote (.ok call) declared ctx = .ok x →
      Framed encodeUCompact sum256 ctx declared call x := by
  refine ⟨prepareExtrinsic_error_iff encodeUCompact quote ctx call declared, fun x prepared => ?_⟩
  obtain ⟨known, built⟩ := prepareExtrinsic_eq_ok encodeUCompact quote ctx prepared
  refine ⟨by rw [built], by rw [built], by rw [built], ?_, rfl, fun account sig a s fits => ?_⟩
  · rw [built]
    exact readAdditional_flatMap encodeUCompact ctx known
  · have sent := readExtrinsic_assemble encodeUCompact ctx correct known a s built fits
    rwa [show x.call = call by rw [built]]

end

/-- The context of a fresh account. -/
def freshContext : SigningContext where
  specVersion := 308
  transactionVersion := 9
  genesisHash := Vector.replicate 32 5
  mortalityHash := Vector.replicate 32 5
  nonce := 70
  tip := 0

/-- The extensions that a runtime declares. -/
def declaredExtensions : List String :=
  ["CheckNonZeroSender", "CheckSpecVersion", "CheckTxVersion", "CheckGenesis", "CheckMortality",
    "CheckNonce", "CheckWeight", "ChargeTransactionPayment", "CheckMetadataHash", "WeightReclaim"]

/-- What is prepared for a remark. -/
def preparedRemark : UnsignedExtrinsic where
  call := [0, 0]
  extra := [0] ++ Compact.encode 70 ++ Compact.encode 0 ++ [0]
  additional := [52, 1, 0, 0] ++ [9, 0, 0, 0] ++ List.replicate 32 5 ++ List.replicate 32 5 ++ [0]

theorem prepareExtrinsic_framed_remark :
    (∀ n < 2 ^ 64, Compact.encode n = Compact.encode n) ∧
    prepareExtrinsic Compact.encode id (.ok [0, 0]) declaredExtensions freshContext =
      .ok preparedRemark ∧
    Reader.traverse readAdditional declaredExtensions preparedRemark.additional = .ok
      ([.unit, .specVersion 308, .transactionVersion 9, .genesisHash (List.replicate 32 5),
        .mortalityHash (List.replicate 32 5), .unit, .unit, .unit, .metadataHash none, .unit],
        []) ∧
    ∃ full, preparedRemark.assemble Compact.encode (List.replicate 32 7) (List.replicate 64 9) =
        .ok full ∧
      readExtrinsic declaredExtensions full = .ok
        { account := List.replicate 32 7, signature := List.replicate 64 9
          extra := preparedRemark.extra
          values := [.unit, .unit, .unit, .unit, .immortal, .nonce 70, .unit, .tip 0,
            .metadataHash false, .unit]
          call := [0, 0] } := by
  have framed := (prepareExtrinsic_framed Compact.encode id id declaredExtensions
    [0, 0] freshContext fun _ _ => rfl).2 preparedRemark rfl
  obtain ⟨full, assembled, -, read⟩ := framed.sent (List.replicate 32 7) (List.replicate 64 9)
    List.length_replicate List.length_replicate (by decide)
  exact ⟨fun _ _ => rfl, rfl, framed.covered, full, assembled, read⟩

end MatterSdk.Go
