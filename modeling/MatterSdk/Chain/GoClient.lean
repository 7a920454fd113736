import MatterSdk.Chain.Extrinsic
import MatterSdk.Chain.Rejection
import MatterSdk.Chain.Session
import MatterSdk.Lib.Checks

/-!
# Sessions of the Go client

`Tx` and `TxAndWait` of the Go client as a whole: the check and the wrapping of the call, the extrinsic
that is assembled and submitted, the outcome, and what a failure does to the delegation that is held.
-/

namespace MatterSdk.Go

/-! ## The client -/

/-- The kind of the first `ChainError` that `errors.As` finds. -/
def Error.kind : Error → Option ChainErrorKind
  | .rpc _ _ => none
  | .plain _ => none
  | .wrapped _ cause => cause.kind
  | .chain kind _ _ => some kind
  | .caused kind _ _ _ => some kind

/-- An error of the libraries below the client or of a signer. -/
abbrev Foreign := { err : Error // err.kind = none }

/-- The call that is submitted: as it is, or in `Proxy.proxy(MultiAddress::Id(principal), None, call)`. -/
inductive Outgoing where
  | bare (call : Call)
  | proxied (principal : Bytes) (call : Call)

/-- `ExtrinsicSigner`. -/
structure Signer where
  accountID : Bytes
  signExtrinsic : Bytes → Except Foreign Bytes

/-- What the libraries and the node answer during one call. -/
structure Backend (δ φ : Type) where
  /-- Whether `NewMultiAddressFromAccountID` fails. -/
  multiAddress : Bytes → Option Foreign
  /-- Whether `types.NewCall` fails for `Proxy.proxy`. -/
  proxyCall : Bytes → Call → Option Foreign
  encode : Outgoing → Except Foreign Bytes
  /-- The identifiers of the signed extensions. -/
  declared : List String
  genesisHash : Except Foreign (Vector UInt8 32)
  /-- The spec version and the transaction version. -/
  runtimeVersion : Except Foreign (BitVec 32 × BitVec 32)
  /-- The raw `System.Account` entry of the signer. -/
  accountInfo : Except Foreign Bytes
  author : String → Except Foreign String
  world : World
  registry : Except Error (Decoder δ φ)
  /-- `FindError`, of a module error. -/
  findError : δ → Option (String × String)
  lookup : Except Foreign (Option Delegation)

/-- What does not change from call to call: the libraries' encoders and printers, the hash, and the
configured timeout. -/
structure Library (δ : Type) where
  encodeUCompact : ℕ → Bytes
  quote : String → String
  sum256 : Bytes → Bytes
  describe : δ → String
  duration : ℤ → String
  /-- `ss58OrHex`. -/
  address : Bytes → String
  timeout : ℤ

/-- The error of a library, as the client sees it. -/
def seen {α : Type} (answer : Except Foreign α) : Except Error α := answer.mapError Subtype.val

section

variable {δ φ : Type} (lib : Library δ) (b : Backend δ φ) (signer : Signer)

/-- `prepare`, of a client that has a signer. -/
def prepare (held : Option Delegation) (call : Call) : Except Error Outgoing :=
  match held with
  | none => .ok (.bare call)
  | some delegation =>
    match refuseIfOutOfScope delegation.scopes call with
    | some err => .error err
    | none =>
      match b.multiAddress delegation.principal with
      | some err => .error (wrapf "encoding the principal" err)
      | none =>
        match b.proxyCall delegation.principal call with
        | some err => .error (wrapf "wrapping the call for Proxy.proxy" err)
        | none => .ok (.proxied delegation.principal call)

/-- `accountNonce`. -/
def accountNonce : Except Error (BitVec 32) :=
  match b.accountInfo with
  | .error err => .error err
  | .ok raw =>
    if raw.length < 4 then
      .error (.plain ("account " ++ String.ofList (Hex.encode signer.accountID) ++
        " not found / unfunded"))
    else .ok (BitVec.ofNat 32 (Compact.ofLeBytes (raw.take 4)))

/-- `signingContext`. -/
def signingContext : Except Error SigningContext :=
  match b.genesisHash with
  | .error err => .error (wrapf "genesis hash" err)
  | .ok genesisHash =>
    match b.runtimeVersion with
    | .error err => .error (wrapf "runtime version" err)
    | .ok (specVersion, transactionVersion) =>
      match accountNonce b signer with
      | .error err => .error err
      | .ok nonce =>
        .ok { specVersion, transactionVersion, genesisHash, mortalityHash := genesisHash, nonce
              tip := 0 }

/-- `assemble`. -/
def assemble (outgoing : Outgoing) : Except Error String :=
  match signingContext b signer with
  | .error err => .error err
  | .ok ctx =>
    match prepareExtrinsic lib.encodeUCompact lib.quote (seen (b.encode outgoing)) b.declared ctx with
    | .error err => .error err
    | .ok unsigned =>
      match signer.signExtrinsic (unsigned.signingPayload lib.sum256) with
      | .error err => .error (wrapf "sign extrinsic" err)
      | .ok sig =>
        match unsigned.assemble lib.encodeUCompact signer.accountID sig with
        | .error err => .error err
        | .ok full => .ok (to0x full)

/-- `Tx` or `TxAndWait`: whether the extrinsic was assembled for the node, the delegation held afterwards,
and the result. -/
structure Submission (α : Type) where
  submitted : Bool
  held : Option Delegation
  result : Except Error α

/-- The end of `Tx` and `TxAndWait` for a submission that failed. -/
def failedSubmission (α : Type) (held : Option Delegation) (call : Call) (submitted : Bool)
    (err : Error) : Submission α where
  submitted := submitted
  held :=
    if held.isNone || !isPoolRejection err then held
    else
      match refreshDelegation held (seen b.lookup) with
      | .error _ => held
      | .ok (_, now) => now
  result := .error
    ((classifySubmissionFailure lib.address held (seen b.lookup) call err).getD err)

/-- `Tx`. -/
def tx (held : Option Delegation) (call : Call) : Submission String :=
  match prepare b held call with
  | .error err => ⟨false, held, .error err⟩
  | .ok outgoing =>
    let assembled := assemble lib b signer outgoing
    match submitCall assembled fun encoded => seen (b.author encoded) with
    | .error err => failedSubmission lib b String held call assembled.isOk err
    | .ok hash => ⟨true, held, .ok hash⟩

/-- The error of the outer call is that there is no such proxy. -/
def noProxy (outcome : ExtrinsicOutcome δ φ) : Bool :=
  outcome.failed.bind b.findError = some ("Proxy", "NotProxy")

/-- The end of `TxAndWait` for an extrinsic whose outcome is an error. -/
def failedOutcome (held : Option Delegation) (target : String) (outcome : ExtrinsicOutcome δ φ)
    (err : Error) : Submission (TxReceipt φ) :=
  let refreshed := refreshDelegation held (seen b.lookup)
  { submitted := true
    held :=
      if held.isSome && noProxy b outcome then (refreshed.map Prod.snd).toOption.getD held else held
    result := .error (classifyDispatchFailure held.isSome b.findError (refreshed.map Prod.fst) target
      outcome.failed err) }

/-- `TxAndWait`. -/
def txAndWait (held : Option Delegation) (call : Call) : Submission (TxReceipt φ) :=
  match prepare b held call with
  | .error err => ⟨false, held, .error err⟩
  | .ok outgoing =>
    let assembled := assemble lib b signer outgoing
    match submitAndWatch b.registry lib.duration b.world assembled
        (fun encoded => seen (b.author encoded)) lib.timeout with
    | .error err => failedSubmission lib b (TxReceipt φ) held call assembled.isOk err
    | .ok (receipt, outcome) =>
      match delegatedOutcome outcome held.isSome call.target lib.describe with
      | some err => failedOutcome b held call.target outcome err
      | none => ⟨true, held, .ok receipt⟩

/-! ## As a session -/

def kindOf {α : Type} : Except Error α → Session.Kind
  | .ok _ => .done
  | .error err =>
    match err.kind with
    | some .readOnly => .readOnly
    | some .neverAdmitted => .neverAdmitted
    | some .notPermitted => .notPermitted
    | some .keyRevoked => .keyRevoked
    | some .unsponsored => .unsponsored
    | some .dispatch => .dispatch
    | some .finalityTimeout => .finalityTimeout
    | _ => .failed

def Delegation.grant (d : Delegation) : Session.Grant := (d.principal, d.scopes)

def Submission.outcome {α : Type} (s : Submission α) : Session.Outcome :=
  ⟨s.submitted, kindOf s.result, s.held.map Delegation.grant⟩

def Call.demands (call : Call) : Except Session.Barred ScopeSet :=
  match call.names with
  | none => .error .unknown
  | some (pallet, _) =>
    if pallet = "Proxy" ∨ pallet = "Utility" ∨ pallet = "EthSigning" then .error .never
    else
      match call.required with
      | none => .error .never
      | some required => .ok required

/-- The report of a submission that failed for no refusal. -/
def reportOf (err : Error) : Session.Report :=
  if err.kind = some .finalityTimeout then .finalityTimeout else .failed

/-- The failure is explained by a second reading of the grant. -/
def isExplained (held : Option Delegation) (err : Error) : Bool :=
  held.isSome && isPoolRejection err && (seen b.lookup).isOk

/-- What the client makes of a submission that failed. -/
def readingOf (held : Option Delegation) (err : Error) : Session.Answer :=
  if isExplained b held err then .refused false else .reported (reportOf err)

/-- What the client makes of an extrinsic in a block. -/
def readingOfOutcome (held : Option Delegation) (call : Call) (outcome : ExtrinsicOutcome δ φ) :
    Session.Answer :=
  match delegatedOutcome outcome held.isSome call.target lib.describe with
  | none => .reported .done
  | some err =>
    if held.isSome && noProxy b outcome then .notProxy false
    else .reported (if err.kind = some .dispatch then .dispatch else .failed)

/-- What the client makes of a call that is prepared. -/
def reading (wait : Bool) (held : Option Delegation) (call : Call) (outgoing : Outgoing) :
    Session.Answer :=
  let assembled := assemble lib b signer outgoing
  let author := fun encoded => seen (b.author encoded)
  if wait then
    match submitAndWatch b.registry lib.duration b.world assembled author lib.timeout with
    | .error err => readingOf b held err
    | .ok (_, outcome) => readingOfOutcome lib b held call outcome
  else
    match submitCall assembled author with
    | .error err => readingOf b held err
    | .ok _ => .reported .done

def lookedUp : Option (Option Session.Grant) :=
  ((seen b.lookup).map (·.map Delegation.grant)).toOption

/-- The exchange of a call that takes this course. -/
def exchange (held : Option Delegation) (call : Call) (course : Session.Course) :
    Session.Exchange where
  demands := call.demands
  sent :=
    match prepare b held call with
    | .error _ => false
    | .ok outgoing => (assemble lib b signer outgoing).isOk
  course := course
  late := false
  lookup := lookedUp b

end

/-! ### The second reading -/

/-- What `refreshDelegation` finds. -/
def findingOf : Except Error (RefreshOutcome × Option Delegation) → Session.Finding
  | .ok (.gone, _) => .gone
  | .ok (.rescoped, some now) => .rescoped now.scopes
  | .ok _ => .unchanged
  | .error _ => .unknown

section

variable {δ φ : Type} {lib : Library δ} {b : Backend δ φ} {signer : Signer}

theorem refreshDelegation_finding (b : Backend δ φ) (d : Delegation) :
    let refreshed := refreshDelegation (some d) (seen b.lookup)
    let found := Session.find d.grant (lookedUp b)
    findingOf refreshed = found ∧
      ((refreshed.map Prod.snd).toOption.getD (some d)).map Delegation.grant =
        some (found.kept d.grant) := by
  unfold lookedUp refreshDelegation
  cases seen b.lookup with
  | error err => exact ⟨rfl, rfl⟩
  | ok fresh =>
    cases fresh with
    | none => exact ⟨rfl, rfl⟩
    | some fresh =>
      obtain ⟨principal, ⟨bits⟩⟩ := fresh
      obtain ⟨principal', ⟨bits'⟩⟩ := d
      by_cases ours : principal = principal'
      · by_cases same : bits = bits' <;>
          simp [ours, same, afterRefresh, rescopedDelegation, Session.find, findingOf,
            Except.toOption, Except.map, Delegation.grant, Session.Finding.kept]
      · simp [ours, afterRefresh, rescopedDelegation, Session.find, findingOf, Except.toOption,
          Except.map, Delegation.grant, Session.Finding.kept]

/-- An error that says no more than that the call failed, or that it was not finalized in time. -/
def Error.Vague (err : Error) : Prop :=
  err.kind = none ∨ err.kind = some .chain ∨ err.kind = some .finalityTimeout

theorem Error.Vague.kindOf {α : Type} {err : Error} (vague : err.Vague) :
    kindOf (α := α) (.error err) = (reportOf err).kind := by
  unfold Go.kindOf reportOf
  rcases vague with kind | kind | kind <;> simp [kind, Session.Report.kind]

/-- The call has passed the check. -/
def Call.Passes (call : Call) (held : Option Delegation) : Prop :=
  ∀ d, held = some d → ∃ required, call.demands = .ok required ∧ d.scopes.isSuperset required = true

theorem Call.Passes.within {call : Call} {held : Option Delegation} (passes : call.Passes held)
    {e : Session.Exchange} (demands : e.demands = call.demands) :
    Session.Within (held.map Delegation.grant) e := by
  intro grant acts
  obtain ⟨d, rfl, rfl⟩ := Option.map_eq_some_iff.mp acts
  obtain ⟨required, takes, covers⟩ := passes d rfl
  exact ⟨required, demands.trans takes, covers⟩

end

end MatterSdk.Go
