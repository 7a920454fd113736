import MatterSdk.Chain.Session
import MatterSdk.Chain.Updates
import MatterSdk.Scopes.Numbers
import MatterSdk.Scopes.Tables

/-!
# Sessions of the TypeScript client

`MatterClient.tx` of the TypeScript client with the `submit` of its backend below: the check, the
submission up to the first callback that counts, and the race with the timer, which leaves what is
behind it to go on.
-/

namespace MatterSdk.TypeScript

/-! ## The backend -/

/-- A value that `send` rejects with: `undefined` or `null`, or one with a text and perhaps a numeric
`code`. -/
inductive Cause where
  | nullish (text : String)
  | thrown (code : Option ℤ) (text : String)
deriving DecidableEq, Repr

def Cause.text : Cause → String
  | nullish text => text
  | thrown _ text => text

/-- `isPoolRejection`. -/
def isPoolRejection : Cause → Bool
  | .nullish _ => false
  | .thrown code text =>
    code = some 1010 ||
      ["1010", "Inability to pay", "InvalidTransaction"].any (contains text ·)

/-- What `tx` rejects with: the `ClientError`s of a submission, two more, or what the library throws. -/
inductive TxError where
  | client (e : ClientError)
  | neverAdmitted (target : String)
  | finalityTimeout (target : String) (waitedMs : ℕ)
  | library (text : String)
deriving DecidableEq, Repr

/-- What `send` does: it rejects, or it calls back. -/
inductive Landing where
  | failed (cause : Cause)
  /-- The first callback with a dispatch error or of a final block; any, if none is. -/
  | update (result : SubmittableResult)

/-- `Mode`: the principal and the scopes, of a client that acts for a member. -/
abbrev Mode := Option (Bytes × ScopeSet)

/-- What the library and the node answer during one call. -/
structure Backend where
  hasCall : Bool
  /-- What the member function throws, if it throws. -/
  method : Option String
  hasProxy : Bool
  wrap : Bytes → Option String
  /-- What `signAsync` rejects with, if it does. -/
  signAsync : Option String
  txHash : String
  landing : Landing
  /-- The timer fires first. -/
  late : Bool
  /-- The grant that is read again, if that succeeds. -/
  agentKey : Option (Option (Bytes × BitVec 32))

/-- `held.isSuperset(required)`. -/
def covers (held required : ScopeSet) : Bool :=
  (NumberScopeSet.ofWord held.bits).isSuperset (.ofWord required.bits)

/-- `toString()`. -/
def scopesText (scopes : ScopeSet) : String := (NumberScopeSet.ofWord scopes.bits).text

/-- `Refresh`. -/
inductive Refresh where
  | unchanged
  | rescoped (scopes : ScopeSet)
  | gone
deriving DecidableEq, Repr

/-- `afterRefresh`. -/
def afterRefresh (previous : Bytes × ScopeSet) (fresh : Option (Bytes × BitVec 32)) : Refresh :=
  match fresh with
  | none => .gone
  | some (principal, bits) =>
    if principal ≠ previous.1 then .gone
    else if bits ≠ previous.2.bits then .rescoped ⟨bits⟩
    else .unchanged

section

variable (b : Backend)

/-- `#refreshDelegation`, when nothing else happens meanwhile: its outcome, if it has one, and the mode
it leaves. -/
def refreshDelegation (mode : Mode) : Option Refresh × Mode :=
  match mode, b.agentKey with
  | some previous, some fresh =>
    match afterRefresh previous fresh with
    | .rescoped scopes => (some (.rescoped scopes), some (previous.1, scopes))
    | outcome => (some outcome, mode)
  | _, _ => (none, mode)

/-- `#classifySubmissionFailure`: the mode it leaves, and the error; `encodeAddress` renders the
principal. -/
def classifySubmissionFailure (encodeAddress : Bytes → String) (mode : Mode) (pallet call : String)
    (args : List Argument) (cause : Cause) : Mode × ClientError :=
  let target := pallet ++ "." ++ call
  match mode with
  | none => (none, .chain target cause.text)
  | some (principal, scopes) =>
    if !isPoolRejection cause then (some (principal, scopes), .chain target cause.text)
    else
      let (refreshed, now) := refreshDelegation b (some (principal, scopes))
      (now,
        match refreshed with
        | none => .chain target cause.text
        | some .gone => .keyRevoked target
        | some (.rescoped held) =>
          match requiredScopes pallet call args with
          | some required =>
            if !covers held required then
              .notPermitted target (scopesText required) (scopesText held)
            else .unsponsored target (encodeAddress principal)
          | none => .unsponsored target (encodeAddress principal)
        | some .unchanged => .unsponsored target (encodeAddress principal))

/-- `#classifyDispatchFailure`, with its second reading of the grant. -/
def explainDispatchFailure (mode : Mode) (target detail : String) : Mode × ClientError :=
  if mode.isSome && "proxy.NotProxy".toList.isPrefixOf detail.toList then
    let (refreshed, now) := refreshDelegation b mode
    (now, classifyDispatchFailure true target detail (refreshed = some .gone))
  else (mode, classifyDispatchFailure mode.isSome target detail false)

/-- The start of `submit`, up to the signature: what it throws, if it throws. -/
def composed (mode : Mode) (target : String) : Option TxError :=
  if !b.hasCall then
    some (.client (.chain target
      "no such call in the live runtime metadata (was the runtime upgraded?)"))
  else
    match b.method with
    | some text => some (.library text)
    | none =>
      match mode with
      | none => none
      | some (principal, _) =>
        if !b.hasProxy then
          some (.client (.chain "Proxy.proxy" "this runtime exposes no proxy pallet"))
        else (b.wrap principal).map .library

/-- The rest of `submit`: the mode it leaves, and how it settles, if it does. -/
def settled (encodeAddress : Bytes → String) (palletNames : ℕ → Option String) (mode : Mode)
    (pallet call : String) (args : List Argument) : Mode × Option (Except TxError TxReceipt) :=
  let target := pallet ++ "." ++ call
  match b.signAsync with
  | some text => (mode, some (.error (.library text)))
  | none =>
    match b.landing with
    | .failed cause =>
      let (now, e) := classifySubmissionFailure b encodeAddress mode pallet call args cause
      (now, some (.error (.client e)))
    | .update result =>
      match onUpdate palletNames mode.isSome target b.txHash result with
      | none => (mode, none)
      | some (.ok receipt) => (mode, some (.ok receipt))
      | some (.error (.dispatch target failure)) =>
        (mode, some (.error (.client (.dispatch target failure))))
      | some (.error (.outer detail)) =>
        let (now, e) := explainDispatchFailure b mode target detail
        (now, some (.error (.client e)))

end

/-! ## The client -/

/-- `#refuseIfOutOfScope`. -/
def refuseIfOutOfScope (mode : Mode) (pallet call : String) (args : List Argument) : Option TxError :=
  match mode with
  | none => none
  | some (_, scopes) =>
    let target := pallet ++ "." ++ call
    if pallet = "Proxy" ∨ pallet = "Utility" ∨ pallet = "EthSigning" then
      some (.neverAdmitted target)
    else
      match requiredScopes pallet call args with
      | none => some (.neverAdmitted target)
      | some required =>
        if !covers scopes required then
          some (.client (.notPermitted target (scopesText required) (scopesText scopes)))
        else none

/-- One call of `tx`: whether the extrinsic was sent, the mode once all of the call has ended, and how
its promise settles. -/
structure TxOutcome where
  sent : Bool
  mode : Mode
  result : Except TxError TxReceipt

section

variable (encodeAddress : Bytes → String) (palletNames : ℕ → Option String)
  (finalityTimeoutMs : ℕ) (b : Backend)

/-- `tx`, of a client that has a signer. -/
def tx (mode : Mode) (pallet call : String) (args : List Argument) : TxOutcome :=
  let target := pallet ++ "." ++ call
  match refuseIfOutOfScope mode pallet call args with
  | some e => ⟨false, mode, .error e⟩
  | none =>
    match composed b mode target with
    | some e => ⟨false, mode, .error e⟩
    | none =>
      let (now, result) := settled b encodeAddress palletNames mode pallet call args
      let timeout : Except TxError TxReceipt := .error (.finalityTimeout target finalityTimeoutMs)
      ⟨b.signAsync.isNone, now, if b.late then timeout else result.getD timeout⟩

end

/-! ## As a session -/

def ClientError.kind : ClientError → Session.Kind
  | .chain _ _ => .failed
  | .dispatch _ _ => .dispatch
  | .keyRevoked _ => .keyRevoked
  | .notPermitted _ _ _ => .notPermitted
  | .unsponsored _ _ => .unsponsored

def TxError.kind : TxError → Session.Kind
  | .client e => e.kind
  | .neverAdmitted _ => .neverAdmitted
  | .finalityTimeout _ _ => .finalityTimeout
  | .library _ => .failed

def kindOf : Except TxError TxReceipt → Session.Kind
  | .ok _ => .done
  | .error e => e.kind

def TxOutcome.outcome (out : TxOutcome) : Session.Outcome := ⟨out.sent, kindOf out.result, out.mode⟩

/-- A call that is made, and what the library and the node answer to it. -/
structure Request where
  pallet : String
  call : String
  args : List Argument
  backend : Backend

def Request.target (r : Request) : String := r.pallet ++ "." ++ r.call

def Request.demands (r : Request) : Except Session.Barred ScopeSet :=
  if r.pallet = "Proxy" ∨ r.pallet = "Utility" ∨ r.pallet = "EthSigning" then .error .never
  else
    match requiredScopes r.pallet r.call r.args with
    | none => .error .never
    | some required => .ok required

/-- The node refused the submission at validation, by the code or in the words of older nodes. -/
def Cause.Refusal : Cause → Prop
  | nullish _ => False
  | thrown code text => ∃ number, code = some number ∧ (number = 1010 ∨
    contains text "Inability to pay" = true ∨ contains text "InvalidTransaction" = true)

instance : DecidablePred Cause.Refusal
  | .nullish _ => inferInstanceAs (Decidable False)
  | .thrown none _ => .isFalse fun ⟨_, same, _⟩ => nomatch same
  | .thrown (some code) text =>
    decidable_of_iff (code = 1010 ∨ contains text "Inability to pay" = true ∨
      contains text "InvalidTransaction" = true) (by simp [Cause.Refusal])

/-- The error that is rendered is the one of this name, before its documentation. -/
def namesNotProxy (detail : String) : Bool :=
  detail.toList.takeWhile (· ≠ ':') = "proxy.NotProxy".toList

/-- What the node and the block say of a call that gets so far. -/
def Landing.course : Landing → Session.Course
  | failed cause => .refused (decide cause.Refusal)
  | update result =>
    if !result.isFinalized then .expired
    else
      match result.dispatchError with
      | some detail => .failed (namesNotProxy detail)
      | none => .ran (reports result.events)

def lookedUp (b : Backend) : Option (Option Session.Grant) :=
  b.agentKey.map (·.map fun fresh => (fresh.1, ⟨fresh.2⟩))

section

variable (encodeAddress : Bytes → String) (palletNames : ℕ → Option String)
  (finalityTimeoutMs : ℕ)

/-- What the client makes of a call that is signed. -/
def Landing.reading (mode : Mode) (target : String) (b : Backend) : Session.Answer :=
  match b.landing with
  | .failed cause =>
    if mode.isSome && isPoolRejection cause then .refused b.late
    else Session.reportedBy b.late .failed
  | .update result =>
    match onUpdate palletNames mode.isSome target b.txHash result with
    | none => .reported .finalityTimeout
    | some (.ok _) => Session.reportedBy b.late .done
    | some (.error (.dispatch _ _)) => Session.reportedBy b.late .dispatch
    | some (.error (.outer detail)) =>
      if mode.isSome && "proxy.NotProxy".toList.isPrefixOf detail.toList then .notProxy b.late
      else Session.reportedBy b.late .failed

def Request.exchange (mode : Mode) (r : Request) : Session.Exchange :=
  let sent := (composed r.backend mode r.target).isNone && r.backend.signAsync.isNone
  { demands := r.demands
    sent := sent
    course := if sent then r.backend.landing.course else .lost
    late := (composed r.backend mode r.target).isNone && r.backend.late
    lookup := lookedUp r.backend }

def serve (mode : Mode) : List Request → List TxOutcome
  | [] => []
  | r :: rest =>
    let out := tx encodeAddress palletNames finalityTimeoutMs r.backend mode r.pallet r.call r.args
    out :: serve out.mode rest

/-- Calls one after the other, each with the mode that it is made in. -/
def calls (mode : Mode) : List Request → List (Mode × Request)
  | [] => []
  | r :: rest =>
    (mode, r) :: calls (tx encodeAddress palletNames finalityTimeoutMs r.backend mode r.pallet r.call
      r.args).mode rest

end

/-- Only a final block has a dispatch error; a call that a delegated client makes is refused at
validation if it looks so, fails in its block by `NotProxy` if its error begins like that, or its first
event says what they all come to. -/
def Backend.Plain (b : Backend) (delegated : Bool) : Prop :=
  match b.landing with
  | .failed cause => delegated = true → b.agentKey.isSome = true →
    (isPoolRejection cause = true ↔ cause.Refusal)
  | .update result =>
    match result.dispatchError with
    | some detail => result.isFinalized = true ∧
      (delegated = true → "proxy.NotProxy".toList.isPrefixOf detail.toList = true →
        namesNotProxy detail = true)
    | none => delegated = true → result.isFinalized = true → Session.Clear (reports result.events)

/-! ### The second reading -/

/-- What `#refreshDelegation` finds. -/
def findingOf : Option Refresh → Session.Finding
  | none => .unknown
  | some .unchanged => .unchanged
  | some (.rescoped scopes) => .rescoped scopes
  | some .gone => .gone

theorem refreshDelegation_finding (b : Backend) (grant : Session.Grant) :
    let refreshed := refreshDelegation b (some grant)
    let found := Session.find grant (lookedUp b)
    findingOf refreshed.1 = found ∧ refreshed.2 = some (found.kept grant) := by
  obtain ⟨principal, ⟨held⟩⟩ := grant
  unfold refreshDelegation lookedUp
  cases b.agentKey with
  | none => exact ⟨rfl, rfl⟩
  | some fresh =>
    cases fresh with
    | none => exact ⟨rfl, rfl⟩
    | some fresh =>
      obtain ⟨named, bits⟩ := fresh
      by_cases ours : named = principal
      · by_cases same : bits = held <;>
          simp [ours, same, afterRefresh, Session.find, findingOf, Session.Finding.kept]
      · simp [ours, afterRefresh, Session.find, findingOf, Session.Finding.kept]

/-- A call takes defined scopes, on which the signed comparison is the plain one. -/
theorem covers_eq {pallet call : String} {args : List Argument} {required : ScopeSet}
    (takes : requiredScopes pallet call args = some required) (held : ScopeSet) :
    covers held required = held.isSuperset required := by
  have valid : required.isValid = true := Table.required_valid _ _ pallet call required takes
  have unsigned : required.bits.msb = false := by
    by_contra signed
    have top : required.bits.getLsbD 31 = true := by
      simpa [BitVec.msb_eq_getLsbD_last] using signed
    have := (ScopeSet.isValid_iff required).mp valid 31 top
    omega
  exact (NumberScopeSet.isSuperset_eq_iff held.bits required.bits).mpr (by simp [unsigned])

/-! ### Failures -/

theorem classifySubmissionFailure_found (b : Backend) (encodeAddress : Bytes → String)
    {pallet call : String} {args : List Argument} {required : ScopeSet}
    (takes : requiredScopes pallet call args = some required) (grant : Session.Grant) {cause : Cause}
    (rejection : isPoolRejection cause = true) :
    let out := classifySubmissionFailure b encodeAddress (some grant) pallet call args cause
    let found := Session.find grant (lookedUp b)
    out.1 = some (found.kept grant) ∧ out.2.kind = found.explain required := by
  obtain ⟨found, kept⟩ := refreshDelegation_finding b grant
  obtain ⟨principal, scopes⟩ := grant
  simp only [classifySubmissionFailure, rejection, Bool.not_true, Bool.false_eq_true, if_false]
  rw [← found]
  refine ⟨kept.trans (by rw [found]), ?_⟩
  rcases (refreshDelegation b (some (principal, scopes))).1 with _ | _ | held | _
  · rfl
  · rfl
  · simp only [takes, covers_eq takes]
    cases within : held.isSuperset required <;>
      simp [findingOf, Session.Finding.explain, within, ClientError.kind]
  · rfl

/-- The call has passed the check. -/
def Request.Passes (r : Request) (mode : Mode) : Prop :=
  ∀ grant, mode = some grant → ∃ required, requiredScopes r.pallet r.call r.args = some required ∧
    r.demands = .ok required ∧ grant.2.isSuperset required = true

section

variable (encodeAddress : Bytes → String) (palletNames : ℕ → Option String)
  (finalityTimeoutMs : ℕ)

end

end MatterSdk.TypeScript
