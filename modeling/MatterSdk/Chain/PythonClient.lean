import MatterSdk.Chain.AwaitFinalized
import MatterSdk.Chain.Delegated
import MatterSdk.Chain.Session
import MatterSdk.Scopes.Tables

/-!
# Sessions of the Python client

`MatterClient.tx` of the Python client with the `submit` of its chain client below: the check, the
stages up to the finalized receipt, and what a failure does to the mode that is held.
-/

namespace MatterSdk.Python

/-! ## Errors -/

/-- The subclasses of `ChainError` that `tx` raises. -/
inductive ErrorClass where
  | chain
  | poolRejected
  | outerDispatch (module name : String)
  | dispatch
  | readOnly
  | finalityTimeout
  | keyRevoked
  | unsponsored
  | notPermitted
  | neverAdmitted
deriving DecidableEq, Repr

/-- `ChainError`. -/
structure ChainError where
  class_ : ErrorClass
  message : String
  pallet : String := ""
  call : String := ""
deriving DecidableEq, Repr

/-- What `tx` raises: an error of its own, or one of the library below, of type `ε`. -/
inductive Raised (ε : Type) where
  | own (e : ChainError)
  | library (e : ε)
deriving DecidableEq, Repr

/-- `SubstrateRequestException`: the code, if its argument is a mapping that has one, and its text. -/
structure RequestException where
  code : Option ℤ
  text : String

/-- `_is_pool_rejection`. -/
def isPoolRejection (exc : RequestException) : Bool :=
  exc.code = some 1010 ||
    ["1010", "Inability to pay", "InvalidTransaction"].any (contains exc.text ·)

/-! ## The chain client -/

/-- `receipt.error_message`: its text, and its type and name if it is a mapping. -/
structure ErrorMessage where
  text : String
  type : String
  name : String

/-- What a receipt reads from its block. -/
structure Landed where
  errorMessage : Option ErrorMessage
  triggeredEvents : List Event

/-- What `submit_extrinsic` does. -/
inductive Submitted (ε : Type) where
  | accepted
  | refused (exc : RequestException)
  | raised (e : ε)

/-- What `agent_key` raises: `ChainError` for a failed call, or what the library raises. -/
inductive LookupError (ε : Type) where
  | chain (e : ChainError)
  | raised (e : ε)

/-- What the library and the node answer during one call. -/
structure Backend (ε : Type) where
  hasCall : Except ε Bool
  composeCall : Except ε Unit
  composeProxy : Bytes → Except ε Unit
  nonce : Except ε ℕ
  /-- The data and the hash of the signed extrinsic. -/
  createSigned : Except ε (String × String)
  finalizedBefore : Except ε ℕ
  submitExtrinsic : Submitted ε
  /-- What `_await_finalized` returns or raises. -/
  awaitFinalized : Except (WaitError ε) (String × ℕ)
  receipt : Except ε Landed
  agentKey : Except (LookupError ε) (Option (Bytes × BitVec 32))

section

-- `moduleError` renders a module error by the metadata; `str` prints a value.
variable {ε : Type} (moduleError : Value → Option String) (str : Value → String) (b : Backend ε)
  (pallet call : String)

/-- The end of `submit`, for an extrinsic in a block. -/
def finishSubmit (principal : Option Bytes) (hash blockHash : String) :
    Except (Raised ε) TxReceipt :=
  match b.receipt with
  | .error e => .error (.library e)
  | .ok landed =>
    match concludeSubmit moduleError str principal pallet call hash blockHash
        (landed.errorMessage.map (·.text)) landed.triggeredEvents with
    | .error (.outer message) =>
      let detail := landed.errorMessage
      .error (.own ⟨.outerDispatch ((detail.map (·.type)).getD "") ((detail.map (·.name)).getD ""),
        message, pallet, call⟩)
    | .error (.dispatch message) => .error (.own ⟨.dispatch, message, pallet, call⟩)
    | .ok receipt => .ok receipt

/-- The rest of `submit`, for an extrinsic that is signed. -/
def submitSigned (principal : Option Bytes) (hash : String) : Except (Raised ε) TxReceipt :=
  match b.submitExtrinsic with
  | .raised e => .error (.library e)
  | .refused exc =>
    if isPoolRejection exc then
      .error (.own ⟨.poolRejected, pallet ++ "." ++ call ++
        " was refused by the node at validation: " ++ exc.text, pallet, call⟩)
    else
      .error (.own ⟨.chain, pallet ++ "." ++ call ++ " could not be submitted: " ++ exc.text, pallet,
        call⟩)
  | .accepted =>
    match b.awaitFinalized with
    | .error (.finalityTimeout message pallet call) =>
      .error (.own ⟨.finalityTimeout, message, pallet, call⟩)
    | .error (.raised e) => .error (.library e)
    | .ok (blockHash, _) => finishSubmit moduleError str b pallet call principal hash blockHash

/-- `submit`, and whether it has handed the extrinsic to the node. -/
def submit (principal : Option Bytes) : Bool × Except (Raised ε) TxReceipt :=
  match b.hasCall with
  | .error e => (false, .error (.library e))
  | .ok false =>
    (false, .error (.own
      ⟨.chain, pallet ++ "." ++ call ++ " is not in this runtime's metadata", pallet, call⟩))
  | .ok true =>
    match b.composeCall with
    | .error e => (false, .error (.library e))
    | .ok () =>
      match (principal.elim (.ok ()) b.composeProxy : Except ε Unit) with
      | .error e => (false, .error (.library e))
      | .ok () =>
        match b.nonce with
        | .error e => (false, .error (.library e))
        | .ok _ =>
          match b.createSigned with
          | .error e => (false, .error (.library e))
          | .ok (_, hash) =>
            match b.finalizedBefore with
            | .error e => (false, .error (.library e))
            | .ok _ =>
              (true, submitSigned moduleError str b pallet call principal hash)

end

/-! ## The client -/

/-- `_mode`: the principal and the scopes, of a client that acts for a member. -/
abbrev Mode := Option (Bytes × ScopeSet)

/-- The outcomes of re-reading the grant. -/
inductive Refresh where
  | unchanged
  | rescoped
  | gone
  | unknown
deriving DecidableEq, Repr

/-- `_after_refresh`. -/
def afterRefresh (previous : Mode) (fresh : Option (Bytes × BitVec 32)) : Refresh :=
  match previous with
  | none => .unchanged
  | some (principal, scopes) =>
    match fresh with
    | none => .gone
    | some (freshPrincipal, bits) =>
      if freshPrincipal ≠ principal then .gone
      else if bits ≠ scopes.bits then .rescoped
      else .unchanged

/-- `_refuse_if_out_of_scope`. -/
def refuseIfOutOfScope (mode : Mode) (pallet call : String) (params : List (String × Param)) :
    Option ChainError :=
  match mode with
  | none => none
  | some (_, held) =>
    let target := pallet ++ "." ++ call
    let never : ChainError := ⟨.neverAdmitted,
      target ++ " is never admitted to an api key; sign it with the member's own key", pallet, call⟩
    if pallet ∈ ["Proxy", "Utility", "EthSigning"] then some never
    else
      match requiredScopes pallet call params with
      | none => some never
      | some required =>
        if !held.isSuperset required then
          some ⟨.notPermitted, "key lacks " ++ required.text ++ " for " ++ target ++ "; it holds " ++
            held.text, pallet, call⟩
        else none

section

variable {ε : Type} (b : Backend ε)

/-- `_refresh_delegation`, of a client that has an account: its outcome and the mode it leaves, or what
it lets out. -/
def refreshDelegation (mode : Mode) : Except ε (Refresh × Mode) :=
  match mode with
  | none => .ok (.unchanged, none)
  | some (principal, scopes) =>
    match b.agentKey with
    | .error (.chain _) => .ok (.unknown, mode)
    | .error (.raised e) => .error e
    | .ok fresh =>
      match afterRefresh (some (principal, scopes)) fresh, fresh with
      | .rescoped, some (_, bits) => .ok (.rescoped, some (principal, ⟨bits⟩))
      | outcome, _ => .ok (outcome, mode)

/-- `KeyRevokedError`, as `tx` raises it. -/
def keyRevokedError (pallet call : String) : ChainError :=
  ⟨.keyRevoked, "this key's proxy is gone or now points at a different member, so " ++ pallet ++
    "." ++ call ++ " was refused; mint a new key or have the member re-authorize this one", pallet,
    call⟩

/-- `_explain_pool_rejection`: the mode it leaves, and what is raised; `address` renders the
principal. -/
def explainPoolRejection (address : Bytes → String) (mode : Mode) (pallet call : String)
    (params : List (String × Param)) (exc : ChainError) : Mode × Raised ε :=
  if mode.isNone then (mode, .own exc)
  else
    match refreshDelegation b mode with
    | .error e => (mode, .library e)
    | .ok (.gone, now) => (now, .own (keyRevokedError pallet call))
    | .ok (.unknown, now) => (now, .own exc)
    | .ok (outcome, now) =>
      let unsponsored : ChainError := ⟨.unsponsored,
        pallet ++ "." ++ call ++ " is within this key's scopes, but nobody would pay for it: " ++
          (now.map fun held => address held.1).getD "None" ++
          " and their billing org must cover the fee", pallet, call⟩
      let rescoped := if outcome = .rescoped then refuseIfOutOfScope now pallet call params else none
      (now, .own (rescoped.getD unsponsored))

/-- `_explain_outer_dispatch`. -/
def explainOuterDispatch (mode : Mode) (pallet call name : String) (exc : ChainError) :
    Mode × Raised ε :=
  if mode.isNone || name ≠ "NotProxy" then (mode, .own exc)
  else
    match refreshDelegation b mode with
    | .error e => (mode, .library e)
    | .ok (.gone, now) => (now, .own (keyRevokedError pallet call))
    | .ok (_, now) => (now, .own exc)

end

/-- One call of `tx`: whether the node was handed the extrinsic, the mode held afterwards, and the
result. -/
structure Submission (ε : Type) where
  submitted : Bool
  mode : Mode
  result : Except (Raised ε) TxReceipt

section

variable {ε : Type} (moduleError : Value → Option String) (str : Value → String)
  (address : Bytes → String) (b : Backend ε)

/-- `tx`, of a client that has a keypair. -/
def tx (mode : Mode) (pallet call : String) (params : List (String × Param)) : Submission ε :=
  match refuseIfOutOfScope mode pallet call params with
  | some e => ⟨false, mode, .error (.own e)⟩
  | none =>
    let (submitted, result) := submit moduleError str b pallet call (mode.map Prod.fst)
    match result with
    | .ok receipt => ⟨submitted, mode, .ok receipt⟩
    | .error (.library e) => ⟨submitted, mode, .error (.library e)⟩
    | .error (.own exc) =>
      match exc.class_ with
      | .poolRejected =>
        let (now, raised) := explainPoolRejection b address mode pallet call params exc
        ⟨submitted, now, .error raised⟩
      | .outerDispatch _ name =>
        let (now, raised) := explainOuterDispatch b mode pallet call name exc
        ⟨submitted, now, .error raised⟩
      | _ => ⟨submitted, mode, .error (.own exc)⟩

end

/-! ## As a session -/

def ErrorClass.kind : ErrorClass → Session.Kind
  | .readOnly => .readOnly
  | .neverAdmitted => .neverAdmitted
  | .notPermitted => .notPermitted
  | .keyRevoked => .keyRevoked
  | .unsponsored => .unsponsored
  | .dispatch => .dispatch
  | .finalityTimeout => .finalityTimeout
  | .chain | .poolRejected | .outerDispatch _ _ => .failed

def Raised.kind {ε : Type} : Raised ε → Session.Kind
  | .own e => e.class_.kind
  | .library _ => .failed

def Submission.outcome {ε : Type} (s : Submission ε) : Session.Outcome where
  sent := s.submitted
  kind := match s.result with
    | .ok _ => .done
    | .error raised => raised.kind
  held := s.mode

def demands (pallet call : String) (params : List (String × Param)) :
    Except Session.Barred ScopeSet :=
  if pallet ∈ ["Proxy", "Utility", "EthSigning"] then .error .never
  else
    match requiredScopes pallet call params with
    | none => .error .never
    | some required => .ok required

/-- The node refused the submission at validation, by the code or in the words of older nodes. -/
def RequestException.Refusal (exc : RequestException) : Prop :=
  ∃ code, exc.code = some code ∧ (code = 1010 ∨ contains exc.text "Inability to pay" = true ∨
    contains exc.text "InvalidTransaction" = true)

instance (exc : RequestException) : Decidable exc.Refusal :=
  match read : exc.code with
  | none => .isFalse fun ⟨_, same, _⟩ => nomatch read.symm.trans same
  | some code =>
    decidable_of_iff (code = 1010 ∨ contains exc.text "Inability to pay" = true ∨
      contains exc.text "InvalidTransaction" = true) (by simp [RequestException.Refusal, read])

/-- The call gets as far as `submit_extrinsic`. -/
def Backend.reaches {ε : Type} (b : Backend ε) (principal : Option Bytes) : Bool :=
  b.hasCall.toOption = some true && b.composeCall.isOk &&
    principal.all (fun principal => (b.composeProxy principal).isOk) && b.nonce.isOk &&
    b.createSigned.isOk && b.finalizedBefore.isOk

/-- What a block says of the extrinsic in it. -/
def Landed.course (landed : Landed) : Session.Course :=
  match landed.errorMessage with
  | some message => .failed (message.type = "Module" && message.name = "NotProxy")
  | none => .ran (reports landed.triggeredEvents)

/-- What the node and the block say of a call that gets so far. -/
def Backend.course {ε : Type} (b : Backend ε) : Session.Course :=
  match b.submitExtrinsic with
  | .raised _ => .lost
  | .refused exc => .refused (decide exc.Refusal)
  | .accepted =>
    match b.awaitFinalized with
    | .error (.finalityTimeout ..) => .expired
    | .error (.raised _) => .lost
    | .ok _ =>
      match b.receipt with
      | .error _ => .lost
      | .ok landed => landed.course

/-- A call that is made, and what the library and the node answer to it. -/
structure Request (ε : Type) where
  pallet : String
  call : String
  params : List (String × Param)
  backend : Backend ε

def lookedUp {ε : Type} (b : Backend ε) : Option (Option Session.Grant) :=
  (b.agentKey.map (·.map fun fresh => (fresh.1, ⟨fresh.2⟩))).toOption

section

variable {ε : Type} (moduleError : Value → Option String) (str : Value → String)
  (address : Bytes → String)

def Request.exchange (mode : Mode) (r : Request ε) : Session.Exchange :=
  let sent := r.backend.reaches (mode.map Prod.fst)
  { demands := demands r.pallet r.call r.params
    sent := sent
    course := if sent then r.backend.course else .lost
    late := false
    lookup := lookedUp r.backend }

def serve (mode : Mode) : List (Request ε) → List (Submission ε)
  | [] => []
  | r :: rest =>
    let out := tx moduleError str address r.backend mode r.pallet r.call r.params
    out :: serve out.mode rest

/-- Calls one after the other, each with the mode that it is made in. -/
def calls (mode : Mode) : List (Request ε) → List (Mode × Request ε)
  | [] => []
  | r :: rest =>
    (mode, r) ::
      calls (tx moduleError str address r.backend mode r.pallet r.call r.params).mode rest

end

/-- The first event of a wrapped call says what they all come to, and one of a failure has an error. -/
def Lucid (events : List Event) : Prop :=
  Session.Clear (reports events) ∧
    ∀ e ∈ events, isProxyExecuted e = true → report e = .err → proxyResult e.attributes ≠ .null

/-- An extrinsic that failed by `NotProxy` failed in a module, and a wrapped call is lucid. -/
def Landed.Plain (landed : Landed) : Prop :=
  match landed.errorMessage with
  | some message => message.name = "NotProxy" → message.type = "Module"
  | none => Lucid landed.triggeredEvents

/-- What a delegated client is answered is what it looks like. -/
structure Backend.Plain {ε : Type} (b : Backend ε) : Prop where
  refused : ∀ exc, b.submitExtrinsic = .refused exc → (∃ fresh, b.agentKey = .ok fresh) →
    (isPoolRejection exc = true ↔ exc.Refusal)
  landed : b.submitExtrinsic = .accepted → ∀ landed, b.receipt = .ok landed → landed.Plain

/-! ### The second reading -/

/-- What `_refresh_delegation` finds. -/
def findingOf {ε : Type} : Except ε (Refresh × Mode) → Session.Finding
  | .ok (.gone, _) => .gone
  | .ok (.rescoped, some (_, scopes)) => .rescoped scopes
  | .ok (.unchanged, _) => .unchanged
  | _ => .unknown

section

variable {ε : Type}

theorem refreshDelegation_finding (b : Backend ε) (grant : Session.Grant) :
    let refreshed := refreshDelegation b (some grant)
    let found := Session.find grant (lookedUp b)
    findingOf refreshed = found ∧
      (refreshed.map Prod.snd).toOption.getD (some grant) = some (found.kept grant) := by
  obtain ⟨principal, ⟨held⟩⟩ := grant
  unfold refreshDelegation lookedUp
  cases b.agentKey with
  | error e => cases e <;> exact ⟨rfl, rfl⟩
  | ok fresh =>
    cases fresh with
    | none => exact ⟨rfl, rfl⟩
    | some fresh =>
      obtain ⟨named, bits⟩ := fresh
      by_cases ours : named = principal
      · by_cases same : bits = held <;>
          simp [ours, same, afterRefresh, Session.find, findingOf, Except.toOption, Except.map,
            Session.Finding.kept]
      · simp [ours, afterRefresh, Session.find, findingOf, Except.toOption, Except.map,
          Session.Finding.kept]

variable {moduleError : Value → Option String} {str : Value → String} {b : Backend ε}
  {pallet call : String} {params : List (String × Param)} {required : ScopeSet}

variable (moduleError str) (address : Bytes → String)

end

end MatterSdk.Python
