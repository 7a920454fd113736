import MatterSdk.Chain.Rejection
import MatterSdk.Chain.Session

/-!
# Sessions of the Rust client

A call of the Rust client with what it does to the cached mode: the check, the submission, and the
explanation of a refusal by a second reading of the grant.
-/

namespace MatterSdk.Rust

def kindOf : Except SdkError TxReceipt → Session.Kind
  | .ok _ => .done
  | .error .readOnly => .readOnly
  | .error (.neverAdmitted ..) => .neverAdmitted
  | .error (.notPermitted ..) => .notPermitted
  | .error .keyRevoked => .keyRevoked
  | .error (.unsponsored ..) => .unsponsored
  | .error (.dispatch ..) => .dispatch
  | .error (.finalityTimeout ..) => .finalityTimeout
  | .error _ => .failed

def Mode.grant : Mode → Option Session.Grant
  | .direct => none
  | .delegated principal scopes => some (principal, scopes)

def Request.demands (r : Request) : Except Session.Barred ScopeSet :=
  if r.pallet ∈ ["Proxy", "Utility", "EthSigning"] then .error .never
  else
    match requiredScopes r.pallet r.call r.args with
    | none => .error .never
    | some required => .ok required

/-- The report of a call whose extrinsic is in a block. -/
def reportOf : Except SdkError TxReceipt → Session.Report
  | .ok _ => .done
  | .error (.dispatch ..) => .dispatch
  | .error _ => .failed

/-- What the client makes of a landing. -/
def Landing.reading (r : Request) (mode : Mode) : Landing → Session.Answer
  | .refused e =>
    if mode.isDelegated && isPoolRejection e then .refused false else .reported .failed
  | .lost _ => .reported .failed
  | .timedOut => .reported .finalityTimeout
  | .inBlock txHash blockHash (.ok events) => .reported (reportOf
      (concludeTx r.node.decodeFrom mode.isDelegated r.pallet r.call txHash blockHash (.ok events)))
  | .inBlock _ _ (.error e) =>
    if mode.isDelegated && isNotProxy e then .notProxy false else .reported .failed

instance : DecidablePred SubxtError.Refusal
  | .rpc code text =>
    inferInstanceAs (Decidable (code = 1010 ∨ contains text "Inability to pay" = true ∨
      contains text "InvalidTransaction" = true))
  | .module _ _ _ | .other _ => inferInstanceAs (Decidable False)

/-- What the node and the block say of the call. -/
def Landing.course : Landing → Session.Course
  | .refused e => .refused (decide e.Refusal)
  | .lost _ => .lost
  | .timedOut => .expired
  | .inBlock _ _ (.ok events) => .ran (reports events)
  | .inBlock _ _ (.error (.module pallet variant _)) =>
    .failed (pallet = "Proxy" && variant = "NotProxy")
  | .inBlock _ _ (.error _) => .failed false

def Request.exchange (signer : Signer) (mode : Mode) (r : Request) : Session.Exchange where
  demands := r.demands
  sent := (r.landing signer mode).isSome
  course := ((r.landing signer mode).map Landing.course).getD .lost
  late := false
  lookup := r.node.lookup.toOption

/-- Calls one after the other, each with the mode that it is made in. -/
def calls (signer : Signer) (mode : Mode) : List Request → List (Mode × Request)
  | [] => []
  | r :: rest =>
    (mode, r) :: calls signer (tx r.node (some signer) mode r.pallet r.call r.args).mode rest

/-- The first record of a wrapped call says what they all come to, and the error of one that failed can
be decoded. -/
def Lucid (decodeFrom : Bytes → Except String String) (events : ExtrinsicEvents) : Prop :=
  Session.Clear (reports events) ∧ ∀ e ∈ decoded events, isProxyExecuted e = true →
    ∀ rest, e.fieldBytes = 1 :: rest → ∃ failure, decodeFrom rest = .ok failure

/-- The landing is what it looks like: a refusal at validation, if the grant can be read again, or a
wrapped call. -/
def Landing.Plain (node : Node) (delegated : Bool) : Landing → Prop
  | .refused e => delegated = true → (∃ fresh, node.lookup = .ok fresh) →
    (isPoolRejection e = true ↔ e.Refusal)
  | .inBlock _ _ (.ok events) => delegated = true → Lucid node.decodeFrom events
  | _ => True

def Request.Plain (signer : Signer) (mode : Mode) (r : Request) : Prop :=
  ∀ landing, r.landing signer mode = some landing → landing.Plain r.node mode.isDelegated

def Submission.outcome (s : Submission) : Session.Outcome := ⟨s.submitted, kindOf s.result, s.mode.grant⟩

/-- What `refresh_delegation` finds. -/
def findingOf : Except SdkError Refresh → Session.Finding
  | .error _ => .unknown
  | .ok .unchanged => .unchanged
  | .ok (.rescoped held) => .rescoped held
  | .ok .gone => .gone

theorem refreshDelegation_finding (node : Node) (principal : AccountId) (scopes : ScopeSet) :
    let refreshed := refreshDelegation node (.delegated principal scopes)
    let found := Session.find (principal, scopes) node.lookup.toOption
    findingOf refreshed.1 = found ∧ refreshed.2.grant = some (found.kept (principal, scopes)) := by
  unfold refreshDelegation
  cases node.lookup with
  | error detail => exact ⟨rfl, rfl⟩
  | ok fresh =>
    cases fresh with
    | none => exact ⟨rfl, rfl⟩
    | some grant =>
      obtain ⟨named, given⟩ := grant
      by_cases other : named = principal
      · by_cases same : given = scopes <;>
          simp [other, same, afterRefresh, rescopedMode, Session.find, findingOf, Except.toOption,
            Mode.grant, Session.Finding.kept]
      · simp [other, afterRefresh, rescopedMode, Session.find, findingOf, Except.toOption,
          Mode.grant, Session.Finding.kept]

theorem submissionError_kind {principal : AccountId} {scopes required : ScopeSet}
    (refreshed : Except SdkError Refresh) (pallet call : String) {e : SubxtError}
    (rejection : isPoolRejection e = true) :
    kindOf (.error (submissionError (.delegated principal scopes) refreshed pallet call
      (some required) e)) = (findingOf refreshed).explain required := by
  simp only [submissionError, rejection, Bool.not_true, Bool.false_eq_true, if_false]
  rcases refreshed with detail | _ | held | _
  · rfl
  · rfl
  · by_cases covers : held.isSuperset required = true <;>
      simp [covers, kindOf, findingOf, Session.Finding.explain]
  · rfl

/-- The call has passed the check. -/
def Request.Passes (r : Request) (mode : Mode) : Prop :=
  ∀ principal scopes, mode = .delegated principal scopes → ∃ required,
    requiredScopes r.pallet r.call r.args = some required ∧ r.demands = .ok required ∧
      scopes.isSuperset required = true

theorem Request.Passes.within {r : Request} {mode : Mode} (passes : r.Passes mode)
    {e : Session.Exchange} (demands : e.demands = r.demands) : Session.Within mode.grant e := by
  intro grant held
  cases mode with
  | direct => cases held
  | delegated principal scopes =>
    cases held
    obtain ⟨required, -, takes, covers⟩ := passes principal scopes rfl
    exact ⟨required, demands.trans takes, covers⟩

end MatterSdk.Rust
