import MatterSdk.Chain.Admission

/-!
# An overridden principal

A client that was connected with `MATTER_PRINCIPAL` assumes all scopes.  Its failed calls ask the
chain all the same, and what the chain answers replaces what the override said.
-/

namespace MatterSdk.Rust

/-- The result says that the key's grant is gone, or too small. -/
def BlamesGrant : Except SdkError TxReceipt → Prop
  | .error .keyRevoked => True
  | .error (.notPermitted _ _ _ _) => True
  | _ => False

/-- A call after which the override still means what it meant. -/
structure KeepsOverride (principal : AccountId) (out : Submission) : Prop where
  unblamed : ¬ BlamesGrant out.result
  mode : out.mode = .delegated principal .all

/-- The failure is one on which the client reads the grant again. -/
def Landing.Refreshes : Landing → Prop
  | .refused e => isPoolRejection e = true
  | .inBlock _ _ (.error e) => isNotProxy e = true
  | _ => False

/-- What becomes of a call that gets as far as the node. -/
def Request.landing (r : Request) (signer : Signer) (mode : Mode) : Option Landing :=
  match buildPayload mode r.pallet r.call r.args with
  | .error _ => none
  | .ok payload =>
    match r.node.createPartial payload with
    | .error _ => none
    | .ok signerPayload =>
      match signer.sign signerPayload with
      | .error _ => none
      | .ok signature => some (r.node.landing signerPayload signature)

/-- If the call makes the client read the grant again, the chain does not answer, or it answers what
the override says. -/
def Request.Confirms (r : Request) (signer : Signer) (principal : AccountId) : Prop :=
  ∀ landing, r.landing signer (.delegated principal .all) = some landing → landing.Refreshes →
    ∀ fresh, r.node.lookup = .ok fresh → fresh = some (principal, .all)

theorem afterRefresh_unchanged_iff {principal : AccountId} {scopes : ScopeSet}
    {fresh : Option Grant} :
    afterRefresh (.delegated principal scopes) fresh = .unchanged ↔
      fresh = some (principal, scopes) := by
  cases fresh with
  | none => simp [afterRefresh]
  | some grant =>
    obtain ⟨principal', scopes'⟩ := grant
    by_cases ours : principal' = principal
    · by_cases same : scopes' = scopes
      · simp [afterRefresh, ours, same]
      · simp [afterRefresh, ours, same]
    · simp [afterRefresh, ours]

/-- With all scopes nothing is refused for lack of one. -/
theorem buildPayload_all {principal : AccountId} {pallet call : String} {args : List Value}
    {e : SdkError} (refused : buildPayload (.delegated principal .all) pallet call args = .error e) :
    e = .neverAdmitted pallet call := by
  simp only [buildPayload] at refused
  by_cases nested : pallet ∈ ["Proxy", "Utility", "EthSigning"]
  · rw [if_pos nested] at refused
    exact (Except.error.inj refused).symm
  · rw [if_neg nested] at refused
    cases admitted : requiredScopes pallet call args with
    | none =>
      rw [admitted] at refused
      exact (Except.error.inj refused).symm
    | some required =>
      have within := ScopeSet.all_isSuperset required (requiredScopes_isValid admitted)
      simp [admitted, within] at refused

theorem concludeTx_unblamed (decodeFrom : Bytes → Except String String) (delegated : Bool)
    (pallet call : String) (txHash blockHash : Bytes) (events : ExtrinsicEvents) :
    ¬ BlamesGrant (concludeTx decodeFrom delegated pallet call txHash blockHash (.ok events)) := by
  cases delegated with
  | false => simp [concludeTx, BlamesGrant]
  | true =>
    simp only [concludeTx, if_true, innerDispatchError]
    cases (decoded events).find? isProxyExecuted with
    | none => simp [BlamesGrant]
    | some executed =>
      simp only
      cases executed.fieldBytes with
      | nil => simp [BlamesGrant]
      | cons tag rest =>
        simp only
        by_cases succeeded : tag = 0
        · simp [succeeded, BlamesGrant]
        · by_cases failed : tag = 1
          · cases decodeFrom rest <;> simp [failed, BlamesGrant]
          · simp [succeeded, failed, BlamesGrant]

/-! ## One call -/

theorem rescoped_ne {principal : AccountId} {scopes held : ScopeSet} {fresh : Option Grant}
    (moved : afterRefresh (.delegated principal scopes) fresh = .rescoped held) : held ≠ scopes := by
  cases fresh with
  | none => cases moved
  | some grant =>
    obtain ⟨principal', scopes'⟩ := grant
    simp only [afterRefresh] at moved
    split_ifs at moved with _ same
    cases moved
    exact same

/-- A refresh keeps the override exactly if the chain confirms it or does not answer. -/
theorem refresh_keepsOverride_iff (node : Node) (principal : AccountId)
    (signed : Option DynamicPayload) (explain : Except SdkError Refresh → SdkError)
    (gone : explain (.ok .gone) = .keyRevoked)
    (unchanged : ¬ BlamesGrant (.error (explain (.ok .unchanged))))
    (failed : ∀ detail,
      ¬ BlamesGrant (.error (explain (.error (.chain "BudgetsApi_agent_key" detail))))) :
    KeepsOverride principal ⟨signed, true, (refreshDelegation node (.delegated principal .all)).2,
        .error (explain (refreshDelegation node (.delegated principal .all)).1)⟩ ↔
      ∀ fresh, node.lookup = .ok fresh → fresh = some (principal, .all) := by
  unfold refreshDelegation
  cases node.lookup with
  | error detail => exact iff_of_true ⟨failed detail, rfl⟩ (by simp)
  | ok fresh =>
    simp only [Except.ok.injEq, forall_eq']
    cases outcome : afterRefresh (.delegated principal .all) fresh with
    | unchanged =>
      refine iff_of_true ⟨unchanged, ?_⟩ (afterRefresh_unchanged_iff.mp outcome)
      simp [rescopedMode, outcome]
    | rescoped held =>
      refine iff_of_false (fun keeps => ?_) fun same => ?_
      · have mode := keeps.mode
        simp only [rescopedMode, outcome, Option.getD_some, Mode.delegated.injEq, true_and] at mode
        exact rescoped_ne outcome mode
      · rw [afterRefresh_unchanged_iff.mpr same] at outcome
        cases outcome
    | gone =>
      refine iff_of_false (fun keeps => ?_) fun same => ?_
      · exact keeps.unblamed (by simp [gone, BlamesGrant])
      · rw [afterRefresh_unchanged_iff.mpr same] at outcome
        cases outcome

theorem conclude_keepsOverride_iff (node : Node) (principal : AccountId) (pallet call : String)
    (required : Option ScopeSet) (signed : Option DynamicPayload) (landing : Landing) :
    KeepsOverride principal ⟨signed, true,
        (conclude node (.delegated principal .all) pallet call required landing).1,
        (conclude node (.delegated principal .all) pallet call required landing).2⟩ ↔
      (landing.Refreshes → ∀ fresh, node.lookup = .ok fresh → fresh = some (principal, .all)) := by
  cases landing with
  | refused e =>
    cases rejection : isPoolRejection e with
    | false =>
      refine iff_of_true ⟨?_, ?_⟩ (by simp [Landing.Refreshes, rejection])
      · simp [conclude, submissionError, rejection, BlamesGrant, chainError]
      · simp [conclude, rejection]
    | true =>
      have same := refresh_keepsOverride_iff node principal signed
        (fun refreshed =>
          submissionError (.delegated principal .all) refreshed pallet call required e)
        (by simp [submissionError, rejection])
        (by simp [submissionError, rejection, BlamesGrant])
        (by simp [submissionError, rejection, BlamesGrant, chainError])
      simpa [conclude, rejection, Mode.isDelegated, Landing.Refreshes] using same
  | lost text =>
    exact iff_of_true ⟨by simp [conclude, BlamesGrant, chainError], rfl⟩ (by simp [Landing.Refreshes])
  | timedOut =>
    exact iff_of_true ⟨by simp [conclude, BlamesGrant], rfl⟩ (by simp [Landing.Refreshes])
  | inBlock txHash blockHash success =>
    cases success with
    | ok events =>
      have unblamed := concludeTx_unblamed node.decodeFrom true pallet call txHash blockHash events
      exact iff_of_true ⟨unblamed, rfl⟩ (by simp [Landing.Refreshes])
    | error e =>
      cases notProxy : isNotProxy e with
      | false =>
        refine iff_of_true ⟨?_, ?_⟩ (by simp [Landing.Refreshes, notProxy])
        · simp [conclude, outerDispatchError, notProxy, BlamesGrant, chainError]
        · simp [conclude, notProxy]
      | true =>
        have same := refresh_keepsOverride_iff node principal signed
          (fun refreshed => outerDispatchError refreshed pallet call e)
          (by simp [outerDispatchError, notProxy])
          (by simp [outerDispatchError, notProxy, BlamesGrant, chainError])
          (by simp [outerDispatchError, notProxy, BlamesGrant])
        simpa [conclude, notProxy, Landing.Refreshes] using same

theorem tx_keepsOverride_iff (r : Request) (signer : Signer) (principal : AccountId) :
    KeepsOverride principal
        (tx r.node (some signer) (.delegated principal .all) r.pallet r.call r.args) ↔
      r.Confirms signer principal := by
  unfold Request.Confirms Request.landing tx
  cases built : buildPayload (.delegated principal .all) r.pallet r.call r.args with
  | error e =>
    obtain rfl := buildPayload_all built
    exact iff_of_true ⟨by simp [BlamesGrant], rfl⟩ (by simp)
  | ok payload =>
    simp only
    cases r.node.createPartial payload with
    | error text => exact iff_of_true ⟨by simp [BlamesGrant, chainError], rfl⟩ (by simp)
    | ok signerPayload =>
      simp only
      cases signer.sign signerPayload with
      | error detail => exact iff_of_true ⟨by simp [BlamesGrant], rfl⟩ (by simp)
      | ok signature =>
        simp only [Option.some.injEq, forall_eq']
        exact conclude_keepsOverride_iff r.node principal r.pallet r.call _ _ _

/-! ## Whole runs -/

theorem serve_keepsOverride_iff (signer : Signer) (principal : AccountId)
    (requests : List Request) :
    (∀ out ∈ serve (some signer) (.delegated principal .all) requests,
        KeepsOverride principal out) ↔
      ∀ r ∈ requests, r.Confirms signer principal := by
  induction requests with
  | nil => simp [serve]
  | cons r rest ih =>
    simp only [serve, List.forall_mem_cons]
    rw [tx_keepsOverride_iff]
    constructor
    · rintro ⟨now, later⟩
      rw [((tx_keepsOverride_iff r signer principal).mpr now).mode] at later
      exact ⟨now, ih.mp later⟩
    · rintro ⟨now, later⟩
      rw [((tx_keepsOverride_iff r signer principal).mpr now).mode]
      exact ⟨now, ih.mpr later⟩

/-- A client that was connected with an override keeps to it for life iff every grant that its failed
calls read again is the one that the override assumed. -/
theorem override_kept_iff (signer : Signer) (principal : AccountId)
    (lookup : Except SdkError (Option Grant)) (requests : List Request) :
    ∃ c, Client.connect (some signer) (.ok (some principal)) lookup = .ok c ∧
      ((∀ out ∈ serve c.signer c.mode requests, KeepsOverride principal out) ↔
        ∀ r ∈ requests, r.Confirms signer principal) :=
  ⟨_, rfl, serve_keepsOverride_iff signer principal requests⟩

/-- A pool refusal while the chain's pointer is gone is reported as a revoked key. -/
theorem override_lost :
    ¬ ∀ (signer : Signer) (principal : AccountId) (lookup : Except SdkError (Option Grant))
        (requests : List Request) (c : Client),
      Client.connect (some signer) (.ok (some principal)) lookup = .ok c →
        ∀ out ∈ serve c.signer c.mode requests, KeepsOverride principal out := by
  intro claim
  let node : Node :=
    { createPartial := fun _ => .ok []
      landing := fun _ _ => .refused (.rpc 1010 "1010: Inability to pay some fees")
      decodeFrom := fun _ => .error ""
      lookup := .ok none }
  let request : Request := ⟨"Secrets", "rotate", [], node⟩
  have kept := claim ⟨[], fun _ => .ok []⟩ [] (.ok none) [request] _ rfl
    _ (List.mem_cons_self ..)
  exact kept.unblamed trivial

end MatterSdk.Rust
