import MatterSdk.Chain.Transact

/-!
# What a delegated client signs

In every state that its refreshes can lead to, a client that connected as delegated signs nothing
but calls of the scoped pallets, wrapped for the principal it connected with and within the scopes
that it holds at the time.
-/

namespace MatterSdk.Rust

open SharedCache

/-- A call that a key with `scopes` may make. -/
structure Admitted (scopes : ScopeSet) (pallet call : String) (args : List Value) : Prop where
  listed : pallet ∈ scopedPallets
  unnested : pallet ∉ ["Proxy", "Utility", "EthSigning"]
  allowed : ¬ NeverAdmitted pallet call
  held : ∃ required, requiredScopes pallet call args = some required ∧
    required.grants ⊆ scopes.grants

theorem requiredScopes_isValid {pallet call : String} {args : List Value} {required : ScopeSet}
    (admitted : requiredScopes pallet call args = some required) : required.isValid = true :=
  Table.required_valid _ _ pallet call required admitted

theorem unnested_of_scoped {pallet : String} (listed : pallet ∈ scopedPallets) :
    pallet ∉ ["Proxy", "Utility", "EthSigning"] := by
  have disjoint : ∀ p ∈ scopedPallets, p ∉ ["Proxy", "Utility", "EthSigning"] := by decide
  exact disjoint pallet listed

/-- What the local check lets through is what the key may call. -/
theorem admitted_iff (scopes : ScopeSet) (pallet call : String) (args : List Value) :
    Admitted scopes pallet call args ↔
      ∃ required, requiredScopes pallet call args = some required ∧
        scopes.isSuperset required = true := by
  constructor
  · rintro ⟨-, -, -, required, admitted, within⟩
    have valid := requiredScopes_isValid admitted
    exact ⟨required, admitted, (ScopeSet.isSuperset_iff_grants scopes valid).mpr within⟩
  · rintro ⟨required, admitted, within⟩
    have listed := scoped_of_required admitted
    refine ⟨listed, unnested_of_scoped listed, fun never => ?_,
      required, admitted, ScopeSet.grants_subset_of_isSuperset within⟩
    rw [required_of_neverAdmitted args never] at admitted
    cases admitted

theorem buildPayload_admitted {principal : AccountId} {scopes : ScopeSet} {pallet call : String}
    {args : List Value} (admitted : Admitted scopes pallet call args) :
    buildPayload (.delegated principal scopes) pallet call args =
      .ok (proxyPayload principal pallet call args) := by
  obtain ⟨required, some_, within⟩ := (admitted_iff scopes pallet call args).mp admitted
  simp only [buildPayload]
  rw [if_neg admitted.unnested, some_]
  simp [within]

theorem buildPayload_refused (principal : AccountId) {scopes : ScopeSet} {pallet call : String}
    {args : List Value} (refused : ¬ Admitted scopes pallet call args) :
    ∃ e, buildPayload (.delegated principal scopes) pallet call args = .error e ∧
      (e = .neverAdmitted pallet call ∨ ∃ required, e = .notPermitted pallet call required scopes) := by
  simp only [buildPayload]
  by_cases nested : pallet ∈ ["Proxy", "Utility", "EthSigning"]
  · exact ⟨_, if_pos nested, .inl rfl⟩
  · rw [if_neg nested]
    cases admitted : requiredScopes pallet call args with
    | none => exact ⟨_, rfl, .inl rfl⟩
    | some required =>
      have beyond : scopes.isSuperset required = false := by
        by_contra within
        have within : scopes.isSuperset required = true := by simpa using within
        exact refused ((admitted_iff scopes pallet call args).mpr ⟨required, admitted, within⟩)
      exact ⟨.notPermitted pallet call required scopes, by simp [beyond], .inr ⟨required, rfl⟩⟩

/-- Nothing but what `build_payload` gives is signed. -/
theorem buildPayload_of_signed {node : Node} {signer : Option Signer} {mode : Mode}
    {pallet call : String} {args : List Value} {payload : DynamicPayload}
    (signed : (tx node signer mode pallet call args).signed = some payload) :
    buildPayload mode pallet call args = .ok payload := by
  cases signer with
  | none => cases signed
  | some signer =>
    cases built : buildPayload mode pallet call args with
    | error e => simp [tx, built] at signed
    | ok payload' =>
      cases made : node.createPartial payload' with
      | error text => simp [tx, built, made] at signed
      | ok signerPayload =>
        cases sign : signer.sign signerPayload with
        | error e => simpa [tx, built, made, sign] using signed
        | ok signature => simpa [tx, built, made, sign] using signed

theorem tx_refused {node : Node} {signer : Signer} {mode : Mode} {pallet call : String}
    {args : List Value} {e : SdkError} (refused : buildPayload mode pallet call args = .error e) :
    tx node (some signer) mode pallet call args = ⟨none, false, mode, .error e⟩ := by
  simp [tx, refused]

/-! ## In every reachable state -/

theorem refreshDelegation_mode (node : Node) (mode : Mode) :
    (refreshDelegation node mode).2 = mode ∨
      ∃ fresh, (refreshDelegation node mode).2 = (rescopedMode mode fresh).getD mode := by
  unfold refreshDelegation
  cases node.lookup with
  | error e => exact .inl rfl
  | ok fresh => exact .inr ⟨fresh, rfl⟩

/-- A call leaves the mode as it was, or refreshes it once. -/
theorem tx_mode (node : Node) (signer : Option Signer) (mode : Mode) (pallet call : String)
    (args : List Value) :
    (tx node signer mode pallet call args).mode = mode ∨
      ∃ fresh, (tx node signer mode pallet call args).mode =
        (rescopedMode mode fresh).getD mode := by
  unfold tx
  cases signer with
  | none => exact .inl rfl
  | some signer =>
    cases buildPayload mode pallet call args with
    | error e => exact .inl rfl
    | ok payload =>
      simp only
      cases node.createPartial payload with
      | error text => exact .inl rfl
      | ok signerPayload =>
        simp only
        cases signer.sign signerPayload with
        | error e => exact .inl rfl
        | ok signature =>
          simp only
          cases node.landing signerPayload signature with
          | refused e =>
            simp only [conclude]
            split_ifs
            · exact refreshDelegation_mode node mode
            · exact .inl rfl
          | lost text => exact .inl rfl
          | timedOut => exact .inl rfl
          | inBlock txHash blockHash success =>
            cases success with
            | ok events => exact .inl rfl
            | error e =>
              simp only [conclude]
              split_ifs
              · exact refreshDelegation_mode node mode
              · exact .inl rfl

/-- What may happen to a connected client: an act of a refresh, or a call of `tx`. -/
inductive Event where
  | act (act : Act (Option Grant))
  | call (request : Request)

/-- The client's cached mode and its running refreshes; a call leaves these alone. -/
def Client.step (c : Client) (s : Shared Mode (Option Grant)) : Event → Shared Mode (Option Grant)
  | .act act => SharedCache.step rescopedMode s act
  | .call r => { s with cache := (tx r.node c.signer s.cache r.pallet r.call r.args).mode }

/-- A client after some events since its connect, in any order. -/
def Client.after (c : Client) (events : List Event) : Shared Mode (Option Grant) :=
  events.foldl c.step (.init c.mode)

/-- Acts of refreshes alone. -/
theorem Client.after_acts (c : Client) (acts : List (Act (Option Grant))) :
    c.after (acts.map .act) = refreshing c.mode acts := by
  rw [Client.after, List.foldl_map]
  rfl

/-- Calls alone: the last one leaves the mode that the next one finds. -/
theorem Client.after_calls (c : Client) (requests : List Request) (r : Request) :
    (serve c.signer c.mode (requests ++ [r])).getLast? =
      some (tx r.node c.signer (c.after (requests.map .call)).cache r.pallet r.call r.args) := by
  have moved (s : Shared Mode (Option Grant)) :
      (serve c.signer s.cache (requests ++ [r])).getLast? =
        some (tx r.node c.signer ((requests.map Event.call).foldl c.step s).cache r.pallet r.call
          r.args) := by
    induction requests generalizing s with
    | nil => rfl
    | cons first rest ih =>
      rw [List.cons_append, serve, List.getLast?_cons, List.map_cons, List.foldl_cons]
      show some (Option.getD (serve c.signer (c.step s (.call first)).cache (rest ++ [r])).getLast? _) =
        _
      rw [ih (c.step s (.call first))]
      rfl
  exact moved (.init c.mode)

/-- An event keeps the principal in the cache and in every running refresh. -/
theorem Client.step_principal (c : Client) (s : Shared Mode (Option Grant)) (event : Event)
    (holds : Holds (fun mode => mode.principal = c.mode.principal) s) :
    Holds (fun mode => mode.principal = c.mode.principal) (c.step s event) := by
  have kept := (rescopedMode_compares c.mode).kept
  cases event with
  | act act => exact holds_step kept s act holds
  | call r =>
    refine ⟨?_, holds.2⟩
    show (tx r.node c.signer s.cache r.pallet r.call r.args).mode.principal = c.mode.principal
    rcases tx_mode r.node c.signer s.cache r.pallet r.call r.args with same | ⟨fresh, moved⟩
    · rw [same]
      exact holds.1
    · rw [moved]
      cases stored : rescopedMode s.cache fresh with
      | none => exact holds.1
      | some value => exact kept s.cache fresh value holds.1 stored

theorem Client.after_principal (c : Client) (events : List Event) :
    (c.after events).cache.principal = c.mode.principal := by
  have holds : Holds (fun mode => mode.principal = c.mode.principal)
      (events.foldl c.step (.init c.mode)) := by
    have start : Holds (fun mode => mode.principal = c.mode.principal)
        (Shared.init c.mode : Shared Mode (Option Grant)) := holds_init rfl
    generalize Shared.init c.mode = s at start ⊢
    induction events generalizing s with
    | nil => exact start
    | cons event events ih => exact ih _ (c.step_principal s event start)
  exact holds.1

/-- A call of a client that connected in mode `connected` and now holds `held`. -/
def SafelySigned (connected held : Mode) (pallet call : String) (args : List Value)
    (out : Submission) : Prop :=
  match connected with
  | .direct => ∀ payload, out.signed = some payload → payload = dynamicTx pallet call args
  | .delegated principal _ =>
    ∃ scopes, held = .delegated principal scopes ∧
      (∀ payload, out.signed = some payload →
        payload = proxyPayload principal pallet call args ∧ Admitted scopes pallet call args) ∧
      (¬ Admitted scopes pallet call args → out.signed = none ∧ out.submitted = false ∧
        (out.result = .error (.neverAdmitted pallet call) ∨
          ∃ required, out.result = .error (.notPermitted pallet call required scopes)))

theorem Mode.eq_of_principal {mode : Mode} {principal : AccountId}
    (acts : mode.principal = some principal) : ∃ scopes, mode = .delegated principal scopes := by
  cases mode with
  | direct => cases acts
  | delegated principal' scopes => exact ⟨scopes, by rw [Option.some.inj acts]⟩

theorem Mode.eq_direct {mode : Mode} (acts : mode.principal = none) : mode = .direct := by
  cases mode with
  | direct => rfl
  | delegated => cases acts

/-- A delegated client never signs a bare call, nor one beyond its scopes, whatever calls it made
before, whatever its refreshes were answered and however they overlapped. -/
theorem tx_safelySigned (c : Client) (events : List Event) (node : Node) (pallet call : String)
    (args : List Value) :
    SafelySigned c.mode (c.after events).cache pallet call args
      (tx node c.signer (c.after events).cache pallet call args) := by
  have kind := c.after_principal events
  generalize (c.after events).cache = held at kind ⊢
  unfold SafelySigned
  cases connected : c.mode with
  | direct =>
    intro payload signed
    obtain rfl := Mode.eq_direct (kind.trans (by rw [connected]; rfl))
    have built := buildPayload_of_signed signed
    exact (Except.ok.inj built).symm
  | delegated principal scopes₀ =>
    obtain ⟨scopes, rfl⟩ := Mode.eq_of_principal (kind.trans (by rw [connected]; rfl))
    refine ⟨scopes, rfl, fun payload signed => ?_, fun refused => ?_⟩
    · have built := buildPayload_of_signed signed
      by_cases admitted : Admitted scopes pallet call args
      · rw [buildPayload_admitted admitted] at built
        exact ⟨(Except.ok.inj built).symm, admitted⟩
      · obtain ⟨e, refused, -⟩ := buildPayload_refused principal admitted
        rw [refused] at built
        cases built
    · obtain ⟨e, refused, which⟩ := buildPayload_refused principal refused
      cases signer : c.signer with
      | none => rw [c.readOnly signer] at connected; cases connected
      | some signer =>
        rw [tx_refused refused]
        refine ⟨rfl, rfl, ?_⟩
        rcases which with rfl | ⟨required, rfl⟩
        · exact .inl rfl
        · exact .inr ⟨required, rfl⟩

end MatterSdk.Rust
