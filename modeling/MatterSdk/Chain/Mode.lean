import MatterSdk.Scopes.Sets
import MatterSdk.Chain.Errors

/-!
# Who a client acts for

The mode of a client, which is resolved at connect, and how a re-read of the chain's grant compares
with the one that the client holds.
-/

namespace MatterSdk

namespace Rust

/-- An answer of `BudgetsApi_agent_key`: the principal of a key and what it may do. -/
abbrev Grant := AccountId × ScopeSet

/-- Who a client's signature speaks for. -/
inductive Mode where
  | direct
  | delegated (principal : AccountId) (scopes : ScopeSet)
deriving DecidableEq, Repr

namespace Mode

def principal : Mode → Option AccountId
  | direct => none
  | delegated principal _ => some principal

def scopes : Mode → Option ScopeSet
  | direct => none
  | delegated _ scopes => some scopes

def isDelegated : Mode → Bool
  | direct => false
  | delegated _ _ => true

/-- An override wins; no grant means direct. -/
def decide (lookup : Option Grant) (overridePrincipal : Option AccountId) : Mode :=
  match overridePrincipal with
  | some principal => delegated principal .all
  | none =>
    match lookup with
    | some (principal, scopes) => delegated principal scopes
    | none => direct

/-- `resolve`, from the override in the environment and the answer of the chain. -/
def resolve (overridePrincipal : Except SdkError (Option AccountId))
    (lookup : Except SdkError (Option Grant)) : Except SdkError Mode :=
  match overridePrincipal with
  | .error e => .error e
  | .ok (some principal) => .ok (decide none (some principal))
  | .ok none =>
    match lookup with
    | .error e => .error e
    | .ok found => .ok (decide found none)

end Mode

/-- What a re-read of the grant says about the one a client holds. -/
inductive Refresh where
  | unchanged
  | rescoped (held : ScopeSet)
  | gone
deriving DecidableEq, Repr

def afterRefresh (previous : Mode) (fresh : Option Grant) : Refresh :=
  match previous with
  | .direct => .unchanged
  | .delegated principal scopes =>
    match fresh with
    | some (freshPrincipal, freshScopes) =>
      if freshPrincipal = principal then
        if freshScopes = scopes then .unchanged else .rescoped freshScopes
      else .gone
    | none => .gone

/-- What `refresh_delegation` writes to the cached mode, if it writes. -/
def rescopedMode (previous : Mode) (fresh : Option Grant) : Option Mode :=
  match afterRefresh previous fresh, previous with
  | .rescoped held, .delegated principal _ => some (.delegated principal held)
  | _, _ => none

/-- The mode that an answer asks for, if it still names the principal of `mode`. -/
def Mode.named (mode : Mode) (fresh : Option Grant) : Option Mode :=
  match mode, fresh with
  | .delegated principal _, some (freshPrincipal, freshScopes) =>
    if freshPrincipal = principal then some (.delegated principal freshScopes) else none
  | _, _ => none

theorem rescopedMode_eq {mode previous : Mode} (same : previous.principal = mode.principal)
    (fresh : Option Grant) :
    rescopedMode previous fresh =
      if mode.named fresh = some previous then none else mode.named fresh := by
  cases mode with
  | direct =>
    cases previous with
    | direct => rfl
    | delegated => cases same
  | delegated principal scopes =>
    cases previous with
    | direct => cases same
    | delegated principal' scopes' =>
      obtain rfl : principal' = principal := Option.some.inj same
      cases fresh with
      | none => rfl
      | some grant =>
        obtain ⟨freshPrincipal, freshScopes⟩ := grant
        by_cases ours : freshPrincipal = principal'
        · by_cases moved : freshScopes = scopes'
          · simp [rescopedMode, afterRefresh, Mode.named, ours, moved]
          · simp [rescopedMode, afterRefresh, Mode.named, ours, moved]
        · simp [rescopedMode, afterRefresh, Mode.named, ours]

theorem Mode.principal_of_named {mode value : Mode} {fresh : Option Grant}
    (named : mode.named fresh = some value) : value.principal = mode.principal := by
  unfold Mode.named at named
  split at named
  · split_ifs at named
    cases named
    rfl
  · cases named

end Rust

namespace Go

/-- Who a client's key acts for, and what it may do. -/
structure Delegation where
  principal : Bytes
  scopes : ScopeSet
deriving DecidableEq, Repr

def afterRefresh (previous fresh : Option Delegation) : RefreshOutcome :=
  match previous with
  | none => .unchanged
  | some previous =>
    match fresh with
    | none => .gone
    | some fresh =>
      if fresh.principal ≠ previous.principal then .gone
      else if fresh.scopes.bits ≠ previous.scopes.bits then .rescoped
      else .unchanged

/-- What `refreshDelegation` writes to the held delegation, if it writes. -/
def rescopedDelegation (previous fresh : Option Delegation) : Option (Option Delegation) :=
  if afterRefresh previous fresh = .rescoped then some fresh else none

/-- The delegation that an answer asks for, if it still names the principal of `held`. -/
def namedDelegation (held fresh : Option Delegation) : Option (Option Delegation) :=
  match held, fresh with
  | some held, some fresh => if fresh.principal = held.principal then some (some fresh) else none
  | _, _ => none

theorem rescopedDelegation_eq {held previous : Option Delegation}
    (same : previous.map Delegation.principal = held.map Delegation.principal)
    (fresh : Option Delegation) :
    rescopedDelegation previous fresh =
      if namedDelegation held fresh = some previous then none else namedDelegation held fresh := by
  cases held with
  | none =>
    cases previous with
    | none => rfl
    | some => cases same
  | some held =>
    cases previous with
    | none => cases same
    | some previous =>
      have same : previous.principal = held.principal := Option.some.inj same
      cases fresh with
      | none => rfl
      | some fresh =>
        obtain ⟨principal, ⟨bits⟩⟩ := fresh
        obtain ⟨principal', ⟨bits'⟩⟩ := previous
        by_cases ours : principal = held.principal
        · by_cases moved : bits = bits'
          · simp_all [rescopedDelegation, afterRefresh, namedDelegation]
          · simp_all [rescopedDelegation, afterRefresh, namedDelegation]
        · simp_all [rescopedDelegation, afterRefresh, namedDelegation]

theorem principal_of_namedDelegation {held value fresh : Option Delegation}
    (named : namedDelegation held fresh = some value) :
    value.map Delegation.principal = held.map Delegation.principal := by
  unfold namedDelegation at named
  split at named
  · split_ifs at named with ours
    cases named
    simp [ours]
  · cases named

end Go

end MatterSdk
