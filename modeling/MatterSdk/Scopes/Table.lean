import MatterSdk.Scopes.Sets

/-!
# The table of required scopes

What a call requires of a delegated key.  Each client has its own copy of the runtime's table; their
common shape is `Table.required`, and the Rust copy reads the arguments of two calls from the values
that the caller passes.
-/

namespace MatterSdk

/-- The name lists of a client's table: for Jobs the calls in the deployments and the networking
group, for Collaborations the root-only setters, for Datasets and Communities the calls that are
never admitted, and for the other pallets the calls that are. -/
structure Table where
  deploymentsWrite : List String
  networkingWrite : List String
  rootOnly : List String
  datasetsNever : String → Bool
  communitiesNever : String → Bool
  resourcesWrite : List String
  organizationWrite : List String
  billingWrite : List String

def write (scope : Scope) : ScopeSet := .single scope .write

/-- Shipping a secret into a container is a read of it. -/
def deployWithSecret : ScopeSet := (write .deployments).with_ .secrets .read

/-- What `pallet.call` requires, or `none` if no set admits it.  `noSecret` is whether the arguments
of a call that may reference a secret are read as referencing none. -/
def Table.required (t : Table) (noSecret : String → Bool) (pallet call : String) :
    Option ScopeSet :=
  if pallet = "Jobs" then
    if call = "request_deployment" || call = "set_deployment_secret_ref" then
      some (if noSecret call then write .deployments else deployWithSecret)
    else if call ∈ t.deploymentsWrite then some (write .deployments)
    else if call ∈ t.networkingWrite then some (write .networking)
    else none
  else if pallet = "Collaborations" then
    if call ∈ t.rootOnly then none else some (write .collaborations)
  else if pallet = "Secrets" then some (write .secrets)
  else if pallet = "Volumes" then some (write .volumes)
  else if pallet = "OverlayNetworks" then some (write .networking)
  else if pallet = "Datasets" then
    if t.datasetsNever call then none else some (write .datasets)
  else if pallet = "Resources" then
    if call ∈ t.resourcesWrite then some (write .resources) else none
  else if pallet = "Organizations" then
    if call ∈ t.organizationWrite then some (write .organization) else none
  else if pallet = "Budgets" then
    if call ∈ t.billingWrite then some (write .billing) else none
  else if pallet = "Communities" then
    if t.communitiesNever call then none else some (write .communities)
  else none

theorem isValid_write (scope : Scope) : (write scope).isValid = true :=
  ScopeSet.isValid_single scope .write

theorem isValid_deployWithSecret : deployWithSecret.isValid = true :=
  ScopeSet.isValid_with_ (isValid_write _) _ _

/-- The set, if there is one, holds defined bits only. -/
def Valid (required : Option ScopeSet) : Prop := ∀ s ∈ required, s.isValid = true

theorem Valid.none : Valid none := by simp [Valid]

theorem Valid.write (scope : Scope) : Valid (some (write scope)) := by
  simp [Valid, isValid_write]

theorem Valid.ite {p : Prop} [Decidable p] {a b : Option ScopeSet} (yes : Valid a) (no : Valid b) :
    Valid (if p then a else b) := by
  by_cases h : p
  · rwa [if_pos h]
  · rwa [if_neg h]

theorem Table.required_valid (t : Table) (noSecret : String → Bool) (pallet call : String) :
    Valid (t.required noSecret pallet call) := by
  have sensitive : Valid (some (if noSecret call then MatterSdk.write .deployments
      else deployWithSecret)) := by
    cases noSecret call <;> simp [Valid, isValid_write, isValid_deployWithSecret]
  unfold Table.required
  repeat' apply Valid.ite
  all_goals first | exact sensitive | exact Valid.write _ | exact Valid.none

namespace Rust

inductive Primitive where
  | bool (b : Bool)
  | char (c : Char)
  | string (s : String)
  | u128 (n : BitVec 128)
  | i128 (n : BitVec 128)
  | u256 (bytes : Bytes)
  | i256 (bytes : Bytes)
deriving DecidableEq, Repr

mutual

/-- `scale_value::Composite`. -/
inductive Composite where
  | named (fields : List (String × Value))
  | unnamed (values : List Value)

/-- `scale_value::Value`, without its context. -/
inductive Value where
  | composite (c : Composite)
  | variant (name : String) (values : Composite)
  | bitSequence (bits : List Bool)
  | primitive (p : Primitive)

end

/-- Whether a value is definitely `None`; one that is absent counts as not. -/
def isNone : Option Value → Bool
  | some (.variant name _) => name = "None"
  | _ => false

/-- Whether a `ResourceRequest` sets either secret reference; anything unreadable counts as one. -/
def requestReferencesSecret : Option Value → Bool
  | some (.composite (.named fields)) =>
    ["secret_ref", "tls_secret_ref"].any fun name =>
      match fields.find? (·.1 = name) with
      | some (_, value) => !isNone (some value)
      | none => true
  | _ => true

def table : Table where
  deploymentsWrite :=
    ["cancel_deployment", "set_deployment_env", "set_deployment_image", "set_deployment_launch",
      "set_deployment_policy_root", "set_deployment_volumes", "set_deployment_restart_policy"]
  networkingWrite := ["register_wg_peer", "remove_wg_peer"]
  rootOnly := ["set_compute_node_image", "set_compute_node_sku_id"]
  datasetsNever call :=
    call ∈ ["force_delist_dataset", "force_restore_dataset", "force_delete_dataset"]
  communitiesNever call :=
    call ∈ ["force_delist_community", "force_restore_community", "force_delete_community"]
  resourcesWrite :=
    ["register_resource", "register_private_resource", "register_org_resource",
      "reactivate_resource", "suspend_resource", "set_resource_privacy", "add_to_whitelist",
      "remove_from_whitelist", "update_resource_name", "remove_resource"]
  organizationWrite :=
    ["add_member", "set_member_role", "remove_member", "create_project", "assign_to_project",
      "unassign_from_project", "delete_project", "add_project_deployment_peer"]
  billingWrite :=
    ["allot", "defund_project", "set_plan_allotment", "add_purchased_allotment",
      "set_purchased_allotment", "set_member_billing", "clear_member_billing",
      "set_member_gas_limit", "set_project_spend_cap"]

/-- `required_scopes`. -/
def requiredScopes (pallet call : String) (args : List Value) : Option ScopeSet :=
  table.required (fun call =>
    if call = "request_deployment" then !requestReferencesSecret args.head? else isNone args[1]?)
    pallet call

/-- `SCOPED_PALLETS`. -/
def scopedPallets : List String :=
  ["Jobs", "Collaborations", "Secrets", "Volumes", "Datasets", "OverlayNetworks", "Resources",
    "Organizations", "Budgets", "Communities"]

/-- `NEVER_ADMITTED`. -/
def neverAdmitted : List (String × List String) :=
  [("Jobs", ["update_deployment_status", "set_deployment_network", "report_tls_status"]),
    ("Resources",
      ["report_consumption", "request_consumption_report", "report_capacity", "update_sku",
        "remove_sku", "set_provider_min_stake"]),
    ("Collaborations", ["set_compute_node_image", "set_compute_node_sku_id"]),
    ("OverlayNetworks", []),
    ("Volumes", []),
    ("Secrets", []),
    ("Datasets", ["force_delist_dataset", "force_restore_dataset", "force_delete_dataset"]),
    ("Organizations", ["create_org", "delete_org"]),
    ("Budgets",
      ["fund_org_treasury", "withdraw_org_treasury", "authorize_project_deployer",
        "revoke_project_deployer", "claim_sponsorship", "transfer_sponsorship",
        "authorize_project_secrets_agent", "revoke_project_secrets_agent",
        "authorize_org_resource_operator", "revoke_org_resource_operator", "bond_org_stake",
        "unbond_org_stake", "withdraw_org_stake", "approve_sponsor", "authorize_agent_key",
        "revoke_agent_key", "fund_non_revolving_treasury", "withdraw_non_revolving_treasury"]),
    ("Communities",
      ["force_delist_community", "force_restore_community", "force_delete_community"])]

/-- The call is listed as one that no key may ever make. -/
def NeverAdmitted (pallet call : String) : Prop :=
  ∃ calls, (pallet, calls) ∈ neverAdmitted ∧ call ∈ calls

/-- The table admits calls of the scoped pallets only. -/
theorem scoped_of_required {pallet call : String} {args : List Value} {required : ScopeSet}
    (admitted : requiredScopes pallet call args = some required) : pallet ∈ scopedPallets := by
  by_contra unscoped
  simp only [scopedPallets, List.mem_cons, List.not_mem_nil, or_false, not_or] at unscoped
  simp [requiredScopes, Table.required, unscoped] at admitted

/-- The table and the deny list agree. -/
theorem required_of_neverAdmitted {pallet call : String} (args : List Value)
    (never : NeverAdmitted pallet call) : requiredScopes pallet call args = none := by
  obtain ⟨calls, listed, named⟩ := never
  have all : ∀ entry ∈ neverAdmitted, ∀ call ∈ entry.2, requiredScopes entry.1 call args = none := by
    simp [neverAdmitted, requiredScopes, Table.required, table]
  exact all _ listed call named

end Rust

end MatterSdk
