import MatterSdk.Scopes.Table

/-!
# Four copies of the table

The tables of the Go, TypeScript and Python clients, and how each reads the arguments of the two calls
that may reference a secret: Go from the encoded call, the others from the values they are given.
-/

namespace MatterSdk

/-- The call's name starts with `force_`. -/
def forced (call : String) : Bool := "force_".toList.isPrefixOf call.toList

namespace Go

def table : Table where
  deploymentsWrite :=
    ["cancel_deployment", "set_deployment_env", "set_deployment_image", "set_deployment_launch",
      "set_deployment_policy_root", "set_deployment_volumes", "set_deployment_restart_policy"]
  networkingWrite := ["register_wg_peer", "remove_wg_peer"]
  rootOnly := ["set_compute_node_image", "set_compute_node_sku_id"]
  datasetsNever := forced
  communitiesNever := forced
  resourcesWrite :=
    ["register_resource", "register_private_resource", "register_org_resource",
      "reactivate_resource", "suspend_resource", "set_resource_privacy", "add_to_whitelist",
      "remove_from_whitelist", "update_resource_name", "remove_resource"]
  organizationWrite :=
    ["add_member", "set_member_role", "remove_member", "create_project", "assign_to_project",
      "unassign_from_project", "delete_project", "add_project_deployment_peer"]
  billingWrite :=
    ["allot", "defund_project", "set_plan_allotment", "add_purchased_allotment",
      "set_purchased_allotment", "set_member_billing", "clear_member_billing",
      "set_member_gas_limit", "set_project_spend_cap"]

/-- `RequiredScopes`: by name alone, the wider set. -/
def requiredScopes (pallet call : String) : Option ScopeSet :=
  table.required (fun _ => false) pallet call

/-- What the registry decodes: a byte, a struct's fields (of which some may be nil), or else. -/
inductive Decoded where
  | byte (b : UInt8)
  | fields (fields : List (Option (String × Decoded)))
  | other

/-- The registry puts the type that declares a field before its name. -/
def fieldNamed (actual want : String) : Bool :=
  actual = want || ('.' :: want.toList).isSuffixOf actual.toList

def isOptionNone : Decoded → Bool
  | .byte b => b = 0
  | _ => false

/-- The loop over a request's fields: both references must be seen and `None`. -/
def bothNone : List (Option (String × Decoded)) → Bool → Bool → Bool
  | [], sawSecret, sawTLS => sawSecret && sawTLS
  | none :: rest, sawSecret, sawTLS => bothNone rest sawSecret sawTLS
  | some (name, value) :: rest, sawSecret, sawTLS =>
    -- The name `tls_secret_ref` also ends in `secret_ref`.
    if fieldNamed name "tls_secret_ref" then
      if isOptionNone value then bothNone rest sawSecret true else false
    else if fieldNamed name "secret_ref" then
      if isOptionNone value then bothNone rest true sawTLS else false
    else bothNone rest sawSecret sawTLS

def referencesNoSecret : List (Option (String × Decoded)) → String → Bool
  | [], _ => false
  | none :: rest, field => referencesNoSecret rest field
  | some (name, value) :: rest, field =>
    if !fieldNamed name field then referencesNoSecret rest field
    else if field ≠ "request" then isOptionNone value
    else
      match value with
      | .fields inner => bothNone inner false false
      | _ => false

/-- The argument that tells whether a call references a secret. -/
def sensitiveField (method : String) : Option String :=
  if method = "set_deployment_secret_ref" then some "secret_ref"
  else if method = "request_deployment" then some "request"
  else none

/-- `requiredScopesForCall`, of the names that the metadata gives the call, if it knows it, and of
its decoded fields, if they can be decoded. -/
def requiredScopesForCall (names : Option (String × String))
    (decoded : Option (List (Option (String × Decoded)))) : Option ScopeSet :=
  match names with
  | none => none
  | some (pallet, method) =>
    match requiredScopes pallet method with
    | none => none
    | some required =>
      if pallet ≠ "Jobs" then some required
      else
        match sensitiveField method, decoded with
        | some field, some fields =>
          if referencesNoSecret fields field then some (write .deployments) else some required
        | _, _ => some required

end Go

namespace TypeScript

def table : Table where
  deploymentsWrite :=
    ["cancel_deployment", "set_deployment_env", "set_deployment_image", "set_deployment_launch",
      "set_deployment_policy_root", "set_deployment_volumes", "set_deployment_restart_policy"]
  networkingWrite := ["register_wg_peer", "remove_wg_peer"]
  rootOnly := ["set_compute_node_image", "set_compute_node_sku_id"]
  datasetsNever := forced
  communitiesNever := forced
  resourcesWrite :=
    ["register_resource", "register_private_resource", "register_org_resource",
      "reactivate_resource", "suspend_resource", "set_resource_privacy", "add_to_whitelist",
      "remove_from_whitelist", "update_resource_name", "remove_resource"]
  organizationWrite :=
    ["add_member", "set_member_role", "remove_member", "create_project", "assign_to_project",
      "unassign_from_project", "delete_project", "add_project_deployment_peer"]
  billingWrite :=
    ["allot", "defund_project", "set_plan_allotment", "add_purchased_allotment",
      "set_purchased_allotment", "set_member_billing", "clear_member_billing",
      "set_member_gas_limit", "set_project_spend_cap"]

/-- An argument, as far as the table reads it. -/
inductive Argument where
  | null
  | undefined
  | object (entries : List (String × Argument))
  | other

/-- `null`, `undefined`, or an object with the key `None`. -/
def isNone : Argument → Bool
  | .null => true
  | .undefined => true
  | .object entries => entries.any (·.1 = "None")
  | .other => false

/-- What a missing argument or entry reads as. -/
def entry (entries : List (String × Argument)) (name : String) : Argument :=
  match entries.find? (·.1 = name) with
  | some (_, value) => value
  | none => .undefined

def requestReferencesSecret (request : Argument) : Bool :=
  match request with
  | .object entries => ["secret_ref", "tls_secret_ref"].any fun name =>
      !entries.any (·.1 = name) || !isNone (entry entries name)
  | _ => true

/-- `requiredScopes`. -/
def requiredScopes (pallet call : String) (args : List Argument) : Option ScopeSet :=
  table.required (fun call =>
    if call = "request_deployment" then !requestReferencesSecret (args[0]?.getD .undefined)
    else decide (1 < args.length) && isNone (args[1]?.getD .undefined)) pallet call

end TypeScript

namespace Python

def table : Table where
  deploymentsWrite :=
    ["cancel_deployment", "set_deployment_env", "set_deployment_image", "set_deployment_launch",
      "set_deployment_policy_root", "set_deployment_volumes", "set_deployment_restart_policy"]
  networkingWrite := ["register_wg_peer", "remove_wg_peer"]
  rootOnly := ["set_compute_node_image", "set_compute_node_sku_id"]
  datasetsNever := forced
  communitiesNever := forced
  resourcesWrite :=
    ["register_resource", "register_private_resource", "register_org_resource",
      "reactivate_resource", "suspend_resource", "set_resource_privacy", "add_to_whitelist",
      "remove_from_whitelist", "update_resource_name", "remove_resource"]
  organizationWrite :=
    ["add_member", "set_member_role", "remove_member", "create_project", "assign_to_project",
      "unassign_from_project", "delete_project", "add_project_deployment_peer"]
  billingWrite :=
    ["allot", "defund_project", "set_plan_allotment", "add_purchased_allotment",
      "set_purchased_allotment", "set_member_billing", "clear_member_billing",
      "set_member_gas_limit", "set_project_spend_cap"]

/-- A parameter, as far as the table reads it; the keys of a mapping are distinct. -/
inductive Param where
  | none
  | mapping (entries : List (String × Param))
  | other

/-- `_is_none`: `None`, or a mapping whose one key is `None`. -/
def isNone : Param → Bool
  | .none => true
  | .mapping entries => !entries.isEmpty && entries.all (·.1 = "None")
  | .other => false

def requestReferencesSecret (request : Param) (present : Bool) : Bool :=
  if !present then true
  else
    match request with
    | .mapping entries => ["secret_ref", "tls_secret_ref"].any fun name =>
        match entries.find? (·.1 = name) with
        | some (_, value) => !isNone value
        | Option.none => true
    | _ => true

/-- `required_scopes`; no params read as an empty mapping. -/
def requiredScopes (pallet call : String) (params : List (String × Param)) : Option ScopeSet :=
  let get name := (params.find? (·.1 = name)).map (·.2)
  table.required (fun call =>
    if call = "request_deployment" then
      !requestReferencesSecret ((get "request").getD .none) (get "request").isSome
    else (get "secret_ref").elim false isNone) pallet call

end Python

end MatterSdk
