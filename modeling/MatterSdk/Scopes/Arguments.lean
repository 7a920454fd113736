import MatterSdk.Scopes.Table

/-!
# Arguments that carry no secret

The table leaves the read of a secret out for arguments that it reads as referencing none.  It reads
the first field of a name, so a request may carry a secret in a later field of the same name.
-/

namespace MatterSdk.Rust

/-- The fields of a request that reference a secret. -/
def secretFields : List String := ["secret_ref", "tls_secret_ref"]

def IsNoneVariant (value : Value) : Prop := ∃ values, value = .variant "None" values

theorem isNone_iff {value : Option Value} :
    isNone value = true ↔ ∃ v, value = some v ∧ IsNoneVariant v := by
  unfold isNone IsNoneVariant
  cases value with
  | none => simp
  | some v => cases v <;> simp

section

variable (fields : List (String × Value)) (name : String)

/-- There is a field of the name, and every field of the name is `None`. -/
def EveryNone : Prop :=
  (∃ value, (name, value) ∈ fields) ∧ ∀ value, (name, value) ∈ fields → IsNoneVariant value

/-- The first field of the name is `None`. -/
def FirstNone : Prop := isNone ((fields.find? (·.1 = name)).map (·.2)) = true

/-- Some field of the name is not `None`. -/
def SomeSet : Prop := ∃ value, (name, value) ∈ fields ∧ ¬ IsNoneVariant value

variable {fields name}

theorem EveryNone.firstNone (every : EveryNone fields name) : FirstNone fields name := by
  obtain ⟨⟨value, listed⟩, all_none⟩ := every
  unfold FirstNone
  cases found : fields.find? (·.1 = name) with
  | none =>
    have missing := List.find?_eq_none.mp found _ listed
    simp at missing
  | some field =>
    obtain rfl : field.1 = name := by simpa using List.find?_some found
    exact isNone_iff.mpr ⟨field.2, rfl, all_none _ (List.mem_of_find?_eq_some found)⟩

theorem FirstNone.exists_mem (first : FirstNone fields name) : ∃ value, (name, value) ∈ fields := by
  unfold FirstNone at first
  cases found : fields.find? (·.1 = name) with
  | none => rw [found] at first; cases first
  | some field =>
    obtain rfl : field.1 = name := by simpa using List.find?_some found
    exact ⟨field.2, List.mem_of_find?_eq_some found⟩

/-- Between the first field and all of them stands a later field that is set. -/
theorem everyNone_iff : EveryNone fields name ↔ FirstNone fields name ∧ ¬ SomeSet fields name := by
  constructor
  · intro every
    refine ⟨every.firstNone, ?_⟩
    rintro ⟨value, listed, is_set⟩
    exact is_set (every.2 value listed)
  · rintro ⟨first, none_set⟩
    refine ⟨first.exists_mem, fun value listed => ?_⟩
    by_contra is_set
    exact none_set ⟨value, listed, is_set⟩

end

/-- What `requestReferencesSecret` reads. -/
theorem requestReferencesSecret_eq_false_iff {request : Option Value} :
    requestReferencesSecret request = false ↔ ∃ fields,
      request = some (.composite (.named fields)) ∧ ∀ name ∈ secretFields, FirstNone fields name := by
  constructor
  · intro unset
    unfold requestReferencesSecret at unset
    split at unset
    · rename_i fields
      rw [List.any_eq_false] at unset
      refine ⟨fields, rfl, fun name sensitive => ?_⟩
      have read := unset name sensitive
      unfold FirstNone
      cases found : fields.find? (·.1 = name) with
      | none => simp [found] at read
      | some field => simpa [found] using read
    · cases unset
  · rintro ⟨fields, rfl, first⟩
    unfold requestReferencesSecret
    rw [List.any_eq_false]
    intro name sensitive
    have unset := first name sensitive
    unfold FirstNone at unset
    cases found : fields.find? (·.1 = name) with
    | none => simp [found, isNone] at unset
    | some field => simpa [found] using unset

/-! ## The two calls -/

/-- The arguments of the call definitely reference no secret. -/
def CarriesNoSecret (call : String) (args : List Value) : Prop :=
  if call = "request_deployment" then ∃ fields rest,
    args = .composite (.named fields) :: rest ∧ ∀ name ∈ secretFields, EveryNone fields name
  else ∃ value, args[1]? = some value ∧ IsNoneVariant value

/-- The read of a secret is left out only if there is none, and the wider set is required of all
other arguments. -/
def FailsSafe (call : String) (args : List Value) : Prop :=
  (∀ required ∈ requiredScopes "Jobs" call args, required.contains .secrets .read = false →
    CarriesNoSecret call args) ∧
  (¬ CarriesNoSecret call args → requiredScopes "Jobs" call args = some deployWithSecret)

/-- The first field of each name is `None`, and a later one is set. -/
def Overruled (fields : List (String × Value)) : Prop :=
  (∀ name ∈ secretFields, FirstNone fields name) ∧ ∃ name ∈ secretFields, SomeSet fields name

theorem requiredScopes_request (args : List Value) :
    requiredScopes "Jobs" "request_deployment" args =
      some (if requestReferencesSecret args.head? then deployWithSecret else write .deployments) := by
  show some (if (!requestReferencesSecret args.head?) = true then _ else _) = _
  cases requestReferencesSecret args.head? <;> rfl

theorem requiredScopes_secretRef (args : List Value) :
    requiredScopes "Jobs" "set_deployment_secret_ref" args =
      some (if isNone args[1]? then write .deployments else deployWithSecret) := rfl

theorem reads_wider : deployWithSecret.contains .secrets .read = true := by decide

theorem reads_narrow : (write .deployments).contains .secrets .read = false := by decide

/-- A call fails safe if and only if what it is read as by the table is what it is. -/
theorem failsSafe_iff_of_eq {call : String} {args : List Value} (wide : Bool)
    (required : requiredScopes "Jobs" call args =
      some (if wide then deployWithSecret else write .deployments)) :
    FailsSafe call args ↔ (wide = false → CarriesNoSecret call args) := by
  unfold FailsSafe
  rw [required]
  cases wide with
  | true =>
    refine iff_of_true ⟨?_, fun _ => rfl⟩ (fun narrow => by cases narrow)
    rintro _ ⟨⟩ omitted
    rw [if_pos rfl, reads_wider] at omitted
    cases omitted
  | false =>
    constructor
    · rintro ⟨safe, -⟩ -
      exact safe _ rfl reads_narrow
    · intro carries
      exact ⟨fun _ _ _ => carries rfl, fun secret => absurd (carries rfl) secret⟩

theorem failsSafe_secretRef (args : List Value) : FailsSafe "set_deployment_secret_ref" args := by
  have required := requiredScopes_secretRef args
  cases unset : isNone args[1]? with
  | false =>
    rw [unset] at required
    exact (failsSafe_iff_of_eq true required).mpr fun narrow => by cases narrow
  | true =>
    rw [unset] at required
    refine (failsSafe_iff_of_eq false required).mpr fun _ => ?_
    rw [CarriesNoSecret, if_neg (by decide)]
    exact isNone_iff.mp unset

theorem failsSafe_request (args : List Value) : FailsSafe "request_deployment" args ↔
    ∀ fields, args.head? = some (.composite (.named fields)) → ¬ Overruled fields := by
  rw [failsSafe_iff_of_eq _ (requiredScopes_request args), requestReferencesSecret_eq_false_iff,
    CarriesNoSecret, if_pos rfl]
  constructor
  · rintro safe fields request ⟨first, name, sensitive, is_set⟩
    obtain ⟨fields', rest, rfl, every⟩ := safe ⟨fields, request, first⟩
    obtain rfl : fields' = fields := by simpa using request
    exact (everyNone_iff.mp (every name sensitive)).2 is_set
  · rintro safe ⟨fields, request, first⟩
    cases args with
    | nil => cases request
    | cons value rest =>
      obtain rfl : value = .composite (.named fields) := by simpa using request
      refine ⟨fields, rest, rfl, fun name sensitive => everyNone_iff.mpr ⟨first name sensitive, ?_⟩⟩
      exact fun is_set => safe fields rfl ⟨first, name, sensitive, is_set⟩

/-- The calls that may reference a secret fail safe, except for a request whose first fields are
`None` while a later field of the same name is set. -/
theorem requiredScopes_failsSafe_iff (call : String) (args : List Value)
    (sensitive : call = "request_deployment" ∨ call = "set_deployment_secret_ref") :
    FailsSafe call args ↔ (call = "request_deployment" →
      ∀ fields, args.head? = some (.composite (.named fields)) → ¬ Overruled fields) := by
  rcases sensitive with rfl | rfl
  · rw [failsSafe_request]
    exact ⟨fun safe _ => safe, fun safe => safe rfl⟩
  · exact iff_of_true (failsSafe_secretRef args) fun request => absurd request (by decide)

/-- A request that references a secret for its TLS key. -/
def tlsRequest : List (String × Value) :=
  [("image", .primitive (.string "nginx")), ("secret_ref", .variant "None" (.unnamed [])),
    ("tls_secret_ref", .variant "Some" (.unnamed [.primitive (.u128 7)]))]

theorem tlsRequest_tls : tlsRequest.find? (·.1 = "tls_secret_ref") =
    some ("tls_secret_ref", .variant "Some" (.unnamed [.primitive (.u128 7)])) := by
  simp [tlsRequest]

/-- It fails safe: the table asks for the read of a secret. -/
theorem requiredScopes_failsSafe_tls :
    ("request_deployment" = "request_deployment" ∨
      "request_deployment" = "set_deployment_secret_ref") ∧
    FailsSafe "request_deployment" [.composite (.named tlsRequest)] ∧
    requiredScopes "Jobs" "request_deployment" [.composite (.named tlsRequest)] =
      some deployWithSecret := by
  refine ⟨.inl rfl, (requiredScopes_failsSafe_iff "request_deployment"
    [.composite (.named tlsRequest)] (.inl rfl)).mpr fun _ fields request overruled => ?_, by decide⟩
  obtain rfl : tlsRequest = fields := by simpa using request
  have first := overruled.1 "tls_secret_ref" (by decide)
  rw [FirstNone, tlsRequest_tls] at first
  cases first

/-- A request whose second `secret_ref` references a secret. -/
def repeatedRequest : List Value :=
  [.composite (.named [("secret_ref", .variant "None" (.unnamed [])),
    ("secret_ref", .variant "Some" (.unnamed [.primitive (.u128 7)])),
    ("tls_secret_ref", .variant "None" (.unnamed []))])]

theorem repeatedRequest_not_safe : ¬ ∀ (call : String) (args : List Value),
    call = "request_deployment" ∨ call = "set_deployment_secret_ref" → FailsSafe call args := by
  intro safe
  obtain ⟨omits, -⟩ := safe "request_deployment" repeatedRequest (.inl rfl)
  have carries := omits (write .deployments) rfl reads_narrow
  rw [CarriesNoSecret, if_pos rfl] at carries
  obtain ⟨fields, rest, request, every⟩ := carries
  obtain ⟨rfl, -⟩ : _ = fields ∧ _ := by simpa [repeatedRequest] using request
  obtain ⟨-, all_none⟩ := every "secret_ref" (by decide)
  obtain ⟨values, is_none⟩ := all_none (.variant "Some" (.unnamed [.primitive (.u128 7)])) (by simp)
  simp at is_none

end MatterSdk.Rust
