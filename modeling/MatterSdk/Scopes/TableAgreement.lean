import Mathlib.Data.List.Forall2
import Mathlib.Data.List.Nodup
import MatterSdk.Scopes.Tables

/-!
# When the four tables agree

The arguments of a call as such, how each client renders them, and that all four clients read the
same from their renderings.  So the tables differ only where their lists do: at the `force_` calls
that Rust does not name.
-/

namespace MatterSdk

/-! ## Arguments and their renderings -/

/-- A field of a request: an option that may reference a secret, or some other value. -/
inductive Field where
  | option (reference : Option ℕ)
  | plain
deriving DecidableEq, Repr

inductive Arg where
  | option (reference : Option ℕ)
  | request (fields : List (String × Field))
  | plain
deriving DecidableEq, Repr

/-- The arguments of a call by the names of its parameters. -/
abbrev Arguments := List (String × Arg)

/-- The request sets neither secret reference. -/
def bothUnset (fields : List (String × Field)) : Prop :=
  ("secret_ref", Field.option none) ∈ fields ∧ ("tls_secret_ref", Field.option none) ∈ fields

/-- The arguments reference no secret. -/
def NoSecret (call : String) (args : Arguments) : Prop :=
  if call = "request_deployment" then ∃ fields, ("request", Arg.request fields) ∈ args ∧ bothUnset fields
  else ("secret_ref", Arg.option none) ∈ args

/-- A name as Rust and the metadata write it. -/
def Identifier (name : String) : Prop := '.' ∉ name.toList

structure FitsRequest (fields : List (String × Field)) : Prop where
  distinct : (fields.map (·.1)).Nodup
  identifiers : ∀ field ∈ fields, Identifier field.1
  option : ∀ field ∈ fields, field.1 = "secret_ref" ∨ field.1 = "tls_secret_ref" →
    ∃ reference, field.2 = .option reference

/-- The arguments fit the signature of a call that may reference a secret: `request` is the first
parameter of the one and has fields, `secret_ref` the second of the other and is an option.  The list
may end early. -/
structure Fits (call : String) (args : Arguments) : Prop where
  distinct : (args.map (·.1)).Nodup
  identifiers : ∀ arg ∈ args, Identifier arg.1
  request : call = "request_deployment" → ∀ i arg, args[i]? = some arg →
    (arg.1 = "request" ↔ i = 0) ∧
      (arg.1 = "request" → ∃ fields, arg.2 = .request fields ∧ FitsRequest fields)
  secretRef : call = "set_deployment_secret_ref" → ∀ i arg, args[i]? = some arg →
    (arg.1 = "secret_ref" ↔ i = 1) ∧ (arg.1 = "secret_ref" → ∃ reference, arg.2 = .option reference)

/-- How a client renders options and structs as its values. -/
structure Form (V : Type) where
  option : Option ℕ → V → Prop
  record : List (String × V) → V → Prop

namespace Form

variable {V : Type} (form : Form V)

def field : Field → V → Prop
  | .option reference, v => form.option reference v
  | .plain, _ => True

/-- The fields of a request, in their order. -/
def fields : List (String × Field) → List (String × V) → Prop :=
  List.Forall₂ fun f w => w.1 = f.1 ∧ form.field f.2 w.2

def arg : Arg → V → Prop
  | .option reference, v => form.option reference v
  | .request fields, v => ∃ values, form.fields fields values ∧ form.record values v
  | .plain, _ => True

/-- The arguments by name. -/
def args : Arguments → List (String × V) → Prop :=
  List.Forall₂ fun a w => w.1 = a.1 ∧ form.arg a.2 w.2

/-- The arguments by position. -/
def positional : Arguments → List V → Prop := List.Forall₂ fun a v => form.arg a.2 v

end Form

/-! ## Lookups -/

/-- What a lookup by name finds in two lists of the same names. -/
theorem find?_forall₂ {α V : Type} {R : α → V → Prop} {l : List (String × α)}
    {values : List (String × V)} (same : List.Forall₂ (fun a w => w.1 = a.1 ∧ R a.2 w.2) l values)
    (name : String) :
    (l.find? (·.1 = name) = none ∧ values.find? (·.1 = name) = none) ∨
      ∃ a w, l.find? (·.1 = name) = some (name, a) ∧ values.find? (·.1 = name) = some (name, w) ∧
        R a w := by
  induction same with
  | nil => exact .inl ⟨rfl, rfl⟩
  | @cons first value rest values head tail ih =>
    obtain ⟨key, a⟩ := first
    obtain ⟨key', w⟩ := value
    obtain ⟨rfl, related⟩ := head
    by_cases here : key' = name
    · subst here
      exact .inr ⟨a, w, by simp, by simp, related⟩
    · simpa [List.find?_cons, here] using ih

/-- For distinct names, what a lookup finds is what is in the list. -/
theorem find?_eq_some_iff_mem {α : Type} {l : List (String × α)} (distinct : (l.map (·.1)).Nodup)
    {name : String} {a : α} : l.find? (·.1 = name) = some (name, a) ↔ (name, a) ∈ l := by
  constructor
  · exact List.mem_of_find?_eq_some
  · intro listed
    cases found : l.find? (·.1 = name) with
    | none => simpa using List.find?_eq_none.mp found _ listed
    | some entry =>
      have same : entry.1 = name := by simpa using List.find?_some found
      have entry_eq := List.inj_on_of_nodup_map distinct (List.mem_of_find?_eq_some found) listed same
      rw [entry_eq]

theorem find?_any_iff {V : Type} {p : V → Bool} {values : List (String × V)}
    (distinct : (values.map (·.1)).Nodup) {name : String} :
    (name ∈ values.map (·.1) ∧ ∀ w ∈ values, w.1 = name → p w.2 = true) ↔
      (values.find? (·.1 = name)).any (fun w => p w.2) = true := by
  cases found : values.find? (·.1 = name) with
  | none =>
    have absent : name ∉ values.map (·.1) := by
      intro named
      obtain ⟨w, listed, rfl⟩ := List.mem_map.mp named
      simpa using List.find?_eq_none.mp found w listed
    simp [absent]
  | some w =>
    have listed : w ∈ values := List.mem_of_find?_eq_some found
    have named : w.1 = name := by simpa using List.find?_some found
    constructor
    · rintro ⟨-, all⟩
      exact all w listed named
    · intro holds
      refine ⟨named ▸ List.mem_map_of_mem listed, fun w' listed' named' => ?_⟩
      rw [List.inj_on_of_nodup_map distinct listed' listed (named'.trans named.symm)]
      exact holds

theorem names_eq {α V : Type} {R : α → V → Prop} {l : List (String × α)} {values : List (String × V)}
    (same : List.Forall₂ (fun a w => w.1 = a.1 ∧ R a.2 w.2) l values) :
    values.map (·.1) = l.map (·.1) := by
  induction same with
  | nil => rfl
  | cons head tail ih => rw [List.map_cons, List.map_cons, head.1, ih]

section

variable {V : Type} {form : Form V} {isNone : V → Bool}

/-- A reference of a request is unset iff a lookup in the rendered fields finds a `None`. -/
theorem unset_iff (reads : ∀ reference v, form.option reference v → isNone v = reference.isNone)
    {fields : List (String × Field)} (fits : FitsRequest fields) {values : List (String × V)}
    (same : form.fields fields values) {name : String}
    (sensitive : name = "secret_ref" ∨ name = "tls_secret_ref") :
    (name, Field.option none) ∈ fields ↔
      (values.find? (·.1 = name)).any (fun w => isNone w.2) = true := by
  rw [← find?_eq_some_iff_mem fits.distinct]
  obtain ⟨absent, absent'⟩ | ⟨f, w, found, found', rendered⟩ := find?_forall₂ same name
  · simp [absent, absent']
  · obtain ⟨reference, rfl⟩ := fits.option _ (List.mem_of_find?_eq_some found) sensitive
    simp [found, found', reads reference w rendered]

end

theorem Fits.request_mem {args : Arguments} (fits : Fits "request_deployment" args) {a : Arg}
    (listed : ("request", a) ∈ args) : ∃ fields, a = .request fields ∧ FitsRequest fields := by
  obtain ⟨i, at_i⟩ := List.mem_iff_getElem?.mp listed
  exact (fits.request rfl i _ at_i).2 rfl

theorem Fits.secretRef_mem {args : Arguments} (fits : Fits "set_deployment_secret_ref" args)
    {a : Arg} (listed : ("secret_ref", a) ∈ args) : ∃ reference, a = .option reference := by
  obtain ⟨i, at_i⟩ := List.mem_iff_getElem?.mp listed
  exact (fits.secretRef rfl i _ at_i).2 rfl

theorem noSecret_request_iff {args : Arguments} :
    NoSecret "request_deployment" args ↔ ∃ fields, ("request", .request fields) ∈ args ∧
      bothUnset fields := by
  rw [NoSecret, if_pos rfl]

theorem noSecret_secretRef_iff {args : Arguments} :
    NoSecret "set_deployment_secret_ref" args ↔ ("secret_ref", .option none) ∈ args := by
  rw [NoSecret, if_neg (by decide)]

section

variable {V : Type} {form : Form V} {args : Arguments}

theorem forall₂_getElem? {α : Type} {R : α → V → Prop} {l : List α} {values : List V}
    (same : List.Forall₂ R l values) (i : ℕ) :
    (l[i]? = none ∧ values[i]? = none) ∨
      ∃ a v, l[i]? = some a ∧ values[i]? = some v ∧ R a v := by
  induction same generalizing i with
  | nil => exact .inl ⟨rfl, rfl⟩
  | @cons a v rest values head tail ih =>
    cases i with
    | zero => exact .inr ⟨a, v, rfl, rfl, head⟩
    | succ i => exact ih i

/-- A client that reads the first argument as the request. -/
theorem positional_request_iff {p : Option V → Bool} (missing : p none = false)
    (fits : Fits "request_deployment" args)
    (present : ∀ fields v, FitsRequest fields → form.arg (.request fields) v →
      (p (some v) = true ↔ bothUnset fields))
    {values : List V} (rendered : form.positional args values) :
    p values[0]? = true ↔ NoSecret "request_deployment" args := by
  have first {a : Arg} : ("request", a) ∈ args ↔ args[0]? = some ("request", a) := by
    refine ⟨fun listed => ?_, List.mem_of_getElem?⟩
    obtain ⟨i, at_i⟩ := List.mem_iff_getElem?.mp listed
    rwa [← ((fits.request rfl i _ at_i).1.mp rfl)]
  rw [noSecret_request_iff]
  obtain ⟨absent, absent'⟩ | ⟨⟨name, a⟩, v, found, found', rendered⟩ := forall₂_getElem? rendered 0
  · simp [first, absent, absent', missing]
  · obtain rfl : name = "request" := (fits.request rfl 0 _ found).1.mpr rfl
    obtain ⟨fields, rfl, fitsFields⟩ := fits.request_mem (first.mpr found)
    simp [first, found, found', present fields v fitsFields rendered]

/-- A client that reads the second argument as the reference. -/
theorem positional_secretRef_iff {p : Option V → Bool} (missing : p none = false)
    (fits : Fits "set_deployment_secret_ref" args)
    (present : ∀ reference v, form.option reference v → p (some v) = reference.isNone)
    {values : List V} (rendered : form.positional args values) :
    p values[1]? = true ↔ NoSecret "set_deployment_secret_ref" args := by
  have second {a : Arg} : ("secret_ref", a) ∈ args ↔ args[1]? = some ("secret_ref", a) := by
    refine ⟨fun listed => ?_, List.mem_of_getElem?⟩
    obtain ⟨i, at_i⟩ := List.mem_iff_getElem?.mp listed
    rwa [← ((fits.secretRef rfl i _ at_i).1.mp rfl)]
  rw [noSecret_secretRef_iff]
  obtain ⟨absent, absent'⟩ | ⟨⟨name, a⟩, v, found, found', rendered⟩ := forall₂_getElem? rendered 1
  · simp [second, absent, absent', missing]
  · obtain rfl : name = "secret_ref" := (fits.secretRef rfl 1 _ found).1.mpr rfl
    obtain ⟨reference, rfl⟩ := fits.secretRef_mem (second.mpr found)
    simp [second, found, found', present reference v rendered]

/-- A client that looks the request up by its name. -/
theorem named_request_iff {p : Option V → Bool} (missing : p none = false)
    (fits : Fits "request_deployment" args)
    (present : ∀ fields v, FitsRequest fields → form.arg (.request fields) v →
      (p (some v) = true ↔ bothUnset fields))
    {values : List (String × V)} (rendered : form.args args values) :
    p ((values.find? (·.1 = "request")).map (·.2)) = true ↔
      NoSecret "request_deployment" args := by
  rw [noSecret_request_iff]
  simp only [← find?_eq_some_iff_mem fits.distinct]
  obtain ⟨absent, absent'⟩ | ⟨a, v, found, found', rendered⟩ := find?_forall₂ rendered "request"
  · simp [absent, absent', missing]
  · obtain ⟨fields, rfl, fitsFields⟩ := fits.request_mem (List.mem_of_find?_eq_some found)
    simp [found, found', present fields v fitsFields rendered]

/-- A client that looks the reference up by its name. -/
theorem named_secretRef_iff {p : Option V → Bool} (missing : p none = false)
    (fits : Fits "set_deployment_secret_ref" args)
    (present : ∀ reference v, form.option reference v → p (some v) = reference.isNone)
    {values : List (String × V)} (rendered : form.args args values) :
    p ((values.find? (·.1 = "secret_ref")).map (·.2)) = true ↔
      NoSecret "set_deployment_secret_ref" args := by
  rw [noSecret_secretRef_iff, ← find?_eq_some_iff_mem fits.distinct]
  obtain ⟨absent, absent'⟩ | ⟨a, v, found, found', rendered⟩ := find?_forall₂ rendered "secret_ref"
  · simp [absent, absent', missing]
  · obtain ⟨reference, rfl⟩ := fits.secretRef_mem (List.mem_of_find?_eq_some found)
    simp [found, found', present reference v rendered]

end

/-! ## What each client reads -/

namespace Rust

def form : Form Value where
  option
    | none, v => ∃ c, v = .variant "None" c
    | some _, v => ∃ c, v = .variant "Some" c
  record fields v := v = .composite (.named fields)

theorem isNone_option (reference : Option ℕ) (v : Value) (rendered : form.option reference v) :
    isNone (some v) = reference.isNone := by
  cases reference <;> obtain ⟨c, rfl⟩ := rendered <;> rfl

theorem requestReferencesSecret_iff (fields : List (String × Field)) (v : Value)
    (fits : FitsRequest fields) (rendered : form.arg (.request fields) v) :
    (!requestReferencesSecret (some v)) = true ↔ bothUnset fields := by
  obtain ⟨values, same, rfl⟩ := rendered
  rw [bothUnset, unset_iff isNone_option fits same (.inl rfl),
    unset_iff isNone_option fits same (.inr rfl)]
  simp only [requestReferencesSecret, List.any_cons, List.any_nil, Bool.or_false]
  cases values.find? (·.1 = "secret_ref") <;> cases values.find? (·.1 = "tls_secret_ref") <;> simp

/-- How `required_scopes` reads the arguments of a call. -/
def readsNoSecret (args : List Value) (call : String) : Bool :=
  if call = "request_deployment" then !requestReferencesSecret args.head? else isNone args[1]?

theorem readsNoSecret_iff {call : String}
    (sensitive : call = "request_deployment" ∨ call = "set_deployment_secret_ref")
    {args : Arguments} (fits : Fits call args) {values : List Value}
    (rendered : form.positional args values) :
    readsNoSecret values call = true ↔ NoSecret call args := by
  obtain rfl | rfl := sensitive
  · rw [readsNoSecret, if_pos rfl, List.head?_eq_getElem?]
    exact positional_request_iff (p := fun v => !requestReferencesSecret v) rfl fits
      requestReferencesSecret_iff rendered
  · rw [readsNoSecret, if_neg (by decide)]
    exact positional_secretRef_iff rfl fits isNone_option rendered

end Rust

namespace TypeScript

def form : Form Argument where
  option
    | none, v => v = .null ∨ v = .undefined ∨ ∃ w, v = .object [("None", w)]
    | some _, v => v = .other ∨ ∃ w, v = .object [("Some", w)]
  record fields v := v = .object fields

theorem isNone_option (reference : Option ℕ) (v : Argument) (rendered : form.option reference v) :
    isNone v = reference.isNone := by
  cases reference with
  | none => obtain rfl | rfl | ⟨w, rfl⟩ := rendered <;> rfl
  | some n => obtain rfl | ⟨w, rfl⟩ := rendered <;> simp [isNone]

theorem entry_isNone (entries : List (String × Argument)) (name : String) :
    (entries.any (·.1 = name) && isNone (entry entries name)) =
      (entries.find? (·.1 = name)).any fun w => isNone w.2 := by
  unfold entry
  cases found : entries.find? (·.1 = name) with
  | none =>
    have absent : entries.any (·.1 = name) = false := by simpa using List.find?_eq_none.mp found
    simp [absent]
  | some w =>
    have named := List.find?_some found
    have present : entries.any (·.1 = name) = true :=
      List.any_eq_true.mpr ⟨w, List.mem_of_find?_eq_some found, named⟩
    simp [present]

theorem requestReferencesSecret_iff (fields : List (String × Field)) (v : Argument)
    (fits : FitsRequest fields) (rendered : form.arg (.request fields) v) :
    (!requestReferencesSecret v) = true ↔ bothUnset fields := by
  obtain ⟨values, same, rfl⟩ := rendered
  rw [bothUnset, unset_iff isNone_option fits same (.inl rfl),
    unset_iff isNone_option fits same (.inr rfl)]
  rw [← entry_isNone, ← entry_isNone, requestReferencesSecret]
  simp [and_assoc]

/-- How `requiredScopes` reads the arguments of a call. -/
def readsNoSecret (args : List Argument) (call : String) : Bool :=
  if call = "request_deployment" then !requestReferencesSecret (args[0]?.getD .undefined)
  else decide (1 < args.length) && isNone (args[1]?.getD .undefined)

theorem readsNoSecret_iff {call : String}
    (sensitive : call = "request_deployment" ∨ call = "set_deployment_secret_ref")
    {args : Arguments} (fits : Fits call args) {values : List Argument}
    (rendered : form.positional args values) :
    readsNoSecret values call = true ↔ NoSecret call args := by
  obtain rfl | rfl := sensitive
  · rw [readsNoSecret, if_pos rfl]
    exact positional_request_iff (p := fun v => !requestReferencesSecret (v.getD .undefined)) rfl
      fits requestReferencesSecret_iff rendered
  · have reads_eq : readsNoSecret values "set_deployment_secret_ref" = values[1]?.any isNone := by
      rw [readsNoSecret, if_neg (by decide)]
      by_cases long : 1 < values.length
      · simp [long]
      · simp [long]
    rw [reads_eq]
    exact positional_secretRef_iff (p := fun v => v.any isNone) rfl fits isNone_option rendered

end TypeScript

namespace Python

def form : Form Param where
  option
    | none, v => v = .none ∨ ∃ w, v = .mapping [("None", w)]
    | some _, v => v = .other ∨ ∃ w, v = .mapping [("Some", w)]
  record fields v := v = .mapping fields

theorem isNone_option (reference : Option ℕ) (v : Param) (rendered : form.option reference v) :
    isNone v = reference.isNone := by
  cases reference with
  | none => obtain rfl | ⟨w, rfl⟩ := rendered <;> rfl
  | some n => obtain rfl | ⟨w, rfl⟩ := rendered <;> simp [isNone]

theorem requestReferencesSecret_iff (fields : List (String × Field)) (v : Param)
    (fits : FitsRequest fields) (rendered : form.arg (.request fields) v) :
    (!requestReferencesSecret v true) = true ↔ bothUnset fields := by
  obtain ⟨values, same, rfl⟩ := rendered
  rw [bothUnset, unset_iff isNone_option fits same (.inl rfl),
    unset_iff isNone_option fits same (.inr rfl)]
  simp only [requestReferencesSecret, List.any_cons, List.any_nil, Bool.or_false]
  cases values.find? (·.1 = "secret_ref") <;> cases values.find? (·.1 = "tls_secret_ref") <;> simp

/-- How `required_scopes` reads the params of a call. -/
def readsNoSecret (params : List (String × Param)) (call : String) : Bool :=
  let get name := (params.find? (·.1 = name)).map (·.2)
  if call = "request_deployment" then
    !requestReferencesSecret ((get "request").getD .none) (get "request").isSome
  else (get "secret_ref").elim false isNone

theorem readsNoSecret_iff {call : String}
    (sensitive : call = "request_deployment" ∨ call = "set_deployment_secret_ref")
    {args : Arguments} (fits : Fits call args) {params : List (String × Param)}
    (rendered : form.args args params) :
    readsNoSecret params call = true ↔ NoSecret call args := by
  obtain rfl | rfl := sensitive
  · rw [readsNoSecret, if_pos rfl]
    exact named_request_iff (p := fun v => !requestReferencesSecret (v.getD .none) v.isSome) rfl
      fits requestReferencesSecret_iff rendered
  · rw [readsNoSecret, if_neg (by decide)]
    exact named_secretRef_iff (p := fun v => v.elim false isNone) rfl fits isNone_option rendered

end Python

namespace Go

/-- The registry's name of a field: its own, maybe after the type that declares it. -/
def Names (name field : String) : Prop :=
  name = field ∨ ∃ declaring : List Char, name.toList = declaring ++ '.' :: field.toList

/-- Fields as the registry decodes them. -/
def Decodes : List (String × Decoded) → List (Option (String × Decoded)) → Prop :=
  List.Forall₂ fun w f => ∃ name, f = some (name, w.2) ∧ Names name w.1

def form : Form Decoded where
  option
    | none, v => v = .byte 0
    | some _, v => v ≠ .byte 0
  record fields v := ∃ decoded, v = .fields decoded ∧ Decodes fields decoded

theorem isOptionNone_option (reference : Option ℕ) (v : Decoded)
    (rendered : form.option reference v) : isOptionNone v = reference.isNone := by
  cases reference with
  | none =>
    obtain rfl := rendered
    rfl
  | some n =>
    cases v with
    | byte b =>
      have other : b ≠ 0 := fun zero => rendered (congrArg Decoded.byte zero)
      simp [isOptionNone, other]
    | _ => rfl

/-- The type before a name does not matter. -/
theorem fieldNamed_iff {name field want : String} (names : Names name field)
    (plain : Identifier field) (plain' : Identifier want) :
    fieldNamed name want = true ↔ field = want := by
  simp only [fieldNamed, Bool.or_eq_true, decide_eq_true_eq, List.isSuffixOf_iff_suffix]
  constructor
  · intro h
    obtain rfl | ⟨declaring, split⟩ := names
    · refine h.resolve_right fun suffix => plain ?_
      exact suffix.subset (List.mem_cons_self ..)
    · obtain rfl | suffix := h
      · refine absurd ?_ plain'
        rw [split]
        exact List.mem_append_right _ (List.mem_cons_self ..)
      · rw [split] at suffix
        have own : '.' :: field.toList <:+ declaring ++ '.' :: field.toList :=
          List.suffix_append _ _
        rcases List.suffix_or_suffix_of_suffix suffix own with shorter | longer
        · rcases List.suffix_cons_iff.mp shorter with same | inside
          · exact (String.toList_inj.mp (List.cons.inj same).2).symm
          · exact absurd (inside.subset (List.mem_cons_self ..)) plain
        · rcases List.suffix_cons_iff.mp longer with same | inside
          · exact String.toList_inj.mp (List.cons.inj same).2
          · exact absurd (inside.subset (List.mem_cons_self ..)) plain'
  · rintro rfl
    obtain rfl | ⟨declaring, split⟩ := names
    · exact .inl rfl
    · exact .inr (split ▸ List.suffix_append _ _)

theorem bothNone_iff {values : List (String × Decoded)}
    {decoded : List (Option (String × Decoded))} (decodes : Decodes values decoded)
    (plain : ∀ w ∈ values, Identifier w.1) (sawSecret sawTLS : Bool) :
    bothNone decoded sawSecret sawTLS = true ↔
      (∀ w ∈ values, w.1 = "secret_ref" ∨ w.1 = "tls_secret_ref" → isOptionNone w.2 = true) ∧
        (sawSecret = true ∨ "secret_ref" ∈ values.map (·.1)) ∧
        (sawTLS = true ∨ "tls_secret_ref" ∈ values.map (·.1)) := by
  induction decodes generalizing sawSecret sawTLS with
  | nil => simp [bothNone]
  | @cons w f values decoded head tail ih =>
    obtain ⟨field, value⟩ := w
    obtain ⟨name, rfl, names⟩ := head
    have ih := ih fun w listed => plain w (List.mem_cons_of_mem _ listed)
    have identifier : Identifier field := plain _ (List.mem_cons_self ..)
    have tls : fieldNamed name "tls_secret_ref" = true ↔ field = "tls_secret_ref" :=
      fieldNamed_iff names identifier (by unfold Identifier; decide)
    have secret : fieldNamed name "secret_ref" = true ↔ field = "secret_ref" :=
      fieldNamed_iff names identifier (by unfold Identifier; decide)
    rw [List.forall_mem_cons, List.map_cons, List.mem_cons, List.mem_cons, bothNone]
    by_cases is_tls : field = "tls_secret_ref"
    · subst is_tls
      rw [if_pos (tls.mpr rfl)]
      cases reads : isOptionNone value <;> simp [ih]
    · rw [if_neg (mt tls.mp is_tls)]
      by_cases is_secret : field = "secret_ref"
      · subst is_secret
        rw [if_pos (secret.mpr rfl)]
        cases reads : isOptionNone value <;> simp [ih]
      · rw [if_neg (mt secret.mp is_secret), ih]
        simp [is_tls, is_secret, Ne.symm is_tls, Ne.symm is_secret]

/-- What a decoded request reads as. -/
def readsRequest : Decoded → Bool
  | .fields inner => bothNone inner false false
  | _ => false

theorem readsRequest_iff (fields : List (String × Field)) (v : Decoded) (fits : FitsRequest fields)
    (rendered : form.arg (.request fields) v) : readsRequest v = true ↔ bothUnset fields := by
  obtain ⟨values, same, decoded, rfl, decodes⟩ := rendered
  have names : values.map (·.1) = fields.map (·.1) := names_eq same
  have distinct : (values.map (·.1)).Nodup := names ▸ fits.distinct
  have plain : ∀ w ∈ values, Identifier w.1 := by
    intro w listed
    have named : w.1 ∈ fields.map (·.1) := names ▸ List.mem_map_of_mem listed
    obtain ⟨field, listed', same_name⟩ := List.mem_map.mp named
    exact same_name ▸ fits.identifiers field listed'
  rw [bothUnset, unset_iff isOptionNone_option fits same (.inl rfl),
    unset_iff isOptionNone_option fits same (.inr rfl), ← find?_any_iff distinct,
    ← find?_any_iff distinct, readsRequest, bothNone_iff decodes plain]
  constructor
  · rintro ⟨unset, secret, tls⟩
    exact ⟨⟨secret.resolve_left (by decide), fun w listed same_name => unset w listed (.inl same_name)⟩,
      tls.resolve_left (by decide), fun w listed same_name => unset w listed (.inr same_name)⟩
  · rintro ⟨⟨secret, unset⟩, tls, unset'⟩
    exact ⟨fun w listed sensitive => sensitive.elim (unset w listed) (unset' w listed),
      .inr secret, .inr tls⟩

/-- What the first field of the name reads as. -/
def readsField (field : String) : Option Decoded → Bool
  | none => false
  | some v => if field ≠ "request" then isOptionNone v else readsRequest v

theorem referencesNoSecret_cons (name field : String) (value : Decoded)
    (rest : List (Option (String × Decoded))) :
    referencesNoSecret (some (name, value) :: rest) field =
      if fieldNamed name field then readsField field (some value)
      else referencesNoSecret rest field := by
  cases named : fieldNamed name field with
  | false => simp [referencesNoSecret, named]
  | true => cases value <;> simp [referencesNoSecret, named, readsField, readsRequest]

theorem referencesNoSecret_eq {values : List (String × Decoded)}
    {decoded : List (Option (String × Decoded))} (decodes : Decodes values decoded)
    (plain : ∀ w ∈ values, Identifier w.1) {field : String} (plain' : Identifier field) :
    referencesNoSecret decoded field =
      readsField field ((values.find? (·.1 = field)).map (·.2)) := by
  induction decodes with
  | nil => rfl
  | @cons w f values decoded head tail ih =>
    obtain ⟨own, value⟩ := w
    obtain ⟨name, rfl, names⟩ := head
    have ih := ih fun w listed => plain w (List.mem_cons_of_mem _ listed)
    have named := fieldNamed_iff names (plain _ (List.mem_cons_self ..)) plain'
    rw [referencesNoSecret_cons, List.find?_cons]
    by_cases here : own = field
    · rw [if_pos (named.mpr here)]
      simp [here]
    · rw [if_neg (mt named.mp here), ih]
      simp [here]

/-- The fields of an encoded call with these arguments, as the registry decodes them; a call that
ends before the argument that matters may fail to decode. -/
def Renders (call : String) (args : Arguments) :
    Option (List (Option (String × Decoded))) → Prop
  | some decoded => ∃ values, form.args args values ∧ Decodes values decoded
  | none => ∀ field ∈ sensitiveField call, field ∉ args.map (·.1)

/-- How `requiredScopesForCall` reads the fields of a call. -/
def readsNoSecret (decoded : Option (List (Option (String × Decoded)))) (call : String) : Bool :=
  match sensitiveField call, decoded with
  | some field, some fields => referencesNoSecret fields field
  | _, _ => false

theorem requiredScopesForCall_eq (pallet call : String)
    (decoded : Option (List (Option (String × Decoded)))) :
    requiredScopesForCall (some (pallet, call)) decoded =
      table.required (readsNoSecret decoded) pallet call := by
  by_cases jobs : pallet = "Jobs"
  · subst jobs
    by_cases sensitive : call = "request_deployment" ∨ call = "set_deployment_secret_ref"
    · have wide : requiredScopes "Jobs" call = some deployWithSecret := by
        obtain rfl | rfl := sensitive <;> rfl
      have read : table.required (readsNoSecret decoded) "Jobs" call =
          some (if readsNoSecret decoded call then write .deployments else deployWithSecret) := by
        obtain rfl | rfl := sensitive <;> rfl
      obtain ⟨field, known⟩ : ∃ field, sensitiveField call = some field := by
        obtain rfl | rfl := sensitive <;> exact ⟨_, rfl⟩
      rw [read]
      simp only [requiredScopesForCall, wide, readsNoSecret, known, ne_eq, not_true, if_false]
      cases decoded with
      | none => rfl
      | some fields =>
        by_cases reads : referencesNoSecret fields field = true
        · simp only [reads, if_true]
        · simp only [reads, if_false, Bool.false_eq_true]
    · rw [not_or] at sensitive
      have by_name :
          table.required (readsNoSecret decoded) "Jobs" call = requiredScopes "Jobs" call := by
        simp [requiredScopes, Table.required, sensitive]
      rw [by_name, requiredScopesForCall]
      cases requiredScopes "Jobs" call with
      | none => rfl
      | some required => simp [sensitiveField, sensitive]
  · have by_name :
        table.required (readsNoSecret decoded) pallet call = requiredScopes pallet call := by
      simp only [requiredScopes, Table.required, if_neg jobs]
    rw [by_name, requiredScopesForCall]
    cases requiredScopes pallet call with
    | none => rfl
    | some required => simp [jobs]

theorem readsNoSecret_iff {call : String}
    (sensitive : call = "request_deployment" ∨ call = "set_deployment_secret_ref")
    {args : Arguments} (fits : Fits call args)
    {decoded : Option (List (Option (String × Decoded)))} (rendered : Renders call args decoded) :
    readsNoSecret decoded call = true ↔ NoSecret call args := by
  cases decoded with
  | none =>
    obtain rfl | rfl := sensitive
    · have absent : "request" ∉ args.map (·.1) := rendered _ rfl
      refine iff_of_false (by simp [readsNoSecret]) fun unset => absent ?_
      obtain ⟨fields, listed, -⟩ := noSecret_request_iff.mp unset
      exact List.mem_map_of_mem listed
    · have absent : "secret_ref" ∉ args.map (·.1) := rendered _ rfl
      refine iff_of_false (by simp [readsNoSecret]) fun unset => absent ?_
      exact List.mem_map_of_mem (noSecret_secretRef_iff.mp unset)
  | some fields =>
    obtain ⟨values, same, decodes⟩ := rendered
    have names : values.map (·.1) = args.map (·.1) := names_eq same
    have plain : ∀ w ∈ values, Identifier w.1 := by
      intro w listed
      have named : w.1 ∈ args.map (·.1) := names ▸ List.mem_map_of_mem listed
      obtain ⟨arg, listed', same_name⟩ := List.mem_map.mp named
      exact same_name ▸ fits.identifiers arg listed'
    obtain rfl | rfl := sensitive
    · show referencesNoSecret fields "request" = true ↔ _
      rw [referencesNoSecret_eq decodes plain (by unfold Identifier; decide)]
      refine named_request_iff (p := readsField "request") rfl fits ?_ same
      intro inner v fitsInner rendered
      simpa [readsField] using readsRequest_iff inner v fitsInner rendered
    · show referencesNoSecret fields "secret_ref" = true ↔ _
      rw [referencesNoSecret_eq decodes plain (by unfold Identifier; decide)]
      refine named_secretRef_iff (p := readsField "secret_ref") rfl fits ?_ same
      intro reference v rendered
      simpa [readsField] using isOptionNone_option reference v rendered

end Go

/-! ## The four tables -/

/-- A `force_` call of Datasets or Communities that the Rust table does not name. -/
def NewForced (pallet call : String) : Prop :=
  forced call = true ∧
    (pallet = "Datasets" ∧ Rust.table.datasetsNever call = false ∨
      pallet = "Communities" ∧ Rust.table.communitiesNever call = false)

theorem forced_of_never {call : String}
    (never : Rust.table.datasetsNever call = true ∨ Rust.table.communitiesNever call = true) :
    forced call = true := by
  simp only [Rust.table, decide_eq_true_eq, List.mem_cons, List.not_mem_nil, or_false] at never
  obtain (rfl | rfl | rfl) | rfl | rfl | rfl := never <;> decide

/-- A call is denied by a narrow list and by a wide one that has its names. -/
theorem denied_eq_iff {narrow wide : Bool} (covers : narrow = true → wide = true) (s : ScopeSet) :
    (if narrow then none else some s) = (if wide then none else some s) ↔
      ¬ (wide = true ∧ narrow = false) := by
  cases narrow with
  | true => simp [covers rfl]
  | false => cases wide <;> simp

/-- Two tables that read the arguments alike agree just where their deny lists do. -/
theorem required_eq_iff {reads reads' : String → Bool} (pallet : String) {call : String}
    (same : call = "request_deployment" ∨ call = "set_deployment_secret_ref" →
      reads call = reads' call) :
    Rust.table.required reads pallet call = Go.table.required reads' pallet call ↔
      ¬ NewForced pallet call := by
  by_cases datasets : pallet = "Datasets"
  · subst datasets
    refine (denied_eq_iff (fun never => forced_of_never (.inl never)) (write .datasets)).trans ?_
    simp [NewForced]
  by_cases communities : pallet = "Communities"
  · subst communities
    refine (denied_eq_iff (fun never => forced_of_never (.inr never)) (write .communities)).trans ?_
    simp [NewForced]
  have old : ¬ NewForced pallet call := by simp [NewForced, datasets, communities]
  refine iff_of_true ?_ old
  by_cases jobs : pallet = "Jobs"
  · subst jobs
    by_cases sensitive : call = "request_deployment" ∨ call = "set_deployment_secret_ref"
    · have read := same sensitive
      simp only [Table.required, if_true, read]
      rfl
    · rw [not_or] at sensitive
      simp only [Table.required, sensitive, decide_false, Bool.or_self, Bool.false_eq_true, if_false]
      rfl
  · simp only [Table.required, if_neg jobs, if_neg datasets, if_neg communities]
    rfl

/-- Arguments of a call and their renderings for the four clients. -/
structure Rendered (call : String) (args : Arguments) (rust : List Rust.Value)
    (go : Option (List (Option (String × Go.Decoded)))) (typescript : List TypeScript.Argument)
    (python : List (String × Python.Param)) : Prop where
  fits : Fits call args
  rust : Rust.form.positional args rust
  go : Go.Renders call args go
  typescript : TypeScript.form.positional args typescript
  python : Python.form.args args python

/-- The four clients say the same of a call; Go is asked for the encoded call. -/
structure TablesAgree (pallet call : String) (rust : List Rust.Value)
    (go : Option (List (Option (String × Go.Decoded)))) (typescript : List TypeScript.Argument)
    (python : List (String × Python.Param)) : Prop where
  go : Rust.requiredScopes pallet call rust = Go.requiredScopesForCall (some (pallet, call)) go
  typescript : Rust.requiredScopes pallet call rust = TypeScript.requiredScopes pallet call typescript
  python : Rust.requiredScopes pallet call rust = Python.requiredScopes pallet call python

/-- The four tables agree on a call and its arguments, and Rust's and Go's on its name alone, just
when it is not a `force_` call that Rust does not name. -/
theorem requiredScopes_agree_iff {pallet call : String} {args : Arguments} {rust : List Rust.Value}
    {go : Option (List (Option (String × Go.Decoded)))} {typescript : List TypeScript.Argument}
    {python : List (String × Python.Param)}
    (rendered : Rendered call args rust go typescript python) :
    (TablesAgree pallet call rust go typescript python ↔ ¬ NewForced pallet call) ∧
      (Rust.requiredScopes pallet call [] = Go.requiredScopes pallet call ↔
        ¬ NewForced pallet call) := by
  have go_iff : Rust.requiredScopes pallet call rust =
      Go.requiredScopesForCall (some (pallet, call)) go ↔ ¬ NewForced pallet call := by
    rw [Go.requiredScopesForCall_eq]
    refine required_eq_iff pallet fun sensitive => ?_
    show Rust.readsNoSecret rust call = Go.readsNoSecret go call
    rw [Bool.eq_iff_iff, Rust.readsNoSecret_iff sensitive rendered.fits rendered.rust,
      Go.readsNoSecret_iff sensitive rendered.fits rendered.go]
  -- The TypeScript and Python tables have the lists of the Go table.
  have typescript_iff : Rust.requiredScopes pallet call rust =
      TypeScript.requiredScopes pallet call typescript ↔ ¬ NewForced pallet call := by
    refine required_eq_iff pallet fun sensitive => ?_
    show Rust.readsNoSecret rust call = TypeScript.readsNoSecret typescript call
    rw [Bool.eq_iff_iff, Rust.readsNoSecret_iff sensitive rendered.fits rendered.rust,
      TypeScript.readsNoSecret_iff sensitive rendered.fits rendered.typescript]
  have python_iff : Rust.requiredScopes pallet call rust =
      Python.requiredScopes pallet call python ↔ ¬ NewForced pallet call := by
    show Rust.table.required (Rust.readsNoSecret rust) pallet call =
      Go.table.required (Python.readsNoSecret python) pallet call ↔ _
    refine required_eq_iff pallet fun sensitive => ?_
    rw [Bool.eq_iff_iff, Rust.readsNoSecret_iff sensitive rendered.fits rendered.rust,
      Python.readsNoSecret_iff sensitive rendered.fits rendered.python]
  refine ⟨⟨fun agree => go_iff.mp agree.go, fun old =>
    ⟨go_iff.mpr old, typescript_iff.mpr old, python_iff.mpr old⟩⟩, required_eq_iff pallet ?_⟩
  rintro (rfl | rfl) <;> rfl

/-- The fields of a request that takes its TLS key from a secret and sets no other. -/
def deploymentFields : List (String × Field) :=
  [("image", .plain), ("secret_ref", .option none), ("tls_secret_ref", .option (some 7))]

def deployment : Arguments := [("request", .request deploymentFields)]

/-- The deployment as the caller of each client writes it, and as Go's registry decodes it. -/
def rustDeployment : List Rust.Value :=
  [.composite (.named [("image", .primitive (.string "nginx")),
    ("secret_ref", .variant "None" (.unnamed [])),
    ("tls_secret_ref", .variant "Some" (.unnamed [.primitive (.u128 7)]))])]

def goRequest : Go.Decoded :=
  .fields [some ("image", .other), some ("secret_ref", .byte 0),
    some ("ResourceRequest.tls_secret_ref", .other)]

def goDeployment : List (Option (String × Go.Decoded)) := [some ("request", goRequest)]

def typescriptDeployment : List TypeScript.Argument :=
  [.object [("image", .other), ("secret_ref", .null), ("tls_secret_ref", .other)]]

def pythonDeployment : List (String × Python.Param) :=
  [("request", .mapping [("image", .other), ("secret_ref", .none),
    ("tls_secret_ref", .mapping [("Some", .other)])])]

theorem fits_deployment : Fits "request_deployment" deployment where
  distinct := by decide
  identifiers := by unfold Identifier; decide
  request _ i arg at_i := by
    obtain ⟨rfl, rfl⟩ : i = 0 ∧ _ = arg := by
      cases i with
      | zero => exact ⟨rfl, Option.some.inj at_i⟩
      | succ i => cases at_i
    refine ⟨iff_of_true rfl rfl, fun _ => ⟨_, rfl, by decide, by unfold Identifier; decide, ?_⟩⟩
    simp [deploymentFields]
  secretRef other := absurd other (by decide)

theorem rendered_deployment : Rendered "request_deployment" deployment rustDeployment
    (some goDeployment) typescriptDeployment pythonDeployment where
  fits := fits_deployment
  rust := .cons ⟨_, .cons ⟨rfl, trivial⟩ (.cons ⟨rfl, _, rfl⟩ (.cons ⟨rfl, _, rfl⟩ .nil)), rfl⟩ .nil
  go := by
    have values : Go.form.arg (.request deploymentFields) goRequest := by
      refine ⟨[("image", .other), ("secret_ref", .byte 0), ("tls_secret_ref", .other)],
        .cons ⟨rfl, trivial⟩ (.cons ⟨rfl, rfl⟩ (.cons ⟨rfl, nofun⟩ .nil)), _, rfl, ?_⟩
      exact .cons ⟨_, rfl, .inl rfl⟩ (.cons ⟨_, rfl, .inl rfl⟩
        (.cons ⟨_, rfl, .inr ⟨"ResourceRequest".toList, by decide⟩⟩ .nil))
    exact ⟨[("request", _)], .cons ⟨rfl, values⟩ .nil, .cons ⟨"request", rfl, .inl rfl⟩ .nil⟩
  typescript :=
    .cons ⟨_, .cons ⟨rfl, trivial⟩ (.cons ⟨rfl, .inl rfl⟩ (.cons ⟨rfl, .inl rfl⟩ .nil)), rfl⟩ .nil
  python := .cons ⟨rfl, _,
    .cons ⟨rfl, trivial⟩ (.cons ⟨rfl, .inl rfl⟩ (.cons ⟨rfl, .inr ⟨_, rfl⟩⟩ .nil)), rfl⟩ .nil

/-- The four clients require a read of secrets for it. -/
theorem requiredScopes_agree_iff_deployment :
    Rendered "request_deployment" deployment rustDeployment (some goDeployment)
        typescriptDeployment pythonDeployment ∧
      TablesAgree "Jobs" "request_deployment" rustDeployment (some goDeployment)
        typescriptDeployment pythonDeployment ∧
      Rust.requiredScopes "Jobs" "request_deployment" rustDeployment = some deployWithSecret :=
  ⟨rendered_deployment, (requiredScopes_agree_iff rendered_deployment).1.mpr
    (by unfold NewForced; decide), by decide⟩

theorem rendered_nil (call : String) : Rendered call [] [] (some []) [] [] where
  fits :=
    { distinct := List.nodup_nil
      identifiers := by simp
      request := by simp
      secretRef := by simp }
  rust := .nil
  go := ⟨[], .nil, .nil⟩
  typescript := .nil
  python := .nil

/-- Rust lets a key with the scope make a `force_` call that the runtime added. -/
theorem newForced_disagrees : ¬ ∀ (pallet call : String) (args : Arguments) (rust : List Rust.Value)
    (go : Option (List (Option (String × Go.Decoded)))) (typescript : List TypeScript.Argument)
    (python : List (String × Python.Param)), Rendered call args rust go typescript python →
      TablesAgree pallet call rust go typescript python := by
  intro agree
  have same := (agree "Datasets" "force_freeze_dataset" [] [] (some []) [] [] (rendered_nil _)).go
  have admitted : Rust.requiredScopes "Datasets" "force_freeze_dataset" [] =
      some (write .datasets) := by decide
  have refused : Go.requiredScopesForCall (some ("Datasets", "force_freeze_dataset")) (some []) =
      none := by decide
  rw [admitted, refused] at same
  cases same

end MatterSdk
