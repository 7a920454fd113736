import MatterSdk.Chain.Refresh
import MatterSdk.Chain.RustClient
import MatterSdk.Chain.TypeScriptClient

/-!
# Verdicts of overlapping calls

Calls of one client that are refused side by side.  Each reads the grant that is held, asks the chain
for it, and tells its caller why it was refused by comparing the two, while others do the same.
-/

namespace MatterSdk

open SharedCache

namespace Session

/-- The reason for the refusal of a call that takes these scopes, by what the chain says. -/
def reason (principal : AccountId) (required : ScopeSet) : Option Grant → Kind
  | none => .keyRevoked
  | some (named, scopes) =>
    if named ≠ principal then .keyRevoked
    else if scopes.isSuperset required then .unsponsored
    else .notPermitted

theorem explain_eq_reason_iff (held : Grant) (answer : Option Grant) (required : ScopeSet) :
    (find held (some answer)).explain required = reason held.1 required answer ↔
      (answer = some held → held.2.isSuperset required = true) := by
  obtain ⟨principal, scopes⟩ := held
  cases answer with
  | none => simp [find, Finding.explain, reason]
  | some fresh =>
    obtain ⟨named, given⟩ := fresh
    by_cases other : named = principal
    · by_cases same : given = scopes
      · cases covers : scopes.isSuperset required <;>
          simp [find, Finding.explain, reason, other, same, covers]
      · simp [find, Finding.explain, reason, other, same]
    · simp [find, Finding.explain, reason, other]

section

variable {κ α : Type} (grantOf : κ → Option Grant) (answerOf : α → Option Grant)
  (principal : AccountId) (takes : ℕ → ScopeSet) (told : ℕ → κ → α → Kind)

/-- A call that finishes is told the reason for its refusal. -/
def Truthful (s : Shared κ α) : Act α → Prop
  | .finish i => ∀ previous answer, s.phase i = .answered previous answer →
      told i previous answer = reason principal (takes i) (answerOf answer)
  | _ => True

/-- A call that finishes has read a grant that covers it, or one that the chain does not give. -/
def CoveredOrMoved (s : Shared κ α) : Act α → Prop
  | .finish i => ∀ previous answer grant, s.phase i = .answered previous answer →
      grantOf previous = some grant → answerOf answer = some grant →
        grant.2.isSuperset (takes i) = true
  | _ => True

/-- A call that reads the grant that is held finds one that covers it. -/
def ReadsCovered (s : Shared κ α) : Act α → Prop
  | .read i => ∀ grant, grantOf s.cache = some grant → grant.2.isSuperset (takes i) = true
  | _ => True

/-- The value holds a grant of the principal. -/
def Acts (value : κ) : Prop := ∃ scopes, grantOf value = some (principal, scopes)

/-- A client whose refreshes keep the principal, and tell a refused call what they find. -/
structure Rereads (store : κ → α → Option κ) : Prop where
  kept : ∀ previous answer value, Acts grantOf principal previous →
    store previous answer = some value → Acts grantOf principal value
  told : ∀ i previous answer scopes, grantOf previous = some (principal, scopes) →
    told i previous answer = (find (principal, scopes) (some (answerOf answer))).explain (takes i)

variable {grantOf answerOf principal takes told} {store : κ → α → Option κ}

theorem truthful_iff (rereads : Rereads grantOf answerOf principal takes told store)
    {s : Shared κ α} (holds : Holds (Acts grantOf principal) s) (act : Act α) :
    Truthful answerOf principal takes told s act ↔ CoveredOrMoved grantOf answerOf takes s act := by
  cases act with
  | finish i =>
    refine forall_congr' fun previous => forall_congr' fun answer => ?_
    constructor
    · intro true_ grant here holding given
      obtain ⟨scopes, held⟩ : Acts grantOf principal previous := by simpa [here] using holds.2 i
      obtain rfl := Option.some.inj (holding.symm.trans held)
      have same := true_ here
      rw [rereads.told i previous answer scopes held, explain_eq_reason_iff] at same
      exact same given
    · intro covered here
      obtain ⟨scopes, held⟩ : Acts grantOf principal previous := by simpa [here] using holds.2 i
      rw [rereads.told i previous answer scopes held, explain_eq_reason_iff]
      exact fun given => covered _ here held given
  | _ => exact Iff.rfl

/-- Whole runs: every refused call is told the reason iff none finishes with a grant that falls short of
it and that the chain still gives. -/
theorem steps_truthful_iff (rereads : Rereads grantOf answerOf principal takes told store)
    {cache : κ} (acts_ : Acts grantOf principal cache) (acts : List (Act α)) :
    Steps store (Truthful answerOf principal takes told) (.init cache) acts ↔
      Steps store (CoveredOrMoved grantOf answerOf takes) (.init cache) acts :=
  steps_congr (holds_step rereads.kept) (fun _ act holds => truthful_iff rereads holds act)
    (holds_init acts_) acts

/-- What the call has read covers it, while it runs. -/
def HoldsCovered (grantOf : κ → Option Grant) (takes : ℕ → ScopeSet) (i : ℕ) (s : Shared κ α) :
    Prop :=
  (s.phase i).Held fun previous =>
    ∀ grant, grantOf previous = some grant → grant.2.isSuperset (takes i) = true

theorem holdsCovered_update {s : Shared κ α} {i : ℕ} (holds : HoldsCovered grantOf takes i s)
    {j : ℕ} {new : Phase κ α} (here : j = i → new.Held fun previous =>
      ∀ grant, grantOf previous = some grant → grant.2.isSuperset (takes i) = true) :
    (Function.update s.phase j new i).Held fun previous =>
      ∀ grant, grantOf previous = some grant → grant.2.isSuperset (takes i) = true := by
  by_cases same : i = j
  · subst same
    rw [Function.update_self]
    exact here rfl
  · rw [Function.update_of_ne same]
    exact holds

theorem holdsCovered_step (i : ℕ) (s : Shared κ α) (act : Act α)
    (holds : HoldsCovered grantOf takes i s)
    (reads : act.session = i → ReadsCovered grantOf takes s act) :
    HoldsCovered grantOf takes i (SharedCache.step store s act) := by
  cases act with
  | read j =>
    cases here : s.phase j <;> simp only [SharedCache.step, here]
    · refine holdsCovered_update holds fun same => ?_
      subst same
      exact reads rfl
    all_goals exact holds
  | lookUp j answer =>
    cases here : s.phase j <;> simp only [SharedCache.step, here]
    case reading previous =>
      refine holdsCovered_update holds fun same => ?_
      subst same
      unfold HoldsCovered at holds
      rwa [here] at holds
    all_goals exact holds
  | fail j =>
    cases here : s.phase j <;> simp only [SharedCache.step, here]
    case reading => exact holdsCovered_update holds fun _ => trivial
    all_goals exact holds
  | finish j =>
    cases here : s.phase j <;> simp only [SharedCache.step, here]
    case answered previous answer => exact holdsCovered_update holds fun _ => trivial
    all_goals exact holds

/-- A call that reads grants which cover it is told the reasons for its refusals, whatever the others
read. -/
theorem steps_truthful_of_reads (rereads : Rereads grantOf answerOf principal takes told store)
    {cache : κ} (acts_ : Acts grantOf principal cache) {acts : List (Act α)} {i : ℕ}
    (reads : Steps store (fun s act => act.session = i → ReadsCovered grantOf takes s act)
      (.init cache) acts) :
    Steps store (fun s act => act.session = i → Truthful answerOf principal takes told s act)
      (.init cache) acts := by
  let Inv (s : Shared κ α) : Prop := Holds (Acts grantOf principal) s ∧ HoldsCovered grantOf takes i s
  have start : Inv (.init cache) := ⟨holds_init acts_, trivial⟩
  refine Steps.imp (fun s act inv meets => ?_) (fun s act inv _ mine => ?_) start reads
  · exact ⟨holds_step rereads.kept s act inv.1, holdsCovered_step i s act inv.2 meets⟩
  · rw [truthful_iff rereads inv.1]
    cases act with
    | finish j =>
      obtain rfl : j = i := mine
      intro previous answer grant here held _
      have covered := inv.2
      unfold HoldsCovered at covered
      rw [here] at covered
      exact covered grant held
    | _ => trivial

end

end Session

namespace Rust

/-- A call that passed its check and was then refused by the pool. -/
structure Refused where
  pallet : String
  call : String
  args : List Value
  required : ScopeSet
  takes : requiredScopes pallet call args = some required
  error : SubxtError
  rejection : isPoolRejection error = true
  /-- The scopes that were held when the refusal came. -/
  seen : ScopeSet

/-- What `submission_error` tells the call, whose refresh read `previous` and was answered. -/
def Refused.told (principal : AccountId) (r : Refused) (previous : Mode) (answer : Option Grant) :
    Session.Kind :=
  kindOf (.error (submissionError (.delegated principal r.seen) (.ok (afterRefresh previous answer))
    r.pallet r.call (requiredScopes r.pallet r.call r.args) r.error))

theorem findingOf_afterRefresh (principal : AccountId) (scopes : ScopeSet) (answer : Option Grant) :
    findingOf (.ok (afterRefresh (.delegated principal scopes) answer)) =
      Session.find (principal, scopes) (some answer) := by
  cases answer with
  | none => rfl
  | some grant =>
    obtain ⟨named, given⟩ := grant
    by_cases other : named = principal
    · by_cases same : given = scopes <;> simp [other, same, afterRefresh, Session.find, findingOf]
    · simp [other, afterRefresh, Session.find, findingOf]

theorem rereads (principal : AccountId) (calls : ℕ → Refused) :
    Session.Rereads Mode.grant id principal (fun i => (calls i).required)
      (fun i => (calls i).told principal) rescopedMode where
  kept := by
    rintro (_ | ⟨principal', scopes⟩) answer value ⟨scopes', held⟩ stored
    · cases held
    · cases held
      cases outcome : afterRefresh (.delegated principal scopes) answer with
      | rescoped moved =>
        simp only [rescopedMode, outcome, Option.some.injEq] at stored
        exact ⟨moved, by rw [← stored]; rfl⟩
      | _ => simp [rescopedMode, outcome] at stored
  told := by
    rintro i (_ | ⟨principal', scopes'⟩) answer scopes held
    · cases held
    · cases held
      rw [Refused.told, (calls i).takes, submissionError_kind _ _ _ (calls i).rejection,
        findingOf_afterRefresh]
      rfl

end Rust

namespace TypeScript

/-- A call that passed its check and was then refused by the pool. -/
structure Refused where
  pallet : String
  call : String
  args : List Argument
  required : ScopeSet
  takes : requiredScopes pallet call args = some required
  cause : Cause
  rejection : isPoolRejection cause = true
  backend : Backend

/-- What `#refreshDelegation` writes to the cached mode, if it writes. -/
def rescopedMode (previous : Mode) (fresh : Option (Bytes × BitVec 32)) : Option Mode :=
  match previous with
  | none => none
  | some previous =>
    match afterRefresh previous fresh with
    | .rescoped scopes => some (some (previous.1, scopes))
    | _ => none

/-- What `#classifySubmissionFailure` tells the call, whose refresh read `previous` and was answered. -/
def Refused.told (encodeAddress : Bytes → String) (r : Refused) (previous : Mode)
    (answer : Option (Bytes × BitVec 32)) : Session.Kind :=
  (classifySubmissionFailure { r.backend with agentKey := some answer } encodeAddress previous
    r.pallet r.call r.args r.cause).2.kind

def grantOf (answer : Option (Bytes × BitVec 32)) : Option Session.Grant :=
  answer.map fun fresh => (fresh.1, ⟨fresh.2⟩)

theorem rereads (encodeAddress : Bytes → String) (principal : AccountId) (calls : ℕ → Refused) :
    Session.Rereads id grantOf principal (fun i => (calls i).required)
      (fun i => (calls i).told encodeAddress) rescopedMode where
  kept := by
    rintro _ answer value ⟨scopes, rfl : _ = _⟩ stored
    cases outcome : afterRefresh (principal, scopes) answer with
    | rescoped moved =>
      simp only [rescopedMode, outcome, Option.some.injEq] at stored
      exact ⟨moved, stored.symm⟩
    | _ => simp [rescopedMode, outcome] at stored
  told := by
    rintro i _ answer scopes (rfl : _ = _)
    exact (classifySubmissionFailure_found _ encodeAddress (calls i).takes (principal, scopes)
      (calls i).rejection).2

end TypeScript

/-- However the refused calls of a Rust or a TypeScript client overlap, each is told the reason that the
chain gives iff none of them finishes with a grant that falls short of it and that the chain still
gives; each call that reads grants which cover it is told it, whatever the others read. -/
theorem verdicts_truthful (principal : AccountId) :
    (∀ (scopes : ScopeSet) (calls : ℕ → Rust.Refused) (acts : List (Act (Option Rust.Grant))),
      let takes := fun i => (calls i).required
      let truthful := Steps Rust.rescopedMode (Session.Truthful id principal takes fun i =>
        (calls i).told principal) (.init (.delegated principal scopes)) acts
      (truthful ↔ Steps Rust.rescopedMode (Session.CoveredOrMoved Rust.Mode.grant id takes)
          (.init (.delegated principal scopes)) acts) ∧
        ∀ i, Steps Rust.rescopedMode
            (fun s act => act.session = i → Session.ReadsCovered Rust.Mode.grant takes s act)
            (.init (.delegated principal scopes)) acts →
          Steps Rust.rescopedMode (fun s act => act.session = i →
              Session.Truthful id principal takes (fun i => (calls i).told principal) s act)
            (.init (.delegated principal scopes)) acts) ∧
    ∀ (encodeAddress : Bytes → String) (scopes : ScopeSet) (calls : ℕ → TypeScript.Refused)
        (acts : List (Act (Option (Bytes × BitVec 32)))),
      let takes := fun i => (calls i).required
      let truthful := Steps TypeScript.rescopedMode (Session.Truthful TypeScript.grantOf principal
        takes fun i => (calls i).told encodeAddress) (.init (some (principal, scopes))) acts
      (truthful ↔ Steps TypeScript.rescopedMode
          (Session.CoveredOrMoved id TypeScript.grantOf takes) (.init (some (principal, scopes)))
          acts) ∧
        ∀ i, Steps TypeScript.rescopedMode
            (fun s act => act.session = i → Session.ReadsCovered id takes s act)
            (.init (some (principal, scopes))) acts →
          Steps TypeScript.rescopedMode (fun s act => act.session = i →
              Session.Truthful TypeScript.grantOf principal takes
                (fun i => (calls i).told encodeAddress) s act)
            (.init (some (principal, scopes))) acts := by
  refine ⟨fun scopes calls acts => ?_, fun encodeAddress scopes calls acts => ?_⟩
  · have rereads := Rust.rereads principal calls
    exact ⟨Session.steps_truthful_iff rereads ⟨scopes, rfl⟩ acts,
      fun i => Session.steps_truthful_of_reads rereads ⟨scopes, rfl⟩⟩
  · have rereads := TypeScript.rereads encodeAddress principal calls
    exact ⟨Session.steps_truthful_iff rereads ⟨scopes, rfl⟩ acts,
      fun i => Session.steps_truthful_of_reads rereads ⟨scopes, rfl⟩⟩

/-- A call of the volumes pallet that the pool refused. -/
def Rust.refusedVolume : Rust.Refused where
  pallet := "Volumes"
  call := "create_volume"
  args := []
  required := write .volumes
  takes := by decide
  error := .rpc 1010 "1010"
  rejection := by decide
  seen := write .volumes

/-- A call of the volumes pallet that the pool refused a TypeScript client. -/
def TypeScript.refusedVolume : TypeScript.Refused where
  pallet := "Volumes"
  call := "create_volume"
  args := []
  required := write .volumes
  takes := by decide
  cause := .thrown (some 1010) "1010: Inability to pay"
  rejection := by decide
  backend :=
    { hasCall := true, method := none, hasProxy := true, wrap := fun _ => none, signAsync := none
      txHash := "", landing := .failed (.thrown (some 1010) "1010: Inability to pay"), late := false
      agentKey := none }

/-- Three calls: the second reads beside the first, and the third reads what the first wrote. -/
def interleaved {α : Type} (bare gone : α) : List (Act α) :=
  [.read 0, .read 1, .lookUp 0 bare, .finish 0, .read 2, .lookUp 1 gone, .lookUp 2 bare, .finish 2,
    .finish 1]

/-- The second of them is told that the key was revoked, whatever the third is told. -/
theorem verdicts_truthful_interleaved :
    Steps Rust.rescopedMode (fun s act => act.session = 1 →
        Session.Truthful id [] (fun _ => write .volumes) (fun _ => Rust.refusedVolume.told []) s act)
      (.init (.delegated [] (write .volumes))) (interleaved (some ([], ⟨0⟩)) none) ∧
    Steps TypeScript.rescopedMode (fun s act => act.session = 1 →
        Session.Truthful TypeScript.grantOf [] (fun _ => write .volumes)
          (fun _ => TypeScript.refusedVolume.told (fun _ => "")) s act)
      (.init (some ([], write .volumes))) (interleaved (some ([], 0)) none) := by
  constructor
  · refine ((verdicts_truthful []).1 (write .volumes) (fun _ => Rust.refusedVolume) _).2 1
      ⟨nofun, fun _ grant held => ?_, nofun, nofun, nofun, fun _ => trivial, nofun, nofun,
        fun _ => trivial, trivial⟩
    cases held
    decide
  · refine ((verdicts_truthful []).2 (fun _ => "") (write .volumes)
      (fun _ => TypeScript.refusedVolume) _).2 1
      ⟨nofun, fun _ grant held => ?_, nofun, nofun, nofun, fun _ => trivial, nofun, nofun,
        fun _ => trivial, trivial⟩
    cases held
    decide

/-- Two calls that passed their checks: the first finds the grant without scopes, and the second,
which reads what the first wrote, is told that nobody sponsors it. -/
theorem verdicts_overlapping :
    ¬ ∀ (scopes : ScopeSet) (calls : ℕ → Rust.Refused) (acts : List (Act (Option Rust.Grant))),
      Steps Rust.rescopedMode (Session.Truthful id [] (fun i => (calls i).required) fun i =>
        (calls i).told []) (.init (.delegated [] scopes)) acts := by
  intro claim
  let bare : Option Rust.Grant := some ([], ⟨0⟩)
  obtain ⟨-, -, -, -, -, last, -⟩ := claim (write .volumes) (fun _ => Rust.refusedVolume)
    [.read 0, .lookUp 0 bare, .finish 0, .read 1, .lookUp 1 bare, .finish 1]
  have told : Rust.refusedVolume.told [] (.delegated [] ⟨0⟩) bare =
      Session.reason [] (write .volumes) bare := last (.delegated [] ⟨0⟩) bare rfl
  exact absurd told (by decide)

end MatterSdk
