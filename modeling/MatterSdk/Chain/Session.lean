import MatterSdk.Chain.Delegated
import MatterSdk.Chain.Mode

/-!
# Sessions

What a client that may act for a member owes to its caller, whatever its language: which calls it
sends, as whom, what it tells of each by what the node and the call's block say of it, how it explains
that one was refused, and what it then holds as its grant.  The four clients are shown to be such
sessions in `MatterSdk.Chain.Clients`.
-/

namespace MatterSdk.Session

/-- The kind of a result, as `docs/parity.md` names it; `failed` stands for every kind that says no
more than that the call failed. -/
inductive Kind where
  | done
  | readOnly
  | neverAdmitted
  | notPermitted
  | keyRevoked
  | unsponsored
  | dispatch
  | finalityTimeout
  | failed
deriving DecidableEq, Repr

/-- An outcome that is reported as it is. -/
inductive Report where
  | done
  | dispatch
  | finalityTimeout
  | failed
deriving DecidableEq, Repr

def Report.kind : Report → Kind
  | done => .done
  | dispatch => .dispatch
  | finalityTimeout => .finalityTimeout
  | failed => .failed

/-- A principal and the scopes that a key has from it. -/
abbrev Grant := AccountId × ScopeSet

/-- What is told of a call.  A late refusal comes when the caller has been told of a timeout. -/
inductive Answer where
  | reported (report : Report)
  | refused (late : Bool)
  | notProxy (late : Bool)
deriving DecidableEq, Repr

/-! ## What becomes of a call -/

/-- What becomes of a call, as the node and the chain have it. -/
inductive Course where
  /-- Nothing is known of it. -/
  | lost
  /-- The node took the extrinsic, and nobody waits for more. -/
  | accepted
  /-- The node refused the extrinsic, at validation or otherwise. -/
  | refused (validation : Bool)
  /-- No block had the extrinsic in time. -/
  | expired
  /-- The extrinsic failed in its block, for want of a proxy or otherwise. -/
  | failed (noProxy : Bool)
  /-- It ran, and these are its block's records of wrapped calls. -/
  | ran (reports : List MatterSdk.Report)
deriving DecidableEq, Repr

/-- What the records of a wrapped call come to. -/
def wrapped (reports : List MatterSdk.Report) : Report :=
  if .err ∈ reports then .dispatch
  else if .ok ∈ reports then .done
  else .failed

theorem wrapped_dispatch_iff (reports : List MatterSdk.Report) :
    wrapped reports = .dispatch ↔ .err ∈ reports := by
  unfold wrapped
  split_ifs <;> simp [*]

theorem wrapped_done_iff (reports : List MatterSdk.Report) :
    wrapped reports = .done ↔ Confirmed reports := by
  unfold wrapped Confirmed
  split_ifs <;> simp [*]

theorem wrapped_ne_timeout (reports : List MatterSdk.Report) :
    wrapped reports ≠ .finalityTimeout := by
  unfold wrapped
  split_ifs <;> simp

/-- The first record says what they all come to. -/
def Clear : List MatterSdk.Report → Prop
  | .ok :: later => .err ∉ later
  | .err :: _ => True
  | _ => False

/-- What a report comes to when a timer may fire before it. -/
def reportedBy (late : Bool) (report : Report) : Answer :=
  .reported (if late then .finalityTimeout else report)

/-- What is to be told of a call that was sent for a member, or for nobody, perhaps too late. -/
def Course.answer (delegated late : Bool) : Course → Answer
  | lost => reportedBy late .failed
  | accepted => reportedBy late .done
  | refused validation => if delegated && validation then .refused late else reportedBy late .failed
  | expired => .reported .finalityTimeout
  | failed noProxy => if delegated && noProxy then .notProxy late else reportedBy late .failed
  | ran reports => reportedBy late (if delegated then wrapped reports else .done)

/-! ## A session -/

/-- Why no key may make a call: it is never admitted, or nobody knows what it takes. -/
inductive Barred where
  | never
  | unknown
deriving DecidableEq, Repr

def Barred.kind : Barred → Kind
  | never => .neverAdmitted
  | unknown => .failed

/-- A call: the scopes that it takes or why no key may make it, whether it gets as far as the node, what
becomes of it, whether that is too late for the caller, and the chain's answer if the grant is read
again, unless that fails. -/
structure Exchange where
  demands : Except Barred ScopeSet
  sent : Bool
  course : Course
  late : Bool
  lookup : Option (Option Grant)

/-- What a second reading says about the grant that is held. -/
inductive Finding where
  | unknown
  | unchanged
  | rescoped (scopes : ScopeSet)
  | gone
deriving DecidableEq, Repr

def find (held : Grant) : Option (Option Grant) → Finding
  | none => .unknown
  | some none => .gone
  | some (some fresh) =>
    if fresh.1 ≠ held.1 then .gone
    else if fresh.2 = held.2 then .unchanged
    else .rescoped fresh.2

/-- The grant that is held once it has been found so. -/
def Finding.kept (held : Grant) : Finding → Grant
  | .rescoped scopes => (held.1, scopes)
  | _ => held

/-- The scopes that the chain gives to the principal. -/
def Finding.given (held : Grant) : Finding → Option ScopeSet
  | .unchanged => some held.2
  | .rescoped scopes => some scopes
  | _ => none

/-- Why the pool refused a call that takes these scopes. -/
def Finding.explain (required : ScopeSet) : Finding → Kind
  | .unknown => .failed
  | .unchanged => .unsponsored
  | .rescoped scopes => if scopes.isSuperset required then .unsponsored else .notPermitted
  | .gone => .keyRevoked

/-- Why there was no proxy. -/
def Finding.explainNotProxy : Finding → Kind
  | .gone => .keyRevoked
  | _ => .failed

/-- The outcome of a call: whether it was sent, its kind, and the grant held afterwards. -/
structure Outcome where
  sent : Bool
  kind : Kind
  held : Option Grant

/-- A call that the grant covers. -/
def tell (grant : Grant) (required : ScopeSet) (e : Exchange) (answer : Answer) : Outcome :=
  let found := find grant e.lookup
  match answer with
  | .reported report => ⟨e.sent, report.kind, some grant⟩
  | .refused late =>
    ⟨e.sent, if late then .finalityTimeout else found.explain required, some (found.kept grant)⟩
  | .notProxy late =>
    ⟨e.sent, if late then .finalityTimeout else found.explainNotProxy, some (found.kept grant)⟩

/-- One call of a client that signs, with an answer to it. -/
def respond (held : Option Grant) (e : Exchange) (answer : Answer) : Outcome :=
  match held with
  | none =>
    match answer with
    | .reported report => ⟨e.sent, report.kind, none⟩
    | .refused late | .notProxy late =>
      ⟨e.sent, if late then .finalityTimeout else .failed, none⟩
  | some grant =>
    match e.demands with
    | .error barred => ⟨false, barred.kind, some grant⟩
    | .ok required =>
      if !grant.2.isSuperset required then ⟨false, .notPermitted, some grant⟩
      else tell grant required e answer

/-- One call of a client that signs, told by what became of it. -/
def step (held : Option Grant) (e : Exchange) : Outcome :=
  respond held e (e.course.answer held.isSome e.late)

/-- Calls one after the other, each with what is held before it. -/
def run (held : Option Grant) : List Exchange → List (Option Grant × Exchange × Outcome)
  | [] => []
  | e :: rest => (held, e, step held e) :: run (step held e).held rest

/-- The call takes these scopes, and the grant covers them. -/
def Covered (grant : Grant) (e : Exchange) (required : ScopeSet) : Prop :=
  e.demands = .ok required ∧ grant.2.isSuperset required = true

/-- The grant covers the call, if one is held. -/
def Within (held : Option Grant) (e : Exchange) : Prop :=
  ∀ grant, held = some grant → ∃ required, Covered grant e required

section

variable {grant : Grant} {e : Exchange} {required : ScopeSet} {answer : Answer}

end

/-! ## What a session owes -/

/-- The chain has the grant no longer, or for another principal. -/
def Gone (held : Grant) (e : Exchange) : Prop :=
  ∃ fresh, e.lookup = some fresh ∧ fresh.map Prod.fst ≠ some held.1

/-- The chain names the principal still, and these scopes. -/
def Gives (held : Grant) (e : Exchange) (scopes : ScopeSet) : Prop :=
  e.lookup = some (some (held.1, scopes))

/-- What one call of a client that holds a grant tells and changes. -/
structure Owed (grant : Grant) (e : Exchange) (o : Outcome) : Prop where
  /-- Only a call within the scopes held is sent. -/
  sent : o.sent = true ↔ e.sent = true ∧ ∃ required, Covered grant e required
  /-- The principal stays, and the scopes are those held or those that the chain gives to it. -/
  held : o.held = some grant ∨ ∃ scopes, Gives grant e scopes ∧ o.held = some (grant.1, scopes)
  /-- A call that was waited for is done if its block confirms it, and only then. -/
  done : o.kind = .done ↔ (∃ required, Covered grant e required) ∧ e.late = false ∧
    (e.course = .accepted ∨ ∃ reports, e.course = .ran reports ∧ Confirmed reports)
  /-- The wrapped call failed if a record of it says so, and only then. -/
  dispatch : o.kind = .dispatch ↔ (∃ required, Covered grant e required) ∧ e.late = false ∧
    ∃ reports, e.course = .ran reports ∧ .err ∈ reports
  timeout : o.kind = .finalityTimeout ↔ (∃ required, Covered grant e required) ∧
    (e.late = true ∨ e.course = .expired)
  /-- A key is called revoked if the chain says so of a call that was refused, and only then. -/
  revoked : o.kind = .keyRevoked ↔ (∃ required, Covered grant e required) ∧ e.late = false ∧
    (e.course = .refused true ∨ e.course = .failed true) ∧ Gone grant e
  /-- Nobody pays for a call that was refused though the chain gives the scopes that it takes. -/
  unsponsored : o.kind = .unsponsored ↔ ∃ required, Covered grant e required ∧ e.late = false ∧
    e.course = .refused true ∧ ∃ scopes, Gives grant e scopes ∧ scopes.isSuperset required = true
  /-- Scopes are missing in the grant that is held, or in the one that the chain gives. -/
  notPermitted : o.kind = .notPermitted ↔ ∃ required, e.demands = .ok required ∧
    (grant.2.isSuperset required = false ∨ e.late = false ∧ e.course = .refused true ∧
      ∃ scopes, Gives grant e scopes ∧ scopes.isSuperset required = false)
  never : o.kind = .neverAdmitted ↔ e.demands = .error .never

theorem gone_iff (grant : Grant) (e : Exchange) : Gone grant e ↔ find grant e.lookup = .gone := by
  obtain ⟨held, scopes⟩ := grant
  unfold Gone find
  match e.lookup with
  | none => simp
  | some none => simp
  | some (some (principal, fresh)) =>
    by_cases other : principal = held
    · by_cases same : fresh = scopes <;> simp [other, same]
    · simp [other]

theorem gives_iff (grant : Grant) (e : Exchange) (scopes : ScopeSet) :
    Gives grant e scopes ↔ (find grant e.lookup).given grant = some scopes := by
  unfold Gives find
  match e.lookup with
  | none => simp [Finding.given]
  | some none => simp [Finding.given]
  | some (some (principal, fresh)) =>
    by_cases other : principal = grant.1
    · by_cases same : fresh = grant.2 <;> simp [other, same, Finding.given, Prod.ext_iff]
    · simp [other, Finding.given]

theorem step_owed (grant : Grant) (e : Exchange) : Owed grant e (step (some grant) e) := by
  obtain ⟨demands, sent, course, late, lookup⟩ := e
  cases demands with
  | error barred => cases barred <;> constructor <;> simp [step, respond, Covered, Barred.kind]
  | ok required =>
    by_cases cover : grant.2.isSuperset required = true
    · have gone := gone_iff grant ⟨.ok required, sent, course, late, lookup⟩
      have gives := gives_iff grant ⟨.ok required, sent, course, late, lookup⟩
      dsimp only at gone gives
      simp only [step, respond, tell, cover, Bool.not_true, Bool.false_eq_true, if_false,
        Option.isSome_some]
      generalize find grant lookup = found at gone gives ⊢
      cases course with
      | lost =>
        cases late <;> constructor <;> simp [Covered, cover, Course.answer, reportedBy, Report.kind]
      | accepted =>
        cases late <;> constructor <;> simp [Covered, cover, Course.answer, reportedBy, Report.kind]
      | expired => constructor <;> simp [Covered, cover, Course.answer, Report.kind]
      | ran reports =>
        have done := wrapped_done_iff reports
        have dispatch := wrapped_dispatch_iff reports
        have untimed := wrapped_ne_timeout reports
        simp only [Course.answer, reportedBy, if_true]
        generalize wrapped reports = report at done dispatch untimed ⊢
        cases late <;> cases report <;> constructor <;> simp_all [Covered, Report.kind]
      | refused validation =>
        cases validation with
        | false =>
          cases late <;> constructor <;> simp [Covered, cover, Course.answer, reportedBy, Report.kind]
        | true =>
          cases late <;> cases found <;> constructor <;>
            simp [Covered, cover, gone, gives, Course.answer, Finding.explain, Finding.kept,
              Finding.given] <;>
            split_ifs <;> simp
      | failed noProxy =>
        cases noProxy with
        | false =>
          cases late <;> constructor <;> simp [Covered, cover, Course.answer, reportedBy, Report.kind]
        | true =>
          cases late <;> cases found <;> constructor <;>
            simp [Covered, cover, gone, gives, Course.answer, Finding.explainNotProxy, Finding.kept,
              Finding.given]
    · constructor <;> simp [step, respond, Covered, cover]

/-- What one call of a client that signs tells and changes; one that acts for nobody is never told
about a grant, and takes no notice of wrapped calls. -/
def OwedBy (before : Option Grant) (e : Exchange) (o : Outcome) : Prop :=
  match before with
  | some grant => Owed grant e o
  | none => o.sent = e.sent ∧ o.held = none ∧
    (o.kind = .done ↔ e.late = false ∧ (e.course = .accepted ∨ ∃ reports, e.course = .ran reports)) ∧
    (o.kind = .finalityTimeout ↔ e.late = true ∨ e.course = .expired) ∧
    o.kind ∈ [Kind.done, .finalityTimeout, .failed]

theorem step_owedBy (held : Option Grant) (e : Exchange) : OwedBy held e (step held e) := by
  cases held with
  | some grant => exact step_owed grant e
  | none =>
    obtain ⟨demands, sent, course, late, lookup⟩ := e
    cases course <;> cases late <;> simp [OwedBy, step, respond, Course.answer, reportedBy, Report.kind]

theorem step_principal (held : Option Grant) (e : Exchange) :
    (step held e).held.map Prod.fst = held.map Prod.fst := by
  have owed := step_owedBy held e
  cases held with
  | none => exact congrArg _ owed.2.1
  | some grant =>
    rcases owed.held with same | ⟨scopes, -, same⟩
    · rw [same]
    · rw [same]
      rfl

end MatterSdk.Session
