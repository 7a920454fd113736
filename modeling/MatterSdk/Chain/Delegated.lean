import MatterSdk.Committee.Python

/-!
# Delegated calls

How the Rust, TypeScript and Python clients read the outcome of a delegated call from the decoded
events of the finalized `proxy.proxy` extrinsic, which itself always succeeds.  Each of them looks
at the first `Proxy.ProxyExecuted` event only.
-/

namespace MatterSdk

/-- What a `Proxy.ProxyExecuted` record says of the wrapped call. -/
inductive Report where
  | ok
  | err
  | odd
deriving DecidableEq, Repr

/-- The wrapped call's success was observed. -/
def Confirmed (reports : List Report) : Prop := .ok ∈ reports ∧ .err ∉ reports

theorem confirmed_ok (later : List Report) : Confirmed (.ok :: later) ↔ .err ∉ later := by
  simp [Confirmed]

theorem not_confirmed_err (later : List Report) : ¬ Confirmed (.err :: later) := by
  simp [Confirmed]

theorem confirmed_odd (later : List Report) :
    Confirmed (.odd :: later) ↔ .ok ∈ later ∧ .err ∉ later := by
  simp [Confirmed]

theorem not_confirmed_nil : ¬ Confirmed [] := by simp [Confirmed]

/-- Nothing but a confirmed call gets a receipt. -/
def Honest {ε α : Type} (result : Except ε α) (reports : List Report) : Prop :=
  (∃ receipt, result = .ok receipt) → Confirmed reports

theorem honest_ok {ε α : Type} (receipt : α) (reports : List Report) :
    Honest (.ok receipt : Except ε α) reports ↔ Confirmed reports := by
  simp [Honest]

theorem honest_error {ε α : Type} (e : ε) (reports : List Report) :
    Honest (.error e : Except ε α) reports := by
  simp [Honest]

/-! ## Rust -/

namespace Rust

/-- A decoded event record. -/
structure EventDetails where
  palletName : String
  variantName : String
  fieldBytes : Bytes
deriving DecidableEq, Repr

/-- The records of an extrinsic, as `iter` yields them. -/
abbrev ExtrinsicEvents := List (Except String EventDetails)

structure TxReceipt where
  txHash : Bytes
  blockHash : Bytes
  events : List (String × String)
deriving DecidableEq, Repr

def isProxyExecuted (e : EventDetails) : Bool :=
  e.palletName = "Proxy" && e.variantName = "ProxyExecuted"

/-- The records that decode. -/
def decoded (events : ExtrinsicEvents) : List EventDetails := events.filterMap Except.toOption

section

-- `decodeFrom` is `DispatchError::decode_from`, its result rendered.
variable (decodeFrom : Bytes → Except String String)

/-- `inner_dispatch_error`. -/
def innerDispatchError (events : ExtrinsicEvents) : Except SdkError (Option String) :=
  match (decoded events).find? isProxyExecuted with
  | none => .ok none
  | some executed =>
    match executed.fieldBytes with
    | [] => .ok (some "Proxy.ProxyExecuted carried no result")
    | tag :: rest =>
      if tag = 0 then .ok none
      else if tag = 1 then
        match decodeFrom rest with
        | .error e =>
          .error (.chain "Proxy.ProxyExecuted" ("could not decode the wrapped call's error: " ++ e))
        | .ok failure => .ok (some failure)
      else
        .ok (some ("Proxy.ProxyExecuted carried an unknown result discriminant " ++
          toString tag.toNat))

/-- The end of `tx`, from the outcome of `wait_for_success` on. -/
def concludeTx (delegated : Bool) (pallet call : String) (txHash blockHash : Bytes)
    (finalized : Except SdkError ExtrinsicEvents) : Except SdkError TxReceipt :=
  match finalized with
  | .error e => .error e
  | .ok finalized =>
    let events := (decoded finalized).map fun e => (e.palletName, e.variantName)
    if delegated then
      match innerDispatchError decodeFrom finalized with
      | .error e => .error e
      | .ok (some failure) => .error (.dispatch pallet call failure)
      | .ok none => .ok { txHash, blockHash, events }
    else .ok { txHash, blockHash, events }

end

/-- What a `ProxyExecuted` record says, by its discriminant. -/
def report (e : EventDetails) : Report :=
  match e.fieldBytes with
  | [] => .odd
  | tag :: _ => if tag = 0 then .ok else if tag = 1 then .err else .odd

def reports (events : ExtrinsicEvents) : List Report :=
  ((decoded events).filter isProxyExecuted).map report

/-- The first report is a failure, or a success that no later one contradicts. -/
def Telling (events : ExtrinsicEvents) : Prop :=
  match reports events with
  | [] => False
  | .ok :: later => .err ∉ later
  | .err :: _ => True
  | .odd :: _ => True

theorem concludeTx_honest_iff (decodeFrom : Bytes → Except String String)
    (pallet call : String) (txHash blockHash : Bytes) (events : ExtrinsicEvents) :
    Honest (concludeTx decodeFrom true pallet call txHash blockHash (.ok events)) (reports events) ↔
      Telling events := by
  have first : (decoded events).find? isProxyExecuted =
      ((decoded events).filter isProxyExecuted).head? := List.head?_filter.symm
  simp only [concludeTx, innerDispatchError, Telling, reports, first, if_true]
  cases (decoded events).filter isProxyExecuted with
  | nil => simp [honest_ok, not_confirmed_nil]
  | cons executed later =>
    simp only [List.head?_cons, List.map_cons, report]
    cases executed.fieldBytes with
    | nil => simp [honest_error]
    | cons tag rest =>
      by_cases succeeded : tag = 0
      · simp [succeeded, honest_ok, confirmed_ok]
      · by_cases failed : tag = 1
        · cases read : decodeFrom rest <;> simp [failed, read, honest_error]
        · simp [succeeded, failed, honest_error]

end Rust

/-! ## TypeScript -/

namespace TypeScript

/-- The first field of an event, as the codec decodes it: a result, or something else. -/
inductive Codec where
  | ok
  | err (asErr : String)
  | other
deriving DecidableEq, Repr

/-- An event; `asErr` is the error as `describeDispatchError` renders it. -/
structure Event where
  palletIndex : ℕ
  section_ : String
  method : String
  data : List Codec
deriving DecidableEq, Repr

def isProxyExecuted (e : Event) : Bool := e.section_ = "proxy" && e.method = "ProxyExecuted"

/-- `wrappedFailure`. -/
def wrappedFailure : List Event → Option String
  | [] => none
  | e :: rest =>
    if !isProxyExecuted e then wrappedFailure rest
    else
      match e.data.head? with
      | some (.err failure) => some failure
      | _ => none

/-- An update from `send`. -/
structure SubmittableResult where
  dispatchError : Option String
  isFinalized : Bool
  blockHash : String
  events : List Event

structure TxReceipt where
  txHash : String
  blockHash : String
  events : List (String × String)
deriving DecidableEq, Repr

/-- Why `submit` rejects: a dispatch error of the extrinsic or one of the wrapped call. -/
inductive Rejection where
  | outer (detail : String)
  | dispatch (target failure : String)
deriving DecidableEq, Repr

/-- `receiptEvents`. -/
def receiptEvents (palletNames : ℕ → Option String) (events : List Event) : List (String × String) :=
  events.map fun e => ((palletNames e.palletIndex).getD e.section_, e.method)

/-- The callback of `send`: nothing yet, or how the promise settles. -/
def onUpdate (palletNames : ℕ → Option String) (delegated : Bool) (target txHash : String)
    (result : SubmittableResult) : Option (Except Rejection TxReceipt) :=
  match result.dispatchError with
  | some detail => some (.error (.outer detail))
  | none =>
    if !result.isFinalized then none
    else
      let receipt : TxReceipt :=
        { txHash, blockHash := result.blockHash
          events := receiptEvents palletNames result.events }
      if delegated then
        match wrappedFailure result.events with
        | some failure => some (.error (.dispatch target failure))
        | none => some (.ok receipt)
      else some (.ok receipt)

def report (e : Event) : Report :=
  match e.data.head? with
  | some .ok => .ok
  | some (.err _) => .err
  | _ => .odd

def reports (events : List Event) : List Report := (events.filter isProxyExecuted).map report

theorem wrappedFailure_eq (events : List Event) :
    wrappedFailure events =
      match (events.filter isProxyExecuted).head? with
      | none => none
      | some executed =>
        match executed.data.head? with
        | some (.err failure) => some failure
        | _ => none := by
  induction events with
  | nil => rfl
  | cons e rest ih =>
    by_cases executed : isProxyExecuted e
    · simp [wrappedFailure, executed]
    · simp [wrappedFailure, executed, ih]

/-- The first report is a failure, or the reports as a whole confirm the call. -/
def Telling (events : List Event) : Prop :=
  match reports events with
  | [] => False
  | .ok :: later => .err ∉ later
  | .err :: _ => True
  | .odd :: later => .ok ∈ later ∧ .err ∉ later

theorem onUpdate_honest_iff (palletNames : ℕ → Option String) (target txHash : String)
    (update : SubmittableResult) :
    (∀ settled, onUpdate palletNames true target txHash update = some settled →
        Honest settled (reports update.events)) ↔
      (update.dispatchError = none → update.isFinalized → Telling update.events) := by
  cases outer : update.dispatchError with
  | some detail => simp [onUpdate, outer, honest_error]
  | none =>
    cases finalized : update.isFinalized with
    | false => simp [onUpdate, outer, finalized]
    | true =>
      simp only [onUpdate, outer, finalized, wrappedFailure_eq, Telling, reports]
      cases update.events.filter isProxyExecuted with
      | nil => simp [honest_ok, not_confirmed_nil]
      | cons executed later =>
        simp only [List.head?_cons, List.map_cons, report]
        rcases executed.data.head? with _ | _ | failure | _
        · simp [honest_ok, confirmed_odd]
        · simp [honest_ok, confirmed_ok]
        · simp [honest_error]
        · simp [honest_ok, confirmed_odd]

end TypeScript

/-! ## Python -/

namespace Python

/-- A triggered event, its attributes as scalecodec renders them. -/
structure Event where
  moduleId : String
  eventId : String
  attributes : Value

structure TxReceipt where
  txHash : String
  blockHash : String
  events : List (String × String × Value)

/-- What `submit` raises once the extrinsic is finalized. -/
inductive SubmitError where
  | outer (detail : String)
  | dispatch (message : String)

/-- The `DispatchResult` of the attributes, out of its wrappings. -/
def dispatchResult (attributes : Value) : Value :=
  let attributes : Value :=
    match attributes with
    | .arr [] => .null
    | .arr (first :: _) => first
    | value => value
  (attributes.field "result").getD attributes

/-- `_proxy_result`. -/
def proxyResult (attributes : Value) : Value :=
  ((dispatchResult attributes).field "Err").getD .null

section

-- `moduleError` renders a module error by the metadata; `str` prints a value.
variable (moduleError : Value → Option String) (str : Value → String)

/-- `_wrapped_failure`. -/
def wrappedFailure : List Event → Option String
  | [] => none
  | e :: rest =>
    if e.moduleId ≠ "Proxy" ∨ e.eventId ≠ "ProxyExecuted" then wrappedFailure rest
    else
      match proxyResult e.attributes with
      | .null => none
      | result =>
        match result.field "Module" with
        | some (.obj fields) => some ((moduleError (.obj fields)).getD (str result))
        | _ => some (str result)

/-- The end of `submit`, from the finalized receipt on; `outer` is its error if it failed. -/
def concludeSubmit (principal : Option Bytes) (pallet call txHash blockHash : String)
    (outer : Option String) (triggeredEvents : List Event) : Except SubmitError TxReceipt :=
  match outer with
  | some detail => .error (.outer (pallet ++ "." ++ call ++ " failed on chain: " ++ detail))
  | none =>
    let receipt : TxReceipt :=
      { txHash, blockHash
        events := triggeredEvents.map fun e => (e.moduleId, e.eventId, e.attributes) }
    match principal with
    | none => .ok receipt
    | some _ =>
      match wrappedFailure moduleError str triggeredEvents with
      | some failure =>
        .error (.dispatch (pallet ++ "." ++ call ++ " failed under delegation: " ++ failure))
      | none => .ok receipt

end

def isProxyExecuted (e : Event) : Bool := e.moduleId = "Proxy" && e.eventId = "ProxyExecuted"

def report (e : Event) : Report :=
  if ((dispatchResult e.attributes).field "Err").isSome then .err
  else if ((dispatchResult e.attributes).field "Ok").isSome then .ok
  else .odd

def reports (events : List Event) : List Report := (events.filter isProxyExecuted).map report

/-- The error a `ProxyExecuted` event is read to carry, as `_wrapped_failure` renders it. -/
def rendered (moduleError : Value → Option String) (str : Value → String) (e : Event) :
    Option String :=
  match proxyResult e.attributes with
  | .null => none
  | result =>
    match result.field "Module" with
    | some (.obj fields) => some ((moduleError (.obj fields)).getD (str result))
    | _ => some (str result)

theorem wrappedFailure_eq (moduleError : Value → Option String) (str : Value → String)
    (events : List Event) : wrappedFailure moduleError str events =
      (events.filter isProxyExecuted).head?.bind (rendered moduleError str) := by
  induction events with
  | nil => rfl
  | cons e rest ih =>
    by_cases executed : isProxyExecuted e
    · have named : e.moduleId = "Proxy" ∧ e.eventId = "ProxyExecuted" := by
        simpa [isProxyExecuted] using executed
      simp [wrappedFailure, executed, named, rendered]
    · have other : e.moduleId ≠ "Proxy" ∨ e.eventId ≠ "ProxyExecuted" := by
        simpa [isProxyExecuted, Classical.or_iff_not_imp_left] using executed
      simp only [wrappedFailure, if_pos other, ih, executed, List.filter_cons]
      rfl

theorem rendered_eq_none_iff (moduleError : Value → Option String) (str : Value → String)
    (e : Event) : rendered moduleError str e = none ↔ proxyResult e.attributes = .null := by
  unfold rendered
  split
  · simp [*]
  · rename_i payload
    split <;> simpa using payload

/-- The first event carries an error with a payload, or the events as a whole confirm the call. -/
def Telling (events : List Event) : Prop :=
  match events.filter isProxyExecuted with
  | [] => False
  | executed :: later =>
    match report executed with
    | .ok => .err ∉ later.map report
    | .err => proxyResult executed.attributes ≠ .null
    | .odd => .ok ∈ later.map report ∧ .err ∉ later.map report

/-- Without an `Err` there is no error to read. -/
theorem proxyResult_eq_null {e : Event} (h : report e ≠ .err) :
    proxyResult e.attributes = .null := by
  unfold report at h
  unfold proxyResult
  cases err : (dispatchResult e.attributes).field "Err" with
  | none => rfl
  | some payload => simp [err] at h

theorem concludeSubmit_honest_iff (moduleError : Value → Option String) (str : Value → String)
    (principal : Bytes) (pallet call txHash blockHash : String) (outer : Option String)
    (events : List Event) :
    Honest (concludeSubmit moduleError str (some principal) pallet call txHash blockHash outer
        events) (reports events) ↔ (outer = none → Telling events) := by
  cases outer with
  | some detail => simp [concludeSubmit, honest_error]
  | none =>
    simp only [concludeSubmit, wrappedFailure_eq, Telling, reports, forall_const]
    cases events.filter isProxyExecuted with
    | nil => simp [honest_ok, not_confirmed_nil]
    | cons executed later =>
      simp only [List.head?_cons, Option.bind_some, List.map_cons]
      cases said : rendered moduleError str executed with
      | some failure =>
        have payload : proxyResult executed.attributes ≠ .null := fun h => by
          simp [(rendered_eq_none_iff moduleError str executed).2 h] at said
        have failed : report executed = .err := by
          by_contra h
          exact payload (proxyResult_eq_null h)
        simp [honest_error, failed, payload]
      | none =>
        have silent := (rendered_eq_none_iff moduleError str executed).1 said
        cases report executed with
        | ok => simp [honest_ok, confirmed_ok]
        | err => simp [honest_ok, not_confirmed_err, silent]
        | odd => simp [honest_ok, confirmed_odd]

end Python

end MatterSdk
