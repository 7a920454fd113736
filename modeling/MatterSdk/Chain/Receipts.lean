import MatterSdk.Chain.Errors
import MatterSdk.Chain.Delegated

/-!
# Extrinsic outcomes

`parseOutcome` of the Go client, which reads the events of a block from their bytes, and the receipts
of delegated calls in the four clients.  The decoders of the registry are those of the library below.
-/

namespace MatterSdk

namespace Go

/-- An event's identifier on the wire. -/
abbrev EventID := UInt8 × UInt8

/-- What the registry knows of one kind of event, named "Pallet.Name"; `φ` is decoded fields. -/
structure EventDecoder (φ : Type) where
  name : String
  decode : Bytes → Except String (φ × Bytes)
  fields : List (Bytes → Except String Bytes)

/-- The SCALE decoders for one block, with the metadata behind them; `δ` is a dispatch error. -/
structure Decoder (δ φ : Type) where
  count : Bytes → Except String (ℕ × Bytes)
  /-- The index of the extrinsic of an `ApplyExtrinsic` phase. -/
  phase : Bytes → Except String (Option ℕ × Bytes)
  id : Bytes → Except String (EventID × Bytes)
  dispatchError : Bytes → Except String (δ × Bytes)
  topics : Bytes → Except String Bytes
  registry : EventID → Option (EventDecoder φ)
  proxyExecutedID : Option EventID
  extrinsicFailedID : Option EventID

/-- An event of the extrinsic; the two that are decoded by hand keep no fields and no index. -/
structure Event (φ : Type) where
  pallet : String
  name : String
  fields : Option φ
  extrinsicIndex : Option ℕ

/-- `extrinsicOutcome`. -/
structure ExtrinsicOutcome (δ φ : Type) where
  failed : Option δ
  proxied : Option δ
  sawProxy : Bool
  events : List (Event φ)

/-- What a finalized extrinsic did. -/
structure TxReceipt (φ : Type) where
  txHash : String
  blockHash : Bytes
  extrinsicIndex : ℕ
  events : List (Event φ)

/-- `splitEventName`: the two parts of a name around its first dot. -/
def splitEventName {φ : Type} (name : String) (fields : φ) (phase : Option ℕ) : Event φ :=
  match name.toList.dropWhile (· ≠ '.') with
  | [] => { pallet := "", name, fields := some fields, extrinsicIndex := phase }
  | _ :: rest =>
    { pallet := String.ofList (name.toList.takeWhile (· ≠ '.'))
      name := String.ofList rest
      fields := some fields
      extrinsicIndex := phase }

def ExtrinsicOutcome.empty {δ φ : Type} : ExtrinsicOutcome δ φ :=
  { failed := none, proxied := none, sawProxy := false, events := [] }

section

variable {δ φ : Type} (codec : Decoder δ φ)

/-- `fmt.Errorf("event #%d: …: %w", …)`. -/
def eventError (i : ℕ) (what e : String) : Error :=
  .wrapped ("event #" ++ toString i ++ ": " ++ what ++ ": " ++ e) (.plain e)

/-- `decodeDispatchResult`: the error of a wrapped call that failed. -/
def decodeDispatchResult : Bytes → Except String (Option δ × Bytes)
  | [] => .error "reading the DispatchResult tag: EOF"
  | tag :: rest =>
    if tag = 0 then .ok (none, rest)
    else if tag = 1 then
      match codec.dispatchError rest with
      | .error e => .error ("decoding the wrapped call's error: " ++ e)
      | .ok (dispatchErr, rest) => .ok (some dispatchErr, rest)
    else .error ("unknown DispatchResult discriminant " ++ toString tag.toNat)

/-- The refusal of an event the registry does not know. -/
def noDecoder (id : EventID) : String :=
  "no decoder for id [" ++ toString id.1.toNat ++ " " ++ toString id.2.toNat ++ "]"

/-- `skipRemainingFields`. -/
def skipRemainingFields (id : EventID) (consumed : ℕ) (bytes : Bytes) : Except String Bytes :=
  match codec.registry id with
  | none => .error (noDecoder id)
  | some decoder =>
    (decoder.fields.zipIdx.drop consumed).foldlM (fun bytes (field, i) =>
      (field bytes).mapError fun e => "skipping field " ++ toString i ++ ": " ++ e) bytes

/-- The fields of one record, by its identifier. -/
def parseFields (index i : ℕ) (phase : Option ℕ) (id : EventID) (outcome : ExtrinsicOutcome δ φ)
    (bytes : Bytes) : Except Error (ExtrinsicOutcome δ φ × Bytes) :=
  let mine := phase = some index
  if mine ∧ codec.proxyExecutedID = some id then
    match decodeDispatchResult codec bytes with
    | .error e => .error (.wrapped ("event #" ++ toString i ++ ": " ++ e) (.plain e))
    | .ok (dispatchErr, rest) =>
      .ok ({ outcome with
        sawProxy := true
        proxied := dispatchErr.or outcome.proxied
        events := outcome.events ++ [⟨"Proxy", "ProxyExecuted", none, none⟩] }, rest)
  else if mine ∧ codec.extrinsicFailedID = some id then
    match codec.dispatchError bytes with
    | .error e => .error (eventError i "decoding ExtrinsicFailed" e)
    | .ok (dispatchErr, rest) =>
      match skipRemainingFields codec id 1 rest with
      | .error e => .error (.wrapped ("event #" ++ toString i ++ ": " ++ e) (.plain e))
      | .ok rest =>
        .ok ({ outcome with
          failed := some dispatchErr
          events := outcome.events ++ [⟨"System", "ExtrinsicFailed", none, none⟩] }, rest)
  else
    match codec.registry id with
    | none => .error (.plain ("event #" ++ toString i ++ ": " ++ noDecoder id))
    | some decoder =>
      match decoder.decode bytes with
      | .error e => .error (eventError i "decoding fields" e)
      | .ok (fields, rest) =>
        if mine then
          .ok ({ outcome with
            events := outcome.events ++ [splitEventName decoder.name fields phase] }, rest)
        else .ok (outcome, rest)

/-- One record. -/
def parseEvent (index : ℕ) (s : ExtrinsicOutcome δ φ × Bytes) (i : ℕ) :
    Except Error (ExtrinsicOutcome δ φ × Bytes) :=
  match codec.phase s.2 with
  | .error e => .error (eventError i "decoding the phase" e)
  | .ok (phase, bytes) =>
    match codec.id bytes with
    | .error e => .error (eventError i "decoding the id" e)
    | .ok (id, bytes) =>
      match parseFields codec index i phase id s.1 bytes with
      | .error e => .error e
      | .ok (outcome, bytes) =>
        match codec.topics bytes with
        | .error e => .error (eventError i "decoding topics" e)
        | .ok bytes => .ok (outcome, bytes)

/-- `parseOutcome`. -/
def parseOutcome (raw : Bytes) (index : ℕ) : Except Error (ExtrinsicOutcome δ φ) :=
  match codec.count raw with
  | .error e => .error (.wrapped ("decoding the event count: " ++ e) (.plain e))
  | .ok (count, bytes) =>
    ((List.range (count % 2 ^ 64)).foldlM (parseEvent codec index)
      (ExtrinsicOutcome.empty, bytes)).map Prod.fst

/-- `delegatedOutcome`. -/
def delegatedOutcome (o : ExtrinsicOutcome δ φ) (delegated : Bool) (target : String)
    (describe : δ → String) : Option Error :=
  match o.failed with
  | some failed => some (chainErrorf .chain target (target ++ " was refused: " ++ describe failed))
  | none =>
    if !delegated then none
    else
      match o.proxied with
      | some proxied =>
        some (chainErrorf .dispatch target
          (target ++ " ran as your principal and failed: " ++ describe proxied))
      | none =>
        if !o.sawProxy then
          some (chainErrorf .chain target (target ++ ": the proxy.proxy extrinsic finalized " ++
            "without a Proxy.ProxyExecuted event, so whether the wrapped call ran is unknown"))
        else none

/-- `classifyDispatchFailure`; `findError` is the pallet and the error that a module error names. -/
def classifyDispatchFailure (delegated : Bool) (findError : δ → Option (String × String))
    (refreshed : Except Error RefreshOutcome) (target : String) (failed : Option δ) (err : Error) :
    Error :=
  if !delegated then err
  else
    match failed.bind findError with
    | none => err
    | some found =>
      if found ≠ ("Proxy", "NotProxy") then err
      else
        match refreshed with
        | .ok .gone =>
          wrapChainError .keyRevoked target err
            ("this key's proxy is gone or now points at a different member, so " ++ target ++
              " was refused; mint a new key or have the member re-authorize this one")
        | _ => err

/-- The end of `TxAndWait`, from the raw events of the block that holds the extrinsic on; `classify` is
what `classifySubmissionFailure` returns for an error in its place, if it does. -/
def concludeTx (delegated : Bool) (classify : Error → Option Error) (describe : δ → String)
    (findError : δ → Option (String × String)) (refreshed : Except Error RefreshOutcome)
    (target txHash : String) (blockHash : Bytes) (index : ℕ) (raw : Bytes) :
    Except Error (TxReceipt φ) :=
  match parseOutcome codec raw index with
  | .error e => .error ((classify e).getD e)
  | .ok outcome =>
    match delegatedOutcome outcome delegated target describe with
    | some e =>
      .error (classifyDispatchFailure delegated findError refreshed target outcome.failed e)
    | none => .ok { txHash, blockHash, extrinsicIndex := index, events := outcome.events }

/-- What the fields of a record say of the extrinsic's wrapped call. -/
def said (index : ℕ) (phase : Option ℕ) (id : EventID) (fields : Bytes) : List Report :=
  if phase = some index ∧ codec.proxyExecutedID = some id then
    match decodeDispatchResult codec fields with
    | .ok (none, _) => [.ok]
    | .ok (some _, _) => [.err]
    | .error _ => [.odd]
  else []

def report (index : ℕ) (bytes : Bytes) : List Report :=
  match codec.phase bytes with
  | .error _ => []
  | .ok (phase, bytes) =>
    match codec.id bytes with
    | .error _ => []
    | .ok (id, bytes) => said codec index phase id bytes

/-- The reports of the records up to the first that does not decode. -/
def reportsFrom (index : ℕ) : List ℕ → ExtrinsicOutcome δ φ × Bytes → List Report
  | [], _ => []
  | i :: rest, s =>
    match parseEvent codec index s i with
    | .error _ => report codec index s.2
    | .ok s' => report codec index s.2 ++ reportsFrom index rest s'

def reports (raw : Bytes) (index : ℕ) : List Report :=
  match codec.count raw with
  | .error _ => []
  | .ok (count, bytes) =>
    reportsFrom codec index (List.range (count % 2 ^ 64)) (ExtrinsicOutcome.empty, bytes)

/-- An outcome keeps of the reports whether there was one and whether one was a failure. -/
structure ExtrinsicOutcome.Keeps (outcome : ExtrinsicOutcome δ φ) (reports : List Report) :
    Prop where
  saw : outcome.sawProxy = true → reports ≠ []
  failures : outcome.proxied = none → .err ∉ reports
  legible : .odd ∉ reports

theorem ExtrinsicOutcome.Keeps.confirmed {outcome : ExtrinsicOutcome δ φ} {reports : List Report}
    (h : outcome.Keeps reports) (saw : outcome.sawProxy = true) (proxied : outcome.proxied = none) :
    Confirmed reports := by
  refine ⟨?_, h.failures proxied⟩
  obtain ⟨said, mem⟩ := List.exists_mem_of_ne_nil _ (h.saw saw)
  cases said with
  | ok => exact mem
  | err => exact absurd mem (h.failures proxied)
  | odd => exact absurd mem h.legible

variable {codec}

theorem parseFields_keeps {index i : ℕ} {phase : Option ℕ} {id : EventID}
    {outcome outcome' : ExtrinsicOutcome δ φ} {bytes rest : Bytes} {before : List Report}
    (h : outcome.Keeps before)
    (parsed : parseFields codec index i phase id outcome bytes = .ok (outcome', rest)) :
    outcome'.Keeps (before ++ said codec index phase id bytes) := by
  unfold parseFields at parsed
  unfold said
  by_cases wrapped : phase = some index ∧ codec.proxyExecutedID = some id
  · rw [if_pos wrapped] at parsed ⊢
    cases result : decodeDispatchResult codec bytes with
    | error e => simp [result] at parsed
    | ok read =>
      obtain ⟨dispatchErr, left⟩ := read
      simp only [result, Except.ok.injEq, Prod.mk.injEq] at parsed
      obtain ⟨rfl, -⟩ := parsed
      cases dispatchErr with
      | none =>
        refine ⟨fun _ => by simp, fun unfailed => ?_, by simpa using h.legible⟩
        simpa using h.failures unfailed
      | some e =>
        exact ⟨fun _ => by simp, fun unfailed => (by cases unfailed), by simpa using h.legible⟩
  · rw [if_neg wrapped] at parsed ⊢
    -- The other branches touch neither flag.
    have kept : outcome'.sawProxy = outcome.sawProxy ∧ outcome'.proxied = outcome.proxied := by
      split at parsed
      · split at parsed
        · cases parsed
        · split at parsed
          · cases parsed
          · cases parsed
            exact ⟨rfl, rfl⟩
      · split at parsed
        · cases parsed
        · split at parsed
          · cases parsed
          · split at parsed <;> cases parsed <;> exact ⟨rfl, rfl⟩
    rw [List.append_nil]
    exact ⟨fun saw => h.saw (kept.1 ▸ saw), fun unfailed => h.failures (kept.2 ▸ unfailed),
      h.legible⟩

theorem parseEvent_keeps {index i : ℕ} {s s' : ExtrinsicOutcome δ φ × Bytes}
    {before : List Report} (h : s.1.Keeps before) (parsed : parseEvent codec index s i = .ok s') :
    s'.1.Keeps (before ++ report codec index s.2) := by
  unfold parseEvent at parsed
  unfold report
  cases phase : codec.phase s.2 with
  | error e => simp [phase] at parsed
  | ok read =>
    cases id : codec.id read.2 with
    | error e => simp [phase, id] at parsed
    | ok named =>
      simp only [phase, id] at parsed ⊢
      cases fields : parseFields codec index i read.1 named.1 s.1 named.2 with
      | error e => simp [fields] at parsed
      | ok taken =>
        simp only [fields] at parsed
        cases topics : codec.topics taken.2 with
        | error e => simp [topics] at parsed
        | ok rest =>
          simp only [topics, Except.ok.injEq] at parsed
          subst parsed
          exact parseFields_keeps h fields

theorem foldlM_keeps {index : ℕ} : ∀ (l : List ℕ) {s s' : ExtrinsicOutcome δ φ × Bytes}
    {before : List Report}, s.1.Keeps before → l.foldlM (parseEvent codec index) s = .ok s' →
      s'.1.Keeps (before ++ reportsFrom codec index l s)
  | [], s, s', before, h, parsed => by
    obtain rfl : s = s' := Except.ok.inj parsed
    simpa [reportsFrom] using h
  | i :: l, s, s', before, h, parsed => by
    rw [List.foldlM_cons] at parsed
    cases one : parseEvent codec index s i with
    | error e => simp [one, bind, Except.bind] at parsed
    | ok next =>
      have rest := foldlM_keeps l (parseEvent_keeps h one)
        (by simpa [one, bind, Except.bind] using parsed)
      simpa [reportsFrom, one] using rest

theorem parseOutcome_keeps {raw : Bytes} {index : ℕ} {outcome : ExtrinsicOutcome δ φ}
    (parsed : parseOutcome codec raw index = .ok outcome) :
    outcome.Keeps (reports codec raw index) := by
  unfold parseOutcome at parsed
  unfold reports
  cases count : codec.count raw with
  | error e => simp [count] at parsed
  | ok read =>
    simp only [count] at parsed ⊢
    obtain ⟨s, run, rfl⟩ : ∃ s, (List.range (read.1 % 2 ^ 64)).foldlM (parseEvent codec index)
        (ExtrinsicOutcome.empty, read.2) = .ok s ∧ s.1 = outcome := by
      revert parsed
      cases (List.range (read.1 % 2 ^ 64)).foldlM (parseEvent codec index)
        (ExtrinsicOutcome.empty, read.2) with
      | error e => exact fun h => nomatch h
      | ok s => exact fun h => ⟨s, rfl, Except.ok.inj h⟩
    have start : (ExtrinsicOutcome.empty : ExtrinsicOutcome δ φ).Keeps [] :=
      ⟨fun h => by simp [ExtrinsicOutcome.empty] at h, fun _ => by simp, by simp⟩
    exact foldlM_keeps _ start run

/-- Only an outcome that saw a wrapped call, and no failure of one, passes. -/
theorem delegatedOutcome_eq_none {outcome : ExtrinsicOutcome δ φ} {target : String}
    {describe : δ → String} (h : delegatedOutcome outcome true target describe = none) :
    outcome.sawProxy = true ∧ outcome.proxied = none := by
  unfold delegatedOutcome at h
  cases failed : outcome.failed with
  | some e => simp [failed] at h
  | none =>
    cases proxied : outcome.proxied with
    | some e => simp [failed, proxied] at h
    | none => simpa [failed, proxied] using h

theorem concludeTx_honest (classify : Error → Option Error) (describe : δ → String)
    (findError : δ → Option (String × String)) (refreshed : Except Error RefreshOutcome)
    (target txHash : String) (blockHash : Bytes) (index : ℕ) (raw : Bytes) :
    Honest (concludeTx codec true classify describe findError refreshed target txHash blockHash index
      raw) (reports codec raw index) := by
  unfold concludeTx
  cases parsed : parseOutcome codec raw index with
  | error e => exact honest_error _ _
  | ok outcome =>
    cases refused : delegatedOutcome outcome true target describe with
    | some e => simp only [refused, honest_error]
    | none =>
      obtain ⟨saw, proxied⟩ := delegatedOutcome_eq_none refused
      simp only [refused, honest_ok]
      exact (parseOutcome_keeps parsed).confirmed saw proxied

end

end Go

/-! ## The four clients -/

/-- Go never reports more than it saw; the other clients do so for telling events only. -/
theorem receipts_honest_iff {δ φ : Type} (target txHash : String) (index : ℕ)
    (decodeFrom : Bytes → Except String String) (pallet call : String) (hash block : Bytes)
    (rustEvents : Rust.ExtrinsicEvents) (palletNames : ℕ → Option String)
    (update : TypeScript.SubmittableResult)
    (moduleError : Python.Value → Option String) (str : Python.Value → String)
    (principal : Bytes) (blockHash : String) (outer : Option String)
    (pythonEvents : List Python.Event) (codec : Go.Decoder δ φ)
    (classify : Go.Error → Option Go.Error) (describe : δ → String)
    (findError : δ → Option (String × String)) (refreshed : Except Go.Error Go.RefreshOutcome)
    (raw : Bytes) :
    (Honest (Rust.concludeTx decodeFrom true pallet call hash block (.ok rustEvents))
        (Rust.reports rustEvents) ↔ Rust.Telling rustEvents) ∧
    ((∀ settled, TypeScript.onUpdate palletNames true target txHash update = some settled →
        Honest settled (TypeScript.reports update.events)) ↔
      (update.dispatchError = none → update.isFinalized → TypeScript.Telling update.events)) ∧
    (Honest (Python.concludeSubmit moduleError str (some principal) pallet call txHash blockHash
        outer pythonEvents) (Python.reports pythonEvents) ↔
      (outer = none → Python.Telling pythonEvents)) ∧
    Honest (Go.concludeTx codec true classify describe findError refreshed target txHash block index
      raw) (Go.reports codec raw index) :=
  ⟨Rust.concludeTx_honest_iff .., TypeScript.onUpdate_honest_iff ..,
    Python.concludeSubmit_honest_iff ..,
    Go.concludeTx_honest classify describe findError refreshed target txHash block index raw⟩

/-- A finalized extrinsic whose events hold no `ProxyExecuted` gets a receipt from three clients. -/
theorem unreported_receipts :
    ¬ Honest (Rust.concludeTx (fun _ => .error "") true "Secrets" "store_secret" [] []
        (.ok [.ok ⟨"System", "ExtrinsicSuccess", []⟩]))
        (Rust.reports [.ok ⟨"System", "ExtrinsicSuccess", []⟩]) ∧
    (∃ settled, TypeScript.onUpdate (fun _ => none) true "Secrets.store_secret" "0x"
        ⟨none, true, "0x", [⟨0, "system", "ExtrinsicSuccess", []⟩]⟩ = some settled ∧
      ¬ Honest settled (TypeScript.reports [⟨0, "system", "ExtrinsicSuccess", []⟩])) ∧
    ¬ Honest (Python.concludeSubmit (fun _ => none) (fun _ => "") (some []) "Secrets"
        "store_secret" "0x" "0x" none [⟨"System", "ExtrinsicSuccess", .obj []⟩])
        (Python.reports [⟨"System", "ExtrinsicSuccess", .obj []⟩]) := by
  refine ⟨fun h => ?_, ⟨_, rfl, fun h => ?_⟩, fun h => ?_⟩
  · exact not_confirmed_nil (h ⟨_, rfl⟩)
  · exact not_confirmed_nil (h ⟨_, rfl⟩)
  · exact not_confirmed_nil (h ⟨_, rfl⟩)

end MatterSdk
