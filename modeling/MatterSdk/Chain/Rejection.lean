import MatterSdk.Chain.Override
import MatterSdk.Chain.Finality

/-!
# Refused at validation

How the Rust and the Go client tell that the pool refused a submission: by the code and by markers in
the text of whatever error came back.  Text that was never a refusal can carry the markers too.
-/

namespace MatterSdk

namespace Rust

/-- The node refused the submission at validation, by the code or in the words of older nodes. -/
def SubxtError.Refusal : SubxtError → Prop
  | .rpc code text =>
    code = 1010 ∨ contains text "Inability to pay" = true ∨ contains text "InvalidTransaction" = true
  | _ => False

/-- A failure keeps its own error, unless it is a refusal or the proxy is gone. -/
def Unexplained (pallet call : String) (result : Except SdkError TxReceipt) : Landing → Prop
  | .refused e => ¬ e.Refusal → result = .error (chainError pallet call e.text)
  | .lost text => result = .error (chainError pallet call text)
  | .timedOut => result = .error (.finalityTimeout pallet call)
  | .inBlock _ _ (.ok _) => True
  | .inBlock _ _ (.error e) =>
    isNotProxy e = false → result = .error (chainError pallet call e.text)

/-- The error of the submission is a refusal or does not look like one, or there is nothing to
explain it by. -/
def Telltale (node : Node) (mode : Mode) (e : SubxtError) : Prop :=
  e.Refusal ∨ mode = .direct ∨ isPoolRejection e = false ∨ ∃ detail, node.lookup = .error detail

theorem submissionError_eq_iff (node : Node) (mode : Mode) (pallet call : String)
    (required : Option ScopeSet) (e : SubxtError) :
    submissionError mode (refreshDelegation node mode).1 pallet call required e =
        chainError pallet call e.text ↔
      mode = .direct ∨ isPoolRejection e = false ∨ ∃ detail, node.lookup = .error detail := by
  cases mode with
  | direct => simp [submissionError]
  | delegated principal scopes =>
    cases rejection : isPoolRejection e with
    | false => simp [submissionError, rejection]
    | true =>
      unfold refreshDelegation
      cases node.lookup with
      | error detail => simp [submissionError, rejection]
      | ok fresh =>
        simp only [submissionError, rejection]
        cases afterRefresh (.delegated principal scopes) fresh with
        | unchanged => simp [chainError]
        | gone => simp [chainError]
        | rescoped held =>
          cases required with
          | none => simp [chainError]
          | some required =>
            cases within : held.isSuperset required <;> simp [within, chainError]

theorem conclude_unexplained_iff (node : Node) (mode : Mode) (pallet call : String)
    (required : Option ScopeSet) (landing : Landing) :
    Unexplained pallet call (conclude node mode pallet call required landing).2 landing ↔
      ∀ e, landing = .refused e → Telltale node mode e := by
  cases landing with
  | refused e =>
    simp only [Unexplained, conclude, Except.error.injEq, submissionError_eq_iff,
      Landing.refused.injEq, forall_eq', Telltale]
    tauto
  | lost text => simp [Unexplained, conclude]
  | timedOut => simp [Unexplained, conclude]
  | inBlock txHash blockHash success =>
    cases success with
    | ok events => simp [Unexplained]
    | error e => simp +contextual [Unexplained, conclude, outerDispatchError]

end Rust

namespace Go

/-- An encoded call: its index, the names that the metadata has for it, and what
`requiredScopesForCall` reads off it. -/
structure Call where
  sectionIndex : ℕ
  methodIndex : ℕ
  names : Option (String × String)
  required : Option ScopeSet

/-- `callTarget`. -/
def Call.target (call : Call) : String :=
  match call.names with
  | some (pallet, method) => pallet ++ "." ++ method
  | none => "call " ++ toString call.sectionIndex ++ "." ++ toString call.methodIndex

/-- `refuseIfOutOfScope`. -/
def refuseIfOutOfScope (held : ScopeSet) (call : Call) : Option Error :=
  match call.names with
  | none =>
    some (chainErrorf .chain ""
      ("cannot resolve call index " ++ toString call.sectionIndex ++ "." ++
        toString call.methodIndex ++ " in the live metadata, so its required scopes are unknown; " ++
        "refusing to submit it as a delegated key"))
  | some (pallet, method) =>
    let target := pallet ++ "." ++ method
    let never := chainErrorf .neverAdmitted target
      (target ++ " is never admitted to an api key; sign it with the member's own key")
    if pallet = "Proxy" ∨ pallet = "Utility" ∨ pallet = "EthSigning" then some never
    else
      match call.required with
      | none => some never
      | some required =>
        if !held.isSuperset required then
          some (chainErrorf .notPermitted target
            ("key lacks " ++ required.text ++ " for " ++ target ++ "; it holds " ++ held.text))
        else none

/-- `isPoolRejection`. -/
def isPoolRejection (err : Error) : Bool :=
  err.errorCode = some 1010 || contains err.text "1010" || contains err.text "Inability to pay" ||
    contains err.text "InvalidTransaction"

/-- `refreshDelegation`, from the answer to the lookup: its outcome and the delegation it leaves. -/
def refreshDelegation (held : Option Delegation) (lookup : Except Error (Option Delegation)) :
    Except Error (RefreshOutcome × Option Delegation) :=
  match held with
  | none => .ok (.unchanged, none)
  | some previous =>
    match lookup with
    | .error e => .error e
    | .ok fresh =>
      .ok (afterRefresh (some previous) fresh,
        (rescopedDelegation (some previous) fresh).getD (some previous))

/-- `classifySubmissionFailure`: the error that it returns in place of `err`, if it does not return
that one; `address` is `ss58OrHex`. -/
def classifySubmissionFailure (address : Bytes → String) (held : Option Delegation)
    (lookup : Except Error (Option Delegation)) (call : Call) (err : Error) : Option Error :=
  let target := call.target
  if held.isNone || !isPoolRejection err then none
  else
    match refreshDelegation held lookup with
    | .error _ => none
    | .ok (outcome, now) =>
      let unsponsored := wrapChainError .unsponsored target err
        (target ++ " is within this key's scopes, but nobody would pay for it: " ++
          (match now with | some d => address d.principal | none => "your principal") ++
          " and their billing org must cover the fee")
      match outcome, now with
      | .gone, _ =>
        some (wrapChainError .keyRevoked target err
          ("this key's proxy is gone or now points at a different member, so " ++ target ++
            " was refused; mint a new key or have the member re-authorize this one"))
      | .rescoped, some d => some ((refuseIfOutOfScope d.scopes call).getD unsponsored)
      | _, _ => some unsponsored

/-- `SubmitCall`, from the outcomes of `assemble` and of `author_submitExtrinsic`. -/
def submitCall (assembled : Except Error String) (author : String → Except Error String) :
    Except Error String :=
  match assembled with
  | .error e => .error e
  | .ok encoded =>
    match author encoded with
    | .error e => .error (.wrapped ("submit extrinsic: " ++ e.text) e)
    | .ok txHash => .ok txHash

/-- The node refused the submission at validation, by the code or in the words of older nodes. -/
def Error.Refusal (e : Error) : Prop :=
  ∃ code, e.errorCode = some code ∧ (code = 1010 ∨ contains e.text "Inability to pay" = true ∨
    contains e.text "InvalidTransaction" = true)

/-- The RPC that submits was itself refused. -/
def Refused (assembled : Except Error String) (author : String → Except Error String) : Prop :=
  ∃ encoded e, assembled = .ok encoded ∧ author encoded = .error e ∧ e.Refusal

theorem classifySubmissionFailure_eq_none_iff (address : Bytes → String) (held : Option Delegation)
    (lookup : Except Error (Option Delegation)) (call : Call) (err : Error) :
    classifySubmissionFailure address held lookup call err = none ↔
      held = none ∨ isPoolRejection err = false ∨ ∃ e, lookup = .error e := by
  cases held with
  | none => simp [classifySubmissionFailure]
  | some previous =>
    cases rejection : isPoolRejection err with
    | false => simp [classifySubmissionFailure, rejection]
    | true =>
      cases lookup with
      | error e => simp [classifySubmissionFailure, rejection, refreshDelegation]
      | ok fresh =>
        simp only [classifySubmissionFailure, rejection, refreshDelegation, Option.isNone_some,
          Bool.not_true, Bool.or_self, Bool.false_eq_true, if_false, reduceCtorEq, exists_false,
          or_self, iff_false]
        split <;> simp

/-- An error of a stage after the submission, or of one that is no refusal, stays as it is. -/
def Unexplained {ρ : Type} (refused : Prop) (address : Bytes → String) (held : Option Delegation)
    (lookup : Except Error (Option Delegation)) (call : Call) (result : Except Error ρ) : Prop :=
  ∀ err, result = .error err → ¬ refused →
    classifySubmissionFailure address held lookup call err = none

/-- The error comes from a refusal or does not look like one, or there is nothing to explain it
by. -/
def Telltale (refused : Prop) (held : Option Delegation)
    (lookup : Except Error (Option Delegation)) (err : Error) : Prop :=
  refused ∨ held = none ∨ isPoolRejection err = false ∨ ∃ e, lookup = .error e

theorem unexplained_iff {ρ : Type} (refused : Prop) (address : Bytes → String)
    (held : Option Delegation) (lookup : Except Error (Option Delegation)) (call : Call)
    (result : Except Error ρ) :
    Unexplained refused address held lookup call result ↔
      ∀ err, result = .error err → Telltale refused held lookup err := by
  refine forall_congr' fun err => forall_congr' fun failed => ?_
  rw [classifySubmissionFailure_eq_none_iff, Telltale]
  tauto

end Go

/-- Only refusals at validation are explained as such iff no other error looks like one: in the Rust
`tx`, and in the Go `Tx` and `TxAndWait`. -/
theorem unexplained_iff_telltale (node : Rust.Node) (mode : Rust.Mode) (pallet method : String)
    (required : Option ScopeSet) (landing : Rust.Landing) (address : Bytes → String)
    (held : Option Go.Delegation) (lookup : Except Go.Error (Option Go.Delegation)) (call : Go.Call)
    (assembled : Except Go.Error String) (author : String → Except Go.Error String) :
    (Rust.Unexplained pallet method (Rust.conclude node mode pallet method required landing).2
        landing ↔
      ∀ e, landing = .refused e → Rust.Telltale node mode e) ∧
    (Go.Unexplained (Go.Refused assembled author) address held lookup call
        (Go.submitCall assembled author) ↔
      ∀ err, Go.submitCall assembled author = .error err →
        Go.Telltale (Go.Refused assembled author) held lookup err) ∧
    ∀ (δ φ : Type) (registry : Except Go.Error (Go.Decoder δ φ)) (duration : ℤ → String)
        (w : Go.World) (timeout : ℤ),
      Go.Unexplained (Go.Refused assembled author) address held lookup call
          (Go.submitAndWatch registry duration w assembled author timeout) ↔
        ∀ err, Go.submitAndWatch registry duration w assembled author timeout = .error err →
          Go.Telltale (Go.Refused assembled author) held lookup err :=
  ⟨Rust.conclude_unexplained_iff node mode pallet method required landing,
    Go.unexplained_iff _ address held lookup call _,
    fun _ _ _ _ _ _ => Go.unexplained_iff _ address held lookup call _⟩

namespace Go

/-- Block 1 holds the bytes and every poll sees it, but its state cannot be read. -/
def prunedWorld : World :=
  { steadyWorld 1 with
    polls := fun _ =>
      { head := .ok 1
        block := none
        events := fun _ => .error (.plain "State already discarded for block 21010") }
    later := fun i head _ => Nat.zero_le head
    grows := fun i j a b _ ha hb => by
      obtain rfl := Except.ok.inj ha
      obtain rfl := Except.ok.inj hb
      exact le_rfl }

/-- A write that landed is reported as one by a revoked key. -/
theorem prunedWorld_revoked :
    ¬ ∀ (address : Bytes → String) (held : Option Delegation)
        (lookup : Except Error (Option Delegation)) (call : Call)
        (assembled : Except Error String) (author : String → Except Error String)
        (registry : Except Error (Decoder Unit Unit)) (duration : ℤ → String) (w : World)
        (timeout : ℤ),
      Unexplained (Refused assembled author) address held lookup call
        (submitAndWatch registry duration w assembled author timeout) := by
  intro claim
  have watched : submitAndWatch (.ok silentCodec) (fun _ => "2m0s") prunedWorld (.ok "0xab")
      (fun _ => .ok "0xcd") 0 = .error (wrapChainError .chain "System.Events"
        (.plain "State already discarded for block 21010")
        ("read events at 0x01: State already discarded for block 21010")) := by
    have made : prunedWorld.Made (effectiveTimeout 0) "0xab" 0 :=
      ⟨by decide, fun j before => absurd before (Nat.not_lt_zero j)⟩
    have sees : (prunedWorld.polls 0).Sees 1 := ⟨rfl, rfl⟩
    exact watch_hit (.ok silentCodec) (fun _ => "2m0s") made sees
      (by decide : findExtrinsic prunedWorld.toChain none 1 "0xab" = .ok (some 0))
  have accepted : ¬ Refused (.ok "0xab") fun _ => .ok "0xcd" := by
    rintro ⟨encoded, e, -, refused, -⟩
    cases refused
  have kept := claim (fun _ => "") (some ⟨[], ⟨2⟩⟩) (.ok none) ⟨0, 0, none, none⟩ _ _ _ _ _ _ _
    watched accepted
  rw [classifySubmissionFailure_eq_none_iff] at kept
  simp [isPoolRejection, wrapChainError, Error.errorCode, Error.text, contains] at kept

end Go

end MatterSdk
