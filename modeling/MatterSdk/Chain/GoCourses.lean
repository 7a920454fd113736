import Mathlib.Data.List.Infix
import MatterSdk.Chain.Attribution
import MatterSdk.Chain.GoClient

/-!
# What becomes of the Go client's calls

`Tx` and `TxAndWait` of the Go client decide from bytes and error texts what to tell.  Here the course
of a call is read off the chain itself, from the node's answer to the submission and from the records
of the block in which a poll sees the extrinsic, and the client is shown to tell it.
-/

namespace MatterSdk.Go

/-! ## Courses -/

section

variable {δ φ : Type}

/-- What a record of a wrapped call says of it. -/
def Record.report (r : Record δ φ) : Report := if r.dispatchError.isSome then .err else .ok

variable {codec : Decoder δ φ}

/-- What the extrinsic's own records say of wrapped calls. -/
def EventVector.reports (v : EventVector codec) (index : ℕ) : List Report :=
  ((v.own index).filter (·.IsProxyExecuted)).map Record.report

/-- A poll that is made sees a block as the head that holds the extrinsic once. -/
structure World.Lands (w : World) (timeout : ℤ) (encoded : String) (i head k : ℕ) : Prop where
  made : w.Made timeout encoded i
  sees : (w.polls i).Sees head
  located : ∀ k', w.LocatedAt encoded head k' ↔ k' = k

/-- No poll that is made sees a chain with the extrinsic in it. -/
def World.Misses (w : World) (timeout : ℤ) (encoded : String) : Prop :=
  ∀ i head block, w.Made timeout encoded i → (w.polls i).Sees head → block ≤ head →
    ¬ w.Holds encoded block

/-- What the node and the chain say of an extrinsic that is submitted, and perhaps waited for. -/
inductive Backend.Befalls (b : Backend δ φ) (timeout : ℤ) (encoded : String) :
    Bool → Session.Course → Prop where
  | refused {wait : Bool} {err : Foreign} (answer : b.author encoded = .error err)
    (refusal : err.val.Refusal) : b.Befalls timeout encoded wait (.refused true)
  | rejected {wait : Bool} {err : Foreign} (answer : b.author encoded = .error err)
    (other : ¬ err.val.Refusal) : b.Befalls timeout encoded wait (.refused false)
  | accepted {txHash : String} (answer : b.author encoded = .ok txHash) :
    b.Befalls timeout encoded false .accepted
  | expired {txHash : String} (answer : b.author encoded = .ok txHash)
    (misses : b.world.Misses timeout encoded) : b.Befalls timeout encoded true .expired
  /-- The node does not give the metadata, or the events of the block. -/
  | unread {txHash : String} {i head k : ℕ} (answer : b.author encoded = .ok txHash)
    (lands : b.world.Lands timeout encoded i head k)
    (unread : (∃ e, b.registry = .error e) ∨ ∃ e, (b.world.polls i).events head = .error e) :
    b.Befalls timeout encoded true .lost
  | failed {txHash : String} {i head k : ℕ} {codec : Decoder δ φ} {v : EventVector codec} {d : δ}
    (answer : b.author encoded = .ok txHash) (lands : b.world.Lands timeout encoded i head k)
    (registry : b.registry = .ok codec) (events : (b.world.polls i).events head = .ok v.raw)
    (failure : ∃ r ∈ v.own k, r.IsExtrinsicFailed)
    (one : ∀ r ∈ v.own k, r.IsExtrinsicFailed → r.dispatchError = some d) :
    b.Befalls timeout encoded true (.failed (b.findError d = some ("Proxy", "NotProxy")))
  | ran {txHash : String} {i head k : ℕ} {codec : Decoder δ φ} {v : EventVector codec}
    (answer : b.author encoded = .ok txHash) (lands : b.world.Lands timeout encoded i head k)
    (registry : b.registry = .ok codec) (events : (b.world.polls i).events head = .ok v.raw)
    (unfailed : ∀ r ∈ v.own k, ¬ r.IsExtrinsicFailed) :
    b.Befalls timeout encoded true (.ran (v.reports k))

end

/-- A call by `TxAndWait`, or by `Tx`. -/
structure Request (δ φ : Type) where
  wait : Bool
  call : Call
  backend : Backend δ φ

section

variable {δ φ : Type} (lib : Library δ) (signer : Signer)

/-- What becomes of a call of a client that holds this delegation. -/
inductive Request.Befalls (held : Option Delegation) (r : Request δ φ) : Session.Course → Prop where
  | unprepared {err : Error} (failed : prepare r.backend held r.call = .error err) :
    r.Befalls held .lost
  | unassembled {outgoing : Outgoing} {err : Error}
    (prepared : prepare r.backend held r.call = .ok outgoing)
    (failed : assemble lib r.backend signer outgoing = .error err) : r.Befalls held .lost
  | sent {outgoing : Outgoing} {encoded : String} {course : Session.Course}
    (prepared : prepare r.backend held r.call = .ok outgoing)
    (assembled : assemble lib r.backend signer outgoing = .ok encoded)
    (befalls : r.backend.Befalls (effectiveTimeout lib.timeout) encoded r.wait course) :
    r.Befalls held course

/-- Only a refusal at validation looks like one, if the grant can be read again. -/
def Request.Plain (held : Option Delegation) (r : Request δ φ) : Prop :=
  ∀ outgoing, prepare r.backend held r.call = .ok outgoing →
    let assembled := assemble lib r.backend signer outgoing
    let author := fun encoded => seen (r.backend.author encoded)
    let telltale := Telltale (Refused assembled author) held (seen r.backend.lookup)
    if r.wait then
      ∀ err, submitAndWatch r.backend.registry lib.duration r.backend.world assembled author
        lib.timeout = .error err → telltale err
    else ∀ err, submitCall assembled author = .error err → telltale err

/-- How the call ends, and the delegation held afterwards. -/
def Request.serve (held : Option Delegation) (r : Request δ φ) :
    Session.Outcome × Option Delegation :=
  if r.wait then
    let out := txAndWait lib r.backend signer held r.call
    (out.outcome, out.held)
  else
    let out := tx lib r.backend signer held r.call
    (out.outcome, out.held)

def serve (held : Option Delegation) : List (Request δ φ) → List Session.Outcome
  | [] => []
  | r :: rest =>
    let out := r.serve lib signer held
    out.1 :: serve out.2 rest

/-- Calls one after the other, each with the delegation that is held before it. -/
def calls (held : Option Delegation) : List (Request δ φ) → List (Option Delegation × Request δ φ)
  | [] => []
  | r :: rest => (held, r) :: calls (r.serve lib signer held).2 rest

end

/-! ## Errors -/

theorem contains_append {tail marker : String} (found : contains tail marker = true) (head : String) :
    contains (head ++ tail) marker = true := by
  unfold contains at found ⊢
  rw [List.any_eq_true] at found ⊢
  obtain ⟨rest, mem, starts⟩ := found
  refine ⟨rest, ?_, starts⟩
  rw [List.mem_tails] at mem ⊢
  rw [String.toList_append]
  exact List.suffix_append_of_suffix mem

/-- The error of a submission that was refused looks like a refusal. -/
theorem Error.Refusal.isPoolRejection {e err : Error} (refusal : e.Refusal)
    (code : err.errorCode = e.errorCode) (text : err.text = "submit extrinsic: " ++ e.text) :
    isPoolRejection err = true := by
  obtain ⟨number, coded, told⟩ := refusal
  unfold Go.isPoolRejection
  rw [code, coded, text]
  rcases told with rfl | pay | invalid
  · simp
  · simp [contains_append pay]
  · simp [contains_append invalid]

section

variable {δ φ : Type} {lib : Library δ} {b : Backend δ φ} {signer : Signer}
  {held : Option Delegation} {err : Error}

end

/-! ## Records -/

section

variable {δ φ : Type} {codec : Decoder δ φ} {d : δ}

variable {lib : Library δ} {b : Backend δ φ} {held : Option Delegation} {call : Call}

end

/-! ## One call -/

section

variable {δ φ : Type} {lib : Library δ} {b : Backend δ φ} {signer : Signer}
  {held : Option Delegation}

theorem World.Lands.found {w : World} {timeout : ℤ} {encoded : String} {i head k : ℕ}
    (lands : w.Lands timeout encoded i head k) :
    findExtrinsic w.toChain none head encoded = .ok (some k) := by
  obtain ⟨k', found⟩ := exists_findExtrinsic ⟨k, (lands.located k).mpr rfl⟩
  rw [found, (lands.located k').mp (locatedAt_of_findExtrinsic found)]

end

end MatterSdk.Go
