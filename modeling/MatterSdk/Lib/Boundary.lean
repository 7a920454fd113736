import Mathlib.Data.Nat.Notation

/-!
# Calls across a boundary

A body runs over the value of an out-parameter and may panic; at the boundary a panic becomes a code,
and what the body wrote stays.  A contract says what a wrapper is to answer, by how the wrapped call
ended.
-/

namespace Boundary

/-- How a call ends. -/
inductive Outcome (α ε : Type) where
  | value (a : α)
  | error (e : ε)
  | panic

def Outcome.ofExcept {α ε : Type} : Except ε α → Outcome α ε
  | .ok a => .value a
  | .error e => .error e

/-- Code over a state; what it wrote before a panic stays. -/
abbrev Body (σ : Type) := ExceptT Unit (StateM σ)

def call {σ α ε : Type} : Outcome α ε → Body σ (Except ε α)
  | .value a => pure (.ok a)
  | .error e => pure (.error e)
  | .panic => throw ()

/-- The call of a function that has no errors. -/
def callTotal {σ α : Type} : Outcome α Empty → Body σ α
  | .value a => pure a
  | .panic => throw ()

def catchPanic {σ γ : Type} (internal : γ) (body : Body σ γ) (s : σ) : γ × σ :=
  match body s with
  | (.ok code, s') => (code, s')
  | (.error (), s') => (internal, s')

/-- The codes of every wrapper; only success has `ok`. -/
structure Codes (γ : Type) where
  ok : γ
  invalid : γ
  internal : γ
  invalid_ne : invalid ≠ ok
  internal_ne : internal ≠ ok

/-- What a call stands for: how the wrapped function ended, or nothing if the arguments are refused,
and how that is put into a code and an out-parameter. -/
structure Contract {γ : Type} (codes : Codes γ) (β : Type) where
  Value : Type
  Error : Type
  outcome : Option (Outcome Value Error)
  status : Error → γ
  status_ne : ∀ e, status e ≠ codes.ok
  empty : β
  hold : Value → β

namespace Contract

variable {γ β : Type} {codes : Codes γ} (contract : Contract codes β)

def answer : γ × β :=
  match contract.outcome with
  | none => (codes.invalid, contract.empty)
  | some (.value v) => (codes.ok, contract.hold v)
  | some (.error e) => (contract.status e, contract.empty)
  | some .panic => (codes.internal, contract.empty)

variable {contract}

theorem answer_of_none (refused : contract.outcome = none) :
    contract.answer = (codes.invalid, contract.empty) := by
  unfold answer
  rw [refused]

theorem answer_of_value {v : contract.Value} (ended : contract.outcome = some (.value v)) :
    contract.answer = (codes.ok, contract.hold v) := by
  unfold answer
  rw [ended]

/-- The code is that of success just if the wrapped function returned a value. -/
theorem answer_ok_iff :
    contract.answer.1 = codes.ok ↔ ∃ v, contract.outcome = some (.value v) := by
  constructor
  · intro succeeded
    unfold answer at succeeded
    split at succeeded
    · exact absurd succeeded codes.invalid_ne
    · rename_i v ended
      exact ⟨v, ended⟩
    · exact absurd succeeded (contract.status_ne _)
    · exact absurd succeeded codes.internal_ne
  · rintro ⟨v, ended⟩
    rw [answer_of_value ended]

theorem answer_cleared (failed : contract.answer.1 ≠ codes.ok) :
    contract.answer.2 = contract.empty := by
  unfold answer at failed ⊢
  split at failed
  · rfl
  · exact absurd rfl failed
  · rfl
  · rfl

end Contract

end Boundary
