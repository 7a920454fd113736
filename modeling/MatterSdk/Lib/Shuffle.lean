import Mathlib.Algebra.BigOperators.Fin
import Mathlib.Data.Nat.Factorial.Basic
import Mathlib.Data.Set.Card

/-!
# Partial shuffles

The first steps of a Fisher–Yates shuffle: each draw picks one of the elements that are left and brings
it to the next place.  Over all draws, every set of elements comes first equally often.
-/

namespace Shuffle

variable {α : Type*}

/-- Exchange two elements. -/
def swap (l : List α) (i j : ℕ) : List α :=
  match l[i]?, l[j]? with
  | some a, some b => (l.set i b).set j a
  | _, _ => l

/-- The steps from place `i` on, one for each draw. -/
def steps (l : List α) (i : ℕ) : List ℕ → List α
  | [] => l
  | r :: draws => steps (swap l i (i + r)) (i + 1) draws

/-- The elements that the draws bring to the front. -/
def taken (l : List α) (draws : List ℕ) : List α := (steps l 0 draws).take draws.length

/-- The draw of each step is below the number of elements left. -/
def InRange (n : ℕ) (draws : List ℕ) : Prop :=
  ∀ i (inside : i < draws.length), draws[i] < n - i

section

variable [DecidableEq α]

/-- Whether the draws take just the set, as a count. -/
def hits (l : List α) (S : Finset α) (draws : List ℕ) : ℕ :=
  if (taken l draws).toFinset = S then 1 else 0

end

end Shuffle
