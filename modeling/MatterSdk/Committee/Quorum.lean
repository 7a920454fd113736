import MatterSdk.Committee.Decrypt
import MatterSdk.Lib.Binary64
import MatterSdk.Lib.Shuffle

/-!
# The draw of a quorum

How the TypeScript client chooses a quorum: a partial shuffle of a copy of the nodes, with draws that
reject the words which would favour small residues.
-/

namespace MatterSdk.TypeScript.Quorum

/-- The arrays of a call: the caller's list, the copy that is shuffled, and the slice of it. -/
structure Arrays where
  available : List CommitteeNode
  pool : List CommitteeNode
  chosen : List CommitteeNode

/-- `[pool[i], pool[j]] = [pool[j], pool[i]]`, unless that writes `undefined`. -/
def Arrays.swap (a : Arrays) (i j : ℕ) : Option Arrays :=
  if i < a.pool.length ∧ j < a.pool.length then some { a with pool := Shuffle.swap a.pool i j }
  else none

section

-- `random` draws a number for its bound, from a state of its own.
variable {σ : Type} (random : ℕ → σ → ℕ × σ)

/-- The loop from step `i` on, with so many steps left. -/
def shuffle : ℕ → ℕ → Arrays → σ → Option (Arrays × σ)
  | 0, _, a, s => some (a, s)
  | left + 1, i, a, s =>
    let (r, s) := random (a.pool.length - i) s
    match a.swap i (i + r) with
    | none => none
    | some a => shuffle left (i + 1) a s

/-- `chooseQuorum`. -/
def chooseQuorum (available : List CommitteeNode) (threshold : ℕ) (s : σ) : Option (Arrays × σ) :=
  match shuffle random threshold 0 { available, pool := available, chosen := [] } s with
  | none => none
  | some (a, s) =>
    let a := { a with chosen := a.pool.take threshold }
    some ({ a with chosen := a.chosen.insertionSort fun x y => x.index ≤ y.index }, s)

end

/-- `Math.floor(0x1_0000_0000 / bound) * bound`, in double precision. -/
def limit (bound : ℕ) : ℚ := Binary64.ofRat (⌊Binary64.ofRat ((2 ^ 32 : ℕ) / bound)⌋ * bound)

section

variable {σ : Type} {random : ℕ → σ → ℕ × σ}

/-- The numbers that so many steps draw, the first of them below `bound`. -/
def drawn (random : ℕ → σ → ℕ × σ) : ℕ → ℕ → σ → List ℕ × σ
  | 0, _, s => ([], s)
  | left + 1, bound, s =>
    let (r, s) := random bound s
    let (draws, s) := drawn random left (bound - 1) s
    (r :: draws, s)

end

variable {pool : List CommitteeNode} {draws : List ℕ}

/-- No more draws are in range than there are elements. -/
theorem length_le (inRange : Shuffle.InRange pool.length draws) : draws.length ≤ pool.length := by
  by_contra more
  have last := inRange pool.length (Nat.not_le.mp more)
  omega

end MatterSdk.TypeScript.Quorum
