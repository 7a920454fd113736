import MatterSdk.Errors

/-!
# Scope sets

The permissions of a member-tied key: for each interaction group a read bit and a write bit, held in
a `u32`.  `grants` is the set of pairs that a `ScopeSet` stands for, and the operations on words are
those on sets.
-/

namespace MatterSdk

/-- An interaction group a key may be permissioned for. -/
inductive Scope where
  | deployments
  | collaborations
  | secrets
  | volumes
  | datasets
  | networking
  | resources
  | organization
  | billing
  | communities
deriving DecidableEq, Repr

namespace Scope

/-- The discriminant, which is the index of the scope's pair of bits. -/
def index : Scope → ℕ
  | deployments => 0
  | collaborations => 1
  | secrets => 2
  | volumes => 3
  | datasets => 4
  | networking => 5
  | resources => 6
  | organization => 7
  | billing => 8
  | communities => 9

/-- Every scope, in discriminant order. -/
def all : List Scope :=
  [deployments, collaborations, secrets, volumes, datasets, networking, resources, organization,
    billing, communities]

/-- The lowercase wire name. -/
def name : Scope → String
  | deployments => "deployments"
  | collaborations => "collaborations"
  | secrets => "secrets"
  | volumes => "volumes"
  | datasets => "datasets"
  | networking => "networking"
  | resources => "resources"
  | organization => "organization"
  | billing => "billing"
  | communities => "communities"

theorem index_lt (scope : Scope) : scope.index < 10 := by
  cases scope <;> decide

theorem index_injective {a b : Scope} (same : a.index = b.index) : a = b := by
  cases a <;> cases b <;> first | rfl | cases same

end Scope

/-- The half of a scope that a key is granted. -/
inductive Access where
  | read
  | write
deriving DecidableEq, Repr

def Access.index : Access → ℕ
  | .read => 0
  | .write => 1

theorem Access.index_lt (access : Access) : access.index < 2 := by
  cases access <;> decide

theorem Access.index_injective {a b : Access} (same : a.index = b.index) : a = b := by
  cases a <;> cases b <;> first | rfl | cases same

namespace ScopeSet

/-- No grants. -/
def empty : ScopeSet := ⟨0⟩

/-- Every defined bit. -/
def all : ScopeSet := ⟨(1 <<< (10 * 2)) - 1⟩

/-- The position of a grant's bit. -/
def place (scope : Scope) (access : Access) : ℕ := scope.index * 2 + access.index

def bit (scope : Scope) (access : Access) : BitVec 32 := 1#32 <<< place scope access

/-- The set of exactly one grant. -/
def single (scope : Scope) (access : Access) : ScopeSet := ⟨bit scope access⟩

/-- One grant more. -/
def with_ (s : ScopeSet) (scope : Scope) (access : Access) : ScopeSet := ⟨s.bits ||| bit scope access⟩

/-- The grants of both sets. -/
def union (s other : ScopeSet) : ScopeSet := ⟨s.bits ||| other.bits⟩

def contains (s : ScopeSet) (scope : Scope) (access : Access) : Bool :=
  s.bits &&& bit scope access != 0

/-- Whether every bit of `other` is also in `s`. -/
def isSuperset (s other : ScopeSet) : Bool := s.bits &&& other.bits == other.bits

/-- Whether every bit of `s` is also in `other`. -/
def isSubset (s other : ScopeSet) : Bool := other.isSuperset s

/-- Whether the set grants nothing. -/
def isEmpty (s : ScopeSet) : Bool := s.bits == 0

/-- Whether every set bit is a defined one. -/
def isValid (s : ScopeSet) : Bool := s.bits &&& ~~~ all.bits == 0

/-- `deployments:rw, secrets:r`, in discriminant order; empty is `(none)`. -/
def text (s : ScopeSet) : String :=
  if s.bits = 0 then "(none)"
  else
    String.intercalate ", " (Scope.all.filterMap fun scope =>
      let r := s.contains scope .read
      let w := s.contains scope .write
      if !r && !w then none
      else some (scope.name ++ ":" ++ (if r then "r" else "") ++ (if w then "w" else "")))

/-- The grants that a set holds. -/
def grants (s : ScopeSet) : Set (Scope × Access) := {g | s.contains g.1 g.2 = true}

theorem place_lt (scope : Scope) (access : Access) : place scope access < 20 := by
  have := scope.index_lt
  have := access.index_lt
  unfold place
  omega

theorem place_injective {scope scope' : Scope} {access access' : Access}
    (same : place scope access = place scope' access') : scope = scope' ∧ access = access' := by
  have := access.index_lt
  have := access'.index_lt
  unfold place at same
  exact ⟨Scope.index_injective (by omega), Access.index_injective (by omega)⟩

theorem getLsbD_bit (scope : Scope) (access : Access) (i : ℕ) :
    (bit scope access).getLsbD i = decide (i = place scope access) := by
  have below := place_lt scope access
  unfold bit
  by_cases here : i = place scope access
  · subst here
    simp
    omega
  · simp only [BitVec.getLsbD_shiftLeft, BitVec.getLsbD_one, here, decide_false]
    grind

theorem contains_iff (s : ScopeSet) (scope : Scope) (access : Access) :
    s.contains scope access = true ↔ s.bits.getLsbD (place scope access) = true := by
  have below := place_lt scope access
  simp only [contains, bne_iff_ne, ne_eq]
  constructor
  · intro nonzero
    by_contra clear
    refine nonzero (BitVec.eq_of_getLsbD_eq fun i _ => ?_)
    by_cases here : i = place scope access
    · simp [here, clear]
    · simp [getLsbD_bit, here]
  · intro set_ zero
    have := congrArg (fun v => v.getLsbD (place scope access)) zero
    simp [getLsbD_bit, set_] at this

theorem mem_grants_iff (s : ScopeSet) (g : Scope × Access) :
    g ∈ s.grants ↔ s.bits.getLsbD (place g.1 g.2) = true :=
  contains_iff s g.1 g.2

theorem isSuperset_iff (s other : ScopeSet) :
    s.isSuperset other = true ↔ ∀ i, other.bits.getLsbD i = true → s.bits.getLsbD i = true := by
  simp only [isSuperset, beq_iff_eq]
  constructor
  · intro same i set_
    rw [← same] at set_
    simp only [BitVec.getLsbD_and, Bool.and_eq_true] at set_
    exact set_.1
  · intro covers
    refine BitVec.eq_of_getLsbD_eq fun i _ => ?_
    cases here : other.bits.getLsbD i with
    | false => simp [here]
    | true => simp [here, covers i here]

/-- A superset grants all that the other set grants. -/
theorem grants_subset_of_isSuperset {s other : ScopeSet} (covers : s.isSuperset other = true) :
    other.grants ⊆ s.grants := by
  intro g held
  rw [mem_grants_iff] at held ⊢
  exact (isSuperset_iff s other).mp covers _ held

@[simp] theorem grants_single (scope : Scope) (access : Access) :
    (single scope access).grants = {(scope, access)} := by
  ext ⟨scope', access'⟩
  simp only [mem_grants_iff, single, getLsbD_bit, decide_eq_true_eq, Set.mem_singleton_iff,
    Prod.mk.injEq]
  constructor
  · exact place_injective
  · rintro ⟨rfl, rfl⟩
    rfl

@[simp] theorem grants_with_ (s : ScopeSet) (scope : Scope) (access : Access) :
    (s.with_ scope access).grants = s.grants ∪ {(scope, access)} := by
  ext g
  have one := Set.ext_iff.mp (grants_single scope access) g
  rw [mem_grants_iff] at one
  simp only [Set.mem_union, mem_grants_iff, with_, BitVec.getLsbD_or, Bool.or_eq_true]
  rw [← one]
  rfl

theorem exists_place {i : ℕ} (below : i < 20) : ∃ scope access, place scope access = i := by
  have listed : ∀ i < 20, ∃ scope ∈ Scope.all, ∃ access ∈ [Access.read, .write],
      place scope access = i := by decide
  obtain ⟨scope, -, access, -, here⟩ := listed i below
  exact ⟨scope, access, here⟩

theorem getLsbD_all (i : ℕ) : all.bits.getLsbD i = decide (i < 20) := by
  show (BitVec.ofNat 32 (2 ^ 20 - 1)).getLsbD i = _
  rw [BitVec.getLsbD_ofNat, Nat.testBit_two_pow_sub_one]
  by_cases below : i < 20
  · simp only [below, decide_true, Bool.and_true, decide_eq_true_eq]
    omega
  · simp [below]

theorem isValid_iff (s : ScopeSet) :
    s.isValid = true ↔ ∀ i, s.bits.getLsbD i = true → i < 20 := by
  simp only [isValid, beq_iff_eq]
  constructor
  · intro clear i set_
    by_contra above
    have bound : i < 32 := BitVec.lt_of_getLsbD set_
    have zero : (s.bits &&& ~~~ all.bits).getLsbD i = false := by
      rw [clear]
      simp
    rw [BitVec.getLsbD_and, BitVec.getLsbD_not, getLsbD_all, set_] at zero
    simp [above, bound] at zero
  · intro below
    refine BitVec.eq_of_getLsbD_eq fun i bound => ?_
    cases here : s.bits.getLsbD i with
    | false => simp [here]
    | true => simp [here, getLsbD_all, below i here, bound]

theorem all_isSuperset (s : ScopeSet) (valid : s.isValid = true) : all.isSuperset s = true := by
  rw [isSuperset_iff]
  intro i set_
  simp [getLsbD_all, (isValid_iff s).mp valid i set_]

/-- Of defined bits, words and sets of grants agree on what is a superset. -/
theorem isSuperset_iff_grants (s : ScopeSet) {other : ScopeSet} (valid : other.isValid = true) :
    s.isSuperset other = true ↔ other.grants ⊆ s.grants := by
  constructor
  · exact grants_subset_of_isSuperset
  · intro subset
    rw [isSuperset_iff]
    intro i set_
    obtain ⟨scope, access, rfl⟩ := exists_place ((isValid_iff other).mp valid i set_)
    exact (mem_grants_iff s (scope, access)).mp (subset ((mem_grants_iff _ _).mpr set_))

theorem isValid_single (scope : Scope) (access : Access) : (single scope access).isValid = true := by
  rw [isValid_iff]
  intro i set_
  rw [single, getLsbD_bit, decide_eq_true_eq] at set_
  exact set_ ▸ place_lt scope access

theorem isValid_with_ {s : ScopeSet} (valid : s.isValid = true) (scope : Scope) (access : Access) :
    (s.with_ scope access).isValid = true := by
  rw [isValid_iff] at valid ⊢
  intro i set_
  simp only [with_, BitVec.getLsbD_or, Bool.or_eq_true, getLsbD_bit, decide_eq_true_eq] at set_
  rcases set_ with set_ | here
  · exact valid i set_
  · exact here ▸ place_lt scope access

end ScopeSet

end MatterSdk
