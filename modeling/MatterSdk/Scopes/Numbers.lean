import MatterSdk.Lib.Bitwise
import MatterSdk.Scopes.Sets

/-!
# Scope sets of numbers

The TypeScript class keeps its bits in a number, on which the bitwise operators are signed.  It does
what the Rust type does but for one comparison, of a signed with an unsigned number.
-/

namespace MatterSdk.TypeScript

/-- The class `ScopeSet`.  Its constructor leaves an unsigned number. -/
structure NumberScopeSet where
  bits : ℤ
  unsigned : Ecma.toUint32 bits = bits

namespace NumberScopeSet

theorem toUint32_toUint32 (z : ℤ) : Ecma.toUint32 (Ecma.toUint32 z) = Ecma.toUint32 z :=
  Ecma.toUint32_toNat (Ecma.toInt32 z)

/-- The constructor, `fromBits` too. -/
def fromBits (bits : ℤ) : NumberScopeSet := ⟨Ecma.toUint32 bits, toUint32_toUint32 bits⟩

def bit (scope : Scope) (access : Access) : ℤ := Ecma.shiftLeft 1 (scope.index * 2 + access.index)

/-- Every defined bit. -/
def all : NumberScopeSet := fromBits (Ecma.shiftLeft 1 (10 * 2) - 1)

variable (s other : NumberScopeSet)

/-- One grant more, the method `with`. -/
def with_ (scope : Scope) (access : Access) : NumberScopeSet :=
  fromBits (Ecma.bitOr s.bits (bit scope access))

def union : NumberScopeSet := fromBits (Ecma.bitOr s.bits other.bits)

def contains (scope : Scope) (access : Access) : Bool :=
  Ecma.bitAnd s.bits (bit scope access) != 0

def isSuperset : Bool := Ecma.bitAnd s.bits other.bits == other.bits

def isSubset : Bool := other.isSuperset s

def isEmpty : Bool := s.bits == 0

def isValid : Bool := Ecma.bitAnd s.bits (Ecma.bitNot all.bits) == 0

/-- The method `toString`. -/
def text : String :=
  if s.isEmpty then "(none)"
  else
    String.intercalate ", " (Scope.all.filterMap fun scope =>
      let r := s.contains scope .read
      let w := s.contains scope .write
      if !r && !w then none
      else some (scope.name ++ ":" ++ (if r then "r" else "") ++ (if w then "w" else "")))

/-- The set with the bits of a `u32`. -/
def ofWord (word : BitVec 32) : NumberScopeSet := fromBits word.toNat

/-! ## The operations on a word -/

theorem ofWord_bits (word : BitVec 32) : (ofWord word).bits = word.toNat :=
  Ecma.toUint32_toNat word

theorem eq_of_bits {s other : NumberScopeSet} (same : s.bits = other.bits) : s = other := by
  cases s
  cases other
  simpa using same

theorem fromBits_toInt (word : BitVec 32) : fromBits word.toInt = ofWord word := by
  apply eq_of_bits
  rw [ofWord_bits]
  exact Ecma.toUint32_toInt word

theorem toInt32_bit (scope : Scope) (access : Access) :
    Ecma.toInt32 (bit scope access) = ScopeSet.bit scope access := by
  have below : scope.index * 2 + access.index < 20 := ScopeSet.place_lt scope access
  rw [bit, Ecma.shiftLeft, Ecma.toInt32_toInt, Nat.mod_eq_of_lt (by omega)]
  rfl

variable (a b : BitVec 32)

theorem with_ofWord (scope : Scope) (access : Access) :
    (ofWord a).with_ scope access = ofWord ((ScopeSet.mk a).with_ scope access).bits := by
  rw [with_, Ecma.bitOr, ofWord_bits, Ecma.toInt32_toNat, toInt32_bit, fromBits_toInt]
  rfl

theorem union_ofWord :
    (ofWord a).union (ofWord b) = ofWord ((ScopeSet.mk a).union ⟨b⟩).bits := by
  rw [union, Ecma.bitOr, ofWord_bits, ofWord_bits, Ecma.toInt32_toNat, Ecma.toInt32_toNat,
    fromBits_toInt]
  rfl

theorem contains_ofWord (scope : Scope) (access : Access) :
    (ofWord a).contains scope access = (ScopeSet.mk a).contains scope access := by
  rw [Bool.eq_iff_iff, contains, ScopeSet.contains, bne_iff_ne, bne_iff_ne, ofWord_bits,
    Ecma.bitAnd, Ecma.toInt32_toNat, toInt32_bit, Ne, Ecma.toInt_eq_zero_iff]

theorem isEmpty_ofWord : (ofWord a).isEmpty = (ScopeSet.mk a).isEmpty := by
  rw [Bool.eq_iff_iff, isEmpty, ScopeSet.isEmpty, beq_iff_eq, beq_iff_eq, ofWord_bits]
  constructor
  · intro zero
    exact BitVec.eq_of_toNat_eq (Int.natCast_eq_zero.mp zero)
  · intro zero
    have zero : a = 0 := zero
    rw [zero]
    rfl

theorem bitNot_all : Ecma.toInt32 (Ecma.bitNot all.bits) = ~~~ ScopeSet.all.bits := by
  rw [Ecma.bitNot, Ecma.toInt32_toInt]
  decide

theorem isValid_ofWord : (ofWord a).isValid = (ScopeSet.mk a).isValid := by
  rw [Bool.eq_iff_iff, isValid, ScopeSet.isValid, beq_iff_eq, beq_iff_eq, Ecma.bitAnd, ofWord_bits,
    Ecma.toInt32_toNat, bitNot_all, Ecma.toInt_eq_zero_iff]

theorem text_ofWord : (ofWord a).text = (ScopeSet.mk a).text := by
  have empty : (ofWord a).isEmpty = true ↔ a = 0 := by
    rw [isEmpty_ofWord, ScopeSet.isEmpty, beq_iff_eq]
  rw [text, ScopeSet.text]
  simp only [empty, contains_ofWord]

/-- A superset is told as the word says, unless the sign bit is set. -/
theorem isSuperset_ofWord :
    (ofWord a).isSuperset (ofWord b) = true ↔
      (ScopeSet.mk a).isSuperset ⟨b⟩ = true ∧ b.msb = false := by
  rw [isSuperset, ScopeSet.isSuperset, beq_iff_eq, beq_iff_eq, ofWord_bits, ofWord_bits,
    Ecma.bitAnd, Ecma.toInt32_toNat, Ecma.toInt32_toNat, Ecma.toInt_eq_toNat_iff]

/-! ## When they agree -/

/-- The operations on two words give what the Rust type gives. -/
structure Agrees (a b : BitVec 32) : Prop where
  isSuperset : (ofWord a).isSuperset (ofWord b) = (ScopeSet.mk a).isSuperset ⟨b⟩
  isSubset : (ofWord a).isSubset (ofWord b) = (ScopeSet.mk a).isSubset ⟨b⟩
  union : ((ofWord a).union (ofWord b)).bits = ((ScopeSet.mk a).union ⟨b⟩).bits.toNat
  with_ : ∀ scope access, ((ofWord a).with_ scope access).bits =
    ((ScopeSet.mk a).with_ scope access).bits.toNat
  contains : ∀ scope access,
    (ofWord a).contains scope access = (ScopeSet.mk a).contains scope access
  isEmpty : (ofWord a).isEmpty = (ScopeSet.mk a).isEmpty
  isValid : (ofWord a).isValid = (ScopeSet.mk a).isValid
  text : (ofWord a).text = (ScopeSet.mk a).text

/-- On two words, `isSuperset` is an order with `union` as the least upper bound. -/
structure Ordered (a b : BitVec 32) : Prop where
  refl : (ofWord a).isSuperset (ofWord a) = true ∧ (ofWord b).isSuperset (ofWord b) = true
  antisymm : (ofWord a).isSuperset (ofWord b) = true → (ofWord b).isSuperset (ofWord a) = true →
    a = b
  trans : ∀ c, (ofWord a).isSuperset (ofWord b) = true → (ofWord b).isSuperset (ofWord c) = true →
    (ofWord a).isSuperset (ofWord c) = true
  upper : ((ofWord a).union (ofWord b)).isSuperset (ofWord a) = true ∧
    ((ofWord a).union (ofWord b)).isSuperset (ofWord b) = true
  least : ∀ c, (ofWord c).isSuperset (ofWord a) = true → (ofWord c).isSuperset (ofWord b) = true →
    (ofWord c).isSuperset ((ofWord a).union (ofWord b)) = true

/-- Neither word holds the other along with a sign bit of the other's. -/
def SignApart (a b : BitVec 32) : Prop :=
  ¬ ((ScopeSet.mk a).isSuperset ⟨b⟩ = true ∧ b.msb = true) ∧
    ¬ ((ScopeSet.mk b).isSuperset ⟨a⟩ = true ∧ a.msb = true)

theorem isSuperset_eq_iff : (ofWord a).isSuperset (ofWord b) = (ScopeSet.mk a).isSuperset ⟨b⟩ ↔
    ¬ ((ScopeSet.mk a).isSuperset ⟨b⟩ = true ∧ b.msb = true) := by
  have told := isSuperset_ofWord a b
  rw [Bool.eq_iff_iff, told]
  cases b.msb <;> simp

theorem agrees_iff : Agrees a b ↔ SignApart a b := by
  constructor
  · intro agrees
    exact ⟨(isSuperset_eq_iff a b).mp agrees.isSuperset, (isSuperset_eq_iff b a).mp agrees.isSubset⟩
  · rintro ⟨superset, subset⟩
    exact {
      isSuperset := (isSuperset_eq_iff a b).mpr superset
      isSubset := (isSuperset_eq_iff b a).mpr subset
      union := by rw [union_ofWord, ofWord_bits]
      with_ := fun scope access => by rw [with_ofWord, ofWord_bits]
      contains := contains_ofWord a
      isEmpty := isEmpty_ofWord a
      isValid := isValid_ofWord a
      text := text_ofWord a }

theorem isSuperset_union_left : ((ScopeSet.mk a).union ⟨b⟩).isSuperset ⟨a⟩ = true := by
  rw [ScopeSet.isSuperset_iff]
  intro i held
  rw [ScopeSet.union, BitVec.getLsbD_or, held, Bool.true_or]

theorem isSuperset_union_right : ((ScopeSet.mk a).union ⟨b⟩).isSuperset ⟨b⟩ = true := by
  rw [ScopeSet.isSuperset_iff]
  intro i held
  rw [ScopeSet.union, BitVec.getLsbD_or, held, Bool.or_true]

theorem isSuperset_self : (ScopeSet.mk a).isSuperset ⟨a⟩ = true :=
  (ScopeSet.isSuperset_iff ⟨a⟩ ⟨a⟩).mpr fun _ held => held

theorem eq_of_isSuperset (left : (ScopeSet.mk a).isSuperset ⟨b⟩ = true)
    (right : (ScopeSet.mk b).isSuperset ⟨a⟩ = true) : a = b := by
  rw [ScopeSet.isSuperset_iff] at left right
  exact BitVec.eq_of_getLsbD_eq fun i _ => Bool.eq_iff_iff.mpr ⟨right i, left i⟩

theorem isSuperset_union {a b c : BitVec 32} (left : (ScopeSet.mk c).isSuperset ⟨a⟩ = true)
    (right : (ScopeSet.mk c).isSuperset ⟨b⟩ = true) :
    (ScopeSet.mk c).isSuperset ((ScopeSet.mk a).union ⟨b⟩) = true := by
  rw [ScopeSet.isSuperset_iff] at left right ⊢
  intro i held
  rw [ScopeSet.union, BitVec.getLsbD_or, Bool.or_eq_true] at held
  exact held.elim (left i) (right i)

theorem ordered_iff : Ordered a b ↔ a.msb = false ∧ b.msb = false := by
  constructor
  · intro ordered
    exact ⟨((isSuperset_ofWord a a).mp ordered.refl.1).2,
      ((isSuperset_ofWord b b).mp ordered.refl.2).2⟩
  · rintro ⟨clear_a, clear_b⟩
    have clear : ((ScopeSet.mk a).union ⟨b⟩).bits.msb = false := by
      rw [ScopeSet.union, BitVec.msb_or, clear_a, clear_b, Bool.or_false]
    refine ⟨⟨?_, ?_⟩, ?_, ?_, ⟨?_, ?_⟩, ?_⟩
    · exact (isSuperset_ofWord a a).mpr ⟨isSuperset_self a, clear_a⟩
    · exact (isSuperset_ofWord b b).mpr ⟨isSuperset_self b, clear_b⟩
    · intro left right
      exact eq_of_isSuperset a b ((isSuperset_ofWord a b).mp left).1
        ((isSuperset_ofWord b a).mp right).1
    · intro c left right
      obtain ⟨covers, -⟩ := (isSuperset_ofWord a b).mp left
      obtain ⟨covers', clear_c⟩ := (isSuperset_ofWord b c).mp right
      rw [ScopeSet.isSuperset_iff] at covers covers'
      refine (isSuperset_ofWord a c).mpr ⟨?_, clear_c⟩
      exact (ScopeSet.isSuperset_iff _ _).mpr fun i held => covers i (covers' i held)
    · rw [union_ofWord]
      exact (isSuperset_ofWord _ a).mpr ⟨isSuperset_union_left a b, clear_a⟩
    · rw [union_ofWord]
      exact (isSuperset_ofWord _ b).mpr ⟨isSuperset_union_right a b, clear_b⟩
    · intro c left right
      rw [union_ofWord]
      exact (isSuperset_ofWord c _).mpr ⟨isSuperset_union ((isSuperset_ofWord c a).mp left).1
        ((isSuperset_ofWord c b).mp right).1, clear⟩

/-- On two words the class does what the Rust type does, with the laws of an order, iff no sign bit is
set; the operations alone agree wherever no sign bit is compared. -/
theorem scopeNumbers_agree_iff :
    (Agrees a b ∧ Ordered a b ↔ a.msb = false ∧ b.msb = false) ∧
      (Agrees a b ↔ SignApart a b) := by
  refine ⟨?_, agrees_iff a b⟩
  rw [agrees_iff, ordered_iff]
  constructor
  · exact fun both => both.2
  · rintro ⟨clear_a, clear_b⟩
    refine ⟨⟨fun sign => ?_, fun sign => ?_⟩, clear_a, clear_b⟩
    · rw [clear_b] at sign
      cases sign.2
    · rw [clear_a] at sign
      cases sign.2

/-- A set with bit 31 is no superset of itself, where the Rust type says that it is. -/
theorem scopeNumbers_signBit : ¬ ∀ a b, Agrees a b ∧ Ordered a b := fun all =>
  absurd (all 0x80000000 0x80000000).1.isSuperset (by decide)

end NumberScopeSet

end MatterSdk.TypeScript
