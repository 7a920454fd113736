import MatterSdk.Lib.Compact

/-!
# SCALE

Codecs of the SCALE format, built from words of fixed size and compact lengths by sequencing: the
second part may depend on the first, as an item does on a tag and a vector on its length.  A codec
carries its laws: an encoding is taken off the front of what follows it and cannot be cut short, and
nothing but an encoding is decoded.
-/

universe u v w

/-- `Valid` holds of the values that can be encoded. -/
structure Scale (α : Type u) where
  Valid : α → Prop
  encode : α → List UInt8
  decode : Reader String UInt8 α
  decodes : ∀ a, Valid a → Reader.Decodes decode (encode a) a
  sound : ∀ s a rest, decode s = .ok (a, rest) → Valid a ∧ s = encode a ++ rest

namespace Scale

variable {α : Type u} {β : Type v} {γ : Type w}

/-- The reader takes the encodings of the codec for what they encode. -/
def Follows (r : Reader String UInt8 α) (c : Scale α) : Prop :=
  ∀ a, c.Valid a → Reader.Decodes r (c.encode a) a

/-! ## Parts -/

/-- `n` bytes. -/
def word (n : ℕ) : Scale (List UInt8) where
  Valid w := w.length = n
  encode w := w
  decode := Reader.take "EOF" n
  decodes _ length := Reader.decodes_take "EOF" length
  sound s a rest decoded := by
    unfold Reader.take at decoded
    split_ifs at decoded with short
    cases decoded
    refine ⟨?_, (List.take_append_drop n s).symm⟩
    rw [List.length_take]
    omega

/-- The empty encoding of one value. -/
def unit (a : α) : Scale α where
  Valid b := b = a
  encode _ := []
  decode := Reader.pure a
  decodes _ same := same ▸ Reader.decodes_pure a
  sound s b rest decoded := by
    cases decoded
    exact ⟨rfl, rfl⟩

/-- No value at all. -/
def never (e : String) : Scale α where
  Valid _ := False
  encode _ := []
  decode := Reader.fail e
  decodes _ none_ := none_.elim
  sound _ _ _ decoded := by cases decoded

theorem Follows.mapped {r : Reader String UInt8 α} {c : Scale α} (follows : Follows r c)
    (f : α → β) {g : β → α} {b : β} (valid : c.Valid (g b) ∧ f (g b) = b) :
    Reader.Decodes (r.bind fun a => Reader.pure (f a)) (c.encode (g b)) b := by
  have last : Reader.Decodes (Reader.pure (f (g b)) : Reader String UInt8 β) [] b := by
    rw [valid.2]
    exact Reader.decodes_pure b
  exact (follows (g b) valid.1).bind_last last

/-- The same encoding, of other values. -/
def map (c : Scale α) (f : α → β) (g : β → α) (left : ∀ a, g (f a) = a) : Scale β where
  Valid b := c.Valid (g b) ∧ f (g b) = b
  encode b := c.encode (g b)
  decode := c.decode.bind fun a => Reader.pure (f a)
  decodes _ valid := Follows.mapped c.decodes f valid
  sound s b rest decoded := by
    obtain ⟨a, middle, first, last⟩ := Reader.bind_eq_ok_iff.mp decoded
    cases last
    obtain ⟨valid, whole⟩ := c.sound s a rest first
    rw [left a]
    exact ⟨⟨valid, rfl⟩, whole⟩

theorem Follows.map {r : Reader String UInt8 α} {c : Scale α} (follows : Follows r c) (f : α → β)
    (g : β → α) (left : ∀ a, g (f a) = a) :
    Follows (r.bind fun a => Reader.pure (f a)) (c.map f g left) :=
  fun _ valid => follows.mapped f valid

/-- A part, and what follows it; the part is the `key` of the whole. -/
def dep (c : Scale α) (key : β → α) (d : α → Scale β) (keyed : ∀ a b, (d a).Valid b → key b = a) :
    Scale β where
  Valid b := c.Valid (key b) ∧ (d (key b)).Valid b
  encode b := c.encode (key b) ++ (d (key b)).encode b
  decode := c.decode.bind fun a => (d a).decode
  decodes b valid := (c.decodes (key b) valid.1).bind ((d (key b)).decodes b valid.2)
  sound s b rest decoded := by
    obtain ⟨a, middle, first, second⟩ := Reader.bind_eq_ok_iff.mp decoded
    obtain ⟨valid, whole⟩ := c.sound s a middle first
    obtain ⟨valid', whole'⟩ := (d a).sound middle b rest second
    obtain rfl := keyed a b valid'
    refine ⟨⟨valid, valid'⟩, ?_⟩
    rw [whole, whole', List.append_assoc]

def items (c : Scale α) (n : ℕ) : Reader String UInt8 (List α) :=
  Reader.traverse (fun _ => c.decode) (List.replicate n ())

theorem Follows.items {r : Reader String UInt8 α} {c : Scale α} (each : Follows r c) :
    ∀ l : List α, (∀ a ∈ l, c.Valid a) →
      Reader.Decodes (Reader.traverse (fun _ => r) (List.replicate l.length ()))
        (l.flatMap c.encode) l
  | [], _ => Reader.decodes_pure []
  | a :: l, valid => by
    have first := each a (valid a (List.mem_cons_self ..))
    have others := each.items l fun b mem => valid b (List.mem_cons_of_mem a mem)
    exact first.bind (others.bind_last (Reader.decodes_pure (a :: l)))

theorem items_sound (c : Scale α) : ∀ (n : ℕ) (s : List UInt8) (l : List α) (rest : List UInt8),
    c.items n s = .ok (l, rest) →
      (l.length = n ∧ ∀ a ∈ l, c.Valid a) ∧ s = l.flatMap c.encode ++ rest
  | 0, s, l, rest, decoded => by
    cases decoded
    exact ⟨⟨rfl, by simp⟩, rfl⟩
  | n + 1, s, l, rest, decoded => by
    obtain ⟨a, middle, first, tail⟩ := Reader.bind_eq_ok_iff.mp decoded
    obtain ⟨others, rest', second, last⟩ := Reader.bind_eq_ok_iff.mp tail
    cases last
    obtain ⟨valid, whole⟩ := c.sound s a middle first
    obtain ⟨⟨length, each⟩, whole'⟩ := items_sound c n middle others rest second
    refine ⟨⟨by rw [List.length_cons, length], List.forall_mem_cons.mpr ⟨valid, each⟩⟩, ?_⟩
    rw [whole, whole', List.flatMap_cons, List.append_assoc]

/-- `n` values, one after the other. -/
def times (c : Scale α) (n : ℕ) : Scale (List α) where
  Valid l := l.length = n ∧ ∀ a ∈ l, c.Valid a
  encode l := l.flatMap c.encode
  decode := c.items n
  decodes l valid := valid.1 ▸ Follows.items c.decodes l valid.2
  sound := c.items_sound n

/-! ## The types of the format -/

/-- A number in `k` bytes, the lowest first. -/
def nat (k : ℕ) : Scale ℕ where
  Valid n := n < 256 ^ k
  encode := Compact.leBytes k
  decode := (Reader.take "EOF" k).bind fun w => Reader.pure (Compact.ofLeBytes w)
  decodes n small := by
    refine (Reader.decodes_take "EOF" (Compact.length_leBytes k n)).bind_last ?_
    rw [Compact.ofLeBytes_leBytes small]
    exact Reader.decodes_pure n
  sound s n rest decoded := by
    obtain ⟨w, middle, first, last⟩ := Reader.bind_eq_ok_iff.mp decoded
    cases last
    obtain ⟨length, whole⟩ := (word k).sound s w rest first
    change w.length = k at length
    subst length
    refine ⟨Compact.ofLeBytes_lt w, ?_⟩
    rw [Compact.leBytes_ofLeBytes]
    exact whole

/-- A number of `k` bytes as its bits. -/
def bits (k : ℕ) : Scale (BitVec (8 * k)) where
  Valid _ := True
  encode n := Compact.leBytes k n.toNat
  decode := (nat k).decode.bind fun n => Reader.pure (BitVec.ofNat (8 * k) n)
  decodes n _ := by
    have small : n.toNat < 256 ^ k := by
      have bound := n.isLt
      rwa [Nat.pow_mul] at bound
    refine ((nat k).decodes n.toNat small).bind_last ?_
    rw [BitVec.ofNat_toNat, BitVec.setWidth_eq]
    exact Reader.decodes_pure n
  sound s n rest decoded := by
    obtain ⟨m, middle, first, last⟩ := Reader.bind_eq_ok_iff.mp decoded
    cases last
    obtain ⟨small, whole⟩ := (nat k).sound s m rest first
    change m < 256 ^ k at small
    refine ⟨trivial, ?_⟩
    rw [BitVec.toNat_ofNat, Nat.pow_mul, Nat.mod_eq_of_lt small]
    exact whole

/-- A compact length, which is a `u32`. -/
def length : Scale ℕ where
  Valid n := n < 2 ^ 32
  encode := Compact.encode
  decode := Compact.decode.bind fun n =>
    if n < 2 ^ 32 then Reader.pure n else Reader.fail "out of range decoding Compact<u32>"
  decodes n small := by
    have tall : n < 256 ^ 67 := lt_of_lt_of_le small (by decide)
    refine (Compact.decodes_encode tall).bind_last ?_
    rw [if_pos small]
    exact Reader.decodes_pure n
  sound s n rest decoded := by
    obtain ⟨m, middle, first, last⟩ := Reader.bind_eq_ok_iff.mp decoded
    by_cases small : m < 2 ^ 32
    · rw [if_pos small] at last
      cases last
      exact ⟨small, (Compact.decode_sound first).2⟩
    · rw [if_neg small] at last
      cases last

/-- A `Vec<u8>`. -/
def bytes : Scale (List UInt8) :=
  length.dep List.length word fun _ _ valid => valid

/-- A `Vec`. -/
def vec (c : Scale α) : Scale (List α) :=
  length.dep List.length (times c) fun _ _ valid => valid.1

/-- A pair, or a structure of two fields. -/
def pair (c : Scale α) (d : Scale β) : Scale (α × β) :=
  c.dep Prod.fst (fun a => d.map (Prod.mk a) Prod.snd fun _ => rfl) fun _ _ valid =>
    (congrArg Prod.fst valid.2).symm

def byte : Scale UInt8 where
  Valid _ := True
  encode b := [b]
  decode := Reader.item "EOF"
  decodes b _ := Reader.decodes_item "EOF" b
  sound s b rest decoded := by
    cases s with
    | nil => cases decoded
    | cons c s =>
      cases decoded
      exact ⟨trivial, rfl⟩

def optionTag : Option α → UInt8
  | none => 0
  | some _ => 1

/-- What stands behind the tag of an `Option`. -/
def optionBody (c : Scale α) (tag : UInt8) : Scale (Option α) :=
  if tag = 0 then unit none
  else if tag = 1 then
    { Valid := fun o => ∃ a, o = some a ∧ c.Valid a
      encode := fun o => (o.map c.encode).getD []
      decode := c.decode.bind fun a => Reader.pure (some a)
      decodes := by
        rintro _ ⟨a, rfl, valid⟩
        exact (c.decodes a valid).bind_last (Reader.decodes_pure (some a))
      sound := by
        intro s o rest decoded
        obtain ⟨a, middle, first, last⟩ := Reader.bind_eq_ok_iff.mp decoded
        cases last
        obtain ⟨valid, whole⟩ := c.sound s a rest first
        exact ⟨⟨a, rfl, valid⟩, whole⟩ }
  else never "unexpected first byte decoding Option"

/-- An `Option`. -/
def option (c : Scale α) : Scale (Option α) :=
  byte.dep optionTag (optionBody c) fun tag o valid => by
    unfold optionBody at valid
    split_ifs at valid with zero one
    · rw [show o = none from valid]
      exact zero.symm
    · obtain ⟨a, rfl, -⟩ := valid
      exact one.symm
    · exact valid.elim

@[simp] theorem encode_option_none (c : Scale α) : (option c).encode none = [0] := rfl

@[simp] theorem encode_option_some (c : Scale α) (a : α) :
    (option c).encode (some a) = 1 :: c.encode a := rfl

@[simp] theorem valid_option (c : Scale α) (o : Option α) :
    (option c).Valid o ↔ ∀ a, o = some a → c.Valid a := by
  cases o with
  | none => exact ⟨nofun, fun _ => ⟨trivial, rfl⟩⟩
  | some a =>
    constructor
    · rintro ⟨-, b, same, valid⟩ _ ⟨⟩
      cases same
      exact valid
    · exact fun valid => ⟨trivial, a, rfl, valid a rfl⟩

@[simp] theorem valid_map (c : Scale α) (f : α → β) (g : β → α) (left : ∀ a, g (f a) = a) (b : β) :
    (c.map f g left).Valid b ↔ c.Valid (g b) ∧ f (g b) = b := Iff.rfl

@[simp] theorem valid_bits (k : ℕ) (n : BitVec (8 * k)) : (bits k).Valid n := trivial

@[simp] theorem valid_pair (c : Scale α) (d : Scale β) (p : α × β) :
    (pair c d).Valid p ↔ c.Valid p.1 ∧ d.Valid p.2 :=
  ⟨fun valid => ⟨valid.1, valid.2.1⟩, fun valid => ⟨valid.1, valid.2, rfl⟩⟩

@[simp] theorem encode_pair (c : Scale α) (d : Scale β) (p : α × β) :
    (pair c d).encode p = c.encode p.1 ++ d.encode p.2 := rfl

@[simp] theorem valid_bytes (b : List UInt8) : bytes.Valid b ↔ b.length < 2 ^ 32 :=
  ⟨fun valid => valid.1, fun small => ⟨small, rfl⟩⟩

@[simp] theorem valid_vec (c : Scale α) (l : List α) :
    (vec c).Valid l ↔ l.length < 2 ^ 32 ∧ ∀ a ∈ l, c.Valid a :=
  ⟨fun valid => ⟨valid.1, valid.2.2⟩, fun valid => ⟨valid.1, rfl, valid.2⟩⟩

end Scale
