import Mathlib.Data.List.Basic
import Mathlib.Tactic.IntervalCases

/-!
# Hexadecimal text

Digits are given by their code, so that one table serves bytes, code points and UTF-16 units.
`decode` reads pairs of digits and nothing else; a decoder that also accepts other texts is
compared with it.
-/

namespace Hex

/-- The value of the hex digit with code `c`, of either case. -/
def digitValue (c : ℕ) : Option ℕ :=
  if 48 ≤ c ∧ c ≤ 57 then some (c - 48)
  else if 97 ≤ c ∧ c ≤ 102 then some (c - 87)
  else if 65 ≤ c ∧ c ≤ 70 then some (c - 55)
  else none

/-- The lowercase digit of value `d`. -/
def digitChar (d : ℕ) : Char := Char.ofNat (if d < 10 then 48 + d else 87 + d)

/-- The byte with high digit `x` and low digit `y`. -/
def byteOf (x y : ℕ) : UInt8 := UInt8.ofNat (16 * x + y)

/-- Two lowercase digits for each byte. -/
def encode (bytes : List UInt8) : List Char :=
  bytes.flatMap fun b => [digitChar (b.toNat / 16), digitChar (b.toNat % 16)]

/-- Read a text made of pairs of digits. -/
def decode : List ℕ → Option (List UInt8)
  | [] => some []
  | [_] => none
  | a :: b :: rest =>
    match digitValue a, digitValue b, decode rest with
    | some x, some y, some tail => some (byteOf x y :: tail)
    | _, _, _ => none

theorem digitValue_lt {c x : ℕ} (h : digitValue c = some x) : c < 128 ∧ x < 16 := by
  unfold digitValue at h
  split_ifs at h <;> simp only [Option.some.injEq] at h <;> omega

/-- A digit's code is at least that of `0`. -/
theorem le_of_digitValue {c x : ℕ} (h : digitValue c = some x) : 48 ≤ c ∧ c ≤ 102 := by
  unfold digitValue at h
  split_ifs at h <;> omega

/-- Induction over a text by pairs. -/
@[elab_as_elim]
theorem pairInduction {α : Type*} {motive : List α → Prop} (nil : motive [])
    (single : ∀ a, motive [a]) (pair : ∀ a b rest, motive rest → motive (a :: b :: rest)) :
    ∀ l, motive l
  | [] => nil
  | [a] => single a
  | a :: b :: rest => pair a b rest (pairInduction nil single pair rest)

/-- A text is read exactly when it is empty or two digits before a text that is read. -/
theorem decode_cons_cons {a b : ℕ} {rest : List ℕ} {bytes : List UInt8} :
    decode (a :: b :: rest) = some bytes ↔ ∃ x y tail, digitValue a = some x ∧
      digitValue b = some y ∧ decode rest = some tail ∧ bytes = byteOf x y :: tail := by
  rw [decode]
  cases digitValue a <;> cases digitValue b <;> cases decode rest <;> simp [eq_comm]

/-- The digits of a text that is read are all ASCII. -/
theorem lt_of_decode {codes : List ℕ} {bytes : List UInt8} (h : decode codes = some bytes) :
    ∀ c ∈ codes, c < 128 := by
  induction codes using pairInduction generalizing bytes with
  | nil => simp
  | single a => simp [decode] at h
  | pair a b rest ih =>
    obtain ⟨x, y, tail, ha, hb, ht, -⟩ := decode_cons_cons.1 h
    intro c hc
    rcases List.mem_cons.1 hc with rfl | hc
    · exact (digitValue_lt ha).1
    rcases List.mem_cons.1 hc with rfl | hc
    · exact (digitValue_lt hb).1
    · exact ih ht c hc

theorem decode_length {codes : List ℕ} {bytes : List UInt8} (h : decode codes = some bytes) :
    codes.length = 2 * bytes.length := by
  induction codes using pairInduction generalizing bytes with
  | nil => simp_all [decode]
  | single a => simp [decode] at h
  | pair a b rest ih =>
    obtain ⟨_, _, tail, -, -, ht, rfl⟩ := decode_cons_cons.1 h
    simp only [List.length_cons, ih ht]
    omega

/-- Pairs of digits. -/
def Pairs (codes : List ℕ) : Prop :=
  codes.length % 2 = 0 ∧ ∀ c ∈ codes, (digitValue c).isSome = true

theorem pairs_cons_cons {a b : ℕ} {rest : List ℕ} :
    Pairs (a :: b :: rest) ↔
      (digitValue a).isSome = true ∧ (digitValue b).isSome = true ∧ Pairs rest := by
  have length : (a :: b :: rest).length % 2 = rest.length % 2 := by
    rw [List.length_cons, List.length_cons]
    omega
  rw [Pairs, Pairs, length, List.forall_mem_cons, List.forall_mem_cons]
  tauto

theorem exists_decode_iff (codes : List ℕ) : (∃ bytes, decode codes = some bytes) ↔ Pairs codes := by
  induction codes using pairInduction with
  | nil => exact ⟨fun _ => ⟨rfl, List.forall_mem_nil _⟩, fun _ => ⟨[], rfl⟩⟩
  | single a =>
    refine iff_of_false ?_ fun pairs => absurd (show 1 % 2 = 0 from pairs.1) (by decide)
    rintro ⟨bytes, read⟩
    cases read
  | pair a b rest ih =>
    rw [pairs_cons_cons, ← ih]
    constructor
    · rintro ⟨bytes, read⟩
      obtain ⟨x, y, tail, ha, hb, ht, -⟩ := decode_cons_cons.1 read
      exact ⟨Option.isSome_iff_exists.mpr ⟨x, ha⟩, Option.isSome_iff_exists.mpr ⟨y, hb⟩, tail, ht⟩
    · rintro ⟨ha, hb, tail, ht⟩
      obtain ⟨x, ha⟩ := Option.isSome_iff_exists.mp ha
      obtain ⟨y, hb⟩ := Option.isSome_iff_exists.mp hb
      exact ⟨_, decode_cons_cons.2 ⟨x, y, tail, ha, hb, ht, rfl⟩⟩

theorem digitValue_digitChar {d : ℕ} (h : d < 16) : digitValue (digitChar d).toNat = some d := by
  interval_cases d <;> rfl

theorem length_encode (bytes : List UInt8) : (encode bytes).length = 2 * bytes.length := by
  induction bytes with
  | nil => rfl
  | cons b rest ih =>
    show (encode rest).length + 1 + 1 = _
    rw [ih, List.length_cons]
    omega

/-- What is encoded is read back. -/
theorem decode_encode (bytes : List UInt8) :
    decode ((encode bytes).map Char.toNat) = some bytes := by
  induction bytes with
  | nil => rfl
  | cons b rest ih =>
    have whole : byteOf (b.toNat / 16) (b.toNat % 16) = b := by
      rw [byteOf, Nat.div_add_mod, UInt8.ofNat_toNat]
    have small : b.toNat < 256 := b.toNat_lt
    apply decode_cons_cons.2
    exact ⟨_, _, rest, digitValue_digitChar (by omega), digitValue_digitChar (by omega), ih,
      by rw [whole]⟩

/-- Only the capitals of ASCII change. -/
theorem toNat_toLower (c : Char) :
    c.toLower.toNat = if 65 ≤ c.toNat ∧ c.toNat ≤ 90 then c.toNat + 32 else c.toNat := by
  unfold Char.toLower
  split
  · rename_i upper
    have low : 65 ≤ c.toNat := UInt32.le_iff_toNat_le.mp upper.1
    have high : c.toNat ≤ 90 := UInt32.le_iff_toNat_le.mp upper.2
    rw [if_pos ⟨low, high⟩]
    show (c.val + 32).toNat = _
    rw [UInt32.toNat_add]
    exact Nat.mod_eq_of_lt (Nat.lt_of_le_of_lt (Nat.add_le_add_right high 32) (by decide))
  · rename_i other
    refine (if_neg fun upper => other ⟨?_, ?_⟩).symm
    · exact UInt32.le_iff_toNat_le.mpr upper.1
    · exact UInt32.le_iff_toNat_le.mpr upper.2

theorem toNat_digitChar {d : ℕ} (h : d < 16) :
    (digitChar d).toNat = if d < 10 then 48 + d else 87 + d := by
  interval_cases d <;> rfl

theorem exists_of_mem_encode {bytes : List UInt8} {c : Char} (h : c ∈ encode bytes) :
    ∃ d < 16, c = digitChar d := by
  obtain ⟨b, -, hc⟩ := List.mem_flatMap.mp h
  have small : b.toNat < 256 := b.toNat_lt
  rcases List.mem_cons.mp hc with rfl | hc
  · exact ⟨_, by omega, rfl⟩
  · exact ⟨_, by omega, List.mem_singleton.mp hc⟩

/-- A character is the digit of value `d` if its lower case is the lowercase digit. -/
theorem digitValue_toNat_iff {c : Char} {d : ℕ} :
    digitValue c.toNat = some d ↔ d < 16 ∧ c.toLower = digitChar d := by
  by_cases small : d < 16
  · have same : c.toLower = digitChar d ↔ c.toLower.toNat = (digitChar d).toNat :=
      Char.toNat_inj.symm
    rw [same, toNat_toLower, toNat_digitChar small]
    unfold digitValue
    split_ifs <;> simp only [Option.some.injEq, small, true_and, false_iff] <;> omega
  · refine iff_of_false (fun read => small (digitValue_lt read).2) fun h => small h.1

/-- A text is read as `bytes` if its lower case is their encoding. -/
theorem decode_map_toNat_iff {digits : List Char} {bytes : List UInt8} :
    decode (digits.map Char.toNat) = some bytes ↔ digits.map Char.toLower = encode bytes := by
  induction digits using pairInduction generalizing bytes with
  | nil => cases bytes <;> simp [decode, encode]
  | single a => cases bytes <;> simp [decode, encode]
  | pair a b rest ih =>
    rw [List.map_cons, List.map_cons, decode_cons_cons]
    constructor
    · rintro ⟨x, y, tail, ha, hb, ht, rfl⟩
      obtain ⟨hx, ha⟩ := digitValue_toNat_iff.1 ha
      obtain ⟨hy, hb⟩ := digitValue_toNat_iff.1 hb
      have whole : (byteOf x y).toNat = 16 * x + y := by
        simp [byteOf]; omega
      show a.toLower :: b.toLower :: _ = digitChar _ :: digitChar _ :: encode tail
      rw [whole, ih.1 ht, ha, hb, show (16 * x + y) / 16 = x by omega,
        show (16 * x + y) % 16 = y by omega]
    · intro same
      cases bytes with
      | nil => simp [encode] at same
      | cons byte tail =>
        have small : byte.toNat < 256 := byte.toNat_lt
        change a.toLower :: b.toLower :: _ = digitChar _ :: digitChar _ :: encode tail at same
        simp only [List.cons.injEq] at same
        obtain ⟨ha, hb, ht⟩ := same
        refine ⟨byte.toNat / 16, byte.toNat % 16, tail, digitValue_toNat_iff.2 ⟨by omega, ha⟩,
          digitValue_toNat_iff.2 ⟨by omega, hb⟩, ih.2 ht, ?_⟩
        rw [byteOf, Nat.div_add_mod, UInt8.ofNat_toNat]

end Hex
