import Mathlib.Algebra.Order.Ring.Nat
import Mathlib.Data.Nat.Log
import MatterSdk.Lib.Reader

/-!
# Compact integers

SCALE's compact encoding of a natural number: one, two or four bytes with the size class in the two
low bits, and for larger numbers a byte that counts the bytes after it.  The reader accepts the
shortest form only.
-/

namespace Compact

/-- The `k` low bytes of a number, the lowest first. -/
def leBytes : ℕ → ℕ → List UInt8
  | 0, _ => []
  | k + 1, n => UInt8.ofNat n :: leBytes k (n / 256)

def ofLeBytes : List UInt8 → ℕ
  | [] => 0
  | b :: rest => b.toNat + 256 * ofLeBytes rest

/-- The number of bytes of the number, at least one. -/
def byteCount (n : ℕ) : ℕ := Nat.log 256 n + 1

def encode (n : ℕ) : List UInt8 :=
  if n < 2 ^ 6 then leBytes 1 (4 * n)
  else if n < 2 ^ 14 then leBytes 2 (4 * n + 1)
  else if n < 2 ^ 30 then leBytes 4 (4 * n + 2)
  else UInt8.ofNat (4 * (byteCount n - 4) + 3) :: leBytes (byteCount n) n

/-- A number over its size class in `k` bytes, if it needs them. -/
def decodeFixed (k least : ℕ) : Reader String UInt8 ℕ :=
  (Reader.take "EOF" k).bind fun word =>
    if least ≤ ofLeBytes word / 4 then Reader.pure (ofLeBytes word / 4) else Reader.fail "out of range"

/-- A number of `k` bytes, if it needs them. -/
def decodeBig (k : ℕ) : Reader String UInt8 ℕ :=
  (Reader.take "EOF" k).bind fun word =>
    if 2 ^ 30 ≤ ofLeBytes word ∧ (4 < k → 256 ^ (k - 1) ≤ ofLeBytes word) then
      Reader.pure (ofLeBytes word)
    else Reader.fail "out of range"

def decode : Reader String UInt8 ℕ
  | [] => .error "EOF"
  | b :: rest =>
    match b.toNat % 4 with
    | 0 => .ok (b.toNat / 4, rest)
    | 1 => decodeFixed 2 (2 ^ 6) (b :: rest)
    | 2 => decodeFixed 4 (2 ^ 14) (b :: rest)
    | _ => decodeBig (b.toNat / 4 + 4) rest

theorem length_leBytes : ∀ k n, (leBytes k n).length = k
  | 0, _ => rfl
  | k + 1, n => congrArg (· + 1) (length_leBytes k (n / 256))

theorem ofLeBytes_leBytes : ∀ {k n : ℕ}, n < 256 ^ k → ofLeBytes (leBytes k n) = n
  | 0, n, small => by
    rw [Nat.pow_zero, Nat.lt_one_iff] at small
    rw [small]
    rfl
  | k + 1, n, small => by
    rw [Nat.pow_succ] at small
    have high : n / 256 < 256 ^ k := Nat.div_lt_of_lt_mul (by rwa [Nat.mul_comm] at small)
    rw [leBytes, ofLeBytes, ofLeBytes_leBytes high, UInt8.toNat_ofNat']
    exact Nat.mod_add_div n 256

/-- A word is the bytes of its number. -/
theorem leBytes_ofLeBytes : ∀ word : List UInt8, leBytes word.length (ofLeBytes word) = word
  | [] => rfl
  | b :: rest => by
    have small : b.toNat < 256 := b.toNat_lt
    have low : UInt8.ofNat (b.toNat + 256 * ofLeBytes rest) = b := by
      apply UInt8.toNat_inj.mp
      rw [UInt8.toNat_ofNat']
      omega
    have high : (b.toNat + 256 * ofLeBytes rest) / 256 = ofLeBytes rest := by omega
    rw [List.length_cons, ofLeBytes, leBytes, low, high, leBytes_ofLeBytes rest]

theorem ofLeBytes_lt : ∀ word : List UInt8, ofLeBytes word < 256 ^ word.length
  | [] => by decide
  | b :: rest => by
    have small : b.toNat < 256 := b.toNat_lt
    have tail := ofLeBytes_lt rest
    rw [ofLeBytes, List.length_cons, Nat.pow_succ]
    omega

theorem ofLeBytes_append : ∀ word word' : List UInt8,
    ofLeBytes (word ++ word') = ofLeBytes word + 256 ^ word.length * ofLeBytes word'
  | [], word' => by rw [List.nil_append, ofLeBytes, List.length_nil, Nat.pow_zero, Nat.one_mul,
      Nat.zero_add]
  | b :: rest, word' => by
    rw [List.cons_append, ofLeBytes, ofLeBytes, ofLeBytes_append rest word', List.length_cons,
      Nat.pow_succ', Nat.mul_add, Nat.mul_assoc, Nat.add_assoc]

/-- The bytes by their places, the highest first. -/
theorem reverse_leBytes : ∀ k n, (leBytes k n).reverse =
    (List.range k).map fun i => UInt8.ofNat (n / 256 ^ (k - 1 - i))
  | 0, _ => rfl
  | k + 1, n => by
    rw [leBytes, List.reverse_cons, reverse_leBytes k, List.range_succ, List.map_append,
      List.map_singleton, Nat.add_sub_cancel, Nat.sub_self, Nat.pow_zero, Nat.div_one]
    congr 1
    apply List.map_congr_left
    intro i inside
    have below := List.mem_range.mp inside
    have place : k - i = (k - 1 - i) + 1 := by omega
    rw [place, Nat.pow_succ', Nat.div_div_eq_div_mul]

theorem takes_decodeFixed (k tag : ℕ) {least n : ℕ} (class_ : tag < 4) (enough : least ≤ n)
    (small : 4 * n + tag < 256 ^ k) :
    Reader.Takes (decodeFixed k least) (leBytes k (4 * n + tag)) n := by
  have value : ofLeBytes (leBytes k (4 * n + tag)) / 4 = n := by
    rw [ofLeBytes_leBytes small]
    omega
  refine (Reader.takes_take "EOF" (length_leBytes k (4 * n + tag))).bind_last ?_
  rw [value, if_pos enough]
  exact Reader.takes_pure n

theorem takes_decodeBig {n : ℕ} (large : 2 ^ 30 ≤ n) :
    Reader.Takes (decodeBig (byteCount n)) (leBytes (byteCount n) n) n := by
  have value : ofLeBytes (leBytes (byteCount n) n) = n :=
    ofLeBytes_leBytes (Nat.lt_pow_succ_log_self (by decide) n)
  have shortest : 256 ^ (byteCount n - 1) ≤ n := Nat.pow_log_le_self 256 (by omega)
  refine (Reader.takes_take "EOF" (length_leBytes (byteCount n) n)).bind_last ?_
  rw [value, if_pos ⟨large, fun _ => shortest⟩]
  exact Reader.takes_pure n

theorem decode_ofNat (m : ℕ) (rest : List UInt8) : decode (UInt8.ofNat m :: rest) =
    match m % 256 % 4 with
    | 0 => .ok (m % 256 / 4, rest)
    | 1 => decodeFixed 2 (2 ^ 6) (UInt8.ofNat m :: rest)
    | 2 => decodeFixed 4 (2 ^ 14) (UInt8.ofNat m :: rest)
    | _ => decodeBig (m % 256 / 4 + 4) rest := by
  have head : (UInt8.ofNat m).toNat = m % 256 := UInt8.toNat_ofNat'
  rw [← head]
  rfl

/-- What is encoded is read back, in each size class. -/
theorem takes_encode {n : ℕ} (small : n < 256 ^ 67) : Reader.Takes decode (encode n) n := by
  intro rest
  unfold encode
  by_cases one : n < 2 ^ 6
  · have low : 4 * n % 256 = 4 * n := by omega
    rw [if_pos one]
    show decode (UInt8.ofNat (4 * n) :: rest) = _
    rw [decode_ofNat, low, Nat.mul_mod_right]
    show Except.ok (4 * n / 4, rest) = _
    rw [Nat.mul_div_cancel_left n (by decide)]
  rw [if_neg one]
  by_cases two : n < 2 ^ 14
  · rw [if_pos two, ← takes_decodeFixed 2 1 (by decide) (Nat.not_lt.mp one)
      (by omega) rest]
    have tag : (4 * n + 1) % 256 % 4 = 1 := by omega
    show decode (UInt8.ofNat (4 * n + 1) :: _) = _
    rw [decode_ofNat, tag]
    rfl
  rw [if_neg two]
  by_cases four : n < 2 ^ 30
  · rw [if_pos four, ← takes_decodeFixed 4 2 (by decide) (Nat.not_lt.mp two)
      (by omega) rest]
    have tag : (4 * n + 2) % 256 % 4 = 2 := by omega
    show decode (UInt8.ofNat (4 * n + 2) :: _) = _
    rw [decode_ofNat, tag]
    rfl
  rw [if_neg four]
  have large : 2 ^ 30 ≤ n := Nat.not_lt.mp four
  have least : 3 ≤ Nat.log 256 n :=
    Nat.le_log_of_pow_le (by decide) (le_trans (by decide) large)
  have most : Nat.log 256 n < 67 :=
    Nat.log_lt_of_lt_pow (by omega) small
  have count : byteCount n = Nat.log 256 n + 1 := rfl
  have byte : (4 * (byteCount n - 4) + 3) % 256 = 4 * (byteCount n - 4) + 3 := by omega
  have tag : (4 * (byteCount n - 4) + 3) % 4 = 3 := by omega
  have length : (4 * (byteCount n - 4) + 3) / 4 + 4 = byteCount n := by omega
  rw [← takes_decodeBig large rest]
  show decode (UInt8.ofNat (4 * (byteCount n - 4) + 3) :: _) = _
  rw [decode_ofNat, byte, tag]
  show decodeBig _ _ = _
  rw [length]
  rfl

/-- A reader of `k` bytes reads what `f` makes of them. -/
theorem take_bind_sound {k n : ℕ} {f : List UInt8 → Reader String UInt8 ℕ} {s rest : List UInt8}
    (decoded : (Reader.take "EOF" k).bind f s = .ok (n, rest)) :
    ∃ word tail, word.length = k ∧ s = word ++ tail ∧ f word tail = .ok (n, rest) := by
  unfold Reader.bind Reader.take at decoded
  by_cases short : s.length < k
  · rw [if_pos short] at decoded
    cases decoded
  · rw [if_neg short] at decoded
    refine ⟨s.take k, s.drop k, ?_, (List.take_append_drop k s).symm, decoded⟩
    rw [List.length_take]
    omega

theorem decodeFixed_sound {k least n : ℕ} {s rest : List UInt8}
    (decoded : decodeFixed k least s = .ok (n, rest)) :
    least ≤ n ∧ ∃ word, word.length = k ∧ s = word ++ rest ∧ n = ofLeBytes word / 4 := by
  obtain ⟨word, tail, length, whole, decoded⟩ := take_bind_sound decoded
  by_cases enough : least ≤ ofLeBytes word / 4
  · rw [if_pos enough] at decoded
    cases decoded
    exact ⟨enough, word, length, whole, rfl⟩
  · rw [if_neg enough] at decoded
    cases decoded

theorem decodeBig_sound {k n : ℕ} {s rest : List UInt8}
    (decoded : decodeBig k s = .ok (n, rest)) :
    2 ^ 30 ≤ n ∧ (4 < k → 256 ^ (k - 1) ≤ n) ∧
      ∃ word, word.length = k ∧ s = word ++ rest ∧ n = ofLeBytes word := by
  obtain ⟨word, tail, length, whole, decoded⟩ := take_bind_sound decoded
  by_cases large : 2 ^ 30 ≤ ofLeBytes word ∧ (4 < k → 256 ^ (k - 1) ≤ ofLeBytes word)
  · rw [if_pos large] at decoded
    cases decoded
    exact ⟨large.1, large.2, word, length, whole, rfl⟩
  · rw [if_neg large] at decoded
    cases decoded

/-- A word of a fixed size class is that of its number. -/
theorem encode_fixed {k n : ℕ} {b : UInt8} {s rest word : List UInt8} (length : word.length = k)
    (whole : b :: s = word ++ rest) (value : n = ofLeBytes word / 4) (some_ : 0 < k) :
    word = leBytes k (4 * n + b.toNat % 4) ∧ 4 * n + b.toNat % 4 < 256 ^ k := by
  cases word with
  | nil => exact absurd length (by simpa using some_.ne)
  | cons c word =>
    obtain ⟨rfl, -⟩ := List.cons.inj whole
    have low : ofLeBytes (b :: word) % 4 = b.toNat % 4 := by
      show (b.toNat + 256 * ofLeBytes word) % 4 = _
      omega
    have same : 4 * n + b.toNat % 4 = ofLeBytes (b :: word) := by omega
    have bound := ofLeBytes_lt (b :: word)
    rw [same, ← length, leBytes_ofLeBytes]
    exact ⟨rfl, bound⟩

/-- Only encodings are read. -/
theorem decode_sound {s rest : List UInt8} {n : ℕ} (decoded : decode s = .ok (n, rest)) :
    n < 256 ^ 67 ∧ s = encode n ++ rest := by
  cases s with
  | nil => cases decoded
  | cons b s =>
    have byte := b.toNat_lt
    change (match b.toNat % 4 with
      | 0 => Except.ok (b.toNat / 4, s)
      | 1 => decodeFixed 2 (2 ^ 6) (b :: s)
      | 2 => decodeFixed 4 (2 ^ 14) (b :: s)
      | _ => decodeBig (b.toNat / 4 + 4) s) = _ at decoded
    have class_ : b.toNat % 4 < 4 := Nat.mod_lt _ (by decide)
    generalize tag : b.toNat % 4 = t at decoded class_
    match t, class_ with
    | 0, _ =>
      cases decoded
      have again : 4 * (b.toNat / 4) = b.toNat := by omega
      refine ⟨lt_of_lt_of_le (by omega : b.toNat / 4 < 256) (by decide), ?_⟩
      rw [encode, if_pos (by omega), again]
      show _ = [UInt8.ofNat b.toNat] ++ _
      rw [UInt8.ofNat_toNat]
      rfl
    | 1, _ =>
      obtain ⟨enough, word, length, whole, value⟩ := decodeFixed_sound decoded
      obtain ⟨same, small⟩ := encode_fixed length whole value (by decide)
      rw [tag] at same small
      refine ⟨lt_of_lt_of_le (by omega : n < 256 ^ 2) (by decide), ?_⟩
      rw [encode, if_neg (by omega), if_pos (by omega), ← same]
      exact whole
    | 2, _ =>
      obtain ⟨enough, word, length, whole, value⟩ := decodeFixed_sound decoded
      obtain ⟨same, small⟩ := encode_fixed length whole value (by decide)
      rw [tag] at same small
      refine ⟨lt_of_lt_of_le (by omega : n < 256 ^ 4) (by decide), ?_⟩
      rw [encode, if_neg (by omega), if_neg (by omega), if_pos (by omega), ← same]
      exact whole
    | 3, _ =>
      obtain ⟨large, shortest, word, length, rfl, rfl⟩ := decodeBig_sound decoded
      have below := ofLeBytes_lt word
      have count : byteCount (ofLeBytes word) = b.toNat / 4 + 4 := by
        rw [length] at below
        have low : 256 ^ (b.toNat / 4 + 3) ≤ ofLeBytes word := by
          by_cases four : b.toNat / 4 = 0
          · rw [four]
            exact le_trans (by decide) large
          · exact shortest (by omega)
        rw [byteCount, Nat.log_eq_of_pow_le_of_lt_pow low below]
      have head : UInt8.ofNat (4 * (b.toNat / 4 + 4 - 4) + 3) = b := by
        rw [show 4 * (b.toNat / 4 + 4 - 4) + 3 = b.toNat by omega, UInt8.ofNat_toNat]
      refine ⟨lt_of_lt_of_le below (Nat.pow_le_pow_right (by decide) (by omega)), ?_⟩
      rw [encode, if_neg (by omega), if_neg (by omega), if_neg (by omega), count, head, ← length,
        leBytes_ofLeBytes]
      rfl

/-- An encoding cannot be cut short: what would be read of it is an encoding itself. -/
theorem decodes_encode {n : ℕ} (small : n < 256 ^ 67) : Reader.Decodes decode (encode n) n := by
  refine ⟨takes_encode small, fun cut rest whole more => ?_⟩
  cases decoded : decode cut with
  | error e => exact ⟨e, rfl⟩
  | ok pair =>
    obtain ⟨m, left⟩ := pair
    obtain ⟨small', rfl⟩ := decode_sound decoded
    have all := takes_encode small []
    rw [List.append_nil, whole, List.append_assoc, takes_encode small'] at all
    have nothing : left ++ rest = [] := (Prod.mk.inj (Except.ok.inj all)).2
    exact absurd (List.append_eq_nil_iff.mp nothing).2 more

end Compact
