import Mathlib.Data.List.DropRight
import Mathlib.Data.Nat.Notation
import MatterSdk.Lib.Text

/-!
# UTF-8

Texts as lists of characters and their bytes.  `decode` reads the bytes of a text and refuses every
other byte string; `runes` reads any bytes, and keeps those that belong to no character.
-/

namespace Utf8

/-- The bytes of a text. -/
def encode (text : List Char) : List UInt8 := text.flatMap String.utf8EncodeChar

/-- The text whose bytes these are. -/
def decode (bytes : List UInt8) : Option (List Char) :=
  bytes.toByteArray.utf8Decode?.map Array.toList

@[simp] theorem decode_encode (text : List Char) : decode (encode text) = some text := by
  show (text.utf8Encode.utf8Decode?).map Array.toList = some text
  rw [List.utf8Decode?_utf8Encode, Option.map_some]

theorem decode_eq_some_iff {bytes : List UInt8} {text : List Char} :
    decode bytes = some text ↔ encode text = bytes := by
  constructor
  · intro h
    obtain ⟨chars, read, rfl⟩ := Option.map_eq_some_iff.1 h
    have valid : bytes.toByteArray.utf8Decode?.isSome := by rw [read]; rfl
    have back := ByteArray.utf8Encode_get_utf8Decode? (b := bytes.toByteArray) (h := valid)
    simp only [read, Option.get_some] at back
    exact List.toByteArray_inj.1 back
  · rintro rfl
    exact decode_encode text

theorem encode_injective {text text' : List Char} (h : encode text = encode text') :
    text = text' := by
  have same := congrArg decode h
  rw [decode_encode, decode_encode] at same
  exact Option.some.inj same

@[simp] theorem encode_nil : encode [] = [] := rfl

@[simp] theorem encode_cons (c : Char) (text : List Char) :
    encode (c :: text) = String.utf8EncodeChar c ++ encode text := rfl

/-- No character takes less than a byte. -/
theorem length_le_encode (text : List Char) : text.length ≤ (encode text).length := by
  induction text with
  | nil => exact Nat.zero_le _
  | cons c text ih =>
    have size := c.utf8Size_pos
    rw [encode_cons, List.length_append, String.length_utf8EncodeChar, List.length_cons]
    omega

/-! ## Characters of ASCII -/

theorem bytes_ne_nil (c : Char) : String.utf8EncodeChar c ≠ [] := by
  rw [← List.length_pos_iff, String.length_utf8EncodeChar]
  exact c.utf8Size_pos

theorem bytes_of_ascii {c : Char} (plain : c.toNat < 128) :
    String.utf8EncodeChar c = [UInt8.ofNat c.toNat] := by
  have short : c.val.toNat ≤ 127 := by
    show c.toNat ≤ 127
    omega
  simp only [String.utf8EncodeChar, if_pos short]
  rfl

/-- The bytes of the other characters are none of ASCII. -/
theorem bytes_of_foreign {c : Char} (foreign : 128 ≤ c.toNat) :
    ∀ b ∈ String.utf8EncodeChar c, 128 ≤ b.toNat := by
  have long : ¬ c.val.toNat ≤ 127 := by
    show ¬ c.toNat ≤ 127
    omega
  simp only [String.utf8EncodeChar, if_neg long]
  split
  · simp only [List.forall_mem_cons, UInt8.toNat_ofNat']
    refine ⟨by omega, by omega, by simp⟩
  · split
    · simp only [List.forall_mem_cons, UInt8.toNat_ofNat']
      refine ⟨by omega, by omega, by omega, by simp⟩
    · simp only [List.forall_mem_cons, UInt8.toNat_ofNat']
      refine ⟨by omega, by omega, by omega, by omega, by simp⟩

theorem ascii_inj {a c : Char} (plain : a.toNat < 128) (plain' : c.toNat < 128)
    (same : UInt8.ofNat a.toNat = UInt8.ofNat c.toNat) : a = c := by
  have numbers := congrArg UInt8.toNat same
  rw [UInt8.toNat_ofNat', UInt8.toNat_ofNat', Nat.mod_eq_of_lt (by omega),
    Nat.mod_eq_of_lt (by omega)] at numbers
  exact Char.toNat_inj.mp numbers

/-- A text starts with one of ASCII just if its bytes do. -/
theorem encode_isPrefixOf {front : List Char} (plain : ∀ c ∈ front, c.toNat < 128)
    (text : List Char) : (encode front).isPrefixOf (encode text) = front.isPrefixOf text := by
  induction front generalizing text with
  | nil => rfl
  | cons a front ih =>
    rw [List.forall_mem_cons] at plain
    have first : encode (a :: front) = UInt8.ofNat a.toNat :: encode front := by
      rw [encode_cons, bytes_of_ascii plain.1]
      rfl
    rw [first]
    cases text with
    | nil => rfl
    | cons c text =>
      by_cases ascii : c.toNat < 128
      · have second : encode (c :: text) = UInt8.ofNat c.toNat :: encode text := by
          rw [encode_cons, bytes_of_ascii ascii]
          rfl
        have heads : (UInt8.ofNat a.toNat == UInt8.ofNat c.toNat) = (a == c) := by
          rw [Bool.eq_iff_iff, beq_iff_eq, beq_iff_eq]
          exact ⟨ascii_inj plain.1 ascii, fun same => by rw [same]⟩
        rw [second, List.isPrefixOf_cons_cons, List.isPrefixOf_cons_cons, ih plain.2, heads]
      · have differ : (a == c) = false := by
          rw [beq_eq_false_iff_ne]
          rintro rfl
          exact ascii plain.1
        rw [List.isPrefixOf_cons_cons, differ, Bool.false_and, encode_cons]
        have high := bytes_of_foreign (Nat.not_lt.mp ascii)
        cases bytes : String.utf8EncodeChar c with
        | nil => exact absurd bytes (bytes_ne_nil c)
        | cons b rest =>
          rw [bytes, List.forall_mem_cons] at high
          have apart : (UInt8.ofNat a.toNat == b) = false := by
            rw [beq_eq_false_iff_ne]
            rintro rfl
            rw [UInt8.toNat_ofNat', Nat.mod_eq_of_lt (by omega)] at high
            omega
          rw [List.cons_append, List.isPrefixOf_cons_cons, apart, Bool.false_and]

theorem encode_append (text text' : List Char) :
    encode (text ++ text') = encode text ++ encode text' :=
  List.flatMap_append

theorem encode_replicate {a : Char} (plain : a.toNat < 128) (n : ℕ) :
    encode (List.replicate n a) = List.replicate n (UInt8.ofNat a.toNat) := by
  induction n with
  | zero => rfl
  | succ n ih =>
    rw [List.replicate_succ, List.replicate_succ, encode_cons, bytes_of_ascii plain, ih]
    rfl

/-- What is dropped off the end of any bytes is a text. -/
theorem exists_rdropWhile {a : Char} (plain : a.toNat < 128) (bytes : List UInt8) :
    ∃ text, bytes = bytes.rdropWhile (· = UInt8.ofNat a.toNat) ++ encode text := by
  have dropped : ∀ b ∈ bytes.rtakeWhile (· = UInt8.ofNat a.toNat), b = UInt8.ofNat a.toNat := by
    intro b inside
    have same := List.mem_rtakeWhile_imp inside
    exact of_decide_eq_true same
  refine ⟨List.replicate (bytes.rtakeWhile (· = UInt8.ofNat a.toNat)).length a, ?_⟩
  rw [encode_replicate plain, ← List.eq_replicate_of_mem dropped,
    List.rdropWhile_append_rtakeWhile]

/-- Dropping a character of ASCII off the end of a text is dropping its byte. -/
theorem encode_rdropWhile {a : Char} (plain : a.toNat < 128) (text : List Char) :
    (encode text).rdropWhile (· = UInt8.ofNat a.toNat) = encode (text.rdropWhile (· = a)) := by
  induction text using List.reverseRecOn with
  | nil => rfl
  | append_singleton text c ih =>
    have last : encode (text ++ [c]) = encode text ++ String.utf8EncodeChar c := by
      rw [encode_append, encode_cons, encode_nil, List.append_nil]
    by_cases same : c = a
    · subst same
      rw [last, bytes_of_ascii plain, List.rdropWhile_concat_pos _ _ _ (by simp),
        List.rdropWhile_concat_pos _ _ _ (by simp), ih]
    · rw [List.rdropWhile_concat_neg _ _ _ (by simpa using same), last,
        List.rdropWhile_eq_self_iff]
      intro nonempty
      have some_byte := bytes_ne_nil c
      rw [List.getLast_append_of_ne_nil nonempty some_byte, decide_eq_true_iff]
      by_cases ascii : c.toNat < 128
      · simp only [bytes_of_ascii ascii, List.getLast_singleton]
        exact fun bytes => same (ascii_inj ascii plain bytes)
      · intro bytes
        have high := bytes_of_foreign (Nat.not_lt.mp ascii) _ (List.getLast_mem some_byte)
        rw [bytes, UInt8.toNat_ofNat', Nat.mod_eq_of_lt (by omega)] at high
        omega

/-! ## Any bytes -/

/-- A character, or a byte that belongs to none. -/
inductive Rune where
  | char (c : Char)
  | bad (b : UInt8)
deriving DecidableEq, Repr

def Rune.bytes : Rune → List UInt8
  | .char c => String.utf8EncodeChar c
  | .bad b => [b]

/-- The next `fuel` runes of some bytes. -/
def runesFrom : ℕ → List UInt8 → List Rune
  | 0, _ => []
  | _, [] => []
  | fuel + 1, b :: rest =>
    match (b :: rest).toByteArray.utf8DecodeChar? 0 with
    | some c => .char c :: runesFrom fuel ((b :: rest).drop c.utf8Size)
    | none => .bad b :: runesFrom fuel rest

def runes (bytes : List UInt8) : List Rune := runesFrom bytes.length bytes

/-- The runes of a text stand in front of those of what follows it. -/
theorem runesFrom_encode_append (text : List Char) (rest : List UInt8) {fuel : ℕ}
    (enough : text.length ≤ fuel) :
    runesFrom fuel (encode text ++ rest) =
      text.map .char ++ runesFrom (fuel - text.length) rest := by
  induction text generalizing fuel with
  | nil => rfl
  | cons c text ih =>
    obtain ⟨fuel, rfl⟩ : ∃ n, fuel = n + 1 := ⟨fuel - 1, by simp at enough; omega⟩
    have length : (String.utf8EncodeChar c).length = c.utf8Size := String.length_utf8EncodeChar c
    have bytes : encode (c :: text) ++ rest = String.utf8EncodeChar c ++ (encode text ++ rest) := by
      rw [encode_cons, List.append_assoc]
    have first : (encode (c :: text) ++ rest).toByteArray.utf8DecodeChar? 0 = some c := by
      rw [bytes, List.toByteArray_append]
      exact ByteArray.utf8DecodeChar?_utf8EncodeChar_append
    have later : (encode (c :: text) ++ rest).drop c.utf8Size = encode text ++ rest := by
      rw [bytes, ← length, List.drop_left]
    have ih : runesFrom fuel (encode text ++ rest) =
        text.map .char ++ runesFrom (fuel - text.length) rest := ih (by simpa using enough)
    cases split : encode (c :: text) ++ rest with
    | nil =>
      rw [bytes] at split
      exact absurd (List.append_eq_nil_iff.mp split).1 (bytes_ne_nil c)
    | cons b others =>
      rw [split] at first later
      simp only [runesFrom, first, later, ih, List.map_cons, List.cons_append, List.length_cons,
        Nat.add_sub_add_right]

theorem runes_encode_append (text : List Char) (rest : List UInt8) :
    ∃ tail, runes (encode text ++ rest) = text.map .char ++ tail := by
  refine ⟨_, runesFrom_encode_append text rest ?_⟩
  rw [List.length_append]
  exact (length_le_encode text).trans (Nat.le_add_right _ _)

@[simp] theorem runes_encode (text : List Char) : runes (encode text) = text.map .char := by
  have whole := runesFrom_encode_append text [] (length_le_encode text)
  rw [List.append_nil] at whole
  refine whole.trans ?_
  cases (encode text).length - text.length <;> exact List.append_nil _

/-- A first character is read off its own bytes. -/
theorem eq_append_of_decodeChar {bytes : List UInt8} {c : Char}
    (first : bytes.toByteArray.utf8DecodeChar? 0 = some c) :
    bytes = String.utf8EncodeChar c ++ bytes.drop c.utf8Size := by
  obtain ⟨rest, split⟩ := ByteArray.exists_of_utf8DecodeChar?_eq_some first
  have joined : bytes = String.utf8EncodeChar c ++ rest.data.toList := by
    apply List.toByteArray_inj.mp
    rw [split, List.toByteArray_append]
    exact congrArg _ (ByteArray.ext (by simp))
  have length : (String.utf8EncodeChar c).length = c.utf8Size := String.length_utf8EncodeChar c
  have left : bytes.drop c.utf8Size = rest.data.toList := by
    rw [joined, ← length, List.drop_left]
  rw [left]
  exact joined

/-- The runes keep all the bytes. -/
theorem bytes_runesFrom {fuel : ℕ} {bytes : List UInt8} (enough : bytes.length ≤ fuel) :
    (runesFrom fuel bytes).flatMap Rune.bytes = bytes := by
  induction fuel generalizing bytes with
  | zero =>
    obtain rfl := List.length_eq_zero_iff.mp (Nat.le_zero.mp enough)
    rfl
  | succ fuel ih =>
    cases bytes with
    | nil => rfl
    | cons b rest =>
      rw [List.length_cons] at enough
      unfold runesFrom
      cases first : (b :: rest).toByteArray.utf8DecodeChar? 0 with
      | some c =>
        have size := c.utf8Size_pos
        have shorter : ((b :: rest).drop c.utf8Size).length ≤ fuel := by
          rw [List.length_drop, List.length_cons]
          omega
        simp only [List.flatMap_cons, ih shorter]
        exact (eq_append_of_decodeChar first).symm
      | none =>
        simp only [List.flatMap_cons, ih (Nat.le_of_succ_le_succ enough)]
        rfl

theorem bytes_runes (bytes : List UInt8) : (runes bytes).flatMap Rune.bytes = bytes :=
  bytes_runesFrom le_rfl

@[simp] theorem bytes_map_char (text : List Char) :
    (text.map Rune.char).flatMap Rune.bytes = encode text := by
  simp [encode, List.flatMap_map, Rune.bytes]

/-! ## Trimming any bytes -/

/-- A byte of no character is no white space. -/
def Rune.isSpace : Rune → Bool
  | .char c => Text.isWhiteSpace c
  | .bad _ => false

/-- `strings.TrimSpace`, on any bytes. -/
def trimSpace (bytes : List UInt8) : List UInt8 :=
  (Text.trim Rune.isSpace (runes bytes)).flatMap Rune.bytes

theorem trimSpace_encode (text : List Char) :
    trimSpace (encode text) = encode (Text.trim Text.isWhiteSpace text) := by
  rw [trimSpace, runes_encode, Text.trim_map, bytes_map_char]
  rfl

/-- Runes of white space are those of a text. -/
theorem exists_spaces {margin : List Rune} (spaces : ∀ r ∈ margin, r.isSpace = true) :
    ∃ text : List Char, margin = text.map .char ∧ ∀ c ∈ text, Text.isWhiteSpace c = true := by
  induction margin with
  | nil => exact ⟨[], rfl, by simp⟩
  | cons r margin ih =>
    rw [List.forall_mem_cons] at spaces
    obtain ⟨text, rfl, white⟩ := ih spaces.2
    cases r with
    | char c => exact ⟨c :: text, rfl, List.forall_mem_cons.mpr ⟨spaces.1, white⟩⟩
    | bad b => cases spaces.1

theorem exists_trimSpace (bytes : List UInt8) :
    ∃ before after, bytes = encode before ++ (trimSpace bytes ++ encode after) ∧
      ∀ c ∈ before, Text.isWhiteSpace c = true := by
  obtain ⟨before, after, split, left, right⟩ := Text.exists_trim Rune.isSpace (runes bytes)
  obtain ⟨before, rfl, white⟩ := exists_spaces left
  obtain ⟨after, rfl, -⟩ := exists_spaces right
  refine ⟨before, after, ?_, white⟩
  have joined := congrArg (List.flatMap Rune.bytes) split
  rwa [bytes_runes, List.flatMap_append, List.flatMap_append, bytes_map_char, bytes_map_char]
    at joined

/-- What starts with other characters behind white space starts with them when it is trimmed. -/
theorem trimSpace_front {left front : List Char} (white : ∀ c ∈ left, Text.isWhiteSpace c = true)
    (some_ : front ≠ []) (plain : ∀ c ∈ front, Text.isWhiteSpace c = false) (rest : List UInt8) :
    encode front <+: trimSpace (encode (left ++ front) ++ rest) := by
  obtain ⟨tail, runes_eq⟩ := runes_encode_append (left ++ front) rest
  have margin : ∀ r ∈ left.map Rune.char, r.isSpace = true := by simpa [Rune.isSpace] using white
  have kept : ∀ r ∈ front.map Rune.char, r.isSpace = false := by simpa [Rune.isSpace] using plain
  have nonempty : front.map Rune.char ≠ [] := by simpa using some_
  have trimmed := Text.trim_append_of_ends nonempty
    (fun r first => kept r (List.mem_of_mem_head? first))
    (fun r last => kept r (List.mem_of_mem_getLast? last)) tail
  have dropped := Text.trim_append margin (List.forall_mem_nil _) (front.map Rune.char ++ tail)
  rw [List.append_nil] at dropped
  rw [trimSpace, runes_eq, List.map_append, List.append_assoc, dropped, trimmed,
    List.flatMap_append, bytes_map_char]
  exact List.prefix_append _ _

end Utf8
