import Mathlib.Data.List.DropRight
import Mathlib.Data.Nat.Notation

/-!
# Texts

Texts are lists of characters.  Trimming takes off both ends what satisfies a predicate.
-/

namespace Text

/-- The Unicode property White_Space. -/
def isWhiteSpace (c : Char) : Bool :=
  let n := c.toNat
  (9 ≤ n && n ≤ 13) || n = 0x20 || n = 0x85 || n = 0xA0 || n = 0x1680 ||
    (0x2000 ≤ n && n ≤ 0x200A) || n = 0x2028 || n = 0x2029 || n = 0x202F || n = 0x205F ||
    n = 0x3000

/-- Python's `str.isspace`, of one character. -/
def isPythonSpace (c : Char) : Bool :=
  isWhiteSpace c || (0x1C ≤ c.toNat && c.toNat ≤ 0x1F)

/-- ECMAScript's white space and line terminators. -/
def isEcmaSpace (c : Char) : Bool :=
  (isWhiteSpace c && c.toNat ≠ 0x85) || c.toNat = 0xFEFF

/-- What any of these takes for white space. -/
def isWideSpace (c : Char) : Bool := isPythonSpace c || c.toNat = 0xFEFF

theorem wide_of_whiteSpace {c : Char} (space : isWhiteSpace c = true) : isWideSpace c = true := by
  rw [isWideSpace, isPythonSpace, space, Bool.true_or, Bool.true_or]

theorem wide_of_pythonSpace {c : Char} (space : isPythonSpace c = true) :
    isWideSpace c = true := by
  rw [isWideSpace, space, Bool.true_or]

theorem wide_of_ecmaSpace {c : Char} (space : isEcmaSpace c = true) : isWideSpace c = true := by
  rcases Bool.or_eq_true_iff.mp space with inside | mark
  · exact wide_of_whiteSpace (Bool.and_eq_true_iff.mp inside).1
  · rw [isWideSpace, mark, Bool.or_true]

theorem not_wide_of_isDigit {c : Char} (is_digit : c.isDigit = true) : isWideSpace c = false := by
  obtain ⟨low, high⟩ := Char.isDigit_iff_toNat.mp is_digit
  have low : 48 ≤ c.toNat := low
  have high : c.toNat ≤ 57 := high
  simp [isWideSpace, isPythonSpace, isWhiteSpace]
  omega

section

variable {α β : Type*}

def trim (p : α → Bool) (l : List α) : List α := (l.dropWhile p).rdropWhile p

theorem dropWhile_map (p : β → Bool) (f : α → β) (l : List α) :
    (l.map f).dropWhile p = (l.dropWhile (p ∘ f)).map f := by
  induction l with
  | nil => rfl
  | cons a l ih =>
    by_cases h : p (f a)
    · simp [h, ih]
    · simp [h]

theorem trim_map (p : β → Bool) (f : α → β) (l : List α) :
    trim p (l.map f) = (trim (p ∘ f) l).map f := by
  simp only [trim, dropWhile_map, List.rdropWhile, ← List.map_reverse]

/-! ## Trimming -/

theorem exists_trim (p : α → Bool) (l : List α) :
    ∃ before after, l = before ++ (trim p l ++ after) ∧ (∀ a ∈ before, p a) ∧ ∀ a ∈ after, p a := by
  refine ⟨l.takeWhile p, (l.dropWhile p).rtakeWhile p, ?_, fun a => List.mem_takeWhile_imp,
    fun a => List.mem_rtakeWhile_imp⟩
  rw [trim, List.rdropWhile_append_rtakeWhile, List.takeWhile_append_dropWhile]

theorem trim_eq_nil_iff (p : α → Bool) (l : List α) : trim p l = [] ↔ l.all p = true := by
  constructor
  · intro none_
    obtain ⟨before, after, split, left, right⟩ := exists_trim p l
    rw [none_, List.nil_append] at split
    rw [split, List.all_eq_true]
    exact fun a inside => (List.mem_append.mp inside).elim (left a) (right a)
  · intro all
    rw [trim, List.dropWhile_eq_nil_iff.mpr (by simpa using all), List.rdropWhile_nil]

theorem getLast?_rdropWhile {p : α → Bool} {l : List α} {a : α}
    (last : (l.rdropWhile p).getLast? = some a) : p a = false := by
  obtain ⟨some_, rfl⟩ := List.mem_getLast?_eq_getLast last
  exact Bool.eq_false_iff.mpr (List.rdropWhile_last_not p l some_)

theorem trim_sublist (p : α → Bool) (l : List α) : (trim p l).Sublist l :=
  (List.rdropWhile_prefix _ _).sublist.trans (List.dropWhile_suffix _).sublist

theorem mem_of_mem_trim {p : α → Bool} {l : List α} {a : α} (inside : a ∈ trim p l) : a ∈ l := by
  obtain ⟨before, after, split, -, -⟩ := exists_trim p l
  rw [split]
  exact List.mem_append_right _ (List.mem_append_left _ inside)

theorem mem_trim_of_mem {p : α → Bool} {l : List α} {a : α} (inside : a ∈ l) (kept : p a = false) :
    a ∈ trim p l := by
  obtain ⟨before, after, split, left, right⟩ := exists_trim p l
  have trimmed {b : α} (margin : p b = true) : b ≠ a := by
    rintro rfl
    rw [margin] at kept
    cases kept
  rw [split] at inside
  rcases List.mem_append.mp inside with inside | inside
  · exact absurd rfl (trimmed (left a inside))
  · rcases List.mem_append.mp inside with inside | inside
    · exact inside
    · exact absurd rfl (trimmed (right a inside))

/-! ## The text before a separator -/

section

variable [DecidableEq α] {x : α} {l rest : List α}

theorem ne_of_absent (absent : x ∉ l) : ∀ a ∈ l, decide (a ≠ x) = true :=
  fun _ inside => decide_eq_true fun same => absent (same ▸ inside)

theorem absent_takeWhile (l : List α) : x ∉ l.takeWhile (· ≠ x) :=
  fun inside => by simpa using List.mem_takeWhile_imp inside

theorem takeWhile_ne_append (absent : x ∉ l) (stop : ∀ a ∈ rest.head?, a = x) :
    (l ++ rest).takeWhile (· ≠ x) = l := by
  rw [List.takeWhile_append_of_pos (ne_of_absent absent)]
  cases rest with
  | nil => exact List.append_nil l
  | cons a rest =>
    obtain rfl := stop a rfl
    simp

theorem dropWhile_ne_append (absent : x ∉ l) (stop : ∀ a ∈ rest.head?, a = x) :
    (l ++ rest).dropWhile (· ≠ x) = rest := by
  rw [List.dropWhile_append_of_pos (ne_of_absent absent)]
  cases rest with
  | nil => rfl
  | cons a rest =>
    obtain rfl := stop a rfl
    simp

end

theorem rdropWhile_append_of_forall {p : α → Bool} {after : List α} (all : ∀ a ∈ after, p a)
    (l : List α) : (l ++ after).rdropWhile p = l.rdropWhile p := by
  rw [List.rdropWhile, List.reverse_append, List.dropWhile_append_of_pos (by simpa using all)]
  rfl

theorem trim_append {p : α → Bool} {before after : List α} (left : ∀ a ∈ before, p a)
    (right : ∀ a ∈ after, p a) (l : List α) : trim p (before ++ (l ++ after)) = trim p l := by
  rw [trim, List.dropWhile_append_of_pos left, List.dropWhile_append]
  by_cases empty : l.dropWhile p = []
  · rw [if_pos (by simp [empty]), List.dropWhile_eq_nil_iff.mpr right, trim, empty]
  · rw [if_neg (by simpa using empty), rdropWhile_append_of_forall right, trim]

/-- A wider trim undoes a narrower one. -/
theorem trim_trim {p q : α → Bool} (wider : ∀ a, p a → q a) (l : List α) :
    trim q (trim p l) = trim q l := by
  obtain ⟨before, after, split, left, right⟩ := exists_trim p l
  conv_rhs => rw [split]
  exact (trim_append (fun a h => wider a (left a h)) (fun a h => wider a (right a h)) _).symm

theorem trim_eq_self {p : α → Bool} {l : List α} (plain : ∀ a ∈ l, p a = false) : trim p l = l := by
  cases l with
  | nil => rfl
  | cons a l =>
    have first : p a = false := plain a (List.mem_cons_self ..)
    rw [trim, List.dropWhile_cons_of_neg (by simp [first]), List.rdropWhile_eq_self_iff]
    intro nonempty
    simp [plain _ (List.getLast_mem nonempty)]

/-- Nothing is dropped in front of a first element that is kept. -/
theorem dropWhile_of_head {p : α → Bool} {l : List α} (first : ∀ a ∈ l.head?, p a = false) :
    l.dropWhile p = l := by
  cases l with
  | nil => rfl
  | cons a l => exact List.dropWhile_cons_of_neg (Bool.eq_false_iff.mp (first a rfl))

/-- Nothing is dropped behind a last element that is kept. -/
theorem rdropWhile_append {p : α → Bool} {l : List α} (last : ∀ a ∈ l.getLast?, p a = false)
    (tail : List α) :
    (l ++ tail).rdropWhile p = l ++ tail.rdropWhile p := by
  have kept : l.reverse.dropWhile p = l.reverse := by
    apply dropWhile_of_head
    rwa [List.head?_reverse]
  rw [List.rdropWhile, List.rdropWhile, List.reverse_append, List.dropWhile_append]
  by_cases empty : (tail.reverse.dropWhile p).isEmpty = true
  · rw [if_pos empty, kept, List.isEmpty_iff.mp empty, List.reverse_reverse, List.reverse_nil,
      List.append_nil]
  · rw [if_neg empty, List.reverse_append, List.reverse_reverse]

/-- A text both whose ends are kept is kept in front of any other. -/
theorem trim_append_of_ends {p : α → Bool} {l : List α} (some_ : l ≠ [])
    (first : ∀ a ∈ l.head?, p a = false) (last : ∀ a ∈ l.getLast?, p a = false) (tail : List α) :
    trim p (l ++ tail) = l ++ tail.rdropWhile p := by
  have front : ∀ a ∈ (l ++ tail).head?, p a = false := by
    rwa [List.head?_append_of_ne_nil l some_]
  rw [trim, dropWhile_of_head front, rdropWhile_append last]

/-- A text is trimmed when both its ends are kept. -/
theorem trim_of_ends {p : α → Bool} {l : List α} (first : ∀ a ∈ l.head?, p a = false)
    (last : ∀ a ∈ l.getLast?, p a = false) : trim p l = l := by
  have back := rdropWhile_append last []
  rw [List.append_nil, List.rdropWhile_nil, List.append_nil] at back
  rw [trim, dropWhile_of_head first, back]

/-- A text that is trimmed ends in an element that is kept. -/
theorem last_of_trimmed {p : α → Bool} {l : List α} (trimmed : trim p l = l) :
    ∀ a ∈ l.getLast?, p a = false := by
  intro a last
  rw [← trimmed] at last
  exact getLast?_rdropWhile last

theorem head_of_trimmed {p : α → Bool} {l : List α} (trimmed : trim p l = l) :
    ∀ a ∈ l.head?, p a = false := by
  intro a first
  cases l with
  | nil => cases first
  | cons b l =>
    obtain rfl := Option.some.inj first
    by_contra margin
    have shorter := (trim_sublist p l).length_le
    have dropped : trim p (b :: l) = trim p l := by
      rw [trim, List.dropWhile_cons_of_pos (by simpa using margin)]
      rfl
    rw [dropped] at trimmed
    rw [trimmed, List.length_cons] at shorter
    omega

theorem dropWhile_congr {p q : α → Bool} {l : List α} (same : ∀ a ∈ l, p a = q a) :
    l.dropWhile p = l.dropWhile q := by
  induction l with
  | nil => rfl
  | cons a l ih =>
    rw [List.forall_mem_cons] at same
    rw [List.dropWhile_cons, List.dropWhile_cons, same.1, ih same.2]

theorem trim_congr {p q : α → Bool} {l : List α} (same : ∀ a ∈ l, p a = q a) :
    trim p l = trim q l := by
  have inside : ∀ a ∈ (l.dropWhile q).reverse, p a = q a := fun a listed =>
    same a ((List.dropWhile_suffix q).subset (List.mem_reverse.mp listed))
  rw [trim, trim, dropWhile_congr same, List.rdropWhile, List.rdropWhile, dropWhile_congr inside]

/-- A wider trim takes no more where it agrees with the narrower one inside. -/
theorem trim_eq_of_agree {p q : α → Bool} (wider : ∀ a, p a → q a) {l : List α}
    (agree : ∀ a ∈ trim p l, q a → p a) : trim q l = trim p l := by
  have same : ∀ a ∈ trim p l, q a = p a := fun a listed =>
    Bool.eq_iff_iff.mpr ⟨agree a listed, wider a⟩
  rw [← trim_trim wider, trim_congr same, trim_trim fun _ h => h]

/-! ## Fields -/

/-- The fields of `l` between elements that satisfy `p`, without empty ones; the first one starts
with `current`. -/
def fieldsFrom (p : α → Bool) (current : List α) : List α → List (List α)
  | [] => if current.isEmpty then [] else [current]
  | a :: l =>
    if p a then
      if current.isEmpty then fieldsFrom p [] l else current :: fieldsFrom p [] l
    else fieldsFrom p (current ++ [a]) l

def fields (p : α → Bool) (l : List α) : List (List α) := fieldsFrom p [] l

theorem fieldsFrom_congr {p q : α → Bool} {l : List α} (same : ∀ a ∈ l, p a = q a)
    (current : List α) : fieldsFrom p current l = fieldsFrom q current l := by
  induction l generalizing current with
  | nil => rfl
  | cons a l ih =>
    rw [List.forall_mem_cons] at same
    simp only [fieldsFrom, same.1, ih same.2]

theorem fields_congr {p q : α → Bool} {l : List α} (same : ∀ a ∈ l, p a = q a) :
    fields p l = fields q l :=
  fieldsFrom_congr same []

theorem fieldsFrom_sep {p : α → Bool} (current : List α) {a : α} (l : List α) (sep : p a = true) :
    fieldsFrom p current (a :: l) = (if current.isEmpty then [] else [current]) ++ fields p l := by
  rw [fieldsFrom, if_pos sep]
  by_cases empty : current.isEmpty = true
  · rw [if_pos empty, if_pos empty]
    rfl
  · rw [if_neg empty, if_neg empty]
    rfl

theorem mem_current {current : List α} {a : α} (seen : a ∈ current) :
    current ∈ (if current.isEmpty then [] else [current]) := by
  cases current with
  | nil => cases seen
  | cons => exact List.mem_singleton_self _

/-- Every element that is no separator stands in some field. -/
theorem exists_fieldsFrom {p : α → Bool} {current l : List α} {a : α}
    (listed : a ∈ current ∨ a ∈ l ∧ p a = false) : ∃ field ∈ fieldsFrom p current l, a ∈ field := by
  induction l generalizing current with
  | nil =>
    have seen : a ∈ current := by simpa using listed
    exact ⟨current, mem_current seen, seen⟩
  | cons b l ih =>
    by_cases sep : p b = true
    · rw [fieldsFrom_sep current l sep]
      rcases listed with seen | ⟨here, plain⟩
      · exact ⟨current, List.mem_append_left _ (mem_current seen), seen⟩
      · have later : a ∈ l := by
          rcases List.mem_cons.mp here with rfl | later
          · rw [sep] at plain
            cases plain
          · exact later
        obtain ⟨field, found, inside⟩ := @ih [] (.inr ⟨later, plain⟩)
        exact ⟨field, List.mem_append_right _ found, inside⟩
    · rw [fieldsFrom, if_neg sep]
      apply ih
      rcases listed with seen | ⟨here, plain⟩
      · exact .inl (List.mem_append_left _ seen)
      · rcases List.mem_cons.mp here with rfl | later
        · exact .inl (List.mem_append_right _ (List.mem_singleton_self _))
        · exact .inr ⟨later, plain⟩

theorem exists_field {p : α → Bool} {l : List α} {a : α} (listed : a ∈ l) (plain : p a = false) :
    ∃ field ∈ fields p l, a ∈ field :=
  exists_fieldsFrom (.inr ⟨listed, plain⟩)

theorem mem_of_mem_fieldsFrom {p : α → Bool} {current l field : List α}
    (found : field ∈ fieldsFrom p current l) {a : α} (inside : a ∈ field) : a ∈ current ∨ a ∈ l := by
  induction l generalizing current with
  | nil =>
    rw [fieldsFrom] at found
    split at found
    · cases found
    · rw [List.mem_singleton] at found
      exact .inl (found ▸ inside)
  | cons b l ih =>
    by_cases sep : p b = true
    · rw [fieldsFrom_sep current l sep, List.mem_append] at found
      rcases found with found | found
      · split at found
        · cases found
        · rw [List.mem_singleton] at found
          exact .inl (found ▸ inside)
      · rcases ih found with absent | later
        · cases absent
        · exact .inr (List.mem_cons_of_mem _ later)
    · rw [fieldsFrom, if_neg sep] at found
      rcases ih found with seen | later
      · rcases List.mem_append.mp seen with seen | here
        · exact .inl seen
        · exact .inr (List.mem_cons.mpr (.inl (List.mem_singleton.mp here)))
      · exact .inr (List.mem_cons_of_mem _ later)

theorem mem_of_mem_fields {p : α → Bool} {l field : List α} (found : field ∈ fields p l) {a : α}
    (inside : a ∈ field) : a ∈ l :=
  (mem_of_mem_fieldsFrom found inside).resolve_left List.not_mem_nil

/-! ## Fields of a joined text -/

theorem fieldsFrom_append {p : α → Bool} (current l : List α) {a : α} (sep : p a = true)
    (l' : List α) :
    fieldsFrom p current (l ++ a :: l') = fieldsFrom p current l ++ fields p l' := by
  induction l generalizing current with
  | nil => exact fieldsFrom_sep current l' sep
  | cons b l ih =>
    rw [List.cons_append, fieldsFrom, fieldsFrom]
    by_cases sep' : p b = true
    · rw [if_pos sep', if_pos sep', ih]
      by_cases empty : current.isEmpty = true
      · rw [if_pos empty, if_pos empty]
      · rw [if_neg empty, if_neg empty, List.cons_append]
    · rw [if_neg sep', if_neg sep', ih]

theorem fields_append_cons {p : α → Bool} (l : List α) {a : α} (sep : p a = true) (l' : List α) :
    fields p (l ++ a :: l') = fields p l ++ fields p l' :=
  fieldsFrom_append [] l sep l'

theorem fields_cons {p : α → Bool} {a : α} (sep : p a = true) (l : List α) :
    fields p (a :: l) = fields p l :=
  fields_append_cons [] sep l

theorem fields_append_left {p : α → Bool} {before : List α} (seps : ∀ a ∈ before, p a = true)
    (l : List α) : fields p (before ++ l) = fields p l := by
  induction before with
  | nil => rfl
  | cons a before ih =>
    rw [List.forall_mem_cons] at seps
    rw [List.cons_append, fields_cons seps.1, ih seps.2]

/-- Separators between two texts keep their fields apart. -/
theorem fields_join {p : α → Bool} (l : List α) {seps : List α} (all : ∀ a ∈ seps, p a = true)
    (some_ : seps ≠ []) (l' : List α) : fields p (l ++ (seps ++ l')) = fields p l ++ fields p l' := by
  obtain ⟨a, seps, rfl⟩ := List.exists_cons_of_ne_nil some_
  rw [List.forall_mem_cons] at all
  rw [List.cons_append, fields_append_cons l all.1, fields_append_left all.2]

theorem fields_append_right {p : α → Bool} (l : List α) {after : List α}
    (seps : ∀ a ∈ after, p a = true) : fields p (l ++ after) = fields p l := by
  cases after with
  | nil => rw [List.append_nil]
  | cons a after =>
    rw [← List.append_nil (a :: after), fields_join l seps (List.cons_ne_nil a after)]
    exact List.append_nil _

/-- A text has the fields of what is left when its margins are trimmed. -/
theorem fields_trim {p q : α → Bool} (margin : ∀ a, q a = true → p a = true) (l : List α) :
    fields p (trim q l) = fields p l := by
  obtain ⟨before, after, split, left, right⟩ := exists_trim q l
  conv_rhs => rw [split]
  rw [fields_append_left fun a inside => margin a (left a inside),
    fields_append_right _ fun a inside => margin a (right a inside)]

theorem fieldsFrom_plain {p : α → Bool} (current : List α) {a : α} (plain : p a = false)
    (l : List α) : fieldsFrom p current (a :: l) = fieldsFrom p (current ++ [a]) l := by
  rw [fieldsFrom, if_neg (Bool.eq_false_iff.mp plain)]

theorem fieldsFrom_word {p : α → Bool} {word : List α} (plain : ∀ a ∈ word, p a = false)
    (current : List α) : fieldsFrom p current word = fieldsFrom p (current ++ word) [] := by
  induction word generalizing current with
  | nil => rw [List.append_nil]
  | cons a word ih =>
    rw [List.forall_mem_cons] at plain
    rw [fieldsFrom_plain current plain.1, ih plain.2, List.append_assoc, List.singleton_append]

theorem fields_word {p : α → Bool} {word : List α} (plain : ∀ a ∈ word, p a = false)
    (some_ : word ≠ []) : fields p word = [word] := by
  rw [fields, fieldsFrom_word plain, List.nil_append, fieldsFrom, if_neg (by simpa using some_)]

/-- Words joined by separators are the fields of the joined text. -/
theorem fields_intercalate {p : α → Bool} {seps : List α} (all : ∀ a ∈ seps, p a = true)
    (some_ : seps ≠ []) {words : List (List α)}
    (plain : ∀ word ∈ words, word ≠ [] ∧ ∀ a ∈ word, p a = false) :
    fields p (seps.intercalate words) = words := by
  induction words with
  | nil => rfl
  | cons word words ih =>
    rw [List.forall_mem_cons] at plain
    have alone := fields_word plain.1.2 plain.1.1
    cases words with
    | nil => rw [List.intercalate_singleton, alone]
    | cons word' words =>
      rw [List.intercalate_cons_cons, List.append_assoc, fields_join word all some_, alone,
        ih plain.2]
      rfl

end

end Text
