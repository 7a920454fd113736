import MatterSdk.Scopes.Parse

/-!
# When the four parsers agree

The widest reading takes for white space and for letters what any of the clients does.  A client reads
a text just as the widest reading does if it understands the text's characters, and else refuses it.
-/

namespace MatterSdk

open Casing

def isWideSeparator (c : Char) : Bool := c = ',' || Text.isWideSpace c

/-- The widest reading. -/
def wideParser : ScopeParser where
  isMargin := Text.isWideSpace
  isSeparator := isWideSeparator
  isEmptyText trimmed := trimmed.map wideLower = emptyText
  scopeOf name := scopeNamed (name.map wideLower)
  lowerAccess access := access.map wideLower
  quotedName name := name
  quotedAccess access := access

/-- After trimming, the text's white space separates entries for this client too, and its letters are
ones that the client's lower-casing knows. -/
structure Understands (p : ScopeParser) (kelvin dotted text : List Char) : Prop where
  separators : ∀ c ∈ Text.trim p.isMargin text, isWideSeparator c = true → p.isSeparator c = true
  letters : Known kelvin dotted (Text.trim p.isMargin text)

/-- A client that reads as the widest reading does, but for less white space and fewer letters. -/
structure Narrower (p : ScopeParser) (kelvin dotted : List Char) : Prop where
  margin : ∀ c, p.isMargin c = true → Text.isWideSpace c = true
  separator : ∀ c, p.isSeparator c = true → isWideSeparator c = true
  covers : ∀ c, p.isSeparator c = true → c = ',' ∨ p.isMargin c = true
  emptyText : ∀ trimmed, p.isEmptyText trimmed = true ↔ trimmed.map wideLower = emptyText
  scopeOf : ∀ name scope, p.scopeOf name = some scope ↔
    scopeNamed (name.map wideLower) = some scope ∧ Known kelvin dotted name
  access : ∀ access letters, readAccess (p.lowerAccess access) false false = some letters ↔
    readAccess (access.map wideLower) false false = some letters

/-! ## Characters of entries -/

/-- The characters that names, access letters and the text of no scopes are made of. -/
def Letter (c : Char) : Prop := (97 ≤ c.toNat ∧ c.toNat ≤ 122) ∨ c = '(' ∨ c = ')'

theorem not_separator_of_letter {c : Char} (letter : Letter (wideLower c)) :
    isWideSeparator c = false := by
  by_cases plain : c.toNat < 128
  · have all : ∀ n < 128, Letter (wideLower (Char.ofNat n)) →
        isWideSeparator (Char.ofNat n) = false := by
      unfold Letter
      decide
    have here := all c.toNat plain
    rw [Char.ofNat_toNat] at here
    exact here letter
  · by_cases kelvin : c = kelvinSign
    · rw [kelvin]
      decide
    by_cases dotted : c = dottedI
    · rw [dotted]
      decide
    · have lowered : wideLower c = c := by
        rw [wideLower, if_neg kelvin, if_neg dotted, toLower_eq_self (Nat.not_lt.mp plain)]
      rw [lowered] at letter
      rcases letter with bounds | rfl | rfl
      · omega
      · exact absurd (by decide) plain
      · exact absurd (by decide) plain

theorem known_of_separator {kelvin dotted : List Char} {c : Char}
    (separator : isWideSeparator c = true) : Known kelvin dotted [c] := by
  intro d here
  rw [List.mem_singleton] at here
  subst here
  constructor
  · rintro rfl
    exact absurd separator (by decide)
  · rintro rfl
    exact absurd separator (by decide)

theorem letter_of_name {scope : Scope} {c : Char} (inside : c ∈ scope.name.toList) : Letter c := by
  have all : (scope.name.toList.all fun c => 97 ≤ c.toNat ∧ c.toNat ≤ 122) = true := by
    cases scope <;> decide
  exact .inl (of_decide_eq_true (List.all_eq_true.mp all c inside))

theorem readAccess_letters {text : List Char} {read write : Bool} {letters : Bool × Bool}
    (valid : readAccess text read write = some letters) : ∀ c ∈ text, c = 'r' ∨ c = 'w' := by
  induction text generalizing read write with
  | nil => simp
  | cons c rest ih =>
    rw [readAccess] at valid
    rw [List.forall_mem_cons]
    by_cases is_read : (c = 'r' && !read) = true
    · rw [if_pos is_read] at valid
      simp only [Bool.and_eq_true, decide_eq_true_eq] at is_read
      exact ⟨.inl is_read.1, ih valid⟩
    · rw [if_neg is_read] at valid
      by_cases is_write : (c = 'w' && !write) = true
      · rw [if_pos is_write] at valid
        simp only [Bool.and_eq_true, decide_eq_true_eq] at is_write
        exact ⟨.inr is_write.1, ih valid⟩
      · rw [if_neg is_write] at valid
        cases valid

theorem scopeNamed_eq_some_iff {name : List Char} {scope : Scope} :
    scopeNamed name = some scope ↔ name = scope.name.toList := by
  constructor
  · intro found
    have named := List.find?_some found
    exact (of_decide_eq_true named).symm
  · rintro rfl
    cases scope <;> decide

/-! ## A client's lower-casing -/

section

variable {kelvin dotted : List Char} (kelvin_definite : Definite 'k' kelvin)
  (dotted_definite : Definite 'i' dotted) (l : Lowering kelvin dotted)

include kelvin_definite dotted_definite

theorem scopeNamed_lower_iff (name : List Char) (scope : Scope) :
    scopeNamed (l.lower name) = some scope ↔
      scopeNamed (name.map wideLower) = some scope ∧ Known kelvin dotted name := by
  rw [scopeNamed_eq_some_iff, scopeNamed_eq_some_iff]
  refine lower_eq_iff kelvin_definite dotted_definite l fun c inside => ?_
  rcases letter_of_name inside with bounds | rfl | rfl
  · omega
  · decide
  · decide

/-- Where the wide mapping gives no `k` and no `i`, every mapping knows the text. -/
theorem lower_eq_map {text : List Char} (plain : Plain (text.map wideLower))
    (no_k : 'k' ∉ text.map wideLower) (no_i : 'i' ∉ text.map wideLower) :
    l.lower text = text.map wideLower := by
  refine (lower_eq_iff kelvin_definite dotted_definite l plain).mpr ⟨rfl, fun c inside => ?_⟩
  have lowered : wideLower c ∈ text.map wideLower := List.mem_map_of_mem inside
  constructor
  · rintro rfl
    exact absurd lowered no_k
  · rintro rfl
    exact absurd lowered no_i

theorem readAccess_lower_iff (access : List Char) (letters : Bool × Bool) :
    readAccess (l.lower access) false false = some letters ↔
      readAccess (access.map wideLower) false false = some letters := by
  constructor
  · intro valid
    have plain : Plain (l.lower access) := by
      intro c inside
      rcases readAccess_letters valid c inside with rfl | rfl <;> decide
    rwa [((lower_eq_iff kelvin_definite dotted_definite l plain).mp rfl).1]
  · intro valid
    have only := readAccess_letters valid
    have plain : Plain (access.map wideLower) := by
      intro c inside
      rcases only c inside with rfl | rfl <;> decide
    have no_k : 'k' ∉ access.map wideLower := fun inside => by
      rcases only _ inside with same | same <;> exact absurd same (by decide)
    have no_i : 'i' ∉ access.map wideLower := fun inside => by
      rcases only _ inside with same | same <;> exact absurd same (by decide)
    rwa [lower_eq_map kelvin_definite dotted_definite l plain no_k no_i]

theorem lower_eq_emptyText_iff (trimmed : List Char) :
    l.lower trimmed = emptyText ↔ trimmed.map wideLower = emptyText := by
  have all : (emptyText.all fun c => c.toNat < 128) = true := by decide
  have plain : Plain emptyText := fun c inside =>
    of_decide_eq_true (List.all_eq_true.mp all c inside)
  constructor
  · intro same
    exact ((lower_eq_iff kelvin_definite dotted_definite l plain).mp same).1
  · intro same
    rw [← same] at plain
    rw [lower_eq_map kelvin_definite dotted_definite l plain (by rw [same]; decide)
      (by rw [same]; decide), same]

end

/-! ## Entries -/

theorem takeWhile_name {name access : List Char} (plain : ':' ∉ name) :
    (name ++ ':' :: access).takeWhile notColon = name :=
  Text.takeWhile_ne_append plain (by simp)

theorem dropWhile_name {name access : List Char} (plain : ':' ∉ name) :
    (name ++ ':' :: access).dropWhile notColon = ':' :: access :=
  Text.dropWhile_ne_append plain (by simp)

/-- An entry is a name, a colon and access letters. -/
theorem parseEntry_eq_ok_iff (p : ScopeParser) (entry : List Char) (scope : Scope)
    (read write : Bool) :
    p.parseEntry entry = .ok (scope, read, write) ↔
      ∃ name access, entry = name ++ ':' :: access ∧ ':' ∉ name ∧ p.scopeOf name = some scope ∧
        readAccess (p.lowerAccess access) false false = some (read, write) := by
  constructor
  · intro parsed
    unfold ScopeParser.parseEntry at parsed
    cases rest : entry.dropWhile notColon with
    | nil => simp [rest] at parsed
    | cons c access =>
      have colon : c = ':' := by
        have first := List.head?_dropWhile_not notColon entry
        rw [rest] at first
        simpa [notColon] using first
      subst colon
      have split : entry = entry.takeWhile notColon ++ ':' :: access := by
        rw [← rest, List.takeWhile_append_dropWhile]
      have plain : ':' ∉ entry.takeWhile notColon := Text.absent_takeWhile entry
      simp only [rest] at parsed
      cases named : p.scopeOf (entry.takeWhile notColon) with
      | none => simp [named] at parsed
      | some scope' =>
        cases letters : readAccess (p.lowerAccess access) false false with
        | none => simp [named, letters] at parsed
        | some pair =>
          obtain ⟨read', write'⟩ := pair
          simp only [named, letters, Except.ok.injEq, Prod.mk.injEq] at parsed
          obtain ⟨rfl, rfl, rfl⟩ := parsed
          exact ⟨_, access, split, plain, named, letters⟩
  · rintro ⟨name, access, rfl, plain, named, letters⟩
    simp only [ScopeParser.parseEntry, takeWhile_name plain, dropWhile_name plain, named, letters]

theorem known_append {kelvin dotted text text' : List Char} :
    Known kelvin dotted (text ++ text') ↔ Known kelvin dotted text ∧ Known kelvin dotted text' :=
  List.forall_mem_append

/-- An entry of the widest reading has no separators. -/
theorem not_separator_of_parseEntry {entry : List Char} {parsed : Scope × Bool × Bool}
    (valid : wideParser.parseEntry entry = .ok parsed) : ∀ c ∈ entry, isWideSeparator c = false := by
  obtain ⟨scope, read, write⟩ := parsed
  obtain ⟨name, access, rfl, -, named, letters⟩ :=
    (parseEntry_eq_ok_iff wideParser entry scope read write).mp valid
  have name_eq : name.map wideLower = scope.name.toList := scopeNamed_eq_some_iff.mp named
  intro c inside
  rcases List.mem_append.mp inside with inside | inside
  · apply not_separator_of_letter
    apply @letter_of_name scope
    rw [← name_eq]
    exact List.mem_map_of_mem inside
  rcases List.mem_cons.mp inside with rfl | inside
  · decide
  · apply not_separator_of_letter
    have lowered : wideLower c ∈ access.map wideLower := List.mem_map_of_mem inside
    rcases readAccess_letters letters _ lowered with same | same <;>
      exact .inl (by rw [same]; decide)

theorem known_colon (kelvin dotted : List Char) : Known kelvin dotted [':'] := by
  have apart : ':' ≠ kelvinSign ∧ ':' ≠ dottedI := by decide
  simp [Known, apart]

/-- Access letters are known to every mapping. -/
theorem known_access {kelvin dotted access : List Char} {letters : Bool × Bool}
    (valid : readAccess (access.map wideLower) false false = some letters) :
    Known kelvin dotted access := by
  intro c inside
  have lowered : wideLower c ∈ access.map wideLower := List.mem_map_of_mem inside
  have only := readAccess_letters valid _ lowered
  constructor
  · rintro rfl
    exact absurd only (by decide)
  · rintro rfl
    exact absurd only (by decide)

section

variable {p : ScopeParser} {kelvin dotted : List Char} (narrower : Narrower p kelvin dotted)

include narrower

theorem parseEntry_iff (entry : List Char) (parsed : Scope × Bool × Bool) :
    p.parseEntry entry = .ok parsed ↔
      wideParser.parseEntry entry = .ok parsed ∧ Known kelvin dotted entry := by
  obtain ⟨scope, read, write⟩ := parsed
  rw [parseEntry_eq_ok_iff, parseEntry_eq_ok_iff]
  constructor
  · rintro ⟨name, access, rfl, plain, named, letters⟩
    rw [narrower.scopeOf] at named
    rw [narrower.access] at letters
    refine ⟨⟨name, access, rfl, plain, named.1, letters⟩, ?_⟩
    rw [known_append, known_cons]
    exact ⟨named.2, known_colon kelvin dotted, known_access letters⟩
  · rintro ⟨⟨name, access, rfl, plain, named, letters⟩, known⟩
    refine ⟨name, access, rfl, plain, ?_, ?_⟩
    · rw [narrower.scopeOf]
      exact ⟨named, (known_append.mp known).1⟩
    · rw [narrower.access]
      exact letters

theorem parseEntries_iff (entries : List (List Char)) (set s : ScopeSet) :
    p.parseEntries entries set = .ok s ↔
      wideParser.parseEntries entries set = .ok s ∧ ∀ entry ∈ entries, Known kelvin dotted entry := by
  induction entries generalizing set with
  | nil => simp [ScopeParser.parseEntries]
  | cons entry rest ih =>
    rw [List.forall_mem_cons, ScopeParser.parseEntries, ScopeParser.parseEntries]
    cases wide : wideParser.parseEntry entry with
    | error e =>
      cases own : p.parseEntry entry with
      | error e' => simp
      | ok parsed =>
        rw [((parseEntry_iff narrower entry parsed).mp own).1] at wide
        cases wide
    | ok parsed =>
      by_cases known : Known kelvin dotted entry
      · have own := (parseEntry_iff narrower entry parsed).mpr ⟨wide, known⟩
        simp only [own, ih, known, true_and]
      · cases own : p.parseEntry entry with
        | error e => simp [known]
        | ok parsed' => exact absurd ((parseEntry_iff narrower entry parsed').mp own).2 known

end

theorem not_separator_of_parseEntries {entries : List (List Char)} {set s : ScopeSet}
    (valid : wideParser.parseEntries entries set = .ok s) :
    ∀ entry ∈ entries, ∀ c ∈ entry, isWideSeparator c = false := by
  induction entries generalizing set with
  | nil => simp
  | cons entry rest ih =>
    rw [ScopeParser.parseEntries] at valid
    cases parsed : wideParser.parseEntry entry with
    | error e => simp [parsed] at valid
    | ok grants =>
      simp only [parsed] at valid
      exact List.forall_mem_cons.mpr ⟨not_separator_of_parseEntry parsed, ih valid⟩

/-- The text of no scopes has no separators and only letters that every mapping knows. -/
theorem emptyText_letters {trimmed : List Char} (same : trimmed.map wideLower = emptyText) :
    ∀ c ∈ trimmed, isWideSeparator c = false ∧ c ≠ kelvinSign ∧ c ≠ dottedI := by
  intro c inside
  have lowered : wideLower c ∈ emptyText := same ▸ List.mem_map_of_mem inside
  have letters : (emptyText.all fun d =>
      ((97 ≤ d.toNat ∧ d.toNat ≤ 122) ∨ d = '(' ∨ d = ')') ∧ d ≠ 'k' ∧ d ≠ 'i') = true := by decide
  have letter := of_decide_eq_true (List.all_eq_true.mp letters _ lowered)
  refine ⟨not_separator_of_letter letter.1, ?_, ?_⟩
  · rintro rfl
    exact letter.2.1 (by decide)
  · rintro rfl
    exact letter.2.2 (by decide)

/-! ## Texts -/

section

variable {p : ScopeParser} {kelvin dotted : List Char} (narrower : Narrower p kelvin dotted)

include narrower

/-- A client that returns a set understands the text. -/
theorem understands_of_parse {text : List Char} {s : ScopeSet} (parsed : p.parse text = .ok s) :
    Understands p kelvin dotted text := by
  unfold ScopeParser.parse at parsed
  by_cases none_listed : ((Text.trim p.isMargin text).isEmpty ||
      p.isEmptyText (Text.trim p.isMargin text)) = true
  · have letters : ∀ c ∈ Text.trim p.isMargin text,
        isWideSeparator c = false ∧ c ≠ kelvinSign ∧ c ≠ dottedI := by
      rcases Bool.or_eq_true_iff.mp none_listed with empty | same
      · rw [List.isEmpty_iff.mp empty]
        simp
      · exact emptyText_letters ((narrower.emptyText _).mp same)
    refine ⟨fun c inside separator => ?_, fun c inside => ?_⟩
    · rw [(letters c inside).1] at separator
      cases separator
    · exact ⟨fun kelvin_ => absurd kelvin_ (letters c inside).2.1,
        fun dotted_ => absurd dotted_ (letters c inside).2.2⟩
  · simp only [if_neg none_listed] at parsed
    obtain ⟨wide, known⟩ := (parseEntries_iff narrower _ _ s).mp parsed
    have plain := not_separator_of_parseEntries wide
    refine ⟨fun c inside separator => ?_, fun c inside => ?_⟩
    · by_contra joined
      obtain ⟨entry, listed, within⟩ := Text.exists_field inside (Bool.eq_false_iff.mpr joined)
      rw [plain entry listed c within] at separator
      cases separator
    · by_cases own : p.isSeparator c = true
      · exact known_of_separator (narrower.separator c own) c (List.mem_singleton_self c)
      · obtain ⟨entry, listed, within⟩ := Text.exists_field inside (Bool.eq_false_iff.mpr own)
        exact known entry listed c within

/-- A client that understands the text returns what the widest reading does. -/
theorem parse_iff_of_understands {text : List Char} (understands : Understands p kelvin dotted text)
    (s : ScopeSet) : p.parse text = .ok s ↔ wideParser.parse text = .ok s := by
  have separators : ∀ c ∈ Text.trim p.isMargin text, p.isSeparator c = isWideSeparator c :=
    fun c inside => Bool.eq_iff_iff.mpr
      ⟨narrower.separator c, understands.separators c inside⟩
  have trim_eq : Text.trim Text.isWideSpace text = Text.trim p.isMargin text := by
    refine Text.trim_eq_of_agree narrower.margin fun c inside space => ?_
    have own : p.isSeparator c = true := by
      rw [separators c inside, isWideSeparator, space, Bool.or_true]
    refine (narrower.covers c own).resolve_left ?_
    rintro rfl
    exact absurd space (by decide)
  have empty_eq : p.isEmptyText (Text.trim p.isMargin text) =
      wideParser.isEmptyText (Text.trim p.isMargin text) := by
    rw [Bool.eq_iff_iff, narrower.emptyText]
    exact decide_eq_true_iff.symm
  show (if (Text.trim p.isMargin text).isEmpty || p.isEmptyText (Text.trim p.isMargin text) then
      Except.ok .empty
    else p.parseEntries (Text.fields p.isSeparator (Text.trim p.isMargin text)) .empty) = .ok s ↔
    (if (Text.trim Text.isWideSpace text).isEmpty ||
        wideParser.isEmptyText (Text.trim Text.isWideSpace text)
      then Except.ok .empty
    else wideParser.parseEntries
      (Text.fields isWideSeparator (Text.trim Text.isWideSpace text)) .empty) =
      .ok s
  rw [trim_eq, empty_eq, Text.fields_congr separators]
  split
  · exact Iff.rfl
  · rw [parseEntries_iff narrower]
    exact and_iff_left fun entry listed c within =>
      understands.letters c (Text.mem_of_mem_fields listed within)

/-- A client returns a set just when it understands the text, and then the widest reading's. -/
theorem parse_iff (text : List Char) (s : ScopeSet) :
    p.parse text = .ok s ↔ Understands p kelvin dotted text ∧ wideParser.parse text = .ok s := by
  constructor
  · intro parsed
    have understands := understands_of_parse narrower parsed
    exact ⟨understands, (parse_iff_of_understands narrower understands s).mp parsed⟩
  · rintro ⟨understands, parsed⟩
    exact (parse_iff_of_understands narrower understands s).mpr parsed

end

section

variable {p q : ScopeParser} {kelvin dotted kelvin' dotted' text : List Char}

theorem Narrower.toOption_eq (narrower : Narrower p kelvin dotted) {s : ScopeSet}
    (wide : wideParser.parse text = .ok s) :
    (Understands p kelvin dotted text ∧ (p.parse text).toOption = some s) ∨
      (¬ Understands p kelvin dotted text ∧ (p.parse text).toOption = none) := by
  by_cases understands : Understands p kelvin dotted text
  · have parsed := (parse_iff narrower text s).mpr ⟨understands, wide⟩
    exact .inl ⟨understands, by rw [parsed]; rfl⟩
  · refine .inr ⟨understands, ?_⟩
    cases parsed : p.parse text with
    | error e => rfl
    | ok s' => exact absurd (understands_of_parse narrower parsed) understands

/-- Of a text that the widest reading accepts, two clients make the same iff both understand it or
neither does. -/
theorem Narrower.toOption_eq_iff (narrower : Narrower p kelvin dotted)
    (narrower' : Narrower q kelvin' dotted') {s : ScopeSet} (wide : wideParser.parse text = .ok s) :
    (p.parse text).toOption = (q.parse text).toOption ↔
      (Understands p kelvin dotted text ↔ Understands q kelvin' dotted' text) := by
  rcases narrower.toOption_eq wide with ⟨yes, same⟩ | ⟨no, same⟩ <;>
    rcases narrower'.toOption_eq wide with ⟨yes', same'⟩ | ⟨no', same'⟩ <;>
    rw [same, same'] <;> simp [*]

theorem Narrower.toOption_eq_of_refused (narrower : Narrower p kelvin dotted)
    (narrower' : Narrower q kelvin' dotted') (refused : ∀ s, wideParser.parse text ≠ .ok s) :
    (p.parse text).toOption = (q.parse text).toOption := by
  have none_of {r : ScopeParser} {k d : List Char} (narrower : Narrower r k d) :
      (r.parse text).toOption = none := by
    cases parsed : r.parse text with
    | error e => rfl
    | ok s => exact absurd ((parse_iff narrower text s).mp parsed).2 (refused s)
  rw [none_of narrower, none_of narrower']

end

/-! ## The four clients -/

theorem definite_kelvinSign : Definite 'k' [kelvinSign] := .inr fun plain => by
  exact absurd (plain kelvinSign (List.mem_singleton_self _)) (by decide)

theorem definite_dottedI : Definite 'i' [dottedI] := .inr fun plain => by
  exact absurd (plain dottedI (List.mem_singleton_self _)) (by decide)

theorem wide_of_comma_or {space : Char → Bool} (wide : ∀ c, space c = true → Text.isWideSpace c = true)
    (c : Char) (separator : (c = ',' || space c) = true) : isWideSeparator c = true := by
  rcases Bool.or_eq_true_iff.mp separator with comma | space
  · rw [isWideSeparator, comma, Bool.true_or]
  · rw [isWideSeparator, wide c space, Bool.or_true]

theorem comma_or {space : Char → Bool} (c : Char) (separator : (c = ',' || space c) = true) :
    c = ',' ∨ space c = true := by
  simpa using separator

namespace Rust

theorem scopeOf_eq (name : List Char) :
    scopeParser.scopeOf name = scopeNamed (ascii.lower name) := by
  rw [ascii_lower]
  simp only [scopeParser, scopeNamed]
  congr 1
  funext scope
  cases scope <;> simp [eqIgnoreAsciiCase, Scope.name, eq_comm]

theorem scopeParser_narrower : Narrower scopeParser [kelvinSign] [dottedI] where
  margin _ := Text.wide_of_whiteSpace
  separator := wide_of_comma_or fun _ => Text.wide_of_whiteSpace
  covers := comma_or
  emptyText trimmed := by
    rw [← lower_eq_emptyText_iff definite_kelvinSign definite_dottedI ascii, ascii_lower]
    exact decide_eq_true_iff
  scopeOf name scope := by
    rw [scopeOf_eq]
    exact scopeNamed_lower_iff definite_kelvinSign definite_dottedI ascii name scope
  access access letters := by
    rw [← readAccess_lower_iff definite_kelvinSign definite_dottedI ascii, ascii_lower]
    rfl

end Rust

namespace Go

variable (toLower : Lowering ['k'] ['i'])

/-- The two foldings differ only at characters that no letter of `(none)` folds to. -/
theorem foldRune_eq_iff {c d : Char} (inside : d ∈ emptyText) : foldRune c = d ↔ wideLower c = d := by
  have plain : (emptyText.all fun d =>
      d.toNat < 128 ∧ 'k' ≠ d ∧ 'i' ≠ d ∧ 's' ≠ d) = true := by decide
  obtain ⟨ascii_, no_k, no_i, no_s⟩ := of_decide_eq_true (List.all_eq_true.mp plain d inside)
  unfold foldRune wideLower
  by_cases kelvin : c = kelvinSign
  · rw [if_pos kelvin, if_pos kelvin]
  rw [if_neg kelvin, if_neg kelvin]
  by_cases dotted : c = dottedI
  · have foreign : dottedI.toLower ≠ d := by
      rintro rfl
      exact absurd ascii_ (by decide)
    rw [dotted, if_neg (by decide), if_pos rfl]
    exact iff_of_false foreign no_i
  rw [if_neg dotted]
  by_cases long : c.toNat = 0x17F
  · have foreign : c.toLower ≠ d := by
      rw [toLower_eq_self (by omega)]
      rintro rfl
      omega
    rw [if_pos long]
    exact iff_of_false no_s foreign
  · rw [if_neg long]

theorem equalFoldText_emptyText_iff (trimmed : List Char) :
    equalFoldText trimmed emptyText = true ↔ trimmed.map wideLower = emptyText := by
  have folded : emptyText.map foldRune = emptyText := by decide
  have all (target : List Char) (part : ∀ d ∈ target, d ∈ emptyText) (text : List Char) :
      text.map foldRune = target ↔ text.map wideLower = target := by
    induction text generalizing target with
    | nil => exact Iff.rfl
    | cons c text ih =>
      cases target with
      | nil => simp
      | cons d target =>
        rw [List.forall_mem_cons] at part
        rw [List.map_cons, List.map_cons, List.cons.injEq, List.cons.injEq,
          foldRune_eq_iff part.1, ih target part.2]
  rw [equalFoldText, decide_eq_true_iff, folded]
  exact all emptyText (fun _ inside => inside) trimmed

theorem space_of_separator {c : Char} (separator : (scopeParser toLower).isSeparator c = true) :
    c = ',' ∨ Text.isWhiteSpace c = true := by
  simp only [scopeParser, Bool.or_eq_true, decide_eq_true_eq] at separator
  rcases separator with (((comma | rfl) | rfl) | rfl) | rfl
  · exact .inl comma
  all_goals exact .inr (by decide)

theorem scopeParser_narrower : Narrower (scopeParser toLower) ['k'] ['i'] where
  margin _ := Text.wide_of_whiteSpace
  separator c separator := by
    rcases space_of_separator toLower separator with rfl | space
    · decide
    · rw [isWideSeparator, Text.wide_of_whiteSpace space, Bool.or_true]
  covers _ := space_of_separator toLower
  emptyText := equalFoldText_emptyText_iff
  scopeOf := scopeNamed_lower_iff (definite_self _) (definite_self _) toLower
  access := readAccess_lower_iff (definite_self _) (definite_self _) toLower

end Go

namespace TypeScript

theorem scopeParser_narrower (toLowerCase : Lowering ['k'] dottedPair) :
    Narrower (scopeParser toLowerCase) ['k'] dottedPair where
  margin _ := Text.wide_of_ecmaSpace
  separator := wide_of_comma_or fun _ => Text.wide_of_ecmaSpace
  covers := comma_or
  emptyText trimmed := by
    rw [← lower_eq_emptyText_iff (definite_self _) definite_dottedPair toLowerCase]
    exact decide_eq_true_iff
  scopeOf := scopeNamed_lower_iff (definite_self _) definite_dottedPair toLowerCase
  access := readAccess_lower_iff (definite_self _) definite_dottedPair toLowerCase

end TypeScript

namespace Python

theorem scopeParser_narrower (lower : Lowering ['k'] dottedPair) :
    Narrower (scopeParser lower) ['k'] dottedPair where
  margin _ := Text.wide_of_pythonSpace
  separator := wide_of_comma_or fun _ => Text.wide_of_pythonSpace
  covers := comma_or
  emptyText trimmed := by
    rw [← lower_eq_emptyText_iff (definite_self _) definite_dottedPair lower]
    exact decide_eq_true_iff
  scopeOf := scopeNamed_lower_iff (definite_self _) definite_dottedPair lower
  access := readAccess_lower_iff (definite_self _) definite_dottedPair lower

end Python

/-- All four clients refuse the text, or all return the same set. -/
structure ParsersAgree (toLower : Lowering ['k'] ['i']) (toLowerCase lower : Lowering ['k'] dottedPair)
    (text : List Char) : Prop where
  go : (Rust.fromStr text).toOption = (Go.parseScopeSet toLower text).toOption
  typescript : (Rust.fromStr text).toOption = (TypeScript.parseScopeSet toLowerCase text).toOption
  python : (Rust.fromStr text).toOption = (Python.parseScopeSet lower text).toOption

section

variable (toLower : Lowering ['k'] ['i']) (toLowerCase lower : Lowering ['k'] dottedPair)
  (text : List Char)

/-- All four clients understand the text's white space and letters. -/
structure AllUnderstand : Prop where
  rust : Understands Rust.scopeParser [kelvinSign] [dottedI] text
  go : Understands (Go.scopeParser toLower) ['k'] ['i'] text
  typescript : Understands (TypeScript.scopeParser toLowerCase) ['k'] dottedPair text
  python : Understands (Python.scopeParser lower) ['k'] dottedPair text

structure NoneUnderstands : Prop where
  rust : ¬ Understands Rust.scopeParser [kelvinSign] [dottedI] text
  go : ¬ Understands (Go.scopeParser toLower) ['k'] ['i'] text
  typescript : ¬ Understands (TypeScript.scopeParser toLowerCase) ['k'] dottedPair text
  python : ¬ Understands (Python.scopeParser lower) ['k'] dottedPair text

/-- The four parsers agree on a text just when even the widest reading refuses it, or all of them
understand its characters, or none does. -/
theorem parsers_agree_iff : ParsersAgree toLower toLowerCase lower text ↔
    (∀ s, wideParser.parse text ≠ .ok s) ∨ AllUnderstand toLower toLowerCase lower text ∨
      NoneUnderstands toLower toLowerCase lower text := by
  have rust := Rust.scopeParser_narrower
  have go := Go.scopeParser_narrower toLower
  have typescript := TypeScript.scopeParser_narrower toLowerCase
  have python := Python.scopeParser_narrower lower
  cases wide : wideParser.parse text with
  | error e =>
    have refused : ∀ s, wideParser.parse text ≠ .ok s := by simp [wide]
    exact iff_of_true ⟨rust.toOption_eq_of_refused go refused,
      rust.toOption_eq_of_refused typescript refused, rust.toOption_eq_of_refused python refused⟩
      (.inl (by simp))
  | ok s =>
    have go_iff := rust.toOption_eq_iff go wide
    have typescript_iff := rust.toOption_eq_iff typescript wide
    have python_iff := rust.toOption_eq_iff python wide
    constructor
    · intro agree
      have same_go := go_iff.mp agree.go
      have same_typescript := typescript_iff.mp agree.typescript
      have same_python := python_iff.mp agree.python
      by_cases understood : Understands Rust.scopeParser [kelvinSign] [dottedI] text
      · exact .inr (.inl ⟨understood, same_go.mp understood, same_typescript.mp understood,
          same_python.mp understood⟩)
      · exact .inr (.inr ⟨understood, mt same_go.mpr understood, mt same_typescript.mpr understood,
          mt same_python.mpr understood⟩)
    · rintro (refused | all | none_)
      · exact absurd rfl (refused s)
      · exact ⟨go_iff.mpr (iff_of_true all.rust all.go),
          typescript_iff.mpr (iff_of_true all.rust all.typescript),
          python_iff.mpr (iff_of_true all.rust all.python)⟩
      · exact ⟨go_iff.mpr (iff_of_false none_.rust none_.go),
          typescript_iff.mpr (iff_of_false none_.rust none_.typescript),
          python_iff.mpr (iff_of_false none_.rust none_.python)⟩

end

/-- Go does not split at a vertical tab, and so refuses what Rust accepts. -/
theorem verticalTab_disagrees : ¬ ∀ (toLower : Lowering ['k'] ['i'])
    (toLowerCase lower : Lowering ['k'] dottedPair) (text : List Char),
      ParsersAgree toLower toLowerCase lower text := by
  intro agree
  have same := (agree (charwise _ _) (charwise _ _) (charwise _ _)
    ("secrets:r".toList ++ Char.ofNat 0xB :: "volumes:r".toList)).go
  exact absurd same (by decide)

end MatterSdk
