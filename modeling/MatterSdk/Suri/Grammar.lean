import MatterSdk.Lib.Regex
import MatterSdk.Suri

/-!
# The grammar of secret URIs

The regular expressions that upstream splits a secret URI with, and where the splitter agrees with
them.  Both take their texts apart in the same way; they differ in the phrases and the passwords they
admit.
-/

namespace MatterSdk.Rust

open Regex

/-! ## The expressions -/

/-- `\w`. -/
def isWord (u : Unicode) (c : Char) : Bool :=
  u.alphabetic c || u.mark c || u.decimalNumber c || u.connectorPunctuation c || u.joinControl c

/-- `[\d\w ]`. -/
def phraseClass (u : Unicode) (c : Char) : Bool := u.decimalNumber c || isWord u c || c = ' '

def slashRegex : Regex Char := .one (· = '/')

/-- `[^/]+`. -/
def codeRegex : Regex Char := plus (.one (· ≠ '/'))

/-- `SECRET_PHRASE_REGEX`. -/
def secretPhraseRegex (u : Unicode) : Regex Char :=
  .seq (opt (.group "phrase" (plus (.one (phraseClass u)))))
    (.seq (.group "path" (.star (.seq slashRegex (.seq (opt slashRegex) codeRegex))))
      (opt (.seq slashRegex (.seq slashRegex (.seq slashRegex
        (.group "password" (.star (.one (· ≠ '\n')))))))))

/-- `/(/?[^/]+)`, by which a path is taken apart. -/
def junctionRegex : Regex Char := .seq slashRegex (.group "1" (.seq (opt slashRegex) codeRegex))

/-- The parts that upstream reads. -/
def secretUri (u : Unicode) (text : List Char) : Option Suri :=
  (fullMatch (secretPhraseRegex u) text).map fun captures =>
    { phrase := (captures.lookup "phrase").getD []
      junctions := (findAll junctionRegex ((captures.lookup "path").getD [])).map fun junction =>
        (junction.lookup "1").getD []
      password := captures.lookup "password" }

/-! ## What they match -/

theorem matches_slash_iff {w : List Char} {c : Captures Char} :
    Matches slashRegex w c ↔ w = ['/'] ∧ c = [] := by
  unfold slashRegex
  rw [matches_one_iff]
  simp

/-- A segment matches with its hard marker or without. -/
theorem matches_token_iff {w : List Char} {c : Captures Char} :
    Matches (.seq (opt slashRegex) codeRegex) w c ↔
      c = [] ∧ ∃ segment : Segment, w = segment.token := by
  rw [matches_seq_iff]
  constructor
  · rintro ⟨u, v, d, e, rfl, rfl, marker, rest⟩
    obtain ⟨rfl, some_taken, plain⟩ := matches_plus_one_iff.mp rest
    have plain : '/' ∉ v := fun mem => by simpa using plain '/' mem
    rcases matches_opt_iff.mp marker with hard | ⟨rfl, rfl⟩
    · obtain ⟨rfl, rfl⟩ := matches_slash_iff.mp hard
      exact ⟨rfl, ⟨true, v, some_taken, plain⟩, rfl⟩
    · exact ⟨rfl, ⟨false, v, some_taken, plain⟩, rfl⟩
  · rintro ⟨rfl, ⟨hard, text, nonempty, plain⟩, rfl⟩
    have rest : Matches codeRegex text [] :=
      matches_plus_one_iff.mpr ⟨rfl, nonempty, Text.ne_of_absent plain⟩
    cases hard with
    | false => exact ⟨[], text, [], [], rfl, rfl, matches_opt_iff.mpr (.inr ⟨rfl, rfl⟩), rest⟩
    | true =>
      have marker : Matches (opt slashRegex) ['/'] [] :=
        matches_opt_iff.mpr (.inl (matches_slash_iff.mpr ⟨rfl, rfl⟩))
      exact ⟨['/'], text, [], [], rfl, rfl, marker, rest⟩

theorem matches_segment_iff (w : List Char) (c : Captures Char) :
    Matches (.seq slashRegex (.seq (opt slashRegex) codeRegex)) w c ↔
      c = [] ∧ ∃ segment : Segment, w = segment.text := by
  rw [matches_seq_iff]
  constructor
  · rintro ⟨u, v, d, e, rfl, rfl, first, rest⟩
    obtain ⟨rfl, rfl⟩ := matches_slash_iff.mp first
    obtain ⟨rfl, segment, rfl⟩ := matches_token_iff.mp rest
    exact ⟨rfl, segment, rfl⟩
  · rintro ⟨rfl, segment, rfl⟩
    exact ⟨['/'], segment.token, [], [], rfl, rfl, matches_slash_iff.mpr ⟨rfl, rfl⟩,
      matches_token_iff.mpr ⟨rfl, segment, rfl⟩⟩

theorem matches_path_iff {w : List Char} {c : Captures Char} :
    Matches (.group "path" (.star (.seq slashRegex (.seq (opt slashRegex) codeRegex)))) w c ↔
      ∃ segments : List Segment, w = segments.flatMap Segment.text ∧ c = [("path", w)] := by
  have star (w : List Char) (c : Captures Char) :=
    matches_star_iff_flatMap (w := w) (c := c) (fun s : Segment => List.cons_ne_nil '/' s.token)
      matches_segment_iff
  rw [matches_group_iff]
  constructor
  · rintro ⟨d, rfl, inner⟩
    obtain ⟨rfl, segments, rfl⟩ := (star ..).mp inner
    exact ⟨segments, rfl, rfl⟩
  · rintro ⟨segments, rfl, rfl⟩
    exact ⟨[], rfl, (star ..).mpr ⟨rfl, segments, rfl⟩⟩

/-- What is captured of an optional password. -/
def passwordCapture : Option (List Char) → Captures Char
  | none => []
  | some password => [("password", password)]

def passwordText : Option (List Char) → List Char
  | none => []
  | some password => passwordSeparator ++ password

theorem matches_password_iff {w : List Char} {c : Captures Char} :
    Matches (opt (.seq slashRegex (.seq slashRegex (.seq slashRegex
        (.group "password" (.star (.one (· ≠ '\n')))))))) w c ↔
      ∃ password : Option (List Char), w = passwordText password ∧ c = passwordCapture password ∧
        ∀ p ∈ password, '\n' ∉ p := by
  have line (p : List Char) : (∀ c ∈ p, (decide (c ≠ '\n')) = true) ↔ '\n' ∉ p :=
    ⟨fun all mem => by simpa using all '\n' mem, Text.ne_of_absent⟩
  rw [matches_opt_iff]
  constructor
  · rintro (whole | ⟨rfl, rfl⟩)
    · obtain ⟨_, _, _, _, rfl, rfl, first, two⟩ := matches_seq_iff.mp whole
      obtain ⟨_, _, _, _, rfl, rfl, second, one⟩ := matches_seq_iff.mp two
      obtain ⟨_, p, _, _, rfl, rfl, third, last⟩ := matches_seq_iff.mp one
      obtain ⟨rfl, rfl⟩ := matches_slash_iff.mp first
      obtain ⟨rfl, rfl⟩ := matches_slash_iff.mp second
      obtain ⟨rfl, rfl⟩ := matches_slash_iff.mp third
      obtain ⟨d, rfl, inner⟩ := matches_group_iff.mp last
      obtain ⟨rfl, all⟩ := matches_star_one_iff.mp inner
      refine ⟨some p, rfl, rfl, fun p' same => ?_⟩
      obtain rfl := Option.some.inj same
      exact (line p).mp all
    · exact ⟨none, rfl, rfl, nofun⟩
  · rintro ⟨password, rfl, rfl, plain⟩
    cases password with
    | none => exact .inr ⟨rfl, rfl⟩
    | some p =>
      have one : Matches slashRegex ['/'] [] := matches_slash_iff.mpr ⟨rfl, rfl⟩
      have all := matches_star_one_iff.mpr ⟨rfl, (line p).mpr (plain p rfl)⟩
      exact .inl (.seq one (.seq one (.seq one (.group all))))

def phraseCapture (phrase : List Char) : Captures Char :=
  if phrase = [] then [] else [("phrase", phrase)]

theorem matches_phrase_iff {u : Unicode} {w : List Char} {c : Captures Char} :
    Matches (opt (.group "phrase" (plus (.one (phraseClass u))))) w c ↔
      c = phraseCapture w ∧ ∀ x ∈ w, phraseClass u x = true := by
  unfold phraseCapture
  rw [matches_opt_iff]
  constructor
  · rintro (first | ⟨rfl, rfl⟩)
    · obtain ⟨d, rfl, inner⟩ := matches_group_iff.mp first
      obtain ⟨rfl, some_taken, all⟩ := matches_plus_one_iff.mp inner
      exact ⟨(if_neg some_taken).symm, all⟩
    · exact ⟨rfl, nofun⟩
  · rintro ⟨rfl, all⟩
    by_cases none : w = []
    · exact .inr ⟨none, if_pos none⟩
    · rw [if_neg none]
      exact .inl (.group (matches_plus_one_iff.mpr ⟨rfl, none, all⟩))

/-- The slash is in no word. -/
theorem plain_of_phraseClass {u : Unicode} {phrase : List Char}
    (all : ∀ c ∈ phrase, phraseClass u c = true) : '/' ∉ phrase := by
  intro mem
  have word := all '/' mem
  have none := u.slash
  unfold phraseClass isWord at word
  simp only [Bool.or_eq_false_iff, Bool.or_eq_true, decide_eq_true_eq] at none word
  obtain ⟨⟨⟨⟨⟨⟨alphabetic, mark⟩, decimal⟩, -⟩, -⟩, connector⟩, join⟩ := none
  simp [alphabetic, mark, decimal, connector, join] at word

/-! ## What upstream reads -/

/-- Upstream admits the phrase and the password of these parts. -/
def UpstreamAdmits (u : Unicode) (p : Parts) : Prop :=
  (∀ c ∈ p.phrase, phraseClass u c = true) ∧ ∀ password ∈ p.password, '\n' ∉ password

def Parts.captures (p : Parts) : Captures Char :=
  phraseCapture p.phrase ++ ([("path", p.path)] ++ passwordCapture p.password)

theorem matches_secretPhraseRegex_iff {u : Unicode} {w : List Char} {c : Captures Char} :
    Matches (secretPhraseRegex u) w c ↔
      ∃ p : Parts, p.text = w ∧ UpstreamAdmits u p ∧ c = p.captures := by
  unfold secretPhraseRegex
  rw [matches_seq_iff]
  constructor
  · rintro ⟨phrase, v, d, e, rfl, rfl, first, rest⟩
    obtain ⟨rfl, all⟩ := matches_phrase_iff.mp first
    obtain ⟨path, v, d, e, rfl, rfl, second, last⟩ := matches_seq_iff.mp rest
    obtain ⟨segments, rfl, rfl⟩ := matches_path_iff.mp second
    obtain ⟨password, rfl, rfl, line⟩ := matches_password_iff.mp last
    exact ⟨⟨phrase, plain_of_phraseClass all, segments, password⟩, List.append_assoc ..,
      ⟨all, line⟩, rfl⟩
  · rintro ⟨⟨phrase, plain, segments, password⟩, rfl, ⟨all, line⟩, rfl⟩
    refine ⟨phrase, segments.flatMap Segment.text ++ passwordText password, phraseCapture phrase,
      _, List.append_assoc .., rfl, matches_phrase_iff.mpr ⟨rfl, all⟩, ?_⟩
    exact .seq (matches_path_iff.mpr ⟨segments, rfl, rfl⟩)
      (matches_password_iff.mpr ⟨password, rfl, rfl, line⟩)

/-- A text is matched in one way only. -/
theorem captures_unique {u : Unicode} {w : List Char} (c c' : Captures Char)
    (first : Matches (secretPhraseRegex u) w c) (second : Matches (secretPhraseRegex u) w c') :
    c = c' := by
  obtain ⟨p, rfl, -, rfl⟩ := matches_secretPhraseRegex_iff.mp first
  obtain ⟨p', same, -, rfl⟩ := matches_secretPhraseRegex_iff.mp second
  obtain ⟨phrase, path, password⟩ := Parts.cut_eq same
  unfold Parts.captures
  rw [phrase, path, password]

/-! ## Junctions one after the other -/

theorem first_token (segment : Segment) {rest : List Char}
    (slash_next : ∀ c ∈ rest.head?, c = '/') :
    (run (.seq (opt slashRegex) codeRegex) (segment.token ++ rest)).head? = some ([], rest) := by
  obtain ⟨hard, text, nonempty, plain⟩ := segment
  have all := Text.ne_of_absent plain
  have stop : ∀ c ∈ rest.head?, (decide (c ≠ '/')) = false :=
    fun c mem => decide_eq_false (not_not.mpr (slash_next c mem))
  have taken : (run codeRegex (text ++ rest)).head? = some ([], rest) :=
    first_plus_one nonempty all stop
  cases hard with
  | false =>
    have soft : run slashRegex (text ++ rest) = [] := by
      obtain ⟨c, text, rfl⟩ := List.exists_cons_of_ne_nil nonempty
      exact if_neg (by simpa using all c (List.mem_cons_self ..))
    exact first_seq (first_opt_none soft) taken
  | true =>
    have marker : (run slashRegex ('/' :: (text ++ rest))).head? = some ([], text ++ rest) := rfl
    exact first_seq (first_opt marker) taken

theorem first_junction (segment : Segment) {rest : List Char}
    (slash_next : ∀ c ∈ rest.head?, c = '/') :
    (run junctionRegex (segment.text ++ rest)).head? = some ([("1", segment.token)], rest) := by
  have marker : (run slashRegex ('/' :: (segment.token ++ rest))).head? =
      some ([], segment.token ++ rest) := rfl
  exact first_seq marker (first_group (first_token segment slash_next))

theorem findFrom_path : ∀ (segments : List Segment) (n : ℕ),
    (segments.flatMap Segment.text).length < n →
      findFrom junctionRegex n (segments.flatMap Segment.text) =
        segments.map fun s => [("1", s.token)]
  | _, 0, enough => absurd enough (Nat.not_lt_zero _)
  | [], n + 1, _ => by
    unfold findFrom
    exact findFrom_nil rfl n
  | segment :: segments, n + 1, enough => by
    have found := first_junction segment (head_path segments)
    rw [List.flatMap_cons, List.length_append] at enough
    have some_taken : 0 < segment.text.length := Nat.succ_pos _
    have shorter : (segments.flatMap Segment.text).length <
        (segment.text ++ segments.flatMap Segment.text).length := by
      rw [List.length_append]
      omega
    rw [List.flatMap_cons, findFrom, found]
    dsimp only
    rw [if_pos shorter, findFrom_path segments n (by omega)]
    rfl

/-- The junctions found along a path are its tokens. -/
theorem findAll_path (segments : List Segment) :
    findAll junctionRegex (segments.flatMap Segment.text) =
      segments.map fun s => [("1", s.token)] :=
  findFrom_path segments _ (Nat.lt_succ_self _)

/-- What upstream makes of the captures of some parts. -/
theorem read_captures (p : Parts) :
    (p.captures.lookup "phrase").getD [] = p.phrase ∧
      (p.captures.lookup "path").getD [] = p.path ∧
      p.captures.lookup "password" = p.password := by
  obtain ⟨phrase, plain, segments, password⟩ := p
  unfold Parts.captures phraseCapture
  by_cases none : phrase = []
  · rw [if_pos none]
    cases password with
    | none => exact ⟨none.symm, rfl, rfl⟩
    | some password => exact ⟨none.symm, rfl, rfl⟩
  · rw [if_neg none]
    cases password with
    | none => exact ⟨rfl, rfl, rfl⟩
    | some password => exact ⟨rfl, rfl, rfl⟩

/-- Upstream reads the texts with an admitted phrase and password, with their parts. -/
theorem secretUri_eq_some_iff {u : Unicode} {text : List Char} {suri : Suri} :
    secretUri u text = some suri ↔
      ∃ p : Parts, p.text = text ∧ UpstreamAdmits u p ∧ suri = p.suri := by
  have read (p : Parts) :
      { phrase := (p.captures.lookup "phrase").getD []
        junctions :=
          (findAll junctionRegex ((p.captures.lookup "path").getD [])).map fun junction =>
            (junction.lookup "1").getD []
        password := p.captures.lookup "password" } = p.suri := by
    obtain ⟨phrase, path, password⟩ := read_captures p
    rw [phrase, path, password, Parts.path, findAll_path, List.map_map]
    rfl
  unfold secretUri
  rw [Option.map_eq_some_iff]
  constructor
  · rintro ⟨captures, found, rfl⟩
    obtain ⟨p, text, admitted, rfl⟩ := matches_secretPhraseRegex_iff.mp (fullMatch_sound found)
    exact ⟨p, text, admitted, read p⟩
  · rintro ⟨p, text, admitted, rfl⟩
    exact ⟨p.captures, (fullMatch_eq_some_iff captures_unique).mpr
      (matches_secretPhraseRegex_iff.mpr ⟨p, text, admitted, rfl⟩), read p⟩

/-! ## Where the two agree -/

theorem split_toOption_iff {u : Unicode} {text : List Char} {suri : Suri} :
    (split u text).toOption = some suri ↔
      ∃ p : Parts, p.text = text ∧ isValidPhrase u p.phrase = true ∧ suri = p.suri := by
  rw [← split_eq_ok_iff]
  cases split u text with
  | error e => exact ⟨nofun, nofun⟩
  | ok found => exact ⟨fun same => congrArg _ (Option.some.inj same),
      fun same => congrArg _ (Except.ok.inj same)⟩

theorem split_text_iff {u : Unicode} (p : Parts) :
    (split u p.text).toOption = some p.suri ↔ isValidPhrase u p.phrase = true := by
  rw [split_toOption_iff]
  constructor
  · rintro ⟨p', same, valid, -⟩
    rw [← (Parts.cut_eq same).1]
    exact valid
  · exact fun valid => ⟨p, rfl, valid, rfl⟩

theorem secretUri_text_iff {u : Unicode} (p : Parts) :
    secretUri u p.text = some p.suri ↔ UpstreamAdmits u p := by
  rw [secretUri_eq_some_iff]
  constructor
  · rintro ⟨p', same, admitted, -⟩
    obtain ⟨phrase, -, password⟩ := Parts.cut_eq same
    unfold UpstreamAdmits at admitted ⊢
    rw [← phrase, ← password]
    exact admitted
  · exact fun admitted => ⟨p, rfl, admitted, rfl⟩

/-- Letters, numbers of every kind, underscores and spaces. -/
def Alphanumeric (u : Unicode) (phrase : List Char) : Prop :=
  ∀ c ∈ phrase, u.alphabetic c = true ∨ u.decimalNumber c = true ∨ u.letterNumber c = true ∨
    u.otherNumber c = true ∨ c = '_' ∨ c = ' '

/-- Letters, marks, decimal numbers, connectors, joiners and spaces: `\w` and the space. -/
def Wordlike (u : Unicode) (phrase : List Char) : Prop :=
  ∀ c ∈ phrase, u.alphabetic c = true ∨ u.mark c = true ∨ u.decimalNumber c = true ∨
    u.connectorPunctuation c = true ∨ u.joinControl c = true ∨ c = ' '

theorem isValidPhrase_iff {u : Unicode} {phrase : List Char} :
    isValidPhrase u phrase = true ↔ Alphanumeric u phrase := by
  unfold isValidPhrase isAlphanumeric Alphanumeric
  simp only [List.all_eq_true, Bool.or_eq_true, decide_eq_true_eq, or_assoc]

theorem forall_phraseClass_iff {u : Unicode} {phrase : List Char} :
    (∀ c ∈ phrase, phraseClass u c = true) ↔ Wordlike u phrase := by
  unfold phraseClass isWord Wordlike
  simp only [Bool.or_eq_true, decide_eq_true_eq]
  refine forall₂_congr fun c _ => ?_
  tauto

/-- The splitter and upstream do the same with a text unless it has parts of which one of them
admits the phrase and the password and the other does not.  The splitter looks for letters and
numbers of every kind in the phrase and at nothing in the password, upstream for `\w` in the phrase
and for a line break in the password. -/
theorem split_eq_secretUri_iff (u : Unicode) (text : List Char) :
    (split u text).toOption = secretUri u text ↔
      ∀ p : Parts, p.text = text →
        (Alphanumeric u p.phrase ↔
          Wordlike u p.phrase ∧ ∀ password ∈ p.password, '\n' ∉ password) := by
  simp only [← isValidPhrase_iff, ← forall_phraseClass_iff]
  constructor
  · rintro same p rfl
    rw [← split_text_iff, same]
    exact secretUri_text_iff p
  · intro agree
    apply Option.ext
    intro suri
    rw [split_toOption_iff, secretUri_eq_some_iff]
    constructor
    · rintro ⟨p, whole, valid, parts⟩
      exact ⟨p, whole, (agree p whole).mp valid, parts⟩
    · rintro ⟨p, whole, admitted, parts⟩
      exact ⟨p, whole, (agree p whole).mpr admitted, parts⟩

/-- The properties of ASCII characters; the others are given none. -/
def asciiUnicode : Unicode where
  alphabetic := Char.isAlpha
  mark _ := false
  decimalNumber := Char.isDigit
  letterNumber _ := false
  otherNumber _ := false
  connectorPunctuation c := c = '_'
  joinControl _ := false
  slash := rfl

/-- A password with a line break, which stays when the text is trimmed, is split off here and refused
upstream. -/
theorem split_newline_ne_secretUri :
    (split asciiUnicode ['a', '/', '/', '/', '\n', 'b']).toOption ≠
      secretUri asciiUnicode ['a', '/', '/', '/', '\n', 'b'] := by
  let p : Parts := ⟨['a'], by decide, [], some ['\n', 'b']⟩
  have valid : isValidPhrase asciiUnicode p.phrase = true := by decide
  have here : (split asciiUnicode p.text).toOption = some p.suri := (split_text_iff p).mpr valid
  intro same
  have upstream : secretUri asciiUnicode p.text = some p.suri := same.symm.trans here
  exact ((secretUri_text_iff p).mp upstream).2 ['\n', 'b'] rfl (List.mem_cons_self ..)

end MatterSdk.Rust
