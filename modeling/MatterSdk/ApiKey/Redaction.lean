import MatterSdk.ApiKey
import MatterSdk.Lib.Utf8
import MatterSdk.Suri.Grammar

/-!
# Errors of API keys

A key that is refused gives one of a fixed list of errors.  Which one depends on the scheme, on the
path and on the kind of the secret, and neither on its characters nor on what the libraries say.
-/

namespace MatterSdk.Rust

/-- The error of `split` about the phrase. -/
def invalidPhrase : KeyError :=
  .malformed "phrase may contain only letters, digits, underscores, and spaces"

/-- Every error of `ApiKey::parse`. -/
def parseErrors : List KeyError :=
  reservedSchemes.map (.unsupportedScheme · supportedSchemes) ++
    [.empty, unknownScheme, invalidPhrase, malformedPath, noPhrase, wrongLength, nonHex, invalidSeed,
      unrecognised, underivable]

/-- The same libraries with errors that say nothing. -/
def KeyLibrary.silent {κ μ ι ε : Type} (lib : KeyLibrary κ μ ι ε) : KeyLibrary κ μ ι Unit where
  decodeToSlice text := (lib.decodeToSlice text).mapError fun _ => ()
  mnemonicFromStr text := (lib.mnemonicFromStr text).mapError fun _ => ()
  fromPhrase mnemonic password := (lib.fromPhrase mnemonic password).mapError fun _ => ()
  fromSecretKey seed := (lib.fromSecretKey seed).mapError fun _ => ()
  junction := lib.junction
  derive := lib.derive
  publicKey := lib.publicKey

/-! ## Where errors come from -/

theorem parseJunctions_error {path : List Char} {e : KeyError}
    (failed : parseJunctions path = .error e) : e = malformedPath := by
  induction path using parseJunctions.induct with
  | case1 =>
    rw [parseJunctions] at failed
    cases failed
  | case2 c rest other =>
    rw [parseJunctions, if_pos other] at failed
    exact (Except.error.inj failed).symm
  | case3 c rest slash code =>
    rename_i none
    rw [parseJunctions, if_neg slash] at failed
    dsimp only at failed
    rw [if_pos none] at failed
    exact (Except.error.inj failed).symm
  | case4 c rest slash code =>
    rename_i some ih
    rw [parseJunctions, if_neg slash] at failed
    dsimp only at failed
    rw [if_neg some] at failed
    cases others : parseJunctions ((afterMarker rest).dropWhile (· ≠ '/')) with
    | ok later =>
      rw [others] at failed
      cases failed
    | error e' =>
      rw [others] at failed
      obtain rfl := Except.error.inj failed
      exact ih others

theorem split_error {u : Unicode} {input : List Char} {e : KeyError}
    (failed : split u input = .error e) : e = invalidPhrase ∨ e = malformedPath := by
  unfold split at failed
  dsimp only at failed
  split at failed
  · exact .inl (Except.error.inj failed).symm
  · split at failed
    · rename_i e' path
      obtain rfl := Except.error.inj failed
      exact .inr (parseJunctions_error path)
    · cases failed

theorem splitScheme_error {input : List Char} {e : KeyError}
    (failed : splitScheme input = .error e) : e = unknownScheme ∨
      ∃ reserved ∈ reservedSchemes, e = .unsupportedScheme reserved supportedSchemes := by
  unfold splitScheme at failed
  split at failed
  · cases failed
  · rename_i token body cut
    split at failed
    · split at failed
      · rename_i reserved found
        obtain rfl := Except.error.inj failed
        exact .inr ⟨reserved, List.mem_of_find?_eq_some found, rfl⟩
      · by_cases is_default : IsDefault token
        · rw [fromToken_default is_default] at failed
          cases failed
        · rw [fromToken_other is_default] at failed
          exact .inl (Except.error.inj failed).symm
    · cases failed

namespace ApiKey

variable {κ μ ι ε : Type} (u : Unicode) (lib : KeyLibrary κ μ ι ε)

theorem keypairFromHex_error {hexBody : List Char} {e : KeyError}
    (failed : keypairFromHex lib hexBody = .error e) : e ∈ [wrongLength, nonHex, invalidSeed] := by
  unfold keypairFromHex at failed
  split at failed
  · obtain rfl := Except.error.inj failed
    simp
  · split at failed
    · obtain rfl := Except.error.inj failed
      simp
    · split at failed
      · obtain rfl := Except.error.inj failed
        simp
      · split at failed
        · obtain rfl := Except.error.inj failed
          simp
        · cases failed

theorem keypairFromMnemonic_error {phrase : List Char} {password : Option (List Char)}
    {e : KeyError} (failed : keypairFromMnemonic lib phrase password = .error e) :
    e ∈ [unrecognised, underivable] := by
  unfold keypairFromMnemonic at failed
  split at failed
  · obtain rfl := Except.error.inj failed
    simp
  · split at failed
    · obtain rfl := Except.error.inj failed
      simp
    · cases failed

theorem root_error {phrase : List Char} {password : Option (List Char)} {e : KeyError}
    (failed : root lib phrase password = .error e) :
    e ∈ [wrongLength, nonHex, invalidSeed, unrecognised, underivable] := by
  unfold root at failed
  split at failed
  · exact List.mem_append_left [unrecognised, underivable] (keypairFromHex_error lib failed)
  · exact List.mem_append_right [wrongLength, nonHex, invalidSeed]
      (keypairFromMnemonic_error lib failed)

theorem parseSr25519_error {body : List Char} {e : KeyError}
    (failed : parseSr25519 u lib body = .error e) :
    e ∈ [invalidPhrase, malformedPath, noPhrase, wrongLength, nonHex, invalidSeed, unrecognised,
      underivable] := by
  unfold parseSr25519 at failed
  split at failed
  · rename_i e' cut
    obtain rfl := Except.error.inj failed
    rcases split_error cut with rfl | rfl
    · simp
    · simp
  · rename_i suri cut
    split at failed
    · obtain rfl := Except.error.inj failed
      simp
    · cases rooted : root lib suri.phrase suri.password with
      | error e' =>
        rw [rooted] at failed
        obtain rfl := Except.error.inj failed
        exact List.mem_append_right [invalidPhrase, malformedPath, noPhrase] (root_error lib rooted)
      | ok keypair =>
        rw [rooted] at failed
        cases failed

theorem parse_error {input : List Char} {e : KeyError} (failed : parse u lib input = .error e) :
    e ∈ parseErrors := by
  unfold parse at failed
  dsimp only at failed
  split at failed
  · obtain rfl := Except.error.inj failed
    simp [parseErrors]
  · split at failed
    · rename_i e' taken
      obtain rfl := Except.error.inj failed
      rcases splitScheme_error taken with rfl | ⟨reserved, listed, rfl⟩
      · simp [parseErrors]
      · exact List.mem_append_left _ (List.mem_map_of_mem listed)
    · split at failed
      · obtain rfl := Except.error.inj failed
        simp [parseErrors]
      · exact List.mem_append_right _
          (List.mem_append_right [KeyError.empty, unknownScheme] (parseSr25519_error u lib failed))

/-! ## What the libraries say -/

theorem keypairFromHex_silent (hexBody : List Char) :
    keypairFromHex lib.silent hexBody = keypairFromHex lib hexBody := by
  have decoded : lib.silent.decodeToSlice hexBody =
    (lib.decodeToSlice hexBody).mapError fun _ => () := rfl
  unfold keypairFromHex
  rw [decoded]
  cases lib.decodeToSlice hexBody with
  | error => rfl
  | ok seed =>
    have made : lib.silent.fromSecretKey seed = (lib.fromSecretKey seed).mapError fun _ => () := rfl
    dsimp only [Except.mapError]
    rw [made]
    cases lib.fromSecretKey seed <;> rfl

theorem keypairFromMnemonic_silent (phrase : List Char) (password : Option (List Char)) :
    keypairFromMnemonic lib.silent phrase password = keypairFromMnemonic lib phrase password := by
  have read : lib.silent.mnemonicFromStr phrase =
    (lib.mnemonicFromStr phrase).mapError fun _ => () := rfl
  unfold keypairFromMnemonic
  rw [read]
  cases lib.mnemonicFromStr phrase with
  | error => rfl
  | ok mnemonic =>
    have made : lib.silent.fromPhrase mnemonic password =
      (lib.fromPhrase mnemonic password).mapError fun _ => () := rfl
    dsimp only [Except.mapError]
    rw [made]
    cases lib.fromPhrase mnemonic password <;> rfl

theorem root_silent (phrase : List Char) (password : Option (List Char)) :
    root lib.silent phrase password = root lib phrase password := by
  unfold root
  rw [keypairFromHex_silent, keypairFromMnemonic_silent]

theorem parseSr25519_silent (body : List Char) :
    parseSr25519 u lib.silent body = parseSr25519 u lib body := by
  unfold parseSr25519
  simp only [root_silent]
  rfl

theorem parse_silent (input : List Char) : parse u lib.silent input = parse u lib input := by
  unfold parse
  simp only [parseSr25519_silent]

end ApiKey

/-! ## Secrets of one kind -/

/-- The properties of characters with what keys rely on: neither the colon nor white space is
alphanumeric. -/
structure KeyUnicode extends Unicode where
  colon : isAlphanumeric toUnicode ':' = false
  space : ∀ c, Text.isWhiteSpace c = true → isAlphanumeric toUnicode c = false

/-- The properties of ASCII characters are such. -/
theorem asciiUnicode_space (c : Char) (space : Text.isWhiteSpace c = true) :
    isAlphanumeric asciiUnicode c = false := by
  have digit : c.isDigit = false := by
    by_contra digit
    have plain := Text.not_wide_of_isDigit (by simpa using digit)
    rw [Text.wide_of_whiteSpace space] at plain
    cases plain
  have alpha : c.isAlpha = false := by
    simp only [Text.isWhiteSpace, Bool.or_eq_true, Bool.and_eq_true, decide_eq_true_eq] at space
    have code : c.val.toNat = c.toNat := rfl
    have letter : c.isAlpha = (decide (c.val ≥ 'A'.val ∧ c.val ≤ 'Z'.val) ||
      decide (c.val ≥ 'a'.val) && decide (c.val ≤ 'z'.val)) := rfl
    simp only [letter, Bool.or_eq_false_iff, Bool.and_eq_false_iff, decide_eq_false_iff_not,
      ge_iff_le, UInt32.le_iff_toNat_le, code]
    have bounds : 'A'.val.toNat = 65 ∧ 'Z'.val.toNat = 90 ∧ 'a'.val.toNat = 97 ∧
      'z'.val.toNat = 122 := by decide
    omega
  show (c.isAlpha || c.isDigit || false || false) = false
  rw [alpha, digit]
  rfl

def asciiKeyUnicode : KeyUnicode where
  toUnicode := asciiUnicode
  colon := by decide
  space := asciiUnicode_space

/-- The scheme in front of a key, with its colon, or nothing. -/
def IsScheme (scheme : List Char) : Prop :=
  scheme = [] ∨ ∃ token, IsDefault token ∧ scheme = token ++ [':']

/-- The text behind a phrase: a path, a password, or nothing. -/
def IsTail (tail : List Char) : Prop := ∀ c ∈ tail.head?, c = '/'

/-- The phrase class without the space. -/
def isPhraseChar (u : Unicode) (c : Char) : Bool := isAlphanumeric u c || c = '_'

/-- A hex secret of the right length with a character that is no hex digit. -/
structure Misspelt (u : Unicode) (body : List Char) : Prop where
  length : (utf8 body).length = miniSecretHexLen
  plain : ∀ c ∈ body, isPhraseChar u c = true
  misspelt : ∃ c ∈ body, Hex.digitValue c.toNat = none

/-- A phrase that is not read as a mnemonic. -/
structure Rejected {κ μ ι ε : Type} (u : Unicode) (lib : KeyLibrary κ μ ι ε) (phrase : List Char) :
    Prop where
  nonempty : phrase ≠ []
  valid : isValidPhrase u phrase = true
  first : phrase.head? ≠ some ' '
  last : phrase.getLast? ≠ some ' '
  mnemonic : "0x".toList.isPrefixOf phrase = false
  rejected : ∃ e, lib.mnemonicFromStr phrase = .error e

/-- A phrase that keeps its place between a scheme and a tail. -/
structure Placed (phrase : List Char) : Prop where
  nonempty : phrase ≠ []
  colon : ':' ∉ phrase
  slash : '/' ∉ phrase
  first : ∀ c ∈ phrase.head?, Text.isWhiteSpace c = false
  last : ∀ c ∈ phrase.getLast?, Text.isWhiteSpace c = false

section

variable {u : KeyUnicode}

theorem space_of_isPhraseChar {c : Char} (inside : isPhraseChar u.toUnicode c = true) :
    Text.isWhiteSpace c = false := by
  rcases Bool.or_eq_true_iff.mp inside with letter | line
  · by_contra space
    rw [u.space c (by simpa using space)] at letter
    cases letter
  · rw [of_decide_eq_true line]
    decide

theorem isPhraseChar_colon : isPhraseChar u.toUnicode ':' = false := by
  rw [isPhraseChar, u.colon]
  decide

theorem isPhraseChar_slash : isPhraseChar u.toUnicode '/' = false := by
  have none := u.slash
  simp only [Bool.or_eq_false_iff] at none
  obtain ⟨⟨⟨⟨⟨⟨alphabetic, -⟩, decimal⟩, letter⟩, other⟩, -⟩, -⟩ := none
  rw [isPhraseChar, isAlphanumeric, alphabetic, decimal, letter, other]
  decide

/-- A character of the phrase class or of the marker is no margin and separates nothing. -/
theorem plain_of_shape {c : Char} (shape : isPhraseChar u.toUnicode c = true ∨ c ∈ "0x".toList) :
    Text.isWhiteSpace c = false ∧ c ≠ ':' ∧ c ≠ '/' := by
  rcases shape with inside | marker
  · refine ⟨space_of_isPhraseChar inside, ?_, ?_⟩
    · rintro rfl
      rw [isPhraseChar_colon] at inside
      cases inside
    · rintro rfl
      rw [isPhraseChar_slash] at inside
      cases inside
  · have solid : ("0x".toList.all fun c => Text.isWhiteSpace c = false ∧ c ≠ ':' ∧ c ≠ '/') = true := by
      decide
    exact of_decide_eq_true (List.all_eq_true.mp solid c marker)

theorem Placed.of_chars {phrase : List Char} (nonempty : phrase ≠ [])
    (shape : ∀ c ∈ phrase, c ≠ ' ' → isPhraseChar u.toUnicode c = true ∨ c ∈ "0x".toList)
    (first : phrase.head? ≠ some ' ') (last : phrase.getLast? ≠ some ' ') : Placed phrase where
  nonempty := nonempty
  colon := fun inside => (plain_of_shape (shape ':' inside (by decide))).2.1 rfl
  slash := fun inside => (plain_of_shape (shape '/' inside (by decide))).2.2 rfl
  first := fun c found => (plain_of_shape
    (shape c (List.mem_of_mem_head? found) fun same => first (same ▸ found))).1
  last := fun c found => (plain_of_shape
    (shape c (List.mem_of_getLast? found) fun same => last (same ▸ found))).1

theorem Misspelt.placed {body : List Char} (misspelt : Misspelt u.toUnicode body) :
    Placed ("0x".toList ++ body) := by
  have shape : ∀ c ∈ "0x".toList ++ body,
      isPhraseChar u.toUnicode c = true ∨ c ∈ "0x".toList := by
    intro c inside
    rcases List.mem_append.mp inside with marker | later
    · exact .inr marker
    · exact .inl (misspelt.plain c later)
  have last : ("0x".toList ++ body).getLast? ≠ some ' ' := by
    intro found
    have solid := (plain_of_shape (shape ' ' (List.mem_of_getLast? found))).1
    exact absurd solid (by decide)
  have first : ("0x".toList ++ body).head? ≠ some ' ' := by
    intro found
    exact absurd (Option.some.inj found) (by decide)
  exact Placed.of_chars (List.cons_ne_nil _ _) (fun c inside _ => shape c inside) first last

/-- Only the marker decides whether a hex secret is a valid phrase. -/
theorem Misspelt.valid {body : List Char} (misspelt : Misspelt u.toUnicode body) :
    isValidPhrase u.toUnicode ("0x".toList ++ body) = isValidPhrase u.toUnicode "0x".toList := by
  have plain : isValidPhrase u.toUnicode body = true := by
    refine List.all_eq_true.mpr fun c inside => Bool.or_eq_true_iff.mpr (.inl ?_)
    exact misspelt.plain c inside
  unfold isValidPhrase at plain ⊢
  rw [List.all_append, plain, Bool.and_true]

theorem Rejected.placed {κ μ ι ε : Type} {lib : KeyLibrary κ μ ι ε} {phrase : List Char}
    (rejected : Rejected u.toUnicode lib phrase) : Placed phrase := by
  apply Placed.of_chars (u := u) rejected.nonempty ?_ rejected.first rejected.last
  intro c inside other
  have valid := List.all_eq_true.mp rejected.valid c inside
  exact .inl ((Bool.or_eq_true_iff.mp valid).resolve_right (by simpa using other))

end

/-! ## A phrase in its place -/

theorem cutInput_append {phrase tail : List Char} (plain : '/' ∉ phrase) (tailed : IsTail tail) :
    cutInput (phrase ++ tail) = (phrase, (cutInput tail).2) := by
  have place {head : List Char} (slash : IsTail head) :
      (phrase ++ head).takeWhile (· ≠ '/') = phrase ∧
        (phrase ++ head).dropWhile (· ≠ '/') = head.dropWhile (· ≠ '/') := by
    have alone := Text.dropWhile_ne_append (l := []) List.not_mem_nil slash
    rw [List.nil_append] at alone
    rw [alone]
    exact ⟨Text.takeWhile_ne_append plain slash, Text.dropWhile_ne_append plain slash⟩
  unfold cutInput
  rw [cutAt_plain plain]
  cases cut : cutAt passwordSeparator tail with
  | none =>
    dsimp only [Option.map]
    rw [(place tailed).1, (place tailed).2]
  | some parts =>
    obtain ⟨head, password⟩ := parts
    have headed : IsTail head := by
      intro c first
      apply tailed c
      rw [cutAt_eq_some cut, List.head?_append, first]
      rfl
    dsimp only [Option.map]
    rw [(place headed).1, (place headed).2]

theorem bare_append {phrase tail : List Char} (plain : ':' ∉ phrase) (tailed : IsTail tail) :
    Bare (phrase ++ tail) := by
  intro front rest whole _
  rcases List.append_eq_append_iff.mp whole with ⟨later, rfl, split⟩ | ⟨later, rfl, split⟩
  · cases later with
    | nil =>
      have slash := tailed ':' (by rw [split]; rfl)
      exact absurd slash (by decide)
    | cons c later =>
      obtain rfl := tailed c (by rw [split]; rfl)
      rw [Bool.eq_false_iff]
      intro shaped
      have inside := class_of_isSchemeToken shaped '/'
        (List.mem_append_right _ (List.mem_cons_self ..))
      exact absurd inside (by decide)
  · cases later with
    | nil =>
      rw [List.nil_append] at split
      have slash := tailed ':' (by rw [← split]; rfl)
      exact absurd slash (by decide)
    | cons c later =>
      obtain ⟨rfl, -⟩ := List.cons.inj split
      exact absurd (List.mem_append_right _ (List.mem_cons_self ..)) plain

/-- The error of a secret with error `e` in front of a tail. -/
def tailError (tail : List Char) (e : KeyError) : KeyError :=
  match parseJunctions (cutInput tail).2.1 with
  | .error e' => e'
  | .ok _ => e

namespace ApiKey

variable {κ μ ι ε : Type} (u : KeyUnicode) (lib : KeyLibrary κ μ ι ε)

theorem parse_trim (input : List Char) :
    parse u.toUnicode lib (Text.trim Text.isWhiteSpace input) = parse u.toUnicode lib input := by
  unfold parse
  rw [Text.trim_trim fun _ space => space]

theorem parseSr25519_placed {phrase tail : List Char} {e : KeyError} (placed : Placed phrase)
    (tailed : IsTail tail) (failed : ∀ password, root lib phrase password = .error e) :
    parseSr25519 u.toUnicode lib (phrase ++ tail) =
      .error (if isValidPhrase u.toUnicode phrase then tailError tail e else invalidPhrase) := by
  unfold parseSr25519 split tailError
  rw [cutInput_append placed.slash tailed]
  dsimp only
  cases isValidPhrase u.toUnicode phrase with
  | false => rfl
  | true =>
    cases parseJunctions (cutInput tail).2.1 with
    | error e' => rfl
    | ok junctions =>
      rw [if_neg (by decide)]
      dsimp only
      rw [if_neg placed.nonempty, failed]
      rfl

theorem trim_placed {phrase : List Char} (placed : Placed phrase) (rest : List Char) :
    Text.trim Text.isWhiteSpace (phrase ++ rest) =
      phrase ++ rest.rdropWhile Text.isWhiteSpace :=
  Text.trim_append_of_ends placed.nonempty placed.first placed.last rest

/-- Behind the default scheme or without one, a phrase is read with its tail trimmed. -/
theorem parse_stripped {phrase scheme tail : List Char} (placed : Placed phrase)
    (schemed : IsScheme scheme) (kept : IsTail (tail.rdropWhile Text.isWhiteSpace)) :
    parse u.toUnicode lib (scheme ++ (phrase ++ tail)) =
      parse u.toUnicode lib (phrase ++ tail.rdropWhile Text.isWhiteSpace) := by
  rcases schemed with rfl | ⟨token, is_default, rfl⟩
  · rw [List.nil_append, ← parse_trim u lib (phrase ++ tail), trim_placed placed]
  · have whole := trim_placed placed (tail.rdropWhile Text.isWhiteSpace)
    rw [List.rdropWhile_idempotent] at whole
    have some_ : phrase ++ tail.rdropWhile Text.isWhiteSpace ≠ [] :=
      List.append_ne_nil_of_left_ne_nil placed.nonempty _
    have solid : Text.trim Text.isWhiteSpace phrase = phrase :=
      Text.trim_of_ends placed.first placed.last
    have front := trim_scheme (isSchemeToken_of_default is_default) placed.nonempty solid
    have behind : Text.trim Text.isWhiteSpace ((token ++ ':' :: phrase) ++ tail) =
        token ++ ':' :: (phrase ++ tail.rdropWhile Text.isWhiteSpace) := by
      rw [Text.trim_append_of_ends (by simp) (Text.head_of_trimmed front)
        (Text.last_of_trimmed front), List.append_assoc, List.cons_append]
    rw [List.append_assoc, List.singleton_append, ← List.cons_append, ← List.append_assoc,
      ← parse_trim, behind, parse_scheme u.toUnicode lib is_default some_ whole
        (bare_append placed.colon kept)]

theorem parse_placed {phrase scheme tail : List Char} {e : KeyError} (placed : Placed phrase)
    (schemed : IsScheme scheme) (tailed : IsTail tail)
    (failed : ∀ password, root lib phrase password = .error e) :
    parse u.toUnicode lib (scheme ++ (phrase ++ tail)) =
      .error (if isValidPhrase u.toUnicode phrase then
        tailError (tail.rdropWhile Text.isWhiteSpace) e else invalidPhrase) := by
  have kept : IsTail (tail.rdropWhile Text.isWhiteSpace) := by
    intro c first
    obtain ⟨dropped, whole⟩ := List.rdropWhile_prefix Text.isWhiteSpace (l := tail)
    apply tailed c
    rw [← whole, List.head?_append, first]
    rfl
  have some_ : phrase ++ tail.rdropWhile Text.isWhiteSpace ≠ [] :=
    List.append_ne_nil_of_left_ne_nil placed.nonempty _
  have whole := trim_placed placed (tail.rdropWhile Text.isWhiteSpace)
  rw [List.rdropWhile_idempotent] at whole
  have split : splitScheme (Text.trim Text.isWhiteSpace
      (phrase ++ tail.rdropWhile Text.isWhiteSpace)) =
        .ok (.sr25519, phrase ++ tail.rdropWhile Text.isWhiteSpace) := by
    rw [whole]
    exact splitScheme_bare (bare_append placed.colon kept)
  rw [parse_stripped u lib placed schemed kept,
    parse_of_splitScheme u.toUnicode lib (by rwa [whole]) split, if_neg (by rwa [whole]),
    parseSr25519_placed u lib placed kept failed]

/-! ## Errors that say nothing -/

/-- The bytes of a text with a character that is no hex digit are not all hex digits. -/
theorem exists_misspelt {body : List Char} (misspelt : ∃ c ∈ body, Hex.digitValue c.toNat = none) :
    ∃ b ∈ utf8 body, Hex.digitValue b.toNat = none := by
  obtain ⟨c, inside, other⟩ := misspelt
  by_cases ascii : c.toNat < 128
  · refine ⟨UInt8.ofNat c.toNat, List.mem_flatMap.mpr ⟨c, inside, ?_⟩, ?_⟩
    · rw [Utf8.bytes_of_ascii ascii]
      exact List.mem_singleton_self _
    · rwa [UInt8.toNat_ofNat', Nat.mod_eq_of_lt (by omega)]
  · obtain ⟨b, listed⟩ := List.exists_mem_of_ne_nil _ (Utf8.bytes_ne_nil c)
    refine ⟨b, List.mem_flatMap.mpr ⟨c, inside, listed⟩, Option.eq_none_iff_forall_ne_some.mpr ?_⟩
    intro x read
    have high := Utf8.bytes_of_foreign (Nat.not_lt.mp ascii) b listed
    have low := (Hex.digitValue_lt read).1
    omega

theorem root_misspelt {body : List Char} (misspelt : Misspelt u.toUnicode body)
    (password : Option (List Char)) : root lib ("0x".toList ++ body) password = .error nonHex := by
  obtain ⟨b, listed, other⟩ := exists_misspelt misspelt.misspelt
  have not_all : (utf8 body).all (fun b => (Hex.digitValue b.toNat).isSome) = false := by
    rw [List.all_eq_false]
    exact ⟨b, listed, by rw [other]; exact Bool.false_ne_true⟩
  show keypairFromHex lib body = _
  unfold keypairFromHex
  rw [if_neg (not_not.mpr misspelt.length), if_pos (by rw [not_all]; rfl)]

theorem root_rejected {phrase : List Char} (rejected : Rejected u.toUnicode lib phrase)
    (password : Option (List Char)) : root lib phrase password = .error unrecognised := by
  obtain ⟨e, failed⟩ := rejected.rejected
  unfold root keypairFromMnemonic
  rw [rejected.mnemonic, if_neg Bool.false_ne_true, failed]

/-- A failing parse gives one of a fixed list of errors, whatever the libraries say; two hex secrets
of the right length that are misspelt, and two phrases that are rejected, fail alike with one scheme
and one tail. -/
theorem parse_redacted :
    (∀ input e, parse u.toUnicode lib input = .error e → e ∈ parseErrors) ∧
    (∀ scheme tail, IsScheme scheme → IsTail tail →
      (∀ body body', Misspelt u.toUnicode body → Misspelt u.toUnicode body' →
        ∃ e, parse u.toUnicode lib (scheme ++ (("0x".toList ++ body) ++ tail)) = .error e ∧
          parse u.toUnicode lib (scheme ++ (("0x".toList ++ body') ++ tail)) = .error e) ∧
      ∀ phrase phrase', Rejected u.toUnicode lib phrase → Rejected u.toUnicode lib phrase' →
        ∃ e, parse u.toUnicode lib (scheme ++ (phrase ++ tail)) = .error e ∧
          parse u.toUnicode lib (scheme ++ (phrase' ++ tail)) = .error e) ∧
    ∀ input, parse u.toUnicode lib.silent input = parse u.toUnicode lib input := by
  refine ⟨fun _ _ => parse_error u.toUnicode lib, ?_, parse_silent u.toUnicode lib⟩
  intro scheme tail schemed tailed
  constructor
  · intro body body' misspelt misspelt'
    have same := misspelt.valid.trans misspelt'.valid.symm
    refine ⟨_, parse_placed u lib misspelt.placed schemed tailed (root_misspelt u lib misspelt), ?_⟩
    rw [parse_placed u lib misspelt'.placed schemed tailed (root_misspelt u lib misspelt'), same]
  · intro phrase phrase' rejected rejected'
    refine ⟨_, parse_placed u lib rejected.placed schemed tailed (root_rejected u lib rejected), ?_⟩
    rw [parse_placed u lib rejected'.placed schemed tailed (root_rejected u lib rejected'),
      rejected.valid, rejected'.valid]

/-- Libraries that read nothing. -/
def readingNothing : KeyLibrary Unit Unit Unit String where
  decodeToSlice _ := .error "hex"
  mnemonicFromStr _ := .error "mnemonic"
  fromPhrase _ _ := .error "phrase"
  fromSecretKey _ := .error "seed"
  junction _ := ()
  derive _ _ := ()
  publicKey _ := []

theorem misspelt_replicate {c : Char} (other : c = 'g' ∨ c = 'z') :
    Misspelt asciiUnicode (List.replicate 64 c) := by
  have plain : isPhraseChar asciiUnicode c = true := by rcases other with rfl | rfl <;> decide
  have digit : ∀ d, d ∈ List.replicate 64 c → d = c := fun d mem => (List.mem_replicate.mp mem).2
  refine ⟨?_, fun d mem => digit d mem ▸ plain, c, by simp, ?_⟩
  · rcases other with rfl | rfl <;> rfl
  · rcases other with rfl | rfl <;> decide

/-- Two misspelt hex secrets with a path, and two phrases that are no mnemonics. -/
theorem parse_redacted_ascii :
    (∃ e,
      parse asciiUnicode readingNothing
          ("sr25519:".toList ++ (("0x".toList ++ List.replicate 64 'g') ++ "//a".toList)) = .error e ∧
        parse asciiUnicode readingNothing
          ("sr25519:".toList ++ (("0x".toList ++ List.replicate 64 'z') ++ "//a".toList)) =
            .error e) ∧
    ∃ e, parse asciiUnicode readingNothing ([] ++ ("one".toList ++ [])) = .error e ∧
      parse asciiUnicode readingNothing ([] ++ ("two".toList ++ [])) = .error e := by
  have redacted := (parse_redacted asciiKeyUnicode readingNothing).2.1
  constructor
  · refine (redacted "sr25519:".toList "//a".toList ?_ ?_).1 _ _ (misspelt_replicate (.inl rfl))
      (misspelt_replicate (.inr rfl))
    · exact .inr ⟨"sr25519".toList, by decide, by decide⟩
    · intro c first
      exact (Option.some.inj first).symm
  · refine (redacted [] [] (.inl rfl) nofun).2 _ _ ?_ ?_
    · exact ⟨by decide, by decide, by decide, by decide, by decide, _, rfl⟩
    · exact ⟨by decide, by decide, by decide, by decide, by decide, _, rfl⟩

end ApiKey

end MatterSdk.Rust
