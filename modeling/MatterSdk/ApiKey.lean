import MatterSdk.Scopes.Parse
import MatterSdk.Suri
import MatterSdk.Wire

/-!
# API keys

`ApiKey::parse` of the Rust key crate: an optional scheme, then a secret URI.  The scheme that is the
default may be written or not, and no key comes of an empty phrase.
-/

namespace MatterSdk.Rust

inductive KeyScheme where
  | sr25519
deriving DecidableEq, Repr

/-- `RESERVED_SCHEMES`. -/
def reservedSchemes : List String := ["secp256k1", "ecdsa", "ed25519"]

/-- `SUPPORTED_SCHEMES`. -/
def supportedSchemes : String := "sr25519"

/-- `as_str`. -/
def KeyScheme.name : KeyScheme → String
  | .sr25519 => "sr25519"

def unknownScheme : KeyError :=
  .malformed "unrecognised api key scheme prefix; this build supports sr25519"

def KeyScheme.fromToken (token : List Char) : Except KeyError KeyScheme :=
  if eqIgnoreAsciiCase token KeyScheme.sr25519.name.toList then .ok .sr25519
  else .error unknownScheme

/-- What the crate takes from the hex, BIP39 and sr25519 libraries, which have errors of their own. -/
structure KeyLibrary (κ μ ι ε : Type) where
  /-- `hex::decode_to_slice`, into 32 bytes. -/
  decodeToSlice : List Char → Except ε Bytes
  mnemonicFromStr : List Char → Except ε μ
  fromPhrase : μ → Option (List Char) → Except ε κ
  fromSecretKey : Bytes → Except ε κ
  /-- `DeriveJunction::from`. -/
  junction : List Char → ι
  derive : κ → List ι → κ
  publicKey : κ → Bytes

structure ApiKey (κ : Type) where
  scheme : KeyScheme
  account : Bytes
  material : κ

/-- `MINI_SECRET_HEX_LEN`. -/
def miniSecretHexLen : ℕ := 64

def wrongLength : KeyError :=
  .malformed "hex mini-secret must be exactly 32 bytes (64 hex characters)"

def nonHex : KeyError := .malformed "hex mini-secret contains a non-hex character"

def invalidSeed : KeyError := .derivation "seed is not a valid sr25519 mini-secret"

def unrecognised : KeyError :=
  .malformed "not a 0x mini-secret, BIP39 mnemonic, or sr25519 SURI"

def underivable : KeyError :=
  .derivation "sr25519 derivation failed (check the BIP39 checksum or word count)"

def noPhrase : KeyError :=
  .malformed ("api key has no phrase; this would derive from the public " ++
    "well-known development phrase")

/-- `is_ascii_alphanumeric`. -/
def isAsciiAlphanumeric (c : Char) : Bool :=
  (48 ≤ c.toNat && c.toNat ≤ 57) || (65 ≤ c.toNat && c.toNat ≤ 90) ||
    (97 ≤ c.toNat && c.toNat ≤ 122)

/-- `is_scheme_token`, on characters: no byte of a character outside ASCII is of the class. -/
def isSchemeToken (token : List Char) : Bool :=
  !token.isEmpty && !"0x".toList.isPrefixOf token &&
    token.all fun c => isAsciiAlphanumeric c || c = '_' || c = '-'

/-- The scheme of a key and what follows it. -/
def splitScheme (input : List Char) : Except KeyError (KeyScheme × List Char) :=
  match cutAt [':'] input with
  | none => .ok (.sr25519, input)
  | some (token, body) =>
    if isSchemeToken token then
      match reservedSchemes.find? fun r => eqIgnoreAsciiCase token r.toList with
      | some reserved => .error (.unsupportedScheme reserved supportedSchemes)
      | none => (KeyScheme.fromToken token).map (·, body)
    else .ok (.sr25519, input)

namespace ApiKey

variable {κ μ ι ε : Type} (u : Unicode) (lib : KeyLibrary κ μ ι ε)

def keypairFromHex (hexBody : List Char) : Except KeyError κ :=
  if (utf8 hexBody).length ≠ miniSecretHexLen then .error wrongLength
  else if !(utf8 hexBody).all fun b => (Hex.digitValue b.toNat).isSome then .error nonHex
  else
    match lib.decodeToSlice hexBody with
    | .error _ => .error nonHex
    | .ok seed =>
      match lib.fromSecretKey seed with
      | .error _ => .error invalidSeed
      | .ok keypair => .ok keypair

def keypairFromMnemonic (phrase : List Char) (password : Option (List Char)) : Except KeyError κ :=
  match lib.mnemonicFromStr phrase with
  | .error _ => .error unrecognised
  | .ok mnemonic =>
    match lib.fromPhrase mnemonic password with
    | .error _ => .error underivable
    | .ok keypair => .ok keypair

/-- The key that a phrase and a password stand for; a hex secret ignores the password. -/
def root (phrase : List Char) (password : Option (List Char)) : Except KeyError κ :=
  if "0x".toList.isPrefixOf phrase then keypairFromHex lib (phrase.drop 2)
  else keypairFromMnemonic lib phrase password

def fromKeypair (keypair : κ) : ApiKey κ where
  scheme := .sr25519
  account := lib.publicKey keypair
  material := keypair

def parseSr25519 (body : List Char) : Except KeyError (ApiKey κ) :=
  match split u body with
  | .error e => .error e
  | .ok uri =>
    if uri.phrase = [] then .error noPhrase
    else
      (root lib uri.phrase uri.password).map fun keypair =>
        fromKeypair lib (lib.derive keypair (uri.junctions.map lib.junction))

def parse (input : List Char) : Except KeyError (ApiKey κ) :=
  let trimmed := Text.trim Text.isWhiteSpace input
  if trimmed = [] then .error .empty
  else
    match splitScheme trimmed with
    | .error e => .error e
    | .ok (scheme, body) =>
      if Text.trim Text.isWhiteSpace body = [] then .error .empty
      else
        match scheme with
        | .sr25519 => parseSr25519 u lib body

end ApiKey

/-! ## The scheme -/

theorem cutAt_single {x : Char} (l : List Char) :
    cutAt [x] l =
      if x ∈ l then some (l.takeWhile (· ≠ x), (l.dropWhile (· ≠ x)).tail) else none := by
  induction l with
  | nil => rfl
  | cons c rest ih =>
    rw [cutAt]
    by_cases here : c = x
    · subst here
      simp
    · have other : [x].isPrefixOf (c :: rest) = false := by simp [List.isPrefixOf, Ne.symm here]
      rw [if_neg (by simp [other]), ih]
      by_cases later : x ∈ rest
      · simp [here, later]
      · simp [Ne.symm here, later]

theorem cutAt_colon {token : List Char} (plain : ':' ∉ token) (body : List Char) :
    cutAt [':'] (token ++ ':' :: body) = some (token, body) := by
  rw [cutAt_single, if_pos (List.mem_append_right _ (List.mem_cons_self ..)),
    Text.takeWhile_ne_append plain (by simp), Text.dropWhile_ne_append plain (by simp)]
  rfl

/-- The text before the first colon, where there is one. -/
theorem cutAt_colon_eq_some {input token body : List Char}
    (cut : cutAt [':'] input = some (token, body)) : input = token ++ ':' :: body ∧ ':' ∉ token := by
  refine ⟨cutAt_eq_some cut, ?_⟩
  rw [cutAt_single] at cut
  split at cut
  · obtain ⟨rfl, -⟩ := Prod.mk.inj (Option.some.inj cut)
    exact Text.absent_takeWhile input
  · cases cut

/-- The class of a scheme's characters. -/
theorem class_of_isSchemeToken {token : List Char} (shaped : isSchemeToken token = true) :
    ∀ c ∈ token, (isAsciiAlphanumeric c || c = '_' || c = '-') = true :=
  List.all_eq_true.mp (Bool.and_eq_true_iff.mp shaped).2

theorem colon_of_isSchemeToken {token : List Char} (shaped : isSchemeToken token = true) :
    ':' ∉ token :=
  fun inside => absurd (class_of_isSchemeToken shaped ':' inside) (by decide)

theorem space_of_isSchemeToken {token : List Char} (shaped : isSchemeToken token = true) :
    ∀ c ∈ token, Text.isWhiteSpace c = false := by
  intro c inside
  have shape := class_of_isSchemeToken shaped c inside
  have code : c.toNat ≠ 0x20 ∧ 0x20 ≤ c.toNat ∧ c.toNat < 0x80 := by
    rcases Bool.or_eq_true_iff.mp shape with shape | shape
    · rcases Bool.or_eq_true_iff.mp shape with letter | line
      · simp only [isAsciiAlphanumeric, Bool.or_eq_true, Bool.and_eq_true, decide_eq_true_eq]
          at letter
        omega
      · rw [of_decide_eq_true line]
        decide
    · rw [of_decide_eq_true shape]
      decide
  simp only [Text.isWhiteSpace, Bool.or_eq_false_iff, Bool.and_eq_false_iff,
    decide_eq_false_iff_not]
  omega

/-- The token of the default scheme, in any letter case. -/
def IsDefault (token : List Char) : Prop :=
  eqIgnoreAsciiCase token KeyScheme.sr25519.name.toList = true

instance (token : List Char) : Decidable (IsDefault token) := inferInstanceAs (Decidable (_ = _))

theorem toNat_of_default {token : List Char} (is_default : IsDefault token) :
    ∀ c ∈ token, c.toNat ∈ [83, 115, 82, 114, 50, 53, 49, 57] := by
  intro c inside
  have lowered : c.toLower ∈ KeyScheme.sr25519.name.toList.map Char.toLower := by
    rw [← of_decide_eq_true is_default]
    exact List.mem_map_of_mem inside
  have codes : (KeyScheme.sr25519.name.toList.map Char.toLower).all
      (fun d => d.toNat ∈ [115, 114, 50, 53, 49, 57]) = true := by
    decide
  have code := of_decide_eq_true (List.all_eq_true.mp codes _ lowered)
  rw [Hex.toNat_toLower] at code
  simp only [List.mem_cons, List.not_mem_nil, or_false] at code ⊢
  split at code <;> omega

theorem isSchemeToken_of_default {token : List Char} (is_default : IsDefault token) :
    isSchemeToken token = true := by
  have codes := toNat_of_default is_default
  have some_ : token ≠ [] := by
    rintro rfl
    exact absurd is_default (by decide)
  obtain ⟨first, rest, rfl⟩ := List.exists_cons_of_ne_nil some_
  have other : ¬ '0' = first := by
    rintro rfl
    exact absurd (codes '0' (List.mem_cons_self ..)) (by decide)
  have bare : "0x".toList.isPrefixOf (first :: rest) = false := by
    simp [List.isPrefixOf, other]
  have shape : ∀ c ∈ first :: rest, (isAsciiAlphanumeric c || c = '_' || c = '-') = true := by
    intro c inside
    have code := codes c inside
    simp only [List.mem_cons, List.not_mem_nil, or_false] at code
    simp only [isAsciiAlphanumeric, Bool.or_eq_true, Bool.and_eq_true, decide_eq_true_eq]
    omega
  rw [isSchemeToken, bare, List.all_eq_true.mpr shape]
  rfl

/-- The default scheme is not reserved. -/
theorem find_of_default {token : List Char} (is_default : IsDefault token) :
    (reservedSchemes.find? fun r => eqIgnoreAsciiCase token r.toList) = none := by
  have lowered := of_decide_eq_true is_default
  have others : ∀ r ∈ reservedSchemes,
      KeyScheme.sr25519.name.toList.map Char.toLower ≠ r.toList.map Char.toLower := by
    decide
  apply List.find?_eq_none.mpr
  intro r listed same
  exact others r listed (lowered.symm.trans (of_decide_eq_true same))

theorem fromToken_default {token : List Char} (is_default : IsDefault token) :
    KeyScheme.fromToken token = .ok .sr25519 :=
  if_pos is_default

theorem fromToken_other {token : List Char} (other : ¬ IsDefault token) :
    KeyScheme.fromToken token = .error unknownScheme :=
  if_neg other

theorem splitScheme_default {token : List Char} (is_default : IsDefault token) (body : List Char) :
    splitScheme (token ++ ':' :: body) = .ok (.sr25519, body) := by
  have shaped := isSchemeToken_of_default is_default
  unfold splitScheme
  rw [cutAt_colon (colon_of_isSchemeToken shaped)]
  dsimp only
  rw [if_pos shaped, find_of_default is_default]
  dsimp only
  rw [fromToken_default is_default]
  rfl

/-- The text before the first colon, if there is one, is not shaped like a scheme. -/
def Bare (input : List Char) : Prop :=
  ∀ front rest, input = front ++ ':' :: rest → ':' ∉ front → isSchemeToken front = false

/-- A text with no scheme in front of its first colon is a key, whole. -/
theorem splitScheme_bare {input : List Char} (bare : Bare input) :
    splitScheme input = .ok (.sr25519, input) := by
  unfold splitScheme
  cases cut : cutAt [':'] input with
  | none => rfl
  | some parts =>
    obtain ⟨token, body⟩ := parts
    obtain ⟨whole, plain⟩ := cutAt_colon_eq_some cut
    dsimp only
    rw [if_neg (by simp [bare token body whole plain])]

/-- A scheme that is not the default is an error that names no part of the key. -/
theorem splitScheme_other {token : List Char} (shaped : isSchemeToken token = true)
    (other : ¬ IsDefault token) (body : List Char) :
    splitScheme (token ++ ':' :: body) = .error unknownScheme ∨
      ∃ reserved ∈ reservedSchemes,
        splitScheme (token ++ ':' :: body) = .error (.unsupportedScheme reserved supportedSchemes) := by
  unfold splitScheme
  rw [cutAt_colon (colon_of_isSchemeToken shaped)]
  dsimp only
  rw [if_pos shaped]
  cases found : reservedSchemes.find? fun r => eqIgnoreAsciiCase token r.toList with
  | some reserved => exact .inr ⟨reserved, List.mem_of_find?_eq_some found, rfl⟩
  | none =>
    dsimp only
    rw [fromToken_other other]
    exact .inl rfl

theorem bare_of_slash (rest : List Char) : Bare ('/' :: rest) := by
  intro front after whole _
  cases front with
  | nil => rfl
  | cons c front =>
    obtain ⟨rfl, -⟩ := List.cons.inj whole
    rw [isSchemeToken, List.all_cons]
    rfl

/-! ## The parser -/

namespace ApiKey

section

variable {κ μ ι ε : Type} (u : Unicode) (lib : KeyLibrary κ μ ι ε)

/-- What a body that is not blank stands for, once the scheme is off. -/
theorem parse_of_splitScheme {input body : List Char}
    (some_ : Text.trim Text.isWhiteSpace input ≠ [])
    (split : splitScheme (Text.trim Text.isWhiteSpace input) = .ok (.sr25519, body)) :
    parse u lib input =
      if Text.trim Text.isWhiteSpace body = [] then .error .empty else parseSr25519 u lib body := by
  unfold parse
  dsimp only
  rw [if_neg some_, split]

theorem parse_of_error {input : List Char} {e : KeyError}
    (some_ : Text.trim Text.isWhiteSpace input ≠ [])
    (split : splitScheme (Text.trim Text.isWhiteSpace input) = .error e) :
    parse u lib input = .error e := by
  unfold parse
  dsimp only
  rw [if_neg some_, split]

/-- A scheme in front of a trimmed text leaves it trimmed. -/
theorem trim_scheme {token s : List Char} (shaped : isSchemeToken token = true) (some_ : s ≠ [])
    (trimmed : Text.trim Text.isWhiteSpace s = s) :
    Text.trim Text.isWhiteSpace (token ++ ':' :: s) = token ++ ':' :: s := by
  apply Text.trim_of_ends
  · intro c first
    cases token with
    | nil => exact absurd shaped (by decide)
    | cons d token =>
      obtain rfl := Option.some.inj first
      exact space_of_isSchemeToken shaped d (List.mem_cons_self ..)
  · intro c last
    apply Text.last_of_trimmed trimmed c
    obtain ⟨d, rest, rfl⟩ := List.exists_cons_of_ne_nil some_
    rwa [List.getLast?_append, List.getLast?_cons_cons, List.getLast?_cons, Option.some_or,
      ← List.getLast?_cons] at last

/-- The default scheme may be written or not. -/
theorem parse_scheme {token s : List Char} (is_default : IsDefault token) (some_ : s ≠ [])
    (trimmed : Text.trim Text.isWhiteSpace s = s) (bare : Bare s) :
    parse u lib (token ++ ':' :: s) = parse u lib s := by
  have whole := trim_scheme (isSchemeToken_of_default is_default) some_ trimmed
  have prefixed : parse u lib (token ++ ':' :: s) = parseSr25519 u lib s := by
    rw [parse_of_splitScheme u lib (by simp [whole])
      (by rw [whole]; exact splitScheme_default is_default s), if_neg (by rwa [trimmed])]
  have alone : parse u lib s = parseSr25519 u lib s := by
    rw [parse_of_splitScheme u lib (by rwa [trimmed])
      (by rw [trimmed]; exact splitScheme_bare bare), if_neg (by rwa [trimmed])]
  exact prefixed.trans alone.symm

/-- A key that is accepted has the default scheme and a phrase. -/
theorem exists_suri {input : List Char} {key : ApiKey κ} (parsed : parse u lib input = .ok key) :
    ∃ body suri, splitScheme (Text.trim Text.isWhiteSpace input) = .ok (.sr25519, body) ∧
      split u body = .ok suri ∧ suri.phrase ≠ [] := by
  unfold parse at parsed
  dsimp only at parsed
  split at parsed
  · cases parsed
  · split at parsed
    · cases parsed
    · rename_i scheme body taken
      split at parsed
      · cases parsed
      · cases scheme
        unfold parseSr25519 at parsed
        split at parsed
        · cases parsed
        · rename_i suri cut
          split at parsed
          · cases parsed
          · rename_i some_
            exact ⟨body, suri, taken, cut, some_⟩

/-- The phrase of a body that starts with a junction or a password is empty. -/
theorem phrase_of_slash {rest : List Char} {suri : Suri} (cut : split u ('/' :: rest) = .ok suri) :
    suri.phrase = [] := by
  obtain ⟨parts, text, -, rfl⟩ := split_eq_ok_iff.mp cut
  cases phrase : parts.phrase with
  | nil => exact phrase
  | cons c phrase' =>
    have plain := parts.plain
    rw [Parts.text, phrase] at text
    obtain ⟨rfl, -⟩ := List.cons.inj text
    exact absurd (phrase ▸ List.mem_cons_self ..) plain

theorem isError_of_phraseless {input rest : List Char}
    (split : splitScheme (Text.trim Text.isWhiteSpace input) = .ok (.sr25519, '/' :: rest)) :
    ∃ e, parse u lib input = .error e := by
  cases parsed : parse u lib input with
  | error e => exact ⟨e, rfl⟩
  | ok key =>
    obtain ⟨body, suri, taken, cut, some_⟩ := exists_suri u lib parsed
    rw [split] at taken
    obtain ⟨-, rfl⟩ := Prod.mk.inj (Except.ok.inj taken)
    exact absurd (phrase_of_slash u cut) some_

theorem isError_of_scheme {input token body : List Char}
    (whole : Text.trim Text.isWhiteSpace input = token ++ ':' :: body)
    (shaped : isSchemeToken token = true) (other : ¬ IsDefault token) :
    ∃ e, parse u lib input = .error e := by
  have some_ : Text.trim Text.isWhiteSpace input ≠ [] := by simp [whole]
  rcases splitScheme_other shaped other body with unknown | ⟨reserved, -, unsupported⟩
  · exact ⟨_, parse_of_error u lib some_ (by rw [whole, unknown])⟩
  · exact ⟨_, parse_of_error u lib some_ (by rw [whole, unsupported])⟩

/-- The default scheme is transparent in every letter case; what is accepted has a phrase, so that
junctions or a password alone are refused; and no other scheme is accepted. -/
theorem scheme_transparent :
    (∀ token s, IsDefault token → s ≠ [] → Text.trim Text.isWhiteSpace s = s → Bare s →
      parse u lib (token ++ ':' :: s) = parse u lib s) ∧
    (∀ input key, parse u lib input = .ok key →
      ∃ body suri, splitScheme (Text.trim Text.isWhiteSpace input) = .ok (.sr25519, body) ∧
        split u body = .ok suri ∧ suri.phrase ≠ []) ∧
    (∀ input rest, Text.trim Text.isWhiteSpace input = '/' :: rest →
      ∃ e, parse u lib input = .error e) ∧
    (∀ input token rest, Text.trim Text.isWhiteSpace input = token ++ ':' :: '/' :: rest →
      IsDefault token → ∃ e, parse u lib input = .error e) ∧
    ∀ input token body, Text.trim Text.isWhiteSpace input = token ++ ':' :: body →
      isSchemeToken token = true → ¬ IsDefault token → ∃ e, parse u lib input = .error e := by
  refine ⟨fun _ _ => parse_scheme u lib, fun _ _ => exists_suri u lib, ?_, ?_,
    fun _ _ _ => isError_of_scheme u lib⟩
  · intro input rest whole
    apply isError_of_phraseless u lib
    rw [whole]
    exact splitScheme_bare (bare_of_slash rest)
  · intro input token rest whole is_default
    apply isError_of_phraseless u lib
    rw [whole]
    exact splitScheme_default is_default ('/' :: rest)

end

end ApiKey

end MatterSdk.Rust
