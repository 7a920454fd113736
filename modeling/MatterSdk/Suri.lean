import MatterSdk.Lib.Text

/-!
# Secret URIs

`split` of the Rust key crate, which cuts a secret URI into phrase, junctions and password by hand.
A text whose path is well formed has `Parts`, and these are what the splitter gives.
-/

namespace MatterSdk

/-- The properties of characters behind the two phrase classes; the slash has none of them. -/
structure Unicode where
  alphabetic : Char → Bool
  mark : Char → Bool
  decimalNumber : Char → Bool
  letterNumber : Char → Bool
  otherNumber : Char → Bool
  connectorPunctuation : Char → Bool
  joinControl : Char → Bool
  slash : (alphabetic '/' || mark '/' || decimalNumber '/' || letterNumber '/' || otherNumber '/' ||
    connectorPunctuation '/' || joinControl '/') = false

/-- A secret URI split into its parts. -/
structure Suri where
  phrase : List Char
  /-- The texts that the junctions are made from. -/
  junctions : List (List Char)
  password : Option (List Char)
deriving DecidableEq, Repr

namespace Rust

/-! ## The splitter -/

/-- Why an API key was refused. -/
inductive KeyError where
  | empty
  | unsupportedScheme (scheme supported : String)
  | malformed (detail : String)
  | derivation (detail : String)
  | noKey
deriving DecidableEq, Repr

/-- `PASSWORD_SEPARATOR`. -/
def passwordSeparator : List Char := ['/', '/', '/']

/-- The texts around the first separator, as `input.find` gives it. -/
def cutAt (separator : List Char) : List Char → Option (List Char × List Char)
  | [] => none
  | c :: rest =>
    if separator.isPrefixOf (c :: rest) then some ([], (c :: rest).drop separator.length)
    else (cutAt separator rest).map fun (head, tail) => (c :: head, tail)

/-- `char::is_alphanumeric`. -/
def isAlphanumeric (u : Unicode) (c : Char) : Bool :=
  u.alphabetic c || u.decimalNumber c || u.letterNumber c || u.otherNumber c

/-- `is_valid_phrase`. -/
def isValidPhrase (u : Unicode) (phrase : List Char) : Bool :=
  phrase.all fun c => isAlphanumeric u c || c = '_' || c = ' '

/-- The error of `parse_junctions`. -/
def malformedPath : KeyError :=
  .malformed "derivation path must be a sequence of `/soft` or `//hard` segments"

/-- The slash that marks a hard junction comes next. -/
def isHard (rest : List Char) : Bool := rest.head? = some '/'

def afterMarker (rest : List Char) : List Char := if isHard rest then rest.tail else rest

theorem length_afterMarker (rest : List Char) : (afterMarker rest).length ≤ rest.length := by
  unfold afterMarker
  split
  · rw [List.length_tail]
    omega
  · exact le_rfl

/-- `parse_junctions`, on characters: in UTF-8 the byte of a slash is in no other character. -/
def parseJunctions : List Char → Except KeyError (List (List Char))
  | [] => .ok []
  | c :: rest =>
    if c ≠ '/' then .error malformedPath
    else
      let code := (afterMarker rest).takeWhile (· ≠ '/')
      if code = [] then .error malformedPath
      else
        (parseJunctions ((afterMarker rest).dropWhile (· ≠ '/'))).map
          ((if isHard rest then '/' :: code else code) :: ·)
termination_by path => path.length
decreasing_by
  have dropped : ((afterMarker rest).dropWhile (· ≠ '/')).length ≤ (afterMarker rest).length :=
    (List.dropWhile_sublist _).length_le
  have tail := length_afterMarker rest
  rw [List.length_cons]
  omega

/-- The phrase, the path and the password of an input. -/
def cutInput (input : List Char) : List Char × List Char × Option (List Char) :=
  let (head, password) :=
    match cutAt passwordSeparator input with
    | some (head, tail) => (head, some tail)
    | none => (input, none)
  (head.takeWhile (· ≠ '/'), head.dropWhile (· ≠ '/'), password)

/-- `split`. -/
def split (u : Unicode) (input : List Char) : Except KeyError Suri :=
  let (phrase, path, password) := cutInput input
  if !isValidPhrase u phrase then
    .error (.malformed "phrase may contain only letters, digits, underscores, and spaces")
  else
    match parseJunctions path with
    | .error e => .error e
    | .ok junctions => .ok { phrase, junctions, password }

/-! ## Well formed parts -/

/-- A segment of a path: a slash, a second one if it is hard, and a code. -/
structure Segment where
  hard : Bool
  code : List Char
  nonempty : code ≠ []
  plain : '/' ∉ code

/-- The text that its junction is made from. -/
def Segment.token (s : Segment) : List Char := if s.hard then '/' :: s.code else s.code

def Segment.text (s : Segment) : List Char := '/' :: s.token

/-- The parts of a secret URI. -/
structure Parts where
  phrase : List Char
  plain : '/' ∉ phrase
  segments : List Segment
  password : Option (List Char)

def Parts.path (p : Parts) : List Char := p.segments.flatMap Segment.text

def Parts.text (p : Parts) : List Char :=
  p.phrase ++ p.path ++ match p.password with
    | none => []
    | some password => passwordSeparator ++ password

def Parts.suri (p : Parts) : Suri where
  phrase := p.phrase
  junctions := p.segments.map Segment.token
  password := p.password

/-! ## The splitter on its parts -/

/-- A path begins with a slash, if it is not empty. -/
theorem head_path (segments : List Segment) :
    ∀ c ∈ (segments.flatMap Segment.text).head?, c = '/' := by
  cases segments with
  | nil => exact nofun
  | cons segment segments =>
    intro c same
    exact (Option.some.inj same).symm

theorem cutAt_plain {s : List Char} : ∀ {text : List Char}, '/' ∉ text →
    cutAt passwordSeparator (text ++ s) =
      (cutAt passwordSeparator s).map fun (head, tail) => (text ++ head, tail)
  | [], _ => by
    show cutAt passwordSeparator s = _
    cases cutAt passwordSeparator s <;> rfl
  | c :: text, plain => by
    obtain ⟨other, plain⟩ := List.ne_and_not_mem_of_not_mem_cons plain
    rw [List.cons_append, cutAt, if_neg (by simp [passwordSeparator, other]), cutAt_plain plain]
    cases cutAt passwordSeparator s <;> rfl

/-- No separator begins in a segment. -/
theorem cutAt_segment (segment : Segment) (s : List Char) :
    cutAt passwordSeparator (segment.text ++ s) =
      (cutAt passwordSeparator s).map fun (head, tail) => (segment.text ++ head, tail) := by
  obtain ⟨hard, code, nonempty, plain⟩ := segment
  obtain ⟨c, code, rfl⟩ := List.exists_cons_of_ne_nil nonempty
  have other : ¬ '/' = c := (List.ne_and_not_mem_of_not_mem_cons plain).1
  have after := cutAt_plain (s := s) plain
  have one : cutAt passwordSeparator ('/' :: (c :: code ++ s)) =
      (cutAt passwordSeparator s).map fun (head, tail) => ('/' :: c :: code ++ head, tail) := by
    rw [cutAt, if_neg (by simp [passwordSeparator, other]), after]
    cases cutAt passwordSeparator s <;> rfl
  cases hard with
  | false => exact one
  | true =>
    show cutAt passwordSeparator ('/' :: '/' :: (c :: code ++ s)) = _
    rw [cutAt, if_neg (by simp [passwordSeparator, other]), one]
    cases cutAt passwordSeparator s <;> rfl

theorem cutAt_path (s : List Char) : ∀ segments : List Segment,
    cutAt passwordSeparator (segments.flatMap Segment.text ++ s) =
      (cutAt passwordSeparator s).map fun (head, tail) =>
        (segments.flatMap Segment.text ++ head, tail)
  | [] => by
    show cutAt passwordSeparator s = _
    cases cutAt passwordSeparator s <;> rfl
  | segment :: segments => by
    rw [List.flatMap_cons, List.append_assoc, cutAt_segment, cutAt_path s segments]
    cases cutAt passwordSeparator s <;> simp

theorem cutInput_text (p : Parts) : cutInput p.text = (p.phrase, p.path, p.password) := by
  obtain ⟨phrase, plain, segments, password⟩ := p
  have cut (s : List Char) :
      cutAt passwordSeparator (phrase ++ segments.flatMap Segment.text ++ s) =
        (cutAt passwordSeparator s).map fun (head, tail) =>
          (phrase ++ (segments.flatMap Segment.text ++ head), tail) := by
    rw [List.append_assoc, cutAt_plain plain, cutAt_path]
    cases cutAt passwordSeparator s <;> rfl
  have before := Text.takeWhile_ne_append plain (head_path segments)
  have after := Text.dropWhile_ne_append plain (head_path segments)
  unfold cutInput Parts.text Parts.path
  cases password with
  | none =>
    have none_found := cut []
    rw [List.append_nil] at none_found
    dsimp only
    rw [List.append_nil, none_found]
    show ((phrase ++ _).takeWhile _, (phrase ++ _).dropWhile _, none) = _
    rw [before, after]
  | some password =>
    have found : cutAt passwordSeparator (passwordSeparator ++ password) = some ([], password) := by
      show (if passwordSeparator.isPrefixOf (passwordSeparator ++ password) then _ else _) = _
      rw [if_pos (by simp [passwordSeparator])]
      rfl
    dsimp only
    rw [cut, found]
    show ((phrase ++ (_ ++ [])).takeWhile _, (phrase ++ (_ ++ [])).dropWhile _, some password) = _
    rw [List.append_nil, before, after]

theorem parseJunctions_segment (segment : Segment) {rest : List Char}
    (slash : ∀ c ∈ rest.head?, c = '/') :
    parseJunctions (segment.text ++ rest) =
      (parseJunctions rest).map (segment.token :: ·) := by
  obtain ⟨hard, code, nonempty, plain⟩ := segment
  have taken := Text.takeWhile_ne_append plain slash
  have dropped := Text.dropWhile_ne_append plain slash
  have soft : isHard (code ++ rest) = false := by
    obtain ⟨c, code, rfl⟩ := List.exists_cons_of_ne_nil nonempty
    exact decide_eq_false fun slash => plain (Option.some.inj slash ▸ List.mem_cons_self ..)
  have after : afterMarker (Segment.token ⟨hard, code, nonempty, plain⟩ ++ rest) = code ++ rest ∧
      isHard (Segment.token ⟨hard, code, nonempty, plain⟩ ++ rest) = hard := by
    cases hard with
    | false => exact ⟨if_neg (by simp [Segment.token, soft]), soft⟩
    | true => exact ⟨rfl, rfl⟩
  show parseJunctions ('/' :: (_ ++ rest)) = _
  rw [parseJunctions, if_neg (by simp), after.1, after.2, taken, dropped]
  dsimp only
  rw [if_neg nonempty]
  rfl

theorem parseJunctions_path : ∀ segments : List Segment,
    parseJunctions (segments.flatMap Segment.text) = .ok (segments.map Segment.token)
  | [] => by
    rw [List.flatMap_nil, parseJunctions]
    rfl
  | segment :: segments => by
    rw [List.flatMap_cons, parseJunctions_segment segment (head_path segments),
      parseJunctions_path segments]
    rfl

theorem eq_afterMarker (rest : List Char) :
    rest = if isHard rest then '/' :: afterMarker rest else afterMarker rest := by
  unfold afterMarker
  cases hard : isHard rest with
  | false => rfl
  | true =>
    cases rest with
    | nil => cases hard
    | cons c rest =>
      obtain rfl := Option.some.inj (of_decide_eq_true hard)
      rfl

/-- What is read as junctions is a path of segments. -/
theorem exists_segments (path : List Char) : ∀ {tokens : List (List Char)},
    parseJunctions path = .ok tokens → ∃ segments : List Segment,
      path = segments.flatMap Segment.text ∧ tokens = segments.map Segment.token := by
  induction path using parseJunctions.induct with
  | case1 =>
    intro tokens parsed
    rw [parseJunctions] at parsed
    exact ⟨[], rfl, (Except.ok.inj parsed).symm⟩
  | case2 c rest other =>
    intro tokens parsed
    rw [parseJunctions, if_pos other] at parsed
    cases parsed
  | case3 c rest slash code =>
    rename_i none
    intro tokens parsed
    rw [parseJunctions, if_neg slash] at parsed
    dsimp only at parsed
    rw [if_pos none] at parsed
    cases parsed
  | case4 c rest slash code =>
    rename_i some ih
    intro tokens parsed
    rw [parseJunctions, if_neg slash] at parsed
    dsimp only at parsed
    rw [if_neg some] at parsed
    cases others : parseJunctions ((afterMarker rest).dropWhile (· ≠ '/')) with
    | error e =>
      rw [others] at parsed
      cases parsed
    | ok later =>
      rw [others] at parsed
      obtain ⟨segments, path, rfl⟩ := ih others
      have whole : afterMarker rest =
          (afterMarker rest).takeWhile (· ≠ '/') ++ segments.flatMap Segment.text := by
        rw [← path]
        exact List.takeWhile_append_dropWhile.symm
      refine ⟨⟨isHard rest, _, some, Text.absent_takeWhile _⟩ :: segments, ?_,
        (Except.ok.inj parsed).symm⟩
      obtain rfl := not_not.mp slash
      rw [List.flatMap_cons, Segment.text, Segment.token, List.cons_append]
      refine congrArg ('/' :: ·) ((eq_afterMarker rest).trans ?_)
      cases isHard rest with
      | false => exact whole
      | true => exact congrArg ('/' :: ·) whole

theorem cutAt_eq_some {separator : List Char} : ∀ {s head tail : List Char},
    cutAt separator s = some (head, tail) → s = head ++ (separator ++ tail)
  | c :: rest, head, tail, cut => by
    rw [cutAt] at cut
    split at cut
    · rename_i found
      obtain ⟨rfl, rfl⟩ := Prod.mk.inj (Option.some.inj cut)
      obtain ⟨after, whole⟩ := List.isPrefixOf_iff_prefix.mp found
      rw [← whole, List.drop_left]
      rfl
    · obtain ⟨⟨head', tail'⟩, earlier, same⟩ := Option.map_eq_some_iff.mp cut
      obtain ⟨rfl, rfl⟩ := Prod.mk.inj same
      rw [cutAt_eq_some earlier]
      rfl

/-- An input whose path is well formed has parts. -/
theorem exists_parts {input phrase path : List Char} {password : Option (List Char)}
    {tokens : List (List Char)} (cut : cutInput input = (phrase, path, password))
    (parsed : parseJunctions path = .ok tokens) :
    ∃ p : Parts, p.text = input ∧ p.suri = { phrase, junctions := tokens, password } := by
  obtain ⟨segments, rfl, rfl⟩ := exists_segments path parsed
  unfold cutInput at cut
  cases found : cutAt passwordSeparator input with
  | none =>
    rw [found] at cut
    obtain ⟨rfl, same⟩ := Prod.mk.inj cut
    obtain ⟨path, rfl⟩ := Prod.mk.inj same
    refine ⟨⟨_, Text.absent_takeWhile input, segments, none⟩, ?_, rfl⟩
    unfold Parts.text Parts.path
    rw [← path, List.append_nil]
    exact List.takeWhile_append_dropWhile
  | some parts =>
    obtain ⟨head, tail⟩ := parts
    rw [found] at cut
    obtain ⟨rfl, same⟩ := Prod.mk.inj cut
    obtain ⟨path, rfl⟩ := Prod.mk.inj same
    refine ⟨⟨_, Text.absent_takeWhile head, segments, some tail⟩, ?_, rfl⟩
    unfold Parts.text Parts.path
    rw [← path, cutAt_eq_some found]
    exact congrArg (· ++ _) List.takeWhile_append_dropWhile

/-- The parts of a text are unique. -/
theorem Parts.cut_eq {p p' : Parts} (same : p.text = p'.text) :
    p.phrase = p'.phrase ∧ p.path = p'.path ∧ p.password = p'.password := by
  have cut : (p.phrase, p.path, p.password) = (p'.phrase, p'.path, p'.password) := by
    rw [← cutInput_text p, ← cutInput_text p', same]
  obtain ⟨phrase, rest⟩ := Prod.mk.inj cut
  exact ⟨phrase, Prod.mk.inj rest⟩

/-- `split` succeeds on the texts with a valid phrase, with their parts. -/
theorem split_eq_ok_iff {u : Unicode} {input : List Char} {suri : Suri} :
    split u input = .ok suri ↔
      ∃ p : Parts, p.text = input ∧ isValidPhrase u p.phrase = true ∧ suri = p.suri := by
  constructor
  · intro parsed
    unfold split at parsed
    cases cut : cutInput input with
    | mk phrase rest =>
      obtain ⟨path, password⟩ := rest
      rw [cut] at parsed
      dsimp only at parsed
      split at parsed
      · cases parsed
      · rename_i valid
        cases tokens : parseJunctions path with
        | error e =>
          rw [tokens] at parsed
          cases parsed
        | ok junctions =>
          rw [tokens] at parsed
          obtain ⟨p, text, parts⟩ := exists_parts cut tokens
          refine ⟨p, text, ?_, (Except.ok.inj parsed).symm.trans parts.symm⟩
          rw [show p.phrase = phrase from congrArg Suri.phrase parts]
          simpa using valid
  · rintro ⟨p, rfl, valid, rfl⟩
    unfold split
    rw [cutInput_text]
    dsimp only
    rw [if_neg (by simp [valid]), Parts.path, parseJunctions_path]
    rfl

end Rust

end MatterSdk
