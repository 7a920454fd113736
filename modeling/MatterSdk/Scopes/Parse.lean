import MatterSdk.Lib.Casing
import MatterSdk.Lib.Text
import MatterSdk.Scopes.Sets

/-!
# Reading scope sets

How the four clients read a text such as `deployments:rw, secrets:r`.  They share the loop over the
entries, and each trims, splits and lower-cases with the functions of its language.
-/

namespace MatterSdk

/-- `ScopeParseError`, with the texts that a client's message quotes. -/
inductive ScopeParseError where
  | missingAccess (entry : List Char)
  | unknownScope (name : List Char)
  | invalidAccess (name access : List Char)
deriving DecidableEq, Repr

def emptyText : List Char := "(none)".toList

/-- The scope with this name. -/
def scopeNamed (name : List Char) : Option Scope := Scope.all.find? (·.name.toList = name)

/-- The letters `r` and `w`, each at most once and at least one. -/
def readAccess : List Char → Bool → Bool → Option (Bool × Bool)
  | [], read, write => if !read && !write then none else some (read, write)
  | c :: rest, read, write =>
    if c = 'r' && !read then readAccess rest true write
    else if c = 'w' && !write then readAccess rest read true
    else none

def grant (set : ScopeSet) (scope : Scope) (read write : Bool) : ScopeSet :=
  let set := if read then set.with_ scope .read else set
  if write then set.with_ scope .write else set

def notColon (c : Char) : Bool := c ≠ ':'

/-- What a client's parser takes from its language, and how it quotes a name and the letters. -/
structure ScopeParser where
  isMargin : Char → Bool
  isSeparator : Char → Bool
  isEmptyText : List Char → Bool
  scopeOf : List Char → Option Scope
  lowerAccess : List Char → List Char
  quotedName : List Char → List Char
  quotedAccess : List Char → List Char

namespace ScopeParser

variable (p : ScopeParser)

def parseEntry (entry : List Char) : Except ScopeParseError (Scope × Bool × Bool) :=
  let name := entry.takeWhile notColon
  match entry.dropWhile notColon with
  | [] => .error (.missingAccess entry)
  | _ :: access =>
    match p.scopeOf name with
    | none => .error (.unknownScope (p.quotedName name))
    | some scope =>
      match readAccess (p.lowerAccess access) false false with
      | none => .error (.invalidAccess (p.quotedName name) (p.quotedAccess access))
      | some (read, write) => .ok (scope, read, write)

def parseEntries : List (List Char) → ScopeSet → Except ScopeParseError ScopeSet
  | [], set => .ok set
  | entry :: rest, set =>
    match p.parseEntry entry with
    | .error e => .error e
    | .ok (scope, read, write) => parseEntries rest (grant set scope read write)

def parse (text : List Char) : Except ScopeParseError ScopeSet :=
  let trimmed := Text.trim p.isMargin text
  if trimmed.isEmpty || p.isEmptyText trimmed then .ok .empty
  else p.parseEntries (Text.fields p.isSeparator trimmed) .empty

end ScopeParser

namespace Rust

def eqIgnoreAsciiCase (a b : List Char) : Bool := a.map Char.toLower = b.map Char.toLower

def scopeParser : ScopeParser where
  isMargin := Text.isWhiteSpace
  isSeparator c := c = ',' || Text.isWhiteSpace c
  isEmptyText trimmed := eqIgnoreAsciiCase trimmed emptyText
  scopeOf name := Scope.all.find? fun scope => eqIgnoreAsciiCase scope.name.toList name
  lowerAccess access := access.map Char.toLower
  quotedName name := name
  quotedAccess access := access

/-- `ScopeSet::from_str`. -/
def fromStr (text : List Char) : Except ScopeParseError ScopeSet := scopeParser.parse text

end Rust

namespace Go

/-- A character up to simple folding, as far as ASCII goes. -/
def foldRune (c : Char) : Char :=
  if c = Casing.kelvinSign then 'k' else if c.toNat = 0x17F then 's' else c.toLower

/-- `strings.EqualFold`, where one of the texts is of ASCII. -/
def equalFoldText (a b : List Char) : Bool := a.map foldRune = b.map foldRune

section

-- `strings.ToLower`, which maps a dotted capital I to a plain i.
variable (toLower : Casing.Lowering ['k'] ['i'])

def scopeParser : ScopeParser where
  isMargin := Text.isWhiteSpace
  isSeparator c := c = ',' || c = ' ' || c = '\t' || c = '\n' || c = '\r'
  isEmptyText trimmed := equalFoldText trimmed emptyText
  scopeOf name := scopeNamed (toLower.lower name)
  lowerAccess := toLower.lower
  quotedName := toLower.lower
  quotedAccess access := access

/-- `ParseScopeSet`. -/
def parseScopeSet (text : List Char) : Except ScopeParseError ScopeSet :=
  (scopeParser toLower).parse text

end

end Go

/-- What full lower-casing makes of a dotted capital I: an i and a combining dot. -/
def dottedPair : List Char := ['i', Char.ofNat 0x307]

theorem definite_dottedPair : Casing.Definite 'i' dottedPair := .inr fun plain =>
  absurd (plain (Char.ofNat 0x307) (by decide)) (by decide)

namespace TypeScript

variable (toLowerCase : Casing.Lowering ['k'] dottedPair)

def scopeParser : ScopeParser where
  isMargin := Text.isEcmaSpace
  isSeparator c := c = ',' || Text.isEcmaSpace c
  isEmptyText trimmed := toLowerCase.lower trimmed = emptyText
  scopeOf name := scopeNamed (toLowerCase.lower name)
  lowerAccess := toLowerCase.lower
  quotedName := toLowerCase.lower
  quotedAccess := toLowerCase.lower

/-- `ScopeSet.parse`. -/
def parseScopeSet (text : List Char) : Except ScopeParseError ScopeSet :=
  (scopeParser toLowerCase).parse text

end TypeScript

namespace Python

variable (lower : Casing.Lowering ['k'] dottedPair)

def scopeParser : ScopeParser where
  isMargin := Text.isPythonSpace
  isSeparator c := c = ',' || Text.isPythonSpace c
  isEmptyText trimmed := lower.lower trimmed = emptyText
  scopeOf name := scopeNamed (lower.lower name)
  lowerAccess := lower.lower
  quotedName := lower.lower
  quotedAccess access := access

/-- `ScopeSet.parse`. -/
def parseScopeSet (text : List Char) : Except ScopeParseError ScopeSet :=
  (scopeParser lower).parse text

end Python

end MatterSdk
