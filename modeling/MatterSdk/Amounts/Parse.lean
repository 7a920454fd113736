import MatterSdk.Errors
import MatterSdk.Lib.Text

/-!
# Token amounts

How the four clients read a decimal token amount as plancks, and how Rust renders one.  The clients
share the grammar (digits, maybe a point and more digits, maybe a `+` before), and each trims and
converts with the functions of its language.
-/

namespace MatterSdk

/-- Text before and after the first point, and whether there is one. -/
def cut (body : List Char) : List Char × List Char × Bool :=
  match body.dropWhile (· != '.') with
  | [] => (body, [], false)
  | _ :: fraction => (body.takeWhile (· != '.'), fraction, true)

/-- The text without one `+` at its start. -/
def stripPlus : List Char → List Char
  | '+' :: body => body
  | text => text

/-- `fraction`, filled up with zeros to `decimals` digits. -/
def padded (fraction : List Char) (decimals : ℕ) : List Char :=
  fraction ++ List.replicate (decimals - fraction.length) '0'

namespace Rust

def badAmount (detail : String) : SdkError := .badAmount detail

/-- `str::parse::<u128>`, of digits. -/
def parseU128 (digits : List Char) : Except String (BitVec 128) :=
  if digits = [] then .error "cannot parse integer from empty string"
  else if Nat.ofDigitChars 10 digits 0 < 2 ^ 128 then
    .ok (BitVec.ofNat 128 (Nat.ofDigitChars 10 digits 0))
  else .error "number too large to fit in target type"

def parseAmount (text : List Char) (decimals : UInt8) : Except SdkError (BitVec 128) :=
  if 38 < decimals.toNat then
    .error (badAmount "chain reports more decimals than a u128 can hold")
  else
    let body := stripPlus (Text.trim Text.isWhiteSpace text)
    if body.isEmpty then .error (badAmount "amount is empty")
    else if body.head? = some '-' then .error (badAmount "amount must not be negative")
    else
      let (whole, fraction, hasPoint) := cut body
      if whole.isEmpty || hasPoint && fraction.isEmpty then
        .error (badAmount "amount needs digits on both sides of the decimal point")
      else if !whole.all Char.isDigit || !fraction.all Char.isDigit then
        .error (badAmount "amount must be decimal digits with at most one point")
      else if decimals.toNat < fraction.length then
        .error (badAmount "amount has more fractional digits than this chain's decimals")
      else
        let digits := whole ++ padded fraction decimals.toNat
        match parseU128 (digits.dropWhile (· = '0')) with
        | .ok plancks => .ok plancks
        | .error e =>
          if digits.all (· = '0') then .ok 0
          else .error (badAmount ("amount does not fit in u128 (" ++ e ++ ")"))

def formatAmount (plancks : BitVec 128) (decimals : UInt8) : List Char :=
  if decimals = 0 then Nat.toDigits 10 plancks.toNat
  else
    let width := decimals.toNat + 1
    let shown := Nat.toDigits 10 plancks.toNat
    let digits := List.replicate (width - shown.length) '0' ++ shown
    let split := digits.length - decimals.toNat
    let whole := digits.take split
    let fraction := (digits.drop split).rdropWhile (· = '0')
    if fraction.isEmpty then whole else whole ++ '.' :: fraction

/-- `one_token`; `none` is the overflow of the power. -/
def oneToken (decimals : UInt8) : Option (BitVec 128) :=
  if 10 ^ decimals.toNat < 2 ^ 128 then some (BitVec.ofNat 128 (10 ^ decimals.toNat)) else none

end Rust

namespace Go

def isDigits (s : List Char) : Bool := !s.isEmpty && s.all fun r => '0' ≤ r && r ≤ '9'

/-- `ParseAmount`. -/
def parseAmount (text : List Char) (decimals : UInt8) : Except String ℕ :=
  let body := stripPlus (Text.trim Text.isWhiteSpace text)
  if body.isEmpty then .error "invalid amount: amount is empty"
  else if body.head? = some '-' then .error "invalid amount: amount must not be negative"
  else
    let (whole, fraction, hasPoint) := cut body
    if !isDigits whole || hasPoint && !isDigits fraction then
      .error "invalid amount: must be decimal digits with at most one point"
    else if decimals.toNat < fraction.length then
      .error ("invalid amount: " ++ toString fraction.length ++
        " fractional digits exceeds this chain's " ++ toString decimals.toNat ++ " decimals")
    else .ok (Nat.ofDigitChars 10 (whole ++ padded fraction decimals.toNat) 0)

end Go

namespace TypeScript

/-- What `/^[0-9]+$/` matches. -/
def isDigits (s : List Char) : Bool := !s.isEmpty && s.all fun c => '0' ≤ c && c ≤ '9'

/-- `parseAmount`, with the detail of its `AmountError`. -/
def parseAmount (text : List Char) (decimals : ℕ) : Except String ℕ :=
  let body := stripPlus (Text.trim Text.isEcmaSpace text)
  if body.isEmpty then .error "amount is empty"
  else if body.head? = some '-' then .error "amount must not be negative"
  else
    let (whole, fraction, hasPoint) := cut body
    if !isDigits whole || hasPoint && !isDigits fraction then
      .error "amount must be decimal digits with at most one point"
    else if decimals < fraction.length then
      .error "amount has more fractional digits than this chain's decimals"
    else .ok (Nat.ofDigitChars 10 (whole ++ padded fraction decimals) 0)

end TypeScript

namespace Python

/-- What Python's Unicode tables say of digits: `str.isdigit`, and the ASCII digit that `int` reads
for a decimal one. -/
structure Digits where
  isDigit : Char → Bool
  toAscii : Char → Option Char
  ascii : ∀ c, c.toNat < 128 →
    isDigit c = c.isDigit ∧ toAscii c = if c.isDigit then some c else none
  decimal : ∀ c a, toAscii c = some a → isDigit c = true ∧ a.isDigit = true
  space : ∀ c, isDigit c = true → Text.isPythonSpace c = false ∧ c.toNat ≠ 0xFEFF

section

-- The interpreter's limit on the digits that `int` converts, if it has one.
variable (digits : Digits) (maxStrDigits : Option ℕ)

/-- `str.isdigit`, of a text. -/
def isdigit (s : List Char) : Bool := !s.isEmpty && s.all digits.isDigit

/-- `int`, of a text that is not empty and has no sign, blanks or underscores. -/
def int (s : List Char) : Except String ℕ :=
  match s.mapM digits.toAscii with
  | none => .error "invalid literal for int() with base 10"
  | some ascii =>
    if maxStrDigits.any (· < ascii.length) then
      .error "Exceeds the limit for integer string conversion"
    else .ok (Nat.ofDigitChars 10 ascii 0)

/-- `parse_amount`. -/
def parseAmount (text : List Char) (decimals : ℕ) : Except String ℕ :=
  let body := stripPlus (Text.trim Text.isPythonSpace text)
  if body.isEmpty then .error "amount is empty"
  else if body.head? = some '-' then .error "amount must not be negative"
  else
    let (whole, fraction, hasPoint) := cut body
    if !isdigit digits whole || hasPoint && !isdigit digits fraction then
      .error "amount must be decimal digits with at most one point"
    else if decimals < fraction.length then
      .error "amount has more fractional digits than this chain's decimals"
    else int digits maxStrDigits (whole ++ padded fraction decimals)

end

end Python

end MatterSdk
