import MatterSdk.Lib.Json
import MatterSdk.Chain.Transact
import MatterSdk.Amounts.Parse

/-!
# The chain's properties

What a connected Rust client reads of its chain, and its amounts at the decimals that come of it.
-/

namespace MatterSdk.Rust

/-- A JSON number as it is written: an integer, or one with a fraction, an exponent or a minus zero. -/
inductive JsonNumber where
  | integer (n : ℤ)
  | fraction (q : ℚ)

/-- `Value::as_u64`. -/
def asU64 : Json JsonNumber → Option (BitVec 64)
  | .num (.integer n) => if 0 ≤ n ∧ n < 2 ^ 64 then some (BitVec.ofInt 64 n) else none
  | _ => none

def asStr : Json JsonNumber → Option String
  | .str s => some s
  | _ => none

structure ChainProperties where
  genesisHash : Bytes
  chainName : String
  specVersion : UInt32
  tokenSymbol : String
  ss58Prefix : UInt16
  tokenDecimalsDeclared : UInt8
  tokenDecimalsEffective : UInt8
  existentialDeposit : BitVec 128

/-- What the node and the metadata say.  The existential deposit is nothing where the constant is no
unsigned integer. -/
structure ChainReports where
  genesisHash : Bytes
  specVersion : UInt32
  systemChain : Except String String
  systemProperties : Except String (List (String × Json JsonNumber))
  existentialDeposit : Except String (Option (BitVec 128))

/-- The loop of `decimals_from_existential_deposit`. -/
def divideTens (value exponent : ℕ) : ℕ × ℕ :=
  if 1 < value ∧ value % 10 = 0 then divideTens (value / 10) (exponent + 1) else (value, exponent)
termination_by value
decreasing_by omega

def decimalsFromExistentialDeposit (ed : BitVec 128) : Option UInt8 :=
  let (value, exponent) := divideTens ed.toNat 0
  if value = 1 then some (UInt8.ofNat (exponent + 3)) else none

def rpcError (target detail : String) : SdkError := .chain target detail

def readExistentialDeposit (reports : ChainReports) : Except SdkError (BitVec 128) :=
  match reports.existentialDeposit with
  | .error e => .error (chainError "Balances" "ExistentialDeposit" e)
  | .ok none =>
    .error (.chain "Balances.ExistentialDeposit" "constant is not an unsigned integer")
  | .ok (some ed) => .ok ed

/-- `tokenDecimals` as the client keeps it. -/
def declaredDecimals (props : List (String × Json JsonNumber)) : UInt8 :=
  UInt8.ofNat (((props.lookup "tokenDecimals").bind asU64).getD 0).toNat

def readProperties (reports : ChainReports) : Except SdkError ChainProperties :=
  match reports.systemChain with
  | .error e => .error (rpcError "system_chain" e)
  | .ok chainName =>
    match reports.systemProperties with
    | .error e => .error (rpcError "system_properties" e)
    | .ok props =>
      match readExistentialDeposit reports with
      | .error e => .error e
      | .ok ed =>
        .ok {
          genesisHash := reports.genesisHash
          chainName := chainName
          specVersion := reports.specVersion
          tokenSymbol := ((props.lookup "tokenSymbol").bind asStr).getD ""
          ss58Prefix := UInt16.ofNat (((props.lookup "ss58Format").bind asU64).getD 42).toNat
          tokenDecimalsDeclared := declaredDecimals props
          tokenDecimalsEffective :=
            (decimalsFromExistentialDeposit ed).getD (declaredDecimals props)
          existentialDeposit := ed }

namespace ChainProperties

variable (p : ChainProperties)

/-- The client's `parse_amount`. -/
def parseAmount (text : List Char) : Except SdkError (BitVec 128) :=
  Rust.parseAmount text p.tokenDecimalsEffective

def formatAmount (plancks : BitVec 128) : List Char :=
  Rust.formatAmount plancks p.tokenDecimalsEffective

def oneToken : Option (BitVec 128) := Rust.oneToken p.tokenDecimalsEffective

end ChainProperties

end MatterSdk.Rust
