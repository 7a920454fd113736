import MatterSdk.Errors

/-!
# Errors of the chain clients

The error values of the Go chain client, with what `errors.As` can find in them, and the search for
a marker in the text of an error.
-/

namespace MatterSdk

/-- `contains`, of every language: the marker stands somewhere in the text. -/
def contains (text marker : String) : Bool := text.toList.tails.any (marker.toList.isPrefixOf ·)

namespace Go

/-- `ChainErrorKind`. -/
inductive ChainErrorKind where
  | readOnly
  | config
  | wrongNetwork
  | mainnetNotConfirmed
  | chain
  | notPermitted
  | neverAdmitted
  | dispatch
  | keyRevoked
  | unsponsored
  | finalityTimeout
deriving DecidableEq, Repr

/-- An `error`: one that carries a JSON-RPC code, a plain text, one that wraps a cause with `%w`, or a
`ChainError` with or without a cause. -/
inductive Error where
  | rpc (code : ℤ) (message : String)
  | plain (message : String)
  | wrapped (message : String) (cause : Error)
  | chain (kind : ChainErrorKind) (target msg : String)
  | caused (kind : ChainErrorKind) (target msg : String) (cause : Error)
deriving DecidableEq, Repr

/-- `chainErrorf`. -/
def chainErrorf (kind : ChainErrorKind) (target msg : String) : Error := .chain kind target msg

/-- `wrapChainError`. -/
def wrapChainError (kind : ChainErrorKind) (target : String) (cause : Error) (msg : String) : Error :=
  .caused kind target msg cause

/-- `err.Error()`. -/
def Error.text : Error → String
  | .rpc _ message => message
  | .plain message => message
  | .wrapped message _ => message
  | .chain _ _ msg => msg
  | .caused _ _ msg _ => msg

/-- `fmt.Errorf("what: %w", err)`. -/
def wrapf (what : String) (err : Error) : Error := .wrapped (what ++ ": " ++ err.text) err

/-- `refreshOutcome`: what a re-read of the grant says about the one held. -/
inductive RefreshOutcome where
  | unchanged
  | rescoped
  | gone
deriving DecidableEq, Repr

/-- The code of the first error in the chain of causes that has one. -/
def Error.errorCode : Error → Option ℤ
  | .rpc code _ => some code
  | .plain _ => none
  | .wrapped _ cause => cause.errorCode
  | .chain _ _ _ => none
  | .caused _ _ _ cause => cause.errorCode

end Go

end MatterSdk
