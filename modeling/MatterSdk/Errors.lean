import MatterSdk.Wire

/-!
# Errors and node faults

The error types of the Rust core and SDK, and the faults by which every client names the nodes it
dropped.  A client renders a fault's detail when it records it; here the detail keeps its parts, and
`FaultDetail.render` is the text, whose only difference between the clients is how a status is
quoted.
-/

namespace MatterSdk

/-- Where in the decrypt round trip a node stopped being usable. -/
inductive FaultStage where
  | health
  | inactive
  | partialDecrypt
  | epochMismatch
  | protocolVersion
deriving DecidableEq, Repr

def FaultStage.asStr : FaultStage → String
  | .health => "health"
  | .inactive => "inactive"
  | .partialDecrypt => "partial-decrypt"
  | .epochMismatch => "epoch-mismatch"
  | .protocolVersion => "protocol-version"

/-- A reported status: a string, or another value as the client prints it. -/
inductive Status where
  | text (s : String)
  | printed (s : String)
deriving DecidableEq, Repr

/-- The reason of a fault, with its numbers as the client prints them. -/
inductive FaultDetail where
  | exchange (reason : String)
  | protocolVersion (reported ours : String)
  | inactive (status : Status) (epoch version : String)
  | epochMismatch (served provided : String)
deriving DecidableEq, Repr

/-- The text of a detail, `quote` being the language's way to print a string in quotes. -/
def FaultDetail.render (quote : String → String) : FaultDetail → String
  | .exchange reason => reason
  | .protocolVersion reported ours =>
    "speaks crypto protocol v" ++ reported ++ ", this SDK speaks v" ++ ours
  | .inactive status epoch version =>
    "status " ++ (match status with | .text s => quote s | .printed s => s) ++ ", epoch " ++ epoch ++
      ", crypto protocol v" ++ version
  | .epochMismatch served provided =>
    "served epoch " ++ served ++ ", state supplied for " ++ provided

/-- Why one committee node did not contribute to a quorum. -/
structure NodeFault where
  index : ℕ
  endpoint : String
  stage : FaultStage
  detail : FaultDetail
deriving DecidableEq, Repr

/-- `CoreError`, with the fields and texts of its variants. -/
inductive CoreError where
  | invalidLength (field : String) (expected actual : ℕ)
  | tooLarge (field : String) (max actual : ℕ)
  | empty (field : String)
  | hex (field : String) (source : FromHexError)
  | decode (field : String) (detail : String)
  | invalidSubset (detail : String)
  | aggregate (detail : String)
  | aead
deriving DecidableEq, Repr

/-- `DecryptError` of the Go, Python and TypeScript clients: its kind, with the data that its message
prints, `κ` being the epochs. -/
inductive DecryptError (κ : Type) where
  | quorum (needed found : ℕ) (faults : List NodeFault)
  | epoch (served : κ) (provided : ℕ)
  | transport (message : String)
  | crypto (source : CoreError)

/-- A set of grants, as its `u32` of wire bits. -/
structure ScopeSet where
  bits : BitVec 32
deriving DecidableEq, Repr

/-- A 32-byte account. -/
abbrev AccountId := Bytes

/-- The variants of `SdkError` that the modelled functions build. -/
inductive SdkError where
  | core (e : CoreError)
  | quorumUnavailable (needed active : ℕ) (faults : List NodeFault)
  | epochRotated (served provided : ℕ)
  | signer (detail : String)
  | key (detail : String)
  | readOnly
  | aadMismatch (secretId : BitVec 128) (sealedUnder requested : Bytes)
  | chain (target detail : String)
  | notPermitted (pallet call : String) (required held : ScopeSet)
  | neverAdmitted (pallet call : String)
  | finalityTimeout (pallet call : String)
  | dispatch (pallet call detail : String)
  | keyRevoked
  | unsponsored (principal : AccountId) (pallet call : String)
  | badAmount (detail : String)
deriving DecidableEq, Repr

/-- A member of the committee, with the chain data a decryptor needs. -/
structure CommitteeNode where
  index : ℕ
  endpoint : String
  shareCommitment : Bytes
deriving DecidableEq, Repr

/-- A fault of `node`. -/
def CommitteeNode.fault (node : CommitteeNode) (stage : FaultStage) (detail : FaultDetail) :
    NodeFault :=
  { index := node.index, endpoint := node.endpoint, stage, detail }

end MatterSdk
