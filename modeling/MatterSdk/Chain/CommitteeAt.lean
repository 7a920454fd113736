import Mathlib.Data.List.Nodup
import MatterSdk.Chain.Bytes
import MatterSdk.Chain.Errors
import MatterSdk.Lib.Text

/-!
# The committee of an epoch

How the Rust, Go and Python clients join the committee that the chain answers for an epoch with the
endpoints of its registry and with the members' share commitments.
-/

namespace MatterSdk

/-- The chain's answers for an epoch: the DKG output as joint key and `shared_a`, the threshold, the
members with their DKG indices, the registered endpoints, and the share commitments. -/
structure ChainAnswers where
  dkgOutput : Option (Bytes × Bytes)
  threshold : BitVec 64
  committee : List (AccountId × ℕ)
  registry : List (AccountId × Bytes)
  shareCommitment : AccountId → Option Bytes

/-- A member that can be asked; the endpoint is given by its bytes. -/
structure Seat where
  index : ℕ
  endpoint : Bytes
  shareCommitment : Bytes
deriving DecidableEq, Repr

/-- What a client returns. -/
structure Committee where
  threshold : ℤ
  sharedA : Bytes
  nodes : List Seat
deriving DecidableEq, Repr

/-- The join of the members with their endpoints and commitments, in the order of the members. -/
def seatAll {ε : Type} (endpoint : AccountId → Option Bytes)
    (commitment : AccountId → ℕ → Except ε Bytes) : List (AccountId × ℕ) → Except ε (List Seat)
  | [] => .ok []
  | (id, index) :: rest =>
    match endpoint id with
    | none => seatAll endpoint commitment rest
    | some endpoint_ =>
      match commitment id index with
      | .error e => .error e
      | .ok shareCommitment =>
        (seatAll endpoint commitment rest).map (⟨index, endpoint_, shareCommitment⟩ :: ·)

/-- A stable sort by index. -/
def sortByIndex (nodes : List Seat) : List Seat := nodes.mergeSort fun a b => a.index ≤ b.index

/-- An absolute `http(s)` URL without the slashes at its end. -/
def absoluteUrl (s : List Char) : Option (List Char) :=
  if "https://".toList.isPrefixOf s || "http://".toList.isPrefixOf s then
    some (s.rdropWhile (· = '/'))
  else none

namespace Rust

def lookupIn (table : List (AccountId × Bytes)) (id : AccountId) : Option Bytes :=
  (table.find? (·.1 = id)).map (·.2)

def parseEndpoint (raw : Bytes) : Option Bytes :=
  match Utf8.decode raw with
  | none => none
  | some text => (absoluteUrl (Text.trim Text.isWhiteSpace text)).map utf8

def chainErr (target detail : String) : SdkError := .chain target detail

/-- The commitments that the chain has, by member. -/
def commitments (a : ChainAnswers) : List (AccountId × Bytes) :=
  a.committee.filterMap fun member => (a.shareCommitment member.1).map (member.1, ·)

/-- The commitment of a member that can be asked. -/
def commitmentIn (commitments : List (AccountId × Bytes)) (epoch : BitVec 32) (id : AccountId)
    (index : ℕ) : Except SdkError Bytes :=
  match lookupIn commitments id with
  | none => .error (chainErr "KgcApi_share_commitment"
      ("share commitment missing for reachable node " ++ toString index ++ " at epoch " ++
        toString epoch.toNat))
  | some shareCommitment => .ok shareCommitment

def assembleNodes (committee : List (AccountId × ℕ)) (endpoints commitments : List (AccountId × Bytes))
    (epoch : BitVec 32) : Except SdkError (List Seat) :=
  (seatAll (fun id => (lookupIn endpoints id).bind parseEndpoint) (commitmentIn commitments epoch)
    committee).map sortByIndex

/-- `committee_info`, up to the finalized head. -/
def committeeInfo (a : ChainAnswers) (epoch : BitVec 32) : Except SdkError Committee :=
  match a.dkgOutput with
  | none => .error (chainErr "KgcApi_dkg_output_at_epoch"
      ("no DKG output at epoch " ++ toString epoch.toNat))
  | some (_, sharedA) =>
    if a.committee = [] then
      .error (chainErr "KgcApi_committee_at_epoch"
        ("no committee seated at epoch " ++ toString epoch.toNat))
    else
      match assembleNodes a.committee a.registry (commitments a) epoch with
      | .error e => .error e
      | .ok nodes =>
        if nodes.length < a.threshold.toNat then
          .error (chainErr "KgcApi_kgc_nodes"
            ("only " ++ toString nodes.length ++ " of epoch " ++ toString epoch.toNat ++
              "'s committee is reachable; need " ++ toString a.threshold.toNat))
        else .ok ⟨a.threshold.toNat, sharedA, nodes⟩

end Rust

namespace Go

def absoluteHTTPEndpoint (raw : Bytes) : Option Bytes :=
  let s := Utf8.trimSpace raw
  if (utf8 "https://".toList).isPrefixOf s || (utf8 "http://".toList).isPrefixOf s then
    some (s.rdropWhile (· = '/'.toNat.toUInt8))
  else none

/-- A map filled row by row keeps the last row of an account; a missing one reads as no text. -/
def endpointIn (registry : List (AccountId × Bytes)) (id : AccountId) : Bytes :=
  match registry.reverse.find? (·.1 = id) with
  | some (_, raw) => raw
  | none => []

/-- A sort by index that may change the order of members with the same index. -/
structure IndexSort where
  sort : List Seat → List Seat
  perm : ∀ nodes, (sort nodes).Perm nodes
  sorted : ∀ nodes, (sort nodes).Pairwise fun a b => a.index ≤ b.index

section

-- Whether the SCALE decoder makes an empty, not a nil, slice of no bytes.
variable (keepsEmpty : Bool) (indexSort : IndexSort)

/-- `decodeOptionBytes`, where nil is none. -/
def decodeOptionBytes (answer : Option Bytes) : Option Bytes :=
  match answer with
  | none => none
  | some [] => if keepsEmpty then some [] else none
  | some b => some b

/-- The commitment of a member that can be asked. -/
def commitmentOf (a : ChainAnswers) (epoch : BitVec 32) (id : AccountId) (index : ℕ) :
    Except Error Bytes :=
  match decodeOptionBytes keepsEmpty (a.shareCommitment id) with
  | none => .error (.plain ("share commitment missing for reachable node " ++ toString index ++
      " at epoch " ++ toString epoch.toNat))
  | some commitment => .ok commitment

def assembleCommittee (a : ChainAnswers) (epoch : BitVec 32) : Except Error (List Seat) :=
  if a.committee = [] then
    .error (.plain ("no committee seated at epoch " ++ toString epoch.toNat))
  else
    match seatAll (fun id => absoluteHTTPEndpoint (endpointIn a.registry id))
      (commitmentOf keepsEmpty a epoch) a.committee with
    | .error e => .error e
    | .ok nodes =>
      if (nodes.length : ℤ) < a.threshold.toInt then
        .error (.plain ("only " ++ toString nodes.length ++ " of epoch " ++ toString epoch.toNat ++
          "'s committee is reachable; need " ++ toString a.threshold.toInt))
      else .ok (indexSort.sort nodes)

/-- `CommitteeAt`, up to the finalized head. -/
def committeeAt (a : ChainAnswers) (epoch : BitVec 32) : Except Error Committee :=
  match a.dkgOutput with
  | none => .error (.plain ("no DKG output at epoch " ++ toString epoch.toNat))
  | some (_, sharedA) =>
    match assembleCommittee keepsEmpty indexSort a epoch with
    | .error e => .error e
    | .ok nodes => .ok ⟨a.threshold.toInt, sharedA, nodes⟩

end

end Go

namespace Python

/-- `_absolute_http_endpoint`, of the text that scalecodec makes of the bytes. -/
def absoluteHttpEndpoint (raw : Bytes) : Except ReadError (Option Bytes) :=
  match bytesField (renderedBytes raw) with
  | none => .error .valueError
  | some bytes =>
    match Utf8.decode bytes with
    | none => .ok none
    | some text => .ok ((absoluteUrl (Text.trim Text.isPythonSpace text)).map utf8)

/-- The dict of endpoints, which keeps the last row of an account. -/
def endpoints (registry : List (AccountId × Bytes)) :
    Except ReadError (List (AccountId × Option Bytes)) :=
  registry.mapM fun row => (absoluteHttpEndpoint row.2).map (row.1, ·)

def endpointIn (endpoints : List (AccountId × Option Bytes)) (id : AccountId) : Option Bytes :=
  match endpoints.reverse.find? (·.1 = id) with
  | some (_, endpoint) => endpoint
  | none => none

/-- `committee_at`, up to the finalized head. -/
def committeeAt (a : ChainAnswers) (epoch : BitVec 32) : Except ReadError Committee :=
  match dkgSharedA epoch a.dkgOutput with
  | .error e => .error e
  | .ok sharedA =>
    if a.committee = [] then
      .error (committeeError "KgcApi_committee_at_epoch"
        ("no committee seated at epoch " ++ toString epoch.toNat))
    else
      match endpoints a.registry with
      | .error e => .error e
      | .ok endpoints =>
        match seatAll (endpointIn endpoints)
          (fun id index => memberCommitment epoch index (a.shareCommitment id)) a.committee with
        | .error e => .error e
        | .ok nodes =>
          let nodes := sortByIndex nodes
          if nodes.length < a.threshold.toNat then
            .error (committeeError "KgcApi_kgc_nodes"
              ("only " ++ toString nodes.length ++ " of epoch " ++ toString epoch.toNat ++
                "'s committee is reachable; need " ++ toString a.threshold.toNat))
          else .ok ⟨a.threshold.toNat, sharedA, nodes⟩

end Python

end MatterSdk
