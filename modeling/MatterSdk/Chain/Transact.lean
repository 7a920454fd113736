import MatterSdk.Scopes.Table
import MatterSdk.Chain.Delegated
import MatterSdk.Chain.Refresh

/-!
# Submitting a call

`MatterClient::tx` of the Rust client: what is signed in each mode, and how a failure is explained.
The node and the signer answer as they like.
-/

namespace MatterSdk.Rust

/-! ## Payloads -/

/-- `subxt::tx::DynamicPayload`. -/
structure DynamicPayload where
  palletName : String
  callName : String
  callData : Composite

/-- `subxt::dynamic::tx`. -/
def dynamicTx (pallet call : String) (args : List Value) : DynamicPayload :=
  ⟨pallet, call, .unnamed args⟩

def DynamicPayload.intoValue (p : DynamicPayload) : Value :=
  .variant p.palletName (.unnamed [.variant p.callName p.callData])

def Value.fromBytes (bytes : Bytes) : Value :=
  .composite (.unnamed (bytes.map fun b => .primitive (.u128 (b.toNat : BitVec 128))))

/-- `Proxy.proxy(MultiAddress::Id(principal), None, call)`. -/
def proxyPayload (principal : AccountId) (pallet call : String) (args : List Value) :
    DynamicPayload :=
  dynamicTx "Proxy" "proxy"
    [.variant "Id" (.unnamed [Value.fromBytes principal]), .variant "None" (.unnamed []),
      (dynamicTx pallet call args).intoValue]

/-- The call to sign: as it is in direct mode, else wrapped after the local scope check. -/
def buildPayload (mode : Mode) (pallet call : String) (args : List Value) :
    Except SdkError DynamicPayload :=
  match mode with
  | .direct => .ok (dynamicTx pallet call args)
  | .delegated principal scopes =>
    if pallet ∈ ["Proxy", "Utility", "EthSigning"] then .error (.neverAdmitted pallet call)
    else
      match requiredScopes pallet call args with
      | none => .error (.neverAdmitted pallet call)
      | some required =>
        if !scopes.isSuperset required then .error (.notPermitted pallet call required scopes)
        else .ok (proxyPayload principal pallet call args)

/-! ## Failures -/

/-- `subxt::Error`: the refusal of an RPC, a dispatch error that its module explains, or another. -/
inductive SubxtError where
  | rpc (code : ℤ) (text : String)
  | module (pallet variant text : String)
  | other (text : String)
deriving DecidableEq, Repr

/-- The error as it is displayed. -/
def SubxtError.text : SubxtError → String
  | .rpc _ text => text
  | .module _ _ text => text
  | .other text => text

def chainError (pallet item detail : String) : SdkError := .chain (pallet ++ "." ++ item) detail

def isPoolRejection (e : SubxtError) : Bool :=
  contains e.text "1010" || contains e.text "Inability to pay" ||
    contains e.text "InvalidTransaction"

/-- Explain a refused submission; `refreshed` is the answer of `refresh_delegation`. -/
def submissionError (mode : Mode) (refreshed : Except SdkError Refresh) (pallet call : String)
    (required : Option ScopeSet) (e : SubxtError) : SdkError :=
  match mode with
  | .direct => chainError pallet call e.text
  | .delegated principal _ =>
    if !isPoolRejection e then chainError pallet call e.text
    else
      match refreshed with
      | .ok .gone => .keyRevoked
      | .ok (.rescoped held) =>
        match required with
        | some required =>
          if !held.isSuperset required then .notPermitted pallet call required held
          else .unsponsored principal pallet call
        | none => .unsponsored principal pallet call
      | .ok .unchanged => .unsponsored principal pallet call
      | .error _ => chainError pallet call e.text

def isNotProxy : SubxtError → Bool
  | .module pallet variant _ => pallet = "Proxy" && variant = "NotProxy"
  | _ => false

/-- Explain a failure of the outer `proxy.proxy`. -/
def outerDispatchError (refreshed : Except SdkError Refresh) (pallet call : String)
    (e : SubxtError) : SdkError :=
  if !isNotProxy e then chainError pallet call e.text
  else
    match refreshed with
    | .ok .gone => .keyRevoked
    | .ok _ => chainError pallet call e.text
    | .error e => e

/-! ## The call as a whole -/

/-- What becomes of a signed extrinsic. -/
inductive Landing where
  | refused (e : SubxtError)
  | lost (text : String)
  | timedOut
  | inBlock (txHash blockHash : Bytes) (success : Except SubxtError ExtrinsicEvents)

/-- The node's answers during one call. -/
structure Node where
  createPartial : DynamicPayload → Except String Bytes
  landing : Bytes → Bytes → Landing
  decodeFrom : Bytes → Except String String
  /-- The answer to a lookup of the grant. -/
  lookup : Except String (Option Grant)

structure Signer where
  accountId : AccountId
  sign : Bytes → Except String Bytes

/-- A connected client.  One without a signer acts for nobody. -/
structure Client where
  signer : Option Signer
  mode : Mode
  readOnly : signer = none → mode = .direct

/-- The end of `build`. -/
def Client.connect (signer : Option Signer)
    (overridePrincipal : Except SdkError (Option AccountId))
    (lookup : Except SdkError (Option Grant)) : Except SdkError Client :=
  match signer with
  | none => .ok ⟨none, .direct, fun _ => rfl⟩
  | some signer =>
    match Mode.resolve overridePrincipal lookup with
    | .error e => .error e
    | .ok mode => .ok ⟨some signer, mode, fun absent => nomatch absent⟩

/-- One call of `tx`: the payload that was given to the signer, whether it was submitted, the cached
mode afterwards, and the result. -/
structure Submission where
  signed : Option DynamicPayload
  submitted : Bool
  mode : Mode
  result : Except SdkError TxReceipt

/-- `refresh_delegation` when nothing else happens meanwhile: its answer and the mode it leaves. -/
def refreshDelegation (node : Node) (mode : Mode) : Except SdkError Refresh × Mode :=
  match node.lookup with
  | .error detail => (.error (.chain "BudgetsApi_agent_key" detail), mode)
  | .ok fresh => (.ok (afterRefresh mode fresh), (rescopedMode mode fresh).getD mode)

/-- The rest of `tx` for a signed extrinsic: the mode it leaves, and the result. -/
def conclude (node : Node) (mode : Mode) (pallet call : String) (required : Option ScopeSet) :
    Landing → Mode × Except SdkError TxReceipt
  | .refused e =>
    let refreshed := refreshDelegation node mode
    (if mode.isDelegated && isPoolRejection e then refreshed.2 else mode,
      .error (submissionError mode refreshed.1 pallet call required e))
  | .lost text => (mode, .error (chainError pallet call text))
  | .timedOut => (mode, .error (.finalityTimeout pallet call))
  | .inBlock txHash blockHash (.ok events) =>
    (mode, concludeTx node.decodeFrom mode.isDelegated pallet call txHash blockHash (.ok events))
  | .inBlock _ _ (.error e) =>
    let refreshed := refreshDelegation node mode
    (if isNotProxy e then refreshed.2 else mode,
      .error (outerDispatchError refreshed.1 pallet call e))

/-- `tx`, in mode `mode`. -/
def tx (node : Node) (signer : Option Signer) (mode : Mode) (pallet call : String)
    (args : List Value) : Submission :=
  match signer with
  | none => ⟨none, false, mode, .error .readOnly⟩
  | some signer =>
    match buildPayload mode pallet call args with
    | .error e => ⟨none, false, mode, .error e⟩
    | .ok payload =>
      match node.createPartial payload with
      | .error text => ⟨none, false, mode, .error (chainError pallet call text)⟩
      | .ok signerPayload =>
        match signer.sign signerPayload with
        | .error detail => ⟨some payload, false, mode, .error (.key detail)⟩
        | .ok signature =>
          let rest := conclude node mode pallet call (requiredScopes pallet call args)
            (node.landing signerPayload signature)
          ⟨some payload, true, rest.1, rest.2⟩

/-- A call that is made, and what the node answers to it. -/
structure Request where
  pallet : String
  call : String
  args : List Value
  node : Node

/-- Calls one after the other, from mode `mode` on. -/
def serve (signer : Option Signer) (mode : Mode) : List Request → List Submission
  | [] => []
  | r :: rest =>
    let out := tx r.node signer mode r.pallet r.call r.args
    out :: serve signer out.mode rest

end MatterSdk.Rust
