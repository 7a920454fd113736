import MatterSdk.Committee.Rust
import MatterSdk.Lib.Json

/-!
# The Python client

`decrypt` of `matter_sdk.committee`.  It reads the answers of the nodes as the dictionaries that
`json.loads` makes of them, so an answer of another shape raises where it is used.
-/

namespace MatterSdk.Python

abbrev DecryptParams := Rust.DecryptRequest

/-- A number as `json.loads` returns it. -/
inductive PyNumber where
  | int (n : ℤ)
  | float (x : Number)

def PyNumber.value : PyNumber → Number
  | .int n => .finite n
  | .float x => x

abbrev Value := Json PyNumber

/-- An exception that leaves a transport. -/
inductive Failure where
  | decryptError (message : String)
  | raised (exception : String)

/-- An exception that leaves `decrypt`. -/
inductive Exception where
  | decrypt (e : DecryptError Value)
  | raised (exception : String)

/-! ## Values -/

/-- The value of a `bool` or a number. -/
def numeric : Value → Option Number
  | .bool b => some (.ofNat b.toNat)
  | .num n => some n.value
  | _ => none

/-- The truth value of an object. -/
def truthy : Value → Bool
  | .null => false
  | .bool b => b
  | .num n => !n.value.isZero
  | .str s => s ≠ ""
  | .arr items => !items.isEmpty
  | .obj fields => !fields.isEmpty

/-- `value == n`. -/
def equalsInt (value : Value) (n : ℕ) : Bool :=
  match numeric value with
  | some x => x.eq (.ofNat n)
  | none => false

/-- Whether two keys of a dictionary are the same.  Objects are compared by identity first, and
`json.loads` returns one object for every `NaN`. -/
def sameKey (a b : Value) : Bool :=
  match numeric a, numeric b with
  | some x, some y => x = y
  | _, _ =>
    match a, b with
    | .str s, .str t => s = t
    | _, _ => false

def hashable : Value → Bool
  | .arr _ => false
  | .obj _ => false
  | _ => true

/-- `value.get(key)` of a dictionary. -/
def get (value : Value) (key : String) : Value := (value.field key).getD .null

/-- `value or 0`. -/
def orZero (value : Value) : Value := if truthy value then value else .num (.int 0)

/-- What the interpreter prints of a float or a container. -/
def printed (other : Json.Printer PyNumber) (value : Value) : Except Exception String :=
  match other.print value with
  | some text => .ok text
  | none => .error (.raised "RecursionError")

/-- `str(value)`. -/
def str (other : Json.Printer PyNumber) : Value → Except Exception String
  | .null => .ok "None"
  | .bool true => .ok "True"
  | .bool false => .ok "False"
  | .num (.int n) => .ok (toString n)
  | .str s => .ok s
  | value => printed other value

/-- A status as `!r` prints it. -/
def status (other : Json.Printer PyNumber) : Value → Except Exception Status
  | .str s => .ok (.text s)
  | value => (str other value).map .printed

/-! ## The decrypt flow -/

section

variable (other : Json.Printer PyNumber) (ours epoch : ℕ)

def speaksOurProtocol (reported : Value) : Bool := !truthy reported || equalsInt reported ours

def readHealth : Except Failure Value → Except Exception (Option (FaultStage × FaultDetail))
  | .error (.decryptError message) => .ok (some (.health, .exchange message))
  | .error (.raised exception) => .error (.raised exception)
  | .ok (.obj fields) =>
    let health : Value := .obj fields
    let version := get health "crypto_protocol_version"
    if !speaksOurProtocol ours version then
      (str other version).map fun printed =>
        some (.protocolVersion, .protocolVersion printed (toString ours))
    else
      match get health "status" with
      | .str "active" => .ok none
      | reported =>
        match status other reported with
        | .error e => .error e
        | .ok status =>
          match str other ((health.field "epoch").getD (.num (.int 0))) with
          | .error e => .error e
          | .ok reportedEpoch =>
            (str other (orZero version)).map fun printed =>
              some (.inactive, .inactive status reportedEpoch printed)
  | .ok _ => .error (.raised "AttributeError")

/-- `from_hex(resp[key])`. -/
def hexField (resp : Value) (key : String) : Except Exception Bytes :=
  match resp.field key with
  | none => .error (.raised "KeyError")
  | some (.str s) =>
    match fromHex s with
    | some bytes => .ok bytes
    | none => .error (.raised "ValueError")
  | some _ => .error (.raised "AttributeError")

/-- A `served_epoch` that is truthy and not ours becomes a key of the votes. -/
def readAnswer : Except Failure Value → Except Exception (Reading Value)
  | .error (.decryptError message) => .ok (.failed (.exchange message))
  | .error (.raised exception) => .error (.raised exception)
  | .ok (.obj fields) =>
    let resp : Value := .obj fields
    let served := get resp "served_epoch"
    if truthy served && !equalsInt served epoch then
      if hashable served then .ok (.diverges served) else .error (.raised "TypeError")
    else
      match hexField resp "partial" with
      | .error e => .error e
      | .ok share =>
        match hexField resp "proof" with
        | .error e => .error e
        | .ok proof => .ok (.contributes share proof)
  | .ok _ => .error (.raised "AttributeError")

/-- Whether `(votes, -epoch)` exceeds that of the best epoch so far. -/
def better (entry best : Value × ℕ) : Bool :=
  best.2 < entry.2 || (best.2 = entry.2 &&
    match numeric entry.1, numeric best.1 with
    | some x, some y => x.lt y
    | _, _ => false)

/-- `max(rotated_votes, key=lambda epoch: (rotated_votes[epoch], -epoch))`; a key without negation
raises. -/
def dominant (rotatedVotes : List (Value × ℕ)) : Except Exception (Option Value) :=
  if rotatedVotes.all fun entry => (numeric entry.1).isSome then
    .ok ((Tally.pick better rotatedVotes).map Prod.fst)
  else .error (.raised "TypeError")

/-- `EpochRotatedError`, once its text is printed. -/
def epochRotated (served : Value) : Except Exception String → Exception
  | .ok _ => .decrypt (.epoch served epoch)
  | .error e => e

def dialect : Dialect Failure Value Value Value Exception where
  readHealth := readHealth other ours
  readAnswer := readAnswer epoch
  sameEpoch := sameKey
  epochDetail served :=
    (str other served).map fun printed => .epochMismatch printed (toString epoch)
  dominant := dominant
  rotated served := epochRotated epoch served (str other served)
  quorumUnavailable needed found faults := .decrypt (.quorum needed found faults)
  refused := .raised

end

structure Deps (ω : Type) where
  crypto : Crypto
  limits : Limits
  protocolVersion : ℕ
  /-- How the interpreter prints floats and containers. -/
  other : Json.Printer PyNumber
  transport : Transport ω Failure Value Value
  signer : Signer ω
  sampler : Sampler ω

def client {ω : Type} (deps : Deps ω) (params : DecryptParams) :
    Client ω Failure Value Value Value Exception where
  toDialect := dialect deps.other deps.protocolVersion params.epoch
  transport := deps.transport
  signer := deps.signer
  sampler := deps.sampler
  lagrangeFor point subset :=
    (lagrangeFor deps.crypto point subset).mapError fun _ => .raised "ValueError"
  openSecret partials :=
    (openSecret deps.crypto deps.limits params.openInput partials).mapError (.decrypt <| .crypto ·)

/-- `decrypt`. -/
def decrypt {ω : Type} (deps : Deps ω) (params : DecryptParams) (world : ω) :
    Run Failure Value Value Value Exception :=
  MatterSdk.decrypt (client deps params) params.task world

end MatterSdk.Python
