import MatterSdk.Committee.Rust
import MatterSdk.Lib.Json

/-!
# The TypeScript client

`decrypt` of `typescript-core`.  It probes all nodes before it sorts any, and reads the answers as
the values that `JSON.parse` makes of them: a property that is not there is `undefined`, a property
of `null` throws.
-/

namespace MatterSdk.TypeScript

open Loop

abbrev DecryptParams := Rust.DecryptRequest

abbrev Value := Json Number

/-- What `decrypt` throws: a `DecryptError`, or another error by its name. -/
inductive Thrown where
  | decrypt (e : DecryptError Value)
  | thrown (name : String)

/-! ## Values -/

/-- The truth value of a property. -/
def truthy : Option Value → Bool
  | none => false
  | some .null => false
  | some (.bool b) => b
  | some (.num x) => !x.isZero && x ≠ .nan
  | some (.str s) => s ≠ ""
  | some (.arr _) => true
  | some (.obj _) => true

/-- `value === n`. -/
def equalsNumber (value : Value) (n : ℕ) : Bool :=
  match value with
  | .num x => x.eq (.ofNat n)
  | _ => false

/-- Whether two keys of a `Map` are the same; every parsed object is one of its own. -/
def sameValueZero : Value → Value → Bool
  | .null, .null => true
  | .bool a, .bool b => a = b
  | .num x, .num y => x = y
  | .str s, .str t => s = t
  | _, _ => false

mutual

/-- Whether a template literal can print a value: an object with a `toString` of its own cannot be
called for one. -/
def printable : Value → Bool
  | .arr items => allPrintable items
  | .obj fields => (fields.lookup "toString").isNone
  | _ => true

def allPrintable : List Value → Bool
  | [] => true
  | item :: rest => printable item && allPrintable rest

end

/-- What the engine prints of a value. -/
def printed (printer : Json.Printer Number) (value : Value) : Except Thrown String :=
  match printer.print value with
  | some text => .ok text
  | none => .error (.thrown "RangeError")

/-- The text of a printable value; `other` prints fractions, large numbers and containers. -/
def text (other : Json.Printer Number) : Value → Except Thrown String
  | .null => .ok "null"
  | .bool true => .ok "true"
  | .bool false => .ok "false"
  | .num (.finite q) =>
    if q.den = 1 ∧ q.num.natAbs < 10 ^ 21 then .ok (toString q.num)
    else printed other (.num (.finite q))
  | .str s => .ok s
  | value => printed other value

/-- What `${value}` makes of a property. -/
def template (other : Json.Printer Number) : Option Value → Except Thrown String
  | none => .ok "undefined"
  | some value => if printable value then text other value else .error (.thrown "TypeError")

/-- `value ?? 0`. -/
def orZero : Option Value → Option Value
  | none => some (.num (.ofNat 0))
  | some .null => some (.num (.ofNat 0))
  | value => value

/-- A status as `JSON.stringify` prints it. -/
def status (stringify : Json.Printer Number) : Option Value → Except Thrown Status
  | none => .ok (.printed "undefined")
  | some (.str s) => .ok (.text s)
  | some value => (printed stringify value).map .printed

/-! ## The decrypt flow -/

/-- How the engine prints. -/
structure Printer where
  other : Json.Printer Number
  stringify : Json.Printer Number

section

variable (printer : Printer) (ours epoch : ℕ)

def speaksOurProtocol (reported : Option Value) : Bool :=
  !truthy reported || (reported.map (equalsNumber · ours)).getD false

def readHealth : Except String Value → Except Thrown (Option (FaultStage × FaultDetail))
  | .error reason => .ok (some (.health, .exchange reason))
  | .ok .null => .error (.thrown "TypeError")
  | .ok health =>
    let version := health.field "crypto_protocol_version"
    if !speaksOurProtocol ours version then
      (template printer.other version).map fun printed =>
        some (.protocolVersion, .protocolVersion printed (toString ours))
    else
      match health.field "status" with
      | some (.str "active") => .ok none
      | reported =>
        match status printer.stringify reported with
        | .error e => .error e
        | .ok status =>
          match template printer.other (orZero (health.field "epoch")) with
          | .error e => .error e
          | .ok reportedEpoch =>
            (template printer.other (orZero version)).map fun printed =>
              some (.inactive, .inactive status reportedEpoch printed)

/-- `fromHex` of a property. -/
def hexField (resp : Value) (key : String) : Except Thrown Bytes :=
  match resp.field key with
  | some (.str s) =>
    match fromHex s with
    | some bytes => .ok bytes
    | none => .error (.thrown "Error")
  | _ => .error (.thrown "TypeError")

/-- A `served_epoch` that is truthy and not ours becomes a key of the votes. -/
def readAnswer : Except String Value → Except Thrown (Reading Value)
  | .error reason => .ok (.failed (.exchange reason))
  | .ok .null => .error (.thrown "TypeError")
  | .ok resp =>
    match resp.field "served_epoch" with
    | some served =>
      if truthy (some served) && !equalsNumber served epoch then .ok (.diverges served)
      else contributions resp
    | none => contributions resp
where
  contributions (resp : Value) : Except Thrown (Reading Value) :=
    match hexField resp "partial" with
    | .error e => .error e
    | .ok share =>
      match hexField resp "proof" with
      | .error e => .error e
      | .ok proof => .ok (.contributes share proof)

/-- Of the epochs with most votes, the one first voted for. -/
def dominant (rotatedVotes : List (Value × ℕ)) : Option Value :=
  (Tally.pick (fun entry best => best.2 < entry.2) rotatedVotes).map Prod.fst

/-- `EpochRotatedError`, once its text is printed. -/
def epochRotated (served : Value) : Except Thrown String → Thrown
  | .ok _ => .decrypt (.epoch served epoch)
  | .error e => e

def dialect : Dialect String Value Value Value Thrown where
  readHealth := readHealth printer ours
  readAnswer := readAnswer epoch
  sameEpoch := sameValueZero
  epochDetail served :=
    (template printer.other (some served)).map fun printed => .epochMismatch printed (toString epoch)
  dominant votes := .ok (dominant votes)
  rotated served := epochRotated epoch served (template printer.other (some served))
  quorumUnavailable needed found faults := .decrypt (.quorum needed found faults)
  refused := .thrown

end

structure Deps (ω : Type) where
  crypto : Crypto
  limits : Limits
  protocolVersion : ℕ
  printer : Printer
  transport : Transport ω String Value Value
  signer : Signer ω
  sampler : Sampler ω

def client {ω : Type} (deps : Deps ω) (params : DecryptParams) :
    Client ω String Value Value Value Thrown where
  toDialect := dialect deps.printer deps.protocolVersion params.epoch
  transport := deps.transport
  signer := deps.signer
  sampler := deps.sampler
  lagrangeFor point subset :=
    (lagrangeFor deps.crypto point subset).mapError fun _ => .thrown "Error"
  openSecret partials :=
    (openSecret deps.crypto deps.limits params.openInput partials).mapError (.decrypt <| .crypto ·)

/-- `Promise.allSettled` of the probes, which are started in node order. -/
def settle {ω τ η ρ : Type} (transport : Transport ω τ η ρ) :
    List CommitteeNode → ω → List (CommitteeNode × Except τ η) × ω
  | [], w => ([], w)
  | node :: rest, w =>
    match transport.health node.endpoint w with
    | (answer, w') =>
      match settle transport rest w' with
      | (probes, w'') => ((node, answer) :: probes, w'')

/-- `decrypt`. -/
def decrypt {ω : Type} (deps : Deps ω) (params : DecryptParams) (world : ω) :
    Run String Value Value Value Thrown :=
  match settle deps.transport params.nodes world with
  | (probes, world) =>
    match forEach (sortProbe (client deps params).toDialect) probes ⟨world, [], [], []⟩ with
    | .done (e, s) =>
      { result := .error e, probes, active := s.active, available := s.active, votes := []
        faults := s.faults, log := [] }
    | .next s => decryptActive (client deps params) params.task s

end MatterSdk.TypeScript
