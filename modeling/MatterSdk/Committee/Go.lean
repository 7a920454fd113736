import MatterSdk.Committee.Rust

/-!
# The Go client

`Decrypt` of `mattersdk`.  Its parameters and its decoded answers have the fields of the Rust ones.
-/

namespace MatterSdk.Go

abbrev DecryptParams := Rust.DecryptRequest

/-- An error of `Decrypt`: its own, or one that it passes on. -/
inductive Failure where
  | decrypt (e : DecryptError ℕ)
  | other (message : String)

/-- The order in which `range` goes through a map. -/
structure MapOrder where
  order : List (ℕ × ℕ) → List (ℕ × ℕ)
  perm : ∀ votes, (order votes).Perm votes

def speaksOurProtocol (ours reported : ℕ) : Bool := reported = 0 || reported = ours

def readHealth (ours : ℕ) :
    Except String Health → Except Failure (Option (FaultStage × FaultDetail))
  | .error e => .ok (some (.health, .exchange e))
  | .ok h =>
    if !speaksOurProtocol ours h.cryptoProtocolVersion then
      .ok (some (.protocolVersion,
        .protocolVersion (toString h.cryptoProtocolVersion) (toString ours)))
    else if h.status ≠ "active" then
      .ok (some (.inactive,
        .inactive (.text h.status) (toString h.epoch) (toString h.cryptoProtocolVersion)))
    else .ok none

def readAnswer (epoch : ℕ) : Except String PartialDecryptResponse → Except Failure (Reading ℕ)
  | .error e => .ok (.failed (.exchange e))
  | .ok resp =>
    if resp.servedEpoch ≠ 0 ∧ resp.servedEpoch ≠ epoch then .ok (.diverges resp.servedEpoch)
    else
      match fromHex resp.partialHex with
      | .error e => .error (.decrypt (.transport ("bad partial hex: " ++ e)))
      | .ok share =>
        match fromHex resp.proof with
        | .error e => .error (.decrypt (.transport ("bad proof hex: " ++ e)))
        | .ok proof => .ok (.contributes share proof)

/-- Whether `range` replaces the best epoch so far. -/
def better (entry best : ℕ × ℕ) : Bool :=
  best.2 < entry.2 || (entry.2 = best.2 && entry.1 < best.1)

/-- Of the epochs with most votes, the lowest. -/
def dominant (range : MapOrder) (rotatedVotes : List (ℕ × ℕ)) : Option ℕ :=
  let best := (range.order rotatedVotes).foldl
    (fun best entry => if better entry best then entry else best) (0, 0)
  if 0 < best.2 then some best.1 else none

def dialect (range : MapOrder) (ours epoch : ℕ) :
    Dialect String Health PartialDecryptResponse ℕ Failure where
  readHealth := readHealth ours
  readAnswer := readAnswer epoch
  sameEpoch := Tally.eqKey
  epochDetail served := .ok (.epochMismatch (toString served) (toString epoch))
  dominant votes := .ok (dominant range votes)
  rotated served := .decrypt (.epoch served epoch)
  quorumUnavailable needed found faults := .decrypt (.quorum needed found faults)
  refused := .other

structure Deps (ω : Type) where
  crypto : Crypto
  limits : Limits
  protocolVersion : ℕ
  range : MapOrder
  transport : Transport ω String Health PartialDecryptResponse
  signer : Signer ω
  sampler : Sampler ω

def client {ω : Type} (deps : Deps ω) (params : DecryptParams) :
    Client ω String Health PartialDecryptResponse ℕ Failure where
  toDialect := dialect deps.range deps.protocolVersion params.epoch
  transport := deps.transport
  signer := deps.signer
  sampler := deps.sampler
  lagrangeFor point subset :=
    (lagrangeFor deps.crypto point subset).mapError fun _ => .other "LagrangeFor"
  openSecret partials :=
    (openSecret deps.crypto deps.limits params.openInput partials).mapError (.decrypt <| .crypto ·)

/-- `Decrypt`. -/
def decrypt {ω : Type} (deps : Deps ω) (params : DecryptParams) (world : ω) :
    Run String Health PartialDecryptResponse ℕ Failure :=
  MatterSdk.decrypt (client deps params) params.task world

end MatterSdk.Go
