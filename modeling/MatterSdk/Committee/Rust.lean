import MatterSdk.Committee.Decrypt

/-!
# The Rust client

`committee::decrypt` of `matter-sdk`.
-/

namespace MatterSdk.Rust

/-- Everything needed to recover one secret. -/
structure DecryptRequest where
  secretId : BitVec 128
  epoch : ℕ
  bindingId : Bytes
  aad : Bytes
  capsule : Bytes
  ct : Bytes
  sharedA : Bytes
  blockHash : Bytes
  threshold : ℕ
  nodes : List CommitteeNode

/-- The part of the request that the quorum flow reads. -/
def DecryptRequest.task (req : DecryptRequest) : Task :=
  { secretId := req.secretId, blockHash := req.blockHash, threshold := req.threshold
    nodes := req.nodes }

/-- The part of the request that opening reads. -/
def DecryptRequest.openInput (req : DecryptRequest) : OpenInput :=
  { sharedA := req.sharedA, capsule := req.capsule, secretId := req.secretId, epoch := req.epoch
    bindingId := req.bindingId, aad := req.aad, ct := req.ct }

/-- `ours` is `CRYPTO_PROTOCOL_VERSION`; `0` (field absent) is accepted. -/
def speaksOurProtocol (ours reported : ℕ) : Bool := reported = 0 || reported = ours

def isActive (health : Health) : Bool := health.status = "active"

def readHealth (ours : ℕ) :
    Except String Health → Except SdkError (Option (FaultStage × FaultDetail))
  | .ok health =>
    if !speaksOurProtocol ours health.cryptoProtocolVersion then
      .ok (some (.protocolVersion,
        .protocolVersion (toString health.cryptoProtocolVersion) (toString ours)))
    else if isActive health then .ok none
    else
      .ok (some (.inactive,
        .inactive (.text health.status) (toString health.epoch)
          (toString health.cryptoProtocolVersion)))
  | .error e => .ok (some (.health, .exchange e))

/-- A divergent epoch is read before the hex fields, whose error ends the run. -/
def readAnswer (hex : HexCrate) (epoch : ℕ) :
    Except String PartialDecryptResponse → Except SdkError (Reading ℕ)
  | .error e => .ok (.failed (.exchange e))
  | .ok resp =>
    if resp.servedEpoch ≠ 0 ∧ resp.servedEpoch ≠ epoch then .ok (.diverges resp.servedEpoch)
    else
      match from0x hex resp.partialHex with
      | .error source => .error (.core (.hex "partial" source))
      | .ok share =>
        match from0x hex resp.proof with
        | .error source => .error (.core (.hex "proof" source))
        | .ok proof => .ok (.contributes share proof)

/-- `rotated_votes.iter().max_by_key(votes)`: of the epochs with most votes, the highest. -/
def dominant (votes : List (ℕ × ℕ)) : Option ℕ :=
  (Tally.pick (fun new best => best.2 ≤ new.2)
    (votes.insertionSort fun a b => a.1 ≤ b.1)).map Prod.fst

def dialect (hex : HexCrate) (ours epoch : ℕ) :
    Dialect String Health PartialDecryptResponse ℕ SdkError where
  readHealth := readHealth ours
  readAnswer := readAnswer hex epoch
  sameEpoch := Tally.eqKey
  epochDetail served := .ok (.epochMismatch (toString served) (toString epoch))
  dominant votes := .ok (dominant votes)
  rotated served := .epochRotated served epoch
  quorumUnavailable := .quorumUnavailable
  refused := .signer

/-- What a Rust program links into `decrypt`. -/
structure Deps (ω : Type) where
  hex : HexCrate
  crypto : Crypto
  limits : Limits
  protocolVersion : ℕ
  transport : Transport ω String Health PartialDecryptResponse
  signer : Signer ω
  sampler : Sampler ω

def client {ω : Type} (deps : Deps ω) (req : DecryptRequest) :
    Client ω String Health PartialDecryptResponse ℕ SdkError where
  toDialect := dialect deps.hex deps.protocolVersion req.epoch
  transport := deps.transport
  signer := deps.signer
  sampler := deps.sampler
  lagrangeFor point subset := (lagrangeFor deps.crypto point subset).mapError .core
  openSecret partials :=
    (openSecret deps.crypto deps.limits req.openInput partials).mapError .core

/-- `committee::decrypt`. -/
def decrypt {ω : Type} (deps : Deps ω) (req : DecryptRequest) (world : ω) :
    Run String Health PartialDecryptResponse ℕ SdkError :=
  MatterSdk.decrypt (client deps req) req.task world

/-! ## What the readers can return -/

theorem readHealth_none_iff {ours : ℕ} {answer : Except String Health} :
    readHealth ours answer = .ok none ↔ ∃ health, answer = .ok health ∧ isActive health = true ∧
      speaksOurProtocol ours health.cryptoProtocolVersion = true := by
  cases answer with
  | error e => simp [readHealth]
  | ok health =>
    simp only [readHealth, Except.ok.injEq, exists_eq_left']
    cases speaksOurProtocol ours health.cryptoProtocolVersion <;>
      cases isActive health <;> simp

theorem readHealth_total (ours : ℕ) (answer : Except String Health) :
    ∃ v, readHealth ours answer = .ok v := by
  cases answer with
  | error e => exact ⟨_, rfl⟩
  | ok health =>
    simp only [readHealth]
    split_ifs <;> exact ⟨_, rfl⟩

theorem readHealth_ne_error {ours : ℕ} {answer : Except String Health} {e : SdkError} :
    readHealth ours answer ≠ .error e := by
  obtain ⟨v, read⟩ := readHealth_total ours answer
  rw [read]
  simp

theorem lagrangeFor_ne_error {ω : Type} {deps : Deps ω}
    (total : ∀ point subset, ∃ lambda, lagrangeFor deps.crypto point subset = .ok lambda)
    (req : DecryptRequest) {point : ℕ} {subset : List ℕ} {e : SdkError} :
    (client deps req).lagrangeFor point subset ≠ .error e := by
  obtain ⟨lambda, given⟩ := total point subset
  show (lagrangeFor deps.crypto point subset).mapError SdkError.core ≠ .error e
  rw [given]
  simp [Except.mapError]

/-- A probe puts its node at fault at one of three stages. -/
theorem readHealth_stage {ours : ℕ} {answer : Except String Health} {stage : FaultStage}
    {detail : FaultDetail} (h : readHealth ours answer = .ok (some (stage, detail))) :
    stage ∈ [.health, .inactive, .protocolVersion] := by
  unfold readHealth at h
  split at h
  · split_ifs at h
    · cases h
      simp
    · cases h
    · cases h
      simp
  · cases h
    simp

/-- What an answer is read as: a failure, a divergent epoch, or hex fields that decode or abort. -/
inductive Read (hex : HexCrate) (epoch : ℕ) :
    Except String PartialDecryptResponse → Except SdkError (Reading ℕ) → Prop where
  | failed (e : String) : Read hex epoch (.error e) (.ok (.failed (.exchange e)))
  | diverges (resp : PartialDecryptResponse) (nonzero : resp.servedEpoch ≠ 0)
      (differs : resp.servedEpoch ≠ epoch) :
      Read hex epoch (.ok resp) (.ok (.diverges resp.servedEpoch))
  | badPartial (resp : PartialDecryptResponse)
      (served : resp.servedEpoch = 0 ∨ resp.servedEpoch = epoch) (source : FromHexError)
      (h : from0x hex resp.partialHex = .error source) :
      Read hex epoch (.ok resp) (.error (.core (.hex "partial" source)))
  | badProof (resp : PartialDecryptResponse)
      (served : resp.servedEpoch = 0 ∨ resp.servedEpoch = epoch) (share : Bytes)
      (hs : from0x hex resp.partialHex = .ok share) (source : FromHexError)
      (h : from0x hex resp.proof = .error source) :
      Read hex epoch (.ok resp) (.error (.core (.hex "proof" source)))
  | contributes (resp : PartialDecryptResponse)
      (served : resp.servedEpoch = 0 ∨ resp.servedEpoch = epoch) (share proof : Bytes)
      (hs : from0x hex resp.partialHex = .ok share) (hp : from0x hex resp.proof = .ok proof) :
      Read hex epoch (.ok resp) (.ok (.contributes share proof))

theorem readAnswer_cases (hex : HexCrate) (epoch : ℕ)
    (answer : Except String PartialDecryptResponse) :
    Read hex epoch answer (readAnswer hex epoch answer) := by
  cases answer with
  | error e => exact .failed e
  | ok resp =>
    unfold readAnswer
    dsimp only
    split_ifs with h
    · exact .diverges resp h.1 h.2
    · have served : resp.servedEpoch = 0 ∨ resp.servedEpoch = epoch := by tauto
      split
      · rename_i source hs
        exact .badPartial resp served source hs
      · rename_i share hs
        split
        · rename_i source hp
          exact .badProof resp served share hs source hp
        · rename_i proof hp
          exact .contributes resp served share proof hs hp

theorem readAnswer_error {hex : HexCrate} {epoch : ℕ}
    {answer : Except String PartialDecryptResponse} {e : SdkError}
    (h : readAnswer hex epoch answer = .error e) : ∃ source, e = .core source := by
  have read := readAnswer_cases hex epoch answer
  rw [h] at read
  cases read with
  | badPartial | badProof => exact ⟨_, rfl⟩

theorem mapError_core {α : Type} {r : Except CoreError α} {e : SdkError}
    (h : r.mapError SdkError.core = .error e) : ∃ source, r = .error source ∧ e = .core source := by
  cases r with
  | error source => exact ⟨source, rfl, (Except.error.inj h).symm⟩
  | ok a => cases h

/-- The verdict once the nodes have run out. -/
theorem conclude_exhausted {ω : Type} (deps : Deps ω) (req : DecryptRequest)
    (p : Progress ω String PartialDecryptResponse ℕ) :
    conclude (client deps req) req.task .exhausted p =
      match dominant p.votes with
      | some served => .error (.epochRotated served req.epoch)
      | none => .error (.quorumUnavailable req.threshold p.available.length p.faults) := by
  have verdict : (client deps req).dominant p.votes = .ok (dominant p.votes) := rfl
  simp only [conclude, verdict]
  cases dominant p.votes <;> rfl

/-- The errors that end a pass: those of the core, the signer's, and the verdict of a rotation. -/
theorem abort_cases {ω : Type} {deps : Deps ω} {req : DecryptRequest} {subset : List ℕ}
    {node : CommitteeNode} {partials : List PartialInput}
    {p p' : Progress ω String PartialDecryptResponse ℕ} {e : SdkError}
    (h : Asked (client deps req) req.task subset node partials p (.done (.abort e, p'))) :
    (∃ source, e = .core source) ∨ (∃ detail, e = .signer detail) ∨
      ∃ epoch, ∃ x : Exchange (client deps req) req.task subset node p,
        e = .epochRotated epoch req.epoch ∧ p' = x.after.vote (client deps req) epoch ∧
        readAnswer deps.hex req.epoch x.answer = .ok (.diverges epoch) ∧
        req.threshold ≤ Tally.votes Tally.eqKey p'.votes epoch := by
  cases h with
  | noLambda _ h =>
    obtain ⟨source, -, rfl⟩ := mapError_core h
    exact Or.inl ⟨source, rfl⟩
  | unsigned detail => exact Or.inr (Or.inl ⟨detail, rfl⟩)
  | unreadable x _ h =>
    exact Or.inl (readAnswer_error h)
  | rotated x epoch h enough =>
    refine Or.inr (Or.inr ⟨epoch, x, rfl, rfl, h, ?_⟩)
    change req.threshold ≤ Tally.votes Tally.eqKey (Tally.bump Tally.eqKey epoch p.votes) epoch
    rw [Tally.votes_bump, if_pos rfl]
    exact enough
  | unprinted x epoch h _ he => cases he

end MatterSdk.Rust
