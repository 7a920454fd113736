import MatterSdk.Committee.Go
import MatterSdk.Committee.Python
import MatterSdk.Committee.Simulation
import MatterSdk.Committee.TypeScript
import MatterSdk.Lib.Quoting

/-!
# One answer, four readings

The four clients before the same nodes.  A well-typed answer with well-formed hex reaches each of
them in the form its own decoder gives it, and every one of them reads it alike.
-/

namespace MatterSdk

open Loop

variable {ω τ η ρ τ' η' ρ' : Type}

/-! ## Well-typed answers -/

/-- A `/health` answer on the wire. -/
structure WireHealth where
  status : String
  epoch : Option UInt32
  cryptoProtocolVersion : Option UInt16

/-- A `/partial-decrypt` answer on the wire, with well-formed hex fields. -/
structure WireAnswer where
  partialHex : String
  proof : String
  servedEpoch : Option UInt32
  partial_wellFormed : WellFormedHex partialHex
  proof_wellFormed : WellFormedHex proof

/-- What serde and `encoding/json` decode. -/
def WireHealth.decoded (h : WireHealth) : Health :=
  { status := h.status, epoch := (h.epoch.getD 0).toNat
    cryptoProtocolVersion := (h.cryptoProtocolVersion.getD 0).toNat }

def WireAnswer.decoded (a : WireAnswer) : PartialDecryptResponse :=
  { partialHex := a.partialHex, proof := a.proof, servedEpoch := (a.servedEpoch.getD 0).toNat }

section Json

variable {ν : Type} (number : ℕ → ν)

/-- What `json.loads` and `JSON.parse` make of it. -/
def WireHealth.json (h : WireHealth) : Json ν :=
  .record [("status", some (.str h.status)), ("epoch", h.epoch.map (.num <| number ·.toNat)),
    ("crypto_protocol_version", h.cryptoProtocolVersion.map (.num <| number ·.toNat))]

def WireAnswer.json (a : WireAnswer) : Json ν :=
  .record [("partial", some (.str a.partialHex)), ("proof", some (.str a.proof)),
    ("served_epoch", a.servedEpoch.map (.num <| number ·.toNat))]

theorem WireHealth.field_json (h : WireHealth) :
    ∃ fields, h.json number = .obj fields ∧
      Json.field "status" (.obj fields) = some (.str h.status) ∧
      Json.field "epoch" (.obj fields) = h.epoch.map (.num <| number ·.toNat) ∧
      Json.field "crypto_protocol_version" (.obj fields) =
        h.cryptoProtocolVersion.map (.num <| number ·.toNat) := by
  obtain ⟨status, epoch, version⟩ := h
  refine ⟨_, rfl, rfl, ?_, ?_⟩
  · cases epoch <;> cases version <;> rfl
  · cases epoch <;> cases version <;> rfl

theorem WireAnswer.field_json (a : WireAnswer) :
    ∃ fields, a.json number = .obj fields ∧
      Json.field "partial" (.obj fields) = some (.str a.partialHex) ∧
      Json.field "proof" (.obj fields) = some (.str a.proof) ∧
      Json.field "served_epoch" (.obj fields) = a.servedEpoch.map (.num <| number ·.toNat) := by
  obtain ⟨share, proof, served⟩ := a
  refine ⟨_, rfl, rfl, rfl, ?_⟩
  cases served <;> rfl

end Json

/-- A transport whose answers are decoded. -/
def Transport.via (t : Transport ω τ η ρ) (health : Except τ η → Except τ' η')
    (answer : Except τ ρ → Except τ' ρ') : Transport ω τ' η' ρ' where
  health endpoint w :=
    match t.health endpoint w with
    | (a, w') => (health a, w')
  partialDecrypt endpoint request w :=
    match t.partialDecrypt endpoint request w with
    | (a, w') => (answer a, w')

/-! ## One setting for all -/

/-- What the four programs share, and how their languages print and range. -/
structure Setting (ω : Type) where
  hex : HexCrate
  crypto : Crypto
  limits : Limits
  protocolVersion : ℕ
  transport : Transport ω String WireHealth WireAnswer
  signer : Signer ω
  sampler : Sampler ω
  range : Go.MapOrder
  other : Json.Printer Python.PyNumber
  printer : TypeScript.Printer

def Setting.rust (s : Setting ω) : Rust.Deps ω :=
  { hex := s.hex, crypto := s.crypto, limits := s.limits, protocolVersion := s.protocolVersion
    transport := s.transport.via (·.map WireHealth.decoded) (·.map WireAnswer.decoded)
    signer := s.signer, sampler := s.sampler }

def Setting.go (s : Setting ω) : Go.Deps ω :=
  { crypto := s.crypto, limits := s.limits, protocolVersion := s.protocolVersion, range := s.range
    transport := s.transport.via (·.map WireHealth.decoded) (·.map WireAnswer.decoded)
    signer := s.signer, sampler := s.sampler }

def pythonNumber (n : ℕ) : Python.PyNumber := .int n

def Setting.python (s : Setting ω) : Python.Deps ω :=
  { crypto := s.crypto, limits := s.limits, protocolVersion := s.protocolVersion, other := s.other
    transport := s.transport.via
      (fun a => (a.map (WireHealth.json pythonNumber)).mapError .decryptError)
      (fun a => (a.map (WireAnswer.json pythonNumber)).mapError .decryptError)
    signer := s.signer, sampler := s.sampler }

def Setting.typescript (s : Setting ω) : TypeScript.Deps ω :=
  { crypto := s.crypto, limits := s.limits, protocolVersion := s.protocolVersion
    printer := s.printer
    transport := s.transport.via (·.map (WireHealth.json Number.ofNat))
      (·.map (WireAnswer.json Number.ofNat))
    signer := s.signer, sampler := s.sampler }

/-! ## Conclusions -/

def Rust.conclusion : Except SdkError Plaintext → Conclusion
  | .ok plaintext => .opened plaintext
  | .error (.core source) => .crypto source
  | .error (.quorumUnavailable needed active faults) => .quorum needed active faults
  | .error (.epochRotated served provided) => .epoch (some served) provided
  | .error (.signer detail) => .other detail
  | .error _ => .other "SdkError"

/-- The conclusion of a `DecryptError`, its epoch read by `number`. -/
def DecryptError.conclusion {κ : Type} (number : κ → Option ℕ) : DecryptError κ → Conclusion
  | .quorum needed found faults => .quorum needed found faults
  | .epoch served provided => .epoch (number served) provided
  | .transport message => .transport message
  | .crypto source => .crypto source

def Go.conclusion : Except Go.Failure Plaintext → Conclusion
  | .ok plaintext => .opened plaintext
  | .error (.decrypt e) => e.conclusion some
  | .error (.other message) => .other message

/-- The natural number that a value is. -/
def Python.natural : Python.Value → Option ℕ
  | .num (.int (.ofNat n)) => some n
  | _ => none

def Python.conclusion : Except Python.Exception Plaintext → Conclusion
  | .ok plaintext => .opened plaintext
  | .error (.decrypt e) => e.conclusion Python.natural
  | .error (.raised exception) => .other exception

def TypeScript.natural : TypeScript.Value → Option ℕ
  | .num (.finite q) => if q.den = 1 then some q.num.toNat else none
  | _ => none

def TypeScript.conclusion : Except TypeScript.Thrown Plaintext → Conclusion
  | .ok plaintext => .opened plaintext
  | .error (.decrypt e) => e.conclusion TypeScript.natural
  | .error (.thrown name) => .other name

theorem TypeScript.natural_ofNat (n : ℕ) : natural (.num (.ofNat n)) = some n := by
  simp [natural, Number.ofNat]

/-! ## Verdicts -/

/-- A fault with its texts, as the clients record it. -/
structure RenderedFault where
  index : ℕ
  endpoint : String
  stage : String
  detail : String
deriving DecidableEq

def NodeFault.render (quote : String → String) (fault : NodeFault) : RenderedFault where
  index := fault.index
  endpoint := fault.endpoint
  stage := fault.stage.asStr
  detail := fault.detail.render quote

/-- What a caller learns from a decrypt. -/
inductive Verdict where
  | opened (plaintext : Plaintext)
  | quorum (needed found : ℕ) (faults : List RenderedFault)
  | epoch (served : Option ℕ) (provided : ℕ)
  | transport (message : String)
  | crypto (source : CoreError)
  | other (message : String)
deriving DecidableEq

def Conclusion.verdict (quote : String → String) : Conclusion → Verdict
  | .opened plaintext => .opened plaintext
  | .quorum needed found faults => .quorum needed found (faults.map (·.render quote))
  | .epoch served provided => .epoch served provided
  | .transport message => .transport message
  | .crypto source => .crypto source
  | .other message => .other message

section

variable (tables : Quoting.Tables)

/-- A status as `{:?}` prints it. -/
def Rust.quote (text : String) : String := String.ofList (Quoting.debug tables.rust text.toList)

/-- A status as `%q` prints it. -/
def Go.quote (text : String) : String := String.ofList (Quoting.quote tables.go text.toList)

/-- A status as `!r` prints it. -/
def Python.quote (text : String) : String := String.ofList (Quoting.repr tables.python text.toList)

/-- A status as `JSON.stringify` prints it. -/
def TypeScript.quote (text : String) : String := String.ofList (Quoting.stringify text.toList)

def Rust.verdict (result : Except SdkError Plaintext) : Verdict :=
  (Rust.conclusion result).verdict (Rust.quote tables)

def Go.verdict (result : Except Go.Failure Plaintext) : Verdict :=
  (Go.conclusion result).verdict (Go.quote tables)

def Python.verdict (result : Except Python.Exception Plaintext) : Verdict :=
  (Python.conclusion result).verdict (Python.quote tables)

def TypeScript.verdict (result : Except TypeScript.Thrown Plaintext) : Verdict :=
  (TypeScript.conclusion result).verdict TypeScript.quote

end

variable {quote quote' : String → String}

theorem FaultDetail.render_inactive_iff {text epoch version : String} :
    (FaultDetail.inactive (.text text) epoch version).render quote' =
      (FaultDetail.inactive (.text text) epoch version).render quote ↔ quote' text = quote text := by
  have parts (quote : String → String) :
      (FaultDetail.inactive (.text text) epoch version).render quote =
        "status " ++ quote text ++ ", epoch " ++ epoch ++ ", crypto protocol v" ++ version := rfl
  rw [parts, parts]
  generalize "status " = front
  generalize ", epoch " = middle
  generalize ", crypto protocol v" = behind
  constructor
  · intro same
    have lists := congrArg String.toList same
    simp only [String.toList_append, List.append_assoc] at lists
    exact String.toList_inj.mp (List.append_cancel_right (List.append_cancel_left lists))
  · intro same
    rw [same]

/-- Only a status in quotes is printed differently. -/
theorem FaultDetail.render_eq_iff {detail : FaultDetail} :
    detail.render quote' = detail.render quote ↔
      ∀ text epoch version, detail = .inactive (.text text) epoch version →
        quote' text = quote text := by
  constructor
  · rintro same text epoch version rfl
    exact render_inactive_iff.mp same
  · intro quoted
    match detail with
    | .exchange _ | .protocolVersion _ _ | .epochMismatch _ _ => rfl
    | .inactive (.printed _) _ _ => rfl
    | .inactive (.text text) epoch version =>
      exact render_inactive_iff.mpr (quoted text epoch version rfl)

/-- Two languages give a conclusion the same verdict if they print its faults alike. -/
theorem Conclusion.verdict_eq_iff {conclusion : Conclusion} :
    conclusion.verdict quote' = conclusion.verdict quote ↔
      ∀ needed found faults, conclusion = .quorum needed found faults → ∀ fault ∈ faults,
        fault.detail.render quote' = fault.detail.render quote := by
  constructor
  · rintro same needed found faults rfl fault mem
    have each := List.map_inj_left.mp (Verdict.quorum.inj same).2.2 fault mem
    exact (RenderedFault.mk.inj each).2.2.2
  · intro alike
    match conclusion with
    | .opened _ | .epoch _ _ | .transport _ | .crypto _ | .other _ => rfl
    | .quorum needed found faults =>
      refine congrArg (Verdict.quorum needed found) (List.map_congr_left fun fault mem => ?_)
      show RenderedFault.mk _ _ _ _ = RenderedFault.mk _ _ _ _
      rw [alike needed found faults rfl fault mem]

/-! ## Every client reads an answer alike -/

/-- The fault of a decoded health answer. -/
def healthFault (ours : ℕ) (h : Health) : Option (FaultStage × FaultDetail) :=
  if !Rust.speaksOurProtocol ours h.cryptoProtocolVersion then
    some (.protocolVersion,
      .protocolVersion (toString h.cryptoProtocolVersion) (toString ours))
  else if h.status = "active" then none
  else
    some (.inactive,
      .inactive (.text h.status) (toString h.epoch) (toString h.cryptoProtocolVersion))

/-- The fault of a probe. -/
def wireFault (ours : ℕ) : Except String WireHealth → Option (FaultStage × FaultDetail)
  | .error e => some (.health, .exchange e)
  | .ok h => healthFault ours h.decoded

theorem Rust.readHealth_wire (ours : ℕ) (answer : Except String WireHealth) :
    readHealth ours (answer.map WireHealth.decoded) = .ok (wireFault ours answer) := by
  cases answer with
  | error e => rfl
  | ok h =>
    change readHealth ours (.ok h.decoded) = .ok (healthFault ours h.decoded)
    simp only [readHealth, healthFault, isActive]
    cases speaksOurProtocol ours h.decoded.cryptoProtocolVersion <;>
      by_cases active : h.decoded.status = "active" <;> simp [active]

theorem Go.readHealth_wire (ours : ℕ) (answer : Except String WireHealth) :
    readHealth ours (answer.map WireHealth.decoded) = .ok (wireFault ours answer) := by
  cases answer with
  | error e => rfl
  | ok h =>
    change readHealth ours (.ok h.decoded) = .ok (healthFault ours h.decoded)
    have same : speaksOurProtocol ours h.decoded.cryptoProtocolVersion =
        Rust.speaksOurProtocol ours h.decoded.cryptoProtocolVersion := rfl
    simp only [readHealth, healthFault, same]
    cases Rust.speaksOurProtocol ours h.decoded.cryptoProtocolVersion <;>
      by_cases active : h.decoded.status = "active" <;> simp [active]

/-- The answer votes for another epoch. -/
def WireAnswer.diverges (epoch : ℕ) (a : WireAnswer) : Prop :=
  a.decoded.servedEpoch ≠ 0 ∧ a.decoded.servedEpoch ≠ epoch

instance (epoch : ℕ) (a : WireAnswer) : Decidable (a.diverges epoch) :=
  inferInstanceAs (Decidable (_ ∧ _))

theorem WireAnswer.servedEpoch_lt (a : WireAnswer) : a.decoded.servedEpoch < 2 ^ 32 :=
  (a.servedEpoch.getD 0).toNat_lt

/-- How each client reads an answer. -/
inductive WireReading (epoch : ℕ) : Except String WireAnswer → Reading ℕ → Prop where
  | failed (e : String) : WireReading epoch (.error e) (.failed (.exchange e))
  | diverges (a : WireAnswer) (h : a.diverges epoch) :
      WireReading epoch (.ok a) (.diverges a.decoded.servedEpoch)
  | contributes (a : WireAnswer) (h : ¬ a.diverges epoch) (share proof : Bytes)
      (hs : spelled a.partialHex = some share) (hp : spelled a.proof = some proof) :
      WireReading epoch (.ok a) (.contributes share proof)

theorem exists_wireReading (epoch : ℕ) (answer : Except String WireAnswer) :
    ∃ reading, WireReading epoch answer reading := by
  cases answer with
  | error e => exact ⟨_, .failed e⟩
  | ok a =>
    by_cases h : a.diverges epoch
    · exact ⟨_, .diverges a h⟩
    · obtain ⟨share, hs⟩ := a.partial_wellFormed
      obtain ⟨proof, hp⟩ := a.proof_wellFormed
      exact ⟨_, .contributes a h share proof hs hp⟩

theorem WireReading.lt {epoch served : ℕ} {answer : Except String WireAnswer}
    {reading : Reading ℕ} (h : WireReading epoch answer reading)
    (diverges : reading = .diverges served) : served < 2 ^ 32 := by
  cases h with
  | diverges a => exact Reading.diverges.inj diverges ▸ a.servedEpoch_lt
  | failed | contributes => cases diverges

theorem Rust.readAnswer_wire (hex : HexCrate) {epoch : ℕ} {answer : Except String WireAnswer}
    {reading : Reading ℕ} (h : WireReading epoch answer reading) :
    readAnswer hex epoch (answer.map WireAnswer.decoded) = .ok reading := by
  cases h with
  | failed e => rfl
  | diverges a h => exact if_pos h
  | contributes a h share proof hs hp =>
    have share_read := (from0x_ok_iff hex _ _).mpr hs
    have proof_read := (from0x_ok_iff hex _ _).mpr hp
    refine (if_neg h).trans ?_
    simp [WireAnswer.decoded, share_read, proof_read]

theorem Go.readAnswer_wire {epoch : ℕ} {answer : Except String WireAnswer}
    {reading : Reading ℕ} (h : WireReading epoch answer reading) :
    readAnswer epoch (answer.map WireAnswer.decoded) = .ok reading := by
  cases h with
  | failed e => rfl
  | diverges a h => exact if_pos h
  | contributes a h share proof hs hp =>
    refine (if_neg h).trans ?_
    simp [WireAnswer.decoded, (fromHex_of_wellFormed hs).1, (fromHex_of_wellFormed hp).1]

section Python

open Python

theorem pythonNumber_value (n : ℕ) : (pythonNumber n).value = Number.ofNat n :=
  congrArg Number.finite (Int.cast_natCast n)

theorem Python.truthy_nat (n : ℕ) : truthy (.num (pythonNumber n)) = decide (n ≠ 0) := by
  simp [truthy, pythonNumber_value, Number.isZero_ofNat]

theorem Python.equalsInt_nat (n m : ℕ) :
    equalsInt (.num (pythonNumber n)) m = decide (n = m) := by
  simp [equalsInt, numeric, pythonNumber_value, Number.eq_ofNat]

/-- A protocol version as `get` returns it. -/
def Python.version (v : Option UInt16) : Value :=
  (v.map fun n => .num (pythonNumber n.toNat)).getD .null

theorem Python.speaks_version (ours : ℕ) (v : Option UInt16) :
    speaksOurProtocol ours (version v) = Rust.speaksOurProtocol ours (v.getD 0).toNat := by
  cases v with
  | none => rfl
  | some v =>
    simp only [speaksOurProtocol, Rust.speaksOurProtocol, version, Option.map_some,
      Option.getD_some, truthy_nat, equalsInt_nat]
    simp

theorem Python.str_version (other : Json.Printer PyNumber) (v : Option UInt16) :
    str other (orZero (version v)) = .ok (toString (v.getD 0).toNat) := by
  cases v with
  | none => rfl
  | some v =>
    simp only [orZero, version, Option.map_some, Option.getD_some, truthy_nat]
    split_ifs with zero
    · rfl
    · have none : v.toNat = 0 := by simpa using zero
      rw [none]
      rfl

theorem Python.readHealth_wire (other : Json.Printer PyNumber) (ours : ℕ)
    (answer : Except String WireHealth) :
    readHealth other ours ((answer.map (WireHealth.json pythonNumber)).mapError .decryptError) =
      .ok (wireFault ours answer) := by
  cases answer with
  | error e => rfl
  | ok h =>
    obtain ⟨fields, json, status, epoch, reported⟩ := h.field_json pythonNumber
    change readHealth other ours (.ok (h.json pythonNumber)) = .ok (healthFault ours h.decoded)
    have hv : get (.obj fields) "crypto_protocol_version" = version h.cryptoProtocolVersion := by
      rw [get, reported, version]
    have hs : get (.obj fields) "status" = .str h.decoded.status := by rw [get, status]; rfl
    have he : str other ((Json.field "epoch" (.obj fields)).getD (.num (.int 0))) =
        .ok (toString h.decoded.epoch) := by
      rw [epoch, WireHealth.decoded]
      cases h.epoch <;> rfl
    have speaks : speaksOurProtocol ours (version h.cryptoProtocolVersion) =
        Rust.speaksOurProtocol ours h.decoded.cryptoProtocolVersion := speaks_version ours _
    have printed := str_version other h.cryptoProtocolVersion
    change _ = Except.ok (toString h.decoded.cryptoProtocolVersion) at printed
    rw [json]
    simp only [readHealth, hv, hs, he, speaks, printed, healthFault]
    by_cases deaf : (!Rust.speaksOurProtocol ours h.decoded.cryptoProtocolVersion) = true
    · have spoken : truthy (version h.cryptoProtocolVersion) = true := by
        rw [← speaks] at deaf
        simp only [speaksOurProtocol, Bool.not_or, Bool.and_eq_true, Bool.not_not] at deaf
        exact deaf.1
      rw [orZero, if_pos spoken] at printed
      rw [if_pos deaf, if_pos deaf, printed]
      rfl
    · rw [if_neg deaf, if_neg deaf]
      by_cases active : h.decoded.status = "active"
      · simp [active]
      · rw [if_neg active]
        split
        · rename_i same
          exact absurd (Json.str.inj same) active
        · rfl

/-- A served epoch as `get` returns it. -/
def Python.served (v : Option UInt32) : Value :=
  (v.map fun n => .num (pythonNumber n.toNat)).getD .null

theorem Python.diverges_served (epoch : ℕ) (a : WireAnswer) :
    (truthy (served a.servedEpoch) && !equalsInt (served a.servedEpoch) epoch) =
      decide (a.diverges epoch) := by
  rw [Bool.eq_iff_iff, decide_eq_true_iff]
  unfold WireAnswer.diverges WireAnswer.decoded
  cases a.servedEpoch with
  | none => simp [served, truthy]
  | some e =>
    simp only [served, Option.map_some, Option.getD_some, truthy_nat, equalsInt_nat]
    simp

theorem Python.served_eq {v : Option UInt32} (h : (v.getD 0).toNat ≠ 0) :
    served v = .num (pythonNumber (v.getD 0).toNat) := by
  cases v with
  | none => exact absurd rfl h
  | some e => rfl

theorem Python.readAnswer_wire {epoch : ℕ} {answer : Except String WireAnswer}
    {reading : Reading ℕ} (h : WireReading epoch answer reading) :
    readAnswer epoch ((answer.map (WireAnswer.json pythonNumber)).mapError .decryptError) =
      .ok (reading.map fun n => .num (pythonNumber n)) := by
  cases h with
  | failed e => rfl
  | diverges a h =>
    obtain ⟨fields, json, -, -, epochField⟩ := a.field_json pythonNumber
    have hv : get (.obj fields) "served_epoch" = served a.servedEpoch := by
      rw [get, epochField, served]
    change readAnswer epoch (.ok (a.json pythonNumber)) = _
    rw [json]
    simp only [readAnswer, hv, diverges_served]
    rw [if_pos (decide_eq_true h), served_eq h.1]
    rfl
  | contributes a h share proof hs hp =>
    obtain ⟨fields, json, partialField, proofField, epochField⟩ := a.field_json pythonNumber
    have hv : get (.obj fields) "served_epoch" = served a.servedEpoch := by
      rw [get, epochField, served]
    change readAnswer epoch (.ok (a.json pythonNumber)) = _
    rw [json]
    simp only [readAnswer, hv, diverges_served]
    rw [if_neg (fun both => h (of_decide_eq_true both))]
    simp only [hexField, partialField, proofField, (fromHex_of_wellFormed hs).2.1,
      (fromHex_of_wellFormed hp).2.1]
    rfl

end Python

section TypeScript

open TypeScript

theorem TypeScript.truthy_nat (n : ℕ) : truthy (some (.num (.ofNat n))) = decide (n ≠ 0) := by
  have number : Number.ofNat n ≠ .nan := by simp [Number.ofNat]
  simp [truthy, Number.isZero_ofNat, number]

theorem TypeScript.equalsNumber_nat (n m : ℕ) :
    equalsNumber (.num (.ofNat n)) m = decide (n = m) := Number.eq_ofNat n m

/-- An integer below the engine's switch to exponents is printed in full. -/
theorem TypeScript.template_nat (other : Json.Printer Number) {n : ℕ} (small : n < 2 ^ 32) :
    template other (some (.num (.ofNat n))) = .ok (toString n) := by
  have plain : n < 10 ^ 21 := Nat.lt_trans small (by decide)
  have printed : text other (.num (.ofNat n)) = .ok (toString n) := by
    simp only [text, Number.ofNat, Rat.den_natCast, Rat.num_natCast, Int.natAbs_natCast]
    rw [if_pos ⟨trivial, plain⟩]
    rfl
  rw [template, printed]
  rfl

theorem TypeScript.speaks_version (ours : ℕ) (v : Option UInt16) :
    speaksOurProtocol ours (v.map (.num <| Number.ofNat ·.toNat)) =
      Rust.speaksOurProtocol ours (v.getD 0).toNat := by
  cases v with
  | none => rfl
  | some v =>
    simp only [speaksOurProtocol, Rust.speaksOurProtocol, Option.map_some, Option.getD_some,
      truthy_nat, equalsNumber_nat]
    simp

theorem TypeScript.template_version (other : Json.Printer Number) (v : Option UInt16) :
    template other (orZero (v.map (.num <| Number.ofNat ·.toNat))) =
      .ok (toString (v.getD 0).toNat) := by
  cases v with
  | none => exact template_nat other (by decide : 0 < 2 ^ 32)
  | some v => exact template_nat other (Nat.lt_trans v.toNat_lt (by decide))

theorem TypeScript.template_epoch (other : Json.Printer Number) (v : Option UInt32) :
    template other (orZero (v.map (.num <| Number.ofNat ·.toNat))) =
      .ok (toString (v.getD 0).toNat) := by
  cases v with
  | none => exact template_nat other (by decide : 0 < 2 ^ 32)
  | some v => exact template_nat other v.toNat_lt

/-- A version that is refused is there. -/
theorem TypeScript.template_refused (other : Json.Printer Number) {ours : ℕ} {v : Option UInt16}
    (deaf : speaksOurProtocol ours (v.map (.num <| Number.ofNat ·.toNat)) = false) :
    template other (v.map (.num <| Number.ofNat ·.toNat)) = .ok (toString (v.getD 0).toNat) := by
  cases v with
  | none => cases deaf
  | some v => exact template_nat other (Nat.lt_trans v.toNat_lt (by decide))

theorem TypeScript.readHealth_wire (printer : Printer) (ours : ℕ)
    (answer : Except String WireHealth) :
    readHealth printer ours (answer.map (WireHealth.json Number.ofNat)) =
      .ok (wireFault ours answer) := by
  cases answer with
  | error e => rfl
  | ok h =>
    obtain ⟨fields, json, hs, he, hv⟩ := h.field_json Number.ofNat
    change readHealth printer ours (.ok (h.json Number.ofNat)) = .ok (healthFault ours h.decoded)
    have speaks : speaksOurProtocol ours (h.cryptoProtocolVersion.map (.num <| Number.ofNat ·.toNat)) =
        Rust.speaksOurProtocol ours h.decoded.cryptoProtocolVersion := speaks_version ours _
    have version := template_version printer.other h.cryptoProtocolVersion
    have epoch := template_epoch printer.other h.epoch
    change _ = Except.ok (toString h.decoded.cryptoProtocolVersion) at version
    change _ = Except.ok (toString h.decoded.epoch) at epoch
    change _ = some (Json.str h.decoded.status) at hs
    rw [json]
    simp only [readHealth, hs, he, hv, speaks, version, epoch, healthFault]
    by_cases deaf : (!Rust.speaksOurProtocol ours h.decoded.cryptoProtocolVersion) = true
    · have refused := template_refused printer.other (speaks.trans (by simpa using deaf))
      rw [if_pos deaf, if_pos deaf, refused]
      rfl
    · rw [if_neg deaf, if_neg deaf]
      by_cases active : h.decoded.status = "active"
      · simp [active]
      · rw [if_neg active]
        split
        · rename_i same
          exact absurd (Json.str.inj (Option.some.inj same)) active
        · rfl

theorem TypeScript.contributions_wire {fields : List (String × Value)} {a : WireAnswer}
    {share proof : Bytes} (partialField : Json.field "partial" (.obj fields) = some (.str a.partialHex))
    (proofField : Json.field "proof" (.obj fields) = some (.str a.proof))
    (hs : spelled a.partialHex = some share) (hp : spelled a.proof = some proof) :
    readAnswer.contributions (.obj fields) = .ok (.contributes share proof) := by
  simp only [readAnswer.contributions, hexField, partialField, proofField,
    (fromHex_of_wellFormed hs).2.2, (fromHex_of_wellFormed hp).2.2]

theorem TypeScript.readAnswer_wire {epoch : ℕ} {answer : Except String WireAnswer}
    {reading : Reading ℕ} (h : WireReading epoch answer reading) :
    readAnswer epoch (answer.map (WireAnswer.json Number.ofNat)) =
      .ok (reading.map fun n => .num (.ofNat n)) := by
  cases h with
  | failed e => rfl
  | diverges a h =>
    obtain ⟨fields, json, -, -, epochField⟩ := a.field_json Number.ofNat
    change readAnswer epoch (.ok (a.json Number.ofNat)) = _
    rw [json]
    unfold WireAnswer.diverges WireAnswer.decoded at h
    simp only [readAnswer, epochField, WireAnswer.decoded]
    cases hv : a.servedEpoch with
    | none => simp [hv] at h
    | some e =>
      rw [hv] at h
      simp only [Option.getD_some] at h
      simp only [Option.map_some, truthy_nat, equalsNumber_nat, Option.getD_some]
      rw [if_pos (by simp [h])]
      rfl
  | contributes a h share proof hs hp =>
    obtain ⟨fields, json, partialField, proofField, epochField⟩ := a.field_json Number.ofNat
    change readAnswer epoch (.ok (a.json Number.ofNat)) = _
    rw [json]
    have contributed := contributions_wire partialField proofField hs hp
    unfold WireAnswer.diverges WireAnswer.decoded at h
    simp only [readAnswer, epochField, contributed]
    cases hv : a.servedEpoch with
    | none => rfl
    | some e =>
      rw [hv] at h
      simp only [Option.getD_some] at h
      simp only [Option.map_some, truthy_nat, equalsNumber_nat]
      rw [if_neg (by simpa using h)]
      rfl

end TypeScript

end MatterSdk
