import MatterSdk.Chain.Recovery
import MatterSdk.Chain.StateCalls
import MatterSdk.Wire.SecretId

/-!
# State calls about a secret

The bytes that the runtime answers about a secret, and what the Rust and the Go client read of them.
The Rust client reads a secret by three calls, which may be answered from three blocks.
-/

namespace MatterSdk

variable {ε : Type}

namespace Encoded

/-- `Option<ChainEnvelope>`: four strings of bytes. -/
def secretPayload : Scale (Option EncryptedSecret) :=
  .option ((Scale.pair .bytes (.pair .bytes (.pair .bytes .bytes))).map
    (fun parts => ⟨parts.1, parts.2.1, parts.2.2.1, parts.2.2.2⟩)
    (fun envelope => (envelope.bindingId, envelope.capsule, envelope.proof, envelope.ct)) fun _ => rfl)

/-- `Option<u32>`. -/
def secretEpoch : Scale (Option (BitVec 32)) := .option (.bits 4)

/-- `Option<Vec<u8>>`. -/
def secretAad : Scale (Option Bytes) := .option .bytes

end Encoded

/-- The argument of the calls, a `u128`. -/
def secretIdArg (secretId : BitVec 128) : Bytes := Compact.leBytes 16 secretId.toNat

namespace Rust.Recover

/-- What a node makes of the three records of a secret, `Gives` being how it answers. -/
structure ReportsSecret (Gives : ∀ {α : Type}, String → Bytes → Scale α → α → Prop)
    (secretId : BitVec 128) (record : Option StoredSecret) : Prop where
  payload : Gives "SecretsApi_secret_payload" (secretIdArg secretId) Encoded.secretPayload
    (record.map (·.envelope))
  epoch : Gives "SecretsApi_secret_epoch" (secretIdArg secretId) Encoded.secretEpoch
    (record.map (·.epoch))
  aad : Gives "SecretsApi_secret_aad" (secretIdArg secretId) Encoded.secretAad (record.map (·.aad))

/-- `read_secret`, of the outcomes of its calls. -/
def readSecretFrom (payload : Except SdkError (Option EncryptedSecret))
    (epoch : Except SdkError (Option (BitVec 32))) (aad : Except SdkError (Option Bytes))
    (secretId : BitVec 128) : Except SdkError StoredSecret := do
  match ← payload with
  | none => .error (chainErr "SecretsApi_secret_payload"
      ("secret " ++ toString secretId.toNat ++ " does not exist"))
  | some envelope =>
    match ← epoch with
    | none => .error (chainErr "SecretsApi_secret_epoch"
        ("secret " ++ toString secretId.toNat ++ " has no record"))
    | some epoch =>
      let aad ← aad
      .ok ⟨envelope, epoch, aad.getD []⟩

section

variable (crate : ParityScaleCodec)

/-- `read_secret`, where each call is served by the node as it is then. -/
def readSecretCalls (first second third : StateCall String) (secretId : BitVec 128) :
    Except SdkError StoredSecret :=
  let args := crate.encodeU128 secretId
  readSecretFrom (call crate first Encoded.secretPayload "SecretsApi_secret_payload" args)
    (call crate second Encoded.secretEpoch "SecretsApi_secret_epoch" args)
    (call crate third Encoded.secretAad "SecretsApi_secret_aad" args) secretId

/-- The reader after three calls that are answered from these records. -/
def readThrice (secretId : BitVec 128) (r₁ r₂ r₃ : Option StoredSecret) : ReadSecret :=
  ((ReadSecret.payload.answered secretId r₁).answered secretId r₂).answered secretId r₃

theorem readSecretFrom_ok (secretId : BitVec 128) (r₁ r₂ r₃ : Option StoredSecret) :
    readThrice secretId r₁ r₂ r₃ =
      .done (readSecretFrom (.ok (r₁.map (·.envelope))) (.ok (r₂.map (·.epoch)))
        (.ok (r₃.map (·.aad))) secretId) := by
  cases r₁ with
  | none => rfl
  | some one =>
    cases r₂ with
    | none => rfl
    | some two => rfl

theorem readSecretFrom_below {payload payload' : Except SdkError (Option EncryptedSecret)}
    {epoch epoch' : Except SdkError (Option (BitVec 32))} {aad aad' : Except SdkError (Option Bytes)}
    (first : Below payload payload') (second : Below epoch epoch') (third : Below aad aad')
    (secretId : BitVec 128) :
    Below (readSecretFrom payload epoch aad secretId)
      (readSecretFrom payload' epoch' aad' secretId) := by
  refine first.bind fun envelope _ => ?_
  cases envelope with
  | none => exact below_refl _
  | some envelope =>
    refine second.bind fun epoch _ => ?_
    cases epoch with
    | none => exact below_refl _
    | some epoch => exact third.bind fun _ _ => below_refl _

/-- `committee_info` over the calls, with the finalized head. -/
def committeeInfoAtCalls (stateCall : StateCall String) (finalizedHead : Except String Bytes)
    (epoch : BitVec 32) : Except SdkError CommitteeInfo := do
  let committee ← committeeInfoCalls crate stateCall epoch
  let blockHash ← finalizedHead.mapError (chainErr "chain_getFinalizedHead")
  .ok { epoch, threshold := committee.threshold.toNat, sharedA := committee.sharedA
        nodes := committee.nodes.map nodeOf, blockHash }

variable {ω : Type}

/-- `Secrets::recover`, over the calls that it makes. -/
def recoverCalls (payload : Payload) (deps : Deps ω) (key : Option (KeySigner ω))
    (secretId : BitVec 128) (aad : Bytes) (first second third committee : StateCall String)
    (finalizedHead : Except String Bytes) (world : ω) : Except SdkError Plaintext :=
  match key with
  | none => .error .readOnly
  | some key => do
    let stored ← readSecretCalls crate first second third secretId
    checkAad secretId stored.aad aad
    let info ← committeeInfoAtCalls crate committee finalizedHead stored.epoch
    (decrypt { deps with signer := partialDecryptAuth payload key }
      (decryptRequest secretId info stored.envelope aad) world).result

end

section

variable {crate : ParityScaleCodec} {first second third committee : StateCall String}
  {secretId : BitVec 128} {r₁ r₂ r₃ : Option StoredSecret} {answers : BitVec 32 → ChainAnswers}

theorem readSecretCalls_below (one : ReportsSecret (@Delivers _ first) secretId r₁)
    (two : ReportsSecret (@Delivers _ second) secretId r₂)
    (three : ReportsSecret (@Delivers _ third) secretId r₃) {stored : StoredSecret}
    (read : readSecretCalls crate first second third secretId = .ok stored) :
    readThrice secretId r₁ r₂ r₃ = .done (.ok stored) := by
  rw [readSecretCalls, crate.encodes_u128] at read
  rw [readSecretFrom_ok]
  exact congrArg ReadSecret.done (readSecretFrom_below (call_below one.payload)
    (call_below two.epoch) (call_below three.aad) secretId stored read)

theorem readSecretCalls_eq (one : ReportsSecret (@Answers _ first) secretId r₁)
    (two : ReportsSecret (@Answers _ second) secretId r₂)
    (three : ReportsSecret (@Answers _ third) secretId r₃) :
    readThrice secretId r₁ r₂ r₃ = .done (readSecretCalls crate first second third secretId) := by
  have argument : crate.encodeU128 secretId = secretIdArg secretId := crate.encodes_u128 secretId
  rw [readSecretFrom_ok, readSecretCalls, argument, call_of_answers one.payload,
    call_of_answers two.epoch, call_of_answers three.aad]

theorem committeeInfoAtCalls_below {a : ChainAnswers} {epoch : BitVec 32}
    {finalizedHead : Except String Bytes} (reports : Reports (@Delivers _ committee) epoch a) :
    Below (committeeInfoAtCalls crate committee finalizedHead epoch)
      (committeeInfoAt a finalizedHead epoch) := by
  intro info found
  unfold committeeInfoAtCalls at found
  cases joined : committeeInfoCalls crate committee epoch with
  | error e => simp [joined, bind, Except.bind] at found
  | ok seated =>
    rw [joined] at found
    rw [committeeInfoAt, committeeInfoCalls_below reports seated joined]
    cases finalizedHead with
    | error detail => cases found
    | ok blockHash => exact found

theorem committeeInfoAtCalls_eq {a : ChainAnswers} {epoch : BitVec 32}
    {finalizedHead : Except String Bytes} (reports : Reports (@Answers _ committee) epoch a) :
    committeeInfoAtCalls crate committee finalizedHead epoch = committeeInfoAt a finalizedHead epoch := by
  unfold committeeInfoAtCalls committeeInfoAt
  rw [committeeInfoCalls_eq reports]
  cases committeeInfo a epoch with
  | error e => rfl
  | ok seated =>
    cases finalizedHead <;> rfl

/-- What `recover` makes of answers that fail or are cut short is what it makes of the records, or an
error. -/
theorem recoverCalls_below {payload : Payload} {deps : Deps ω} {key : Option (KeySigner ω)}
    {aad : Bytes} {finalizedHead : Except String Bytes} {world : ω}
    (one : ReportsSecret (@Delivers _ first) secretId r₁)
    (two : ReportsSecret (@Delivers _ second) secretId r₂)
    (three : ReportsSecret (@Delivers _ third) secretId r₃)
    (seated : ∀ epoch, Reports (@Delivers _ committee) epoch (answers epoch)) {plaintext : Plaintext}
    (recovered : recoverCalls crate payload deps key secretId aad first second third committee
      finalizedHead world = .ok plaintext) :
    ∃ stored, readThrice secretId r₁ r₂ r₃ = .done (.ok stored) ∧
      recover payload deps key secretId aad answers finalizedHead (.ok stored) world =
        .ok plaintext := by
  cases key with
  | none => cases recovered
  | some key =>
    unfold recoverCalls at recovered
    cases read : readSecretCalls crate first second third secretId with
    | error e => simp [read, bind, Except.bind] at recovered
    | ok stored =>
      refine ⟨stored, readSecretCalls_below one two three read, ?_⟩
      simp only [read] at recovered
      unfold recover recoverRead
      cases tag : checkAad secretId stored.aad aad with
      | error e => simp [tag, bind, Except.bind] at recovered
      | ok passed =>
        cases joined : committeeInfoAtCalls crate committee finalizedHead stored.epoch with
        | error e => simp [tag, joined, bind, Except.bind] at recovered
        | ok info =>
          simp only [tag, joined, bind, Except.bind] at recovered
          simp only [tag, committeeInfoAtCalls_below (seated stored.epoch) info joined]
          exact recovered

theorem recoverCalls_eq {payload : Payload} {deps : Deps ω} {key : Option (KeySigner ω)}
    {aad : Bytes} {finalizedHead : Except String Bytes} {world : ω}
    (one : ReportsSecret (@Answers _ first) secretId r₁)
    (two : ReportsSecret (@Answers _ second) secretId r₂)
    (three : ReportsSecret (@Answers _ third) secretId r₃)
    (seated : ∀ epoch, Reports (@Answers _ committee) epoch (answers epoch)) :
    ∃ read, readThrice secretId r₁ r₂ r₃ = .done read ∧
      recoverCalls crate payload deps key secretId aad first second third committee finalizedHead world =
        recover payload deps key secretId aad answers finalizedHead read world := by
  refine ⟨readSecretCalls crate first second third secretId, readSecretCalls_eq one two three, ?_⟩
  cases key with
  | none => rfl
  | some key =>
    unfold recoverCalls recover recoverRead
    cases readSecretCalls crate first second third secretId with
    | error e => rfl
    | ok stored =>
      show checkAad secretId stored.aad aad >>= _ = _
      dsimp only
      cases checkAad secretId stored.aad aad with
      | error e => rfl
      | ok passed =>
        show committeeInfoAtCalls crate committee finalizedHead stored.epoch >>= _ = _
        rw [committeeInfoAtCalls_eq (seated stored.epoch)]
        cases committeeInfoAt (answers stored.epoch) finalizedHead stored.epoch <;> rfl

end

end Rust.Recover

namespace Go

open Rust.Recover (ReportsSecret StoredSecret)

section

variable (d : RuntimeDecoder) (stateCall : StateCall Error) (id : SecretID)

def decodeEnvelope : Reader String UInt8 EncryptedSecret :=
  (decodeFields d.decodeBytes (decodeFields d.decodeBytes
    (decodeFields d.decodeBytes d.decodeBytes))).bind fun w =>
      Reader.pure ⟨w.1, w.2.1, w.2.2.1, w.2.2.2⟩

/-- The method `SecretPayload`. -/
def secretPayload : Except Error EncryptedSecret := do
  let raw ← stateCall "SecretsApi_secret_payload" id.leBytes
  match ← decode (decodeFlagged d (decodeEnvelope d)) raw with
  | none => .error (.plain ("secret " ++ id.string ++ " not found on chain"))
  | some envelope => .ok envelope

/-- The method `SecretEpoch`. -/
def secretEpoch : Except Error (BitVec 32) := do
  let raw ← stateCall "SecretsApi_secret_epoch" id.leBytes
  match ← decode (decodeFlagged d d.decodeU32) raw with
  | none => .error (.plain ("secret " ++ id.string ++ " has no epoch"))
  | some e => .ok e

end

/-- `SecretPayload`, of what the chain has. -/
def payloadOf (id : SecretID) : Option EncryptedSecret → Except Error EncryptedSecret
  | none => .error (.plain ("secret " ++ id.string ++ " not found on chain"))
  | some envelope => .ok envelope

/-- `SecretEpoch`, of what the chain has. -/
def epochOf (id : SecretID) : Option (BitVec 32) → Except Error (BitVec 32)
  | none => .error (.plain ("secret " ++ id.string ++ " has no epoch"))
  | some e => .ok e

theorem SecretID.leBytes_eq (id : SecretID) :
    id.leBytes = secretIdArg (BitVec.ofNat 128 id.value) := by
  rw [SecretID.leBytes_eq_reverse, SecretID.bytes_eq, fillBytes, List.reverse_reverse, secretIdArg,
    BitVec.toNat_ofNat, Nat.mod_eq_of_lt id.value_lt]

section

variable {d : RuntimeDecoder} {stateCall : StateCall Error} {id : SecretID}

theorem follows_payload :
    Scale.Follows (decodeFlagged d (decodeEnvelope d)) Encoded.secretPayload := by
  apply follows_flagged
  apply Scale.Follows.map
  exact follows_fields follows_bytes (follows_fields follows_bytes
    (follows_fields follows_bytes follows_bytes))

theorem follows_epoch : Scale.Follows (decodeFlagged d d.decodeU32) Encoded.secretEpoch :=
  follows_flagged fun n _ => d.reads_u32 n

theorem secretPayload_of_answers {o : Option EncryptedSecret}
    (answers : Answers stateCall "SecretsApi_secret_payload" id.leBytes Encoded.secretPayload o) :
    secretPayload d stateCall id = payloadOf id o := by
  obtain ⟨raw, given, decoded⟩ := decode_of_answers answers (follows_payload (d := d))
  rw [secretPayload, given]
  show decode _ raw >>= _ = _
  rw [decoded]
  cases o <;> rfl

theorem secretEpoch_of_answers {o : Option (BitVec 32)}
    (answers : Answers stateCall "SecretsApi_secret_epoch" id.leBytes Encoded.secretEpoch o) :
    secretEpoch d stateCall id = epochOf id o := by
  obtain ⟨raw, given, decoded⟩ := decode_of_answers answers (follows_epoch (d := d))
  rw [secretEpoch, given]
  show decode _ raw >>= _ = _
  rw [decoded]
  cases o <;> rfl

theorem secretPayload_below {o : Option EncryptedSecret}
    (delivers : Delivers stateCall "SecretsApi_secret_payload" id.leBytes Encoded.secretPayload o) :
    Below (secretPayload d stateCall id) (payloadOf id o) := by
  refine below_of_bind fun raw given => below_of_bind fun read decoded => ?_
  have same := decode_below delivers follows_payload given read decoded
  cases same
  cases o <;> exact below_refl _

theorem secretEpoch_below {o : Option (BitVec 32)}
    (delivers : Delivers stateCall "SecretsApi_secret_epoch" id.leBytes Encoded.secretEpoch o) :
    Below (secretEpoch d stateCall id) (epochOf id o) := by
  refine below_of_bind fun raw given => below_of_bind fun read decoded => ?_
  have same := decode_below delivers follows_epoch given read decoded
  cases same
  cases o <;> exact below_refl _

/-- What the Go client reads of a secret, of answers that fail or are cut short. -/
theorem secretReads_below {record : Option StoredSecret}
    (delivers : ReportsSecret (@Delivers _ stateCall) (BitVec.ofNat 128 id.value) record) :
    Below (secretPayload d stateCall id) (payloadOf id (record.map (·.envelope))) ∧
      Below (secretEpoch d stateCall id) (epochOf id (record.map (·.epoch))) := by
  obtain ⟨payload, epoch, -⟩ := delivers
  rw [← id.leBytes_eq] at payload epoch
  exact ⟨secretPayload_below payload, secretEpoch_below epoch⟩

theorem secretReads_of_answers {record : Option StoredSecret}
    (answers : ReportsSecret (@Answers _ stateCall) (BitVec.ofNat 128 id.value) record) :
    secretPayload d stateCall id = payloadOf id (record.map (·.envelope)) ∧
      secretEpoch d stateCall id = epochOf id (record.map (·.epoch)) := by
  obtain ⟨payload, epoch, -⟩ := answers
  rw [← id.leBytes_eq] at payload epoch
  exact ⟨secretPayload_of_answers payload, secretEpoch_of_answers epoch⟩

end

end Go

namespace Rust.Recover

variable {ω : Type} {crate : ParityScaleCodec} {first second third committee : StateCall String}
  {secretId : BitVec 128} {r₁ r₂ r₃ : Option StoredSecret} {answers : BitVec 32 → ChainAnswers}

/-- `recover` over what the nodes send is `recover` over what the chain has, whole answers given; of
answers that fail or are cut short it makes the same plaintext or none.  So does the Go client with
what it reads of a secret. -/
theorem recoverCalls_faithful {payload : Payload} {deps : Deps ω} {key : Option (KeySigner ω)}
    {aad : Bytes} {finalizedHead : Except String Bytes} {world : ω}
    (one : ReportsSecret (@Delivers _ first) secretId r₁)
    (two : ReportsSecret (@Delivers _ second) secretId r₂)
    (three : ReportsSecret (@Delivers _ third) secretId r₃)
    (seated : ∀ epoch, Reports (@Delivers _ committee) epoch (answers epoch)) :
    (∀ plaintext, recoverCalls crate payload deps key secretId aad first second third committee
        finalizedHead world = .ok plaintext →
      ∃ stored, readThrice secretId r₁ r₂ r₃ = .done (.ok stored) ∧
        recover payload deps key secretId aad answers finalizedHead (.ok stored) world =
          .ok plaintext) ∧
      (ReportsSecret (@Answers _ first) secretId r₁ → ReportsSecret (@Answers _ second) secretId r₂ →
        ReportsSecret (@Answers _ third) secretId r₃ →
        (∀ epoch, Reports (@Answers _ committee) epoch (answers epoch)) →
        ∃ read, readThrice secretId r₁ r₂ r₃ = .done read ∧
          recoverCalls crate payload deps key secretId aad first second third committee
              finalizedHead world =
            recover payload deps key secretId aad answers finalizedHead read world) ∧
      ∀ (d : Go.RuntimeDecoder) (go : StateCall Go.Error) (id : Go.SecretID)
        (record : Option StoredSecret),
        ReportsSecret (@Delivers _ go) (BitVec.ofNat 128 id.value) record →
          (∀ envelope, Go.secretPayload d go id = .ok envelope →
            Go.payloadOf id (record.map (·.envelope)) = .ok envelope) ∧
          (∀ epoch, Go.secretEpoch d go id = .ok epoch →
            Go.epochOf id (record.map (·.epoch)) = .ok epoch) ∧
          (ReportsSecret (@Answers _ go) (BitVec.ofNat 128 id.value) record →
            Go.secretPayload d go id = Go.payloadOf id (record.map (·.envelope)) ∧
              Go.secretEpoch d go id = Go.epochOf id (record.map (·.epoch))) :=
  ⟨fun _ recovered => recoverCalls_below one two three seated recovered,
    fun whole whole' whole'' seats => recoverCalls_eq whole whole' whole'' seats,
    fun _ _ _ _ delivers =>
      have reads := Go.secretReads_below delivers
      ⟨reads.1, reads.2, Go.secretReads_of_answers⟩⟩

/-- A node that has this record of the secret. -/
def recordNode (record : Option StoredSecret) : StateCall ε := fun method _ =>
  if method = "SecretsApi_secret_payload" then
    .ok (Encoded.secretPayload.encode (record.map (·.envelope)))
  else if method = "SecretsApi_secret_epoch" then
    .ok (Encoded.secretEpoch.encode (record.map (·.epoch)))
  else if method = "SecretsApi_secret_aad" then .ok (Encoded.secretAad.encode (record.map (·.aad)))
  else .ok []

theorem recordNode_reports {record : Option StoredSecret}
    (payload : Encoded.secretPayload.Valid (record.map (·.envelope)))
    (epoch : Encoded.secretEpoch.Valid (record.map (·.epoch)))
    (aad : Encoded.secretAad.Valid (record.map (·.aad))) (secretId : BitVec 128) :
    ReportsSecret (@Answers ε (recordNode record)) secretId record where
  payload := ⟨payload, [], (congrArg Except.ok (List.append_nil _)).symm⟩
  epoch := ⟨epoch, [], (congrArg Except.ok (List.append_nil _)).symm⟩
  aad := ⟨aad, [], (congrArg Except.ok (List.append_nil _)).symm⟩

theorem ReportsSecret.imp {Gives Gives' : ∀ {α : Type}, String → Bytes → Scale α → α → Prop}
    {record : Option StoredSecret} (reports : ReportsSecret @Gives secretId record)
    (each : ∀ {α : Type} {method : String} {args : Bytes} {c : Scale α} {x : α},
      Gives method args c x → Gives' method args c x) : ReportsSecret @Gives' secretId record where
  payload := each reports.payload
  epoch := each reports.epoch
  aad := each reports.aad

theorem lineStored_reports (x : UInt8) (secretId : BitVec 128) :
    ReportsSecret (@Answers ε (recordNode (some (lineStored x)))) secretId (some (lineStored x)) := by
  apply recordNode_reports
  · simp [Encoded.secretPayload, lineStored]
  · rw [Encoded.secretEpoch, Scale.valid_option]
    exact fun _ _ => trivial
  · simp [Encoded.secretAad, lineStored]

/-- The owner rotates the secret after the first call, and one node is cut short after nine bytes.  The
Go client reads the envelope of the first version. -/
theorem recoverCalls_faithful_line :
    (∃ read, readThrice 7 (some (lineStored 7)) (some (lineStored 8)) (some (lineStored 8)) =
        .done read ∧
      recoverCalls scaleCodec digestProto.payload lineDeps (some digestKey) 7 [6]
          (recordNode (some (lineStored 7))) (recordNode (some (lineStored 8)))
          (recordNode (some (lineStored 8))) (seatedNode soleAnswers soleRows) (.ok lineHead) () =
        recover digestProto.payload lineDeps (some digestKey) 7 [6] (fun _ => soleAnswers)
          (.ok lineHead) read ()) ∧
      (∀ plaintext, recoverCalls scaleCodec digestProto.payload lineDeps (some digestKey) 7 [6]
          (recordNode (some (lineStored 7))) (recordNode (some (lineStored 8)))
          (recordNode (some (lineStored 8))) (cutAfter 9 (seatedNode soleAnswers soleRows))
          (.ok lineHead) () = .ok plaintext →
        ∃ stored, readThrice 7 (some (lineStored 7)) (some (lineStored 8)) (some (lineStored 8)) =
            .done (.ok stored) ∧
          recover digestProto.payload lineDeps (some digestKey) 7 [6] (fun _ => soleAnswers)
            (.ok lineHead) (.ok stored) () = .ok plaintext) ∧
      Go.secretPayload runtimeDecoder (recordNode (some (lineStored 7))) ⟨0, 7⟩ =
        .ok (lineStored 7).envelope := by
  have seven : ReportsSecret (@Answers String (recordNode (some (lineStored 7)))) 7
      (some (lineStored 7)) := lineStored_reports 7 7
  have eight : ReportsSecret (@Answers String (recordNode (some (lineStored 8)))) 7
      (some (lineStored 8)) := lineStored_reports 8 7
  have go : ReportsSecret (@Answers Go.Error (recordNode (some (lineStored 7))))
      (BitVec.ofNat 128 (Go.SecretID.value ⟨0, 7⟩)) (some (lineStored 7)) :=
    lineStored_reports 7 _
  refine ⟨?_, ?_, ?_⟩
  · apply (recoverCalls_faithful (seven.imp Answers.delivers) (eight.imp Answers.delivers)
      (eight.imp Answers.delivers) fun epoch => (soleNode_reports epoch).imp Answers.delivers).2.1
      seven eight eight
    exact soleNode_reports
  · apply (recoverCalls_faithful (seven.imp Answers.delivers) (eight.imp Answers.delivers)
      (eight.imp Answers.delivers) fun epoch =>
        (soleNode_reports epoch).imp fun answers => answers.cutAfter 9).1
  · have reads := (@recoverCalls_faithful _ scaleCodec _ _ _ _ _ _ _ _ _ digestProto.payload lineDeps
      (some digestKey) [6] (.ok lineHead) () (seven.imp Answers.delivers)
      (eight.imp Answers.delivers) (eight.imp Answers.delivers) fun epoch =>
        (soleNode_reports epoch).imp Answers.delivers).2.2 runtimeDecoder _ _ _
      (go.imp Answers.delivers)
    exact (reads.2.2 go).1

end Rust.Recover

end MatterSdk
