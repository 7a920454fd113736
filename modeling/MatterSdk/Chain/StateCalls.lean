import MatterSdk.Chain.AgentKey
import MatterSdk.Chain.CommitteeAgreement
import MatterSdk.Chain.Recover
import MatterSdk.Lib.Scale

/-!
# State calls

The bytes that the runtime answers about a committee and about a secret, and what the Rust and the Go
client read of them.  A client reads what the runtime encoded, whatever stands behind it, and of an
answer that is cut short it makes no committee and no secret.
-/

namespace MatterSdk

variable {ε : Type}

/-- `state_call`, by method and argument. -/
abbrev StateCall (ε : Type) := String → Bytes → Except ε Bytes

/-! ## What the runtime encodes -/

namespace Encoded

/-- `Option<(Vec<u8>, Vec<u8>)>`: the joint key and `shared_a`. -/
def dkgOutput : Scale (Option (Bytes × Bytes)) := .option (.pair .bytes .bytes)

/-- `(u64, u64)`: the size of the committee and its threshold. -/
def thresholdParams : Scale (ℕ × ℕ) := .pair (.nat 8) (.nat 8)

/-- `Vec<(AccountId, u64)>`. -/
def committee : Scale (List (AccountId × ℕ)) := .vec (.pair (.word 32) (.nat 8))

/-- `Vec<(AccountId, NodeInfo)>`: a node by its endpoint and its current index. -/
def kgcNodes : Scale (List (AccountId × Bytes × ℕ)) :=
  .vec (.pair (.word 32) (.pair .bytes (.nat 8)))

/-- `Option<Vec<u8>>`. -/
def shareCommitment : Scale (Option Bytes) := .option .bytes

end Encoded

/-- The call returns the encoding of `a`, and perhaps something behind it. -/
def Answers (stateCall : StateCall ε) {α : Type} (method : String) (args : Bytes) (c : Scale α)
    (a : α) : Prop :=
  c.Valid a ∧ ∃ rest, stateCall method args = .ok (c.encode a ++ rest)

/-- The call fails, or what it returns is the encoding of `a` or cut short from it. -/
def Delivers (stateCall : StateCall ε) {α : Type} (method : String) (args : Bytes) (c : Scale α)
    (a : α) : Prop :=
  c.Valid a ∧ ∀ bytes, stateCall method args = .ok bytes →
    (∃ rest, bytes = c.encode a ++ rest) ∨ ∃ rest, c.encode a = bytes ++ rest

/-- The runtime reports `a` for the epoch, `Gives` being what the node makes of each answer. -/
structure Reports (Gives : ∀ {α : Type}, String → Bytes → Scale α → α → Prop) (epoch : BitVec 32)
    (a : ChainAnswers) : Prop where
  dkgOutput : Gives "KgcApi_dkg_output_at_epoch" (Go.u32le epoch) Encoded.dkgOutput a.dkgOutput
  threshold : ∃ size, Gives "KgcApi_threshold_params_at_epoch" (Go.u32le epoch)
    Encoded.thresholdParams (size, a.threshold.toNat)
  committee : Gives "KgcApi_committee_at_epoch" (Go.u32le epoch) Encoded.committee a.committee
  registry : ∃ rows, Gives "KgcApi_kgc_nodes" [] Encoded.kgcNodes rows ∧
    rows.map (fun row => (row.1, row.2.1)) = a.registry
  commitment : ∀ member ∈ a.committee, Gives "KgcApi_share_commitment"
    (Go.u32le epoch ++ member.1) Encoded.shareCommitment (a.shareCommitment member.1)

/-- The commitments of the members that have one, asked for one after the other. -/
def readCommitments (commitment : AccountId → Except ε (Option Bytes)) :
    List (AccountId × ℕ) → Except ε (List (AccountId × Bytes))
  | [] => .ok []
  | (id, _) :: rest => do
    let answer ← commitment id
    let others ← readCommitments commitment rest
    .ok (match answer with
      | some b => (id, b) :: others
      | none => others)

/-! ## The clients -/

namespace Rust

/-- The crate `parity_scale_codec`, as far as the state calls use it: the decoder of a type in the
format, and the encoders of numbers.  A decoder reads whatever was encoded, and fails where bytes are
missing. -/
structure ParityScaleCodec where
  decode : ∀ {α : Type}, Scale α → Reader String UInt8 α
  encodeU32 : BitVec 32 → Bytes
  encodeU128 : BitVec 128 → Bytes
  follows : ∀ {α : Type} (c : Scale α), Scale.Follows (decode c) c
  encodes_u32 : ∀ n, encodeU32 n = Compact.leBytes 4 n.toNat
  encodes_u128 : ∀ n, encodeU128 n = Compact.leBytes 16 n.toNat

section

variable (crate : ParityScaleCodec)

/-- `call`: the request, and the value at the front of the answer. -/
def call {α : Type} (stateCall : StateCall String) (c : Scale α) (method : String) (args : Bytes) :
    Except SdkError α :=
  match stateCall method args with
  | .error e => .error (chainErr method e)
  | .ok bytes =>
    match crate.decode c bytes with
    | .error e => .error (chainErr method e)
    | .ok (a, _) => .ok a

/-- `committee_info`, of the outcomes of its calls, up to the finalized head. -/
def committeeInfoFrom (dkgOutput : Except SdkError (Option (Bytes × Bytes)))
    (thresholdParams : Except SdkError (ℕ × ℕ)) (committee : Except SdkError (List (AccountId × ℕ)))
    (kgcNodes : Except SdkError (List (AccountId × Bytes × ℕ)))
    (shareCommitment : AccountId → Except SdkError (Option Bytes)) (epoch : BitVec 32) :
    Except SdkError Committee := do
  match ← dkgOutput with
  | none => .error (chainErr "KgcApi_dkg_output_at_epoch"
      ("no DKG output at epoch " ++ toString epoch.toNat))
  | some (_, sharedA) =>
    let (_, threshold) ← thresholdParams
    let committee ← committee
    if committee = [] then
      .error (chainErr "KgcApi_committee_at_epoch"
        ("no committee seated at epoch " ++ toString epoch.toNat))
    else
      let registry ← kgcNodes
      let endpoints := registry.map fun row => (row.1, row.2.1)
      let commitments ← readCommitments shareCommitment committee
      let nodes ← assembleNodes committee endpoints commitments epoch
      if nodes.length < threshold then
        .error (chainErr "KgcApi_kgc_nodes"
          ("only " ++ toString nodes.length ++ " of epoch " ++ toString epoch.toNat ++
            "'s committee is reachable; need " ++ toString threshold))
      else .ok ⟨threshold, sharedA, nodes⟩

def committeeInfoCalls (stateCall : StateCall String) (epoch : BitVec 32) :
    Except SdkError Committee :=
  let epochArgs := crate.encodeU32 epoch
  committeeInfoFrom (call crate stateCall Encoded.dkgOutput "KgcApi_dkg_output_at_epoch" epochArgs)
    (call crate stateCall Encoded.thresholdParams "KgcApi_threshold_params_at_epoch" epochArgs)
    (call crate stateCall Encoded.committee "KgcApi_committee_at_epoch" epochArgs)
    (call crate stateCall Encoded.kgcNodes "KgcApi_kgc_nodes" [])
    (fun id => call crate stateCall Encoded.shareCommitment "KgcApi_share_commitment"
      (epochArgs ++ id)) epoch

end

end Rust

namespace Go

/-- The decoder of the SCALE library, as far as the state calls use it.  It reads lengths, numbers
and strings of bytes of at most `u32` items, and fails where bytes are missing. -/
structure RuntimeDecoder extends ScaleDecoder where
  decodeUintCompact : Reader String UInt8 ℕ
  decodeU64 : Reader String UInt8 ℕ
  decodeBytes : Reader String UInt8 Bytes
  reads_compact : ∀ n < 2 ^ 32, Reader.Decodes decodeUintCompact (Compact.encode n) n
  reads_u64 : ∀ n < 256 ^ 8, Reader.Decodes decodeU64 (Compact.leBytes 8 n) n
  reads_bytes : ∀ b : Bytes, b.length < 2 ^ 32 → Reader.Decodes decodeBytes (Scale.bytes.encode b) b

section

variable (d : RuntimeDecoder)

/-- The two fields of a structure. -/
def decodeFields {α β : Type} (r : Reader String UInt8 α) (s : Reader String UInt8 β) :
    Reader String UInt8 (α × β) :=
  r.bind fun a => s.bind fun b => Reader.pure (a, b)

def decodeSlice {α : Type} (item : Reader String UInt8 α) : Reader String UInt8 (List α) :=
  d.decodeUintCompact.bind fun n => Reader.traverse (fun _ => item) (List.replicate n ())

/-- The flag byte, and behind any but zero a value. -/
def decodeFlagged {α : Type} (item : Reader String UInt8 α) : Reader String UInt8 (Option α) :=
  d.readOneByte.bind fun flag =>
    if flag = 0 then Reader.pure none else item.bind fun a => Reader.pure (some a)

/-- `scale.NewDecoder(bytes.NewReader(raw))`, and what it reads first. -/
def decode {α : Type} (r : Reader String UInt8 α) (raw : Bytes) : Except Error α :=
  match r raw with
  | .error e => .error (.plain e)
  | .ok (a, _) => .ok a

variable (stateCall : StateCall Error)

def dkgSharedAAt (epoch : BitVec 32) : Except Error Bytes := do
  let raw ← (stateCall "KgcApi_dkg_output_at_epoch" (u32le epoch)).mapError (wrapf "DKG output")
  let output ← (decode (decodeFlagged d (decodeFields d.decodeBytes d.decodeBytes)) raw).mapError
    (wrapf "DKG output")
  match output with
  | none => .error (.plain ("no DKG output at epoch " ++ toString epoch.toNat))
  | some (_, sharedA) => .ok sharedA

/-- `int` has 64 bits and a sign. -/
def thresholdAtEpoch (epoch : BitVec 32) : Except Error ℤ := do
  let raw ← stateCall "KgcApi_threshold_params_at_epoch" (u32le epoch)
  let (_, t) ← decode (decodeFields d.decodeU64 d.decodeU64) raw
  .ok (BitVec.ofNat 64 t).toInt

def committeeMembersAt (epoch : BitVec 32) : Except Error (List (AccountId × ℕ)) := do
  let raw ← (stateCall "KgcApi_committee_at_epoch" (u32le epoch)).mapError (wrapf "committee")
  (decode (decodeSlice d (decodeFields d.decodeArray d.decodeU64)) raw).mapError (wrapf "committee")

def nodes : Except Error (List (AccountId × Bytes × ℕ)) := do
  let raw ← stateCall "KgcApi_kgc_nodes" []
  decode (decodeSlice d (decodeFields d.decodeArray (decodeFields d.decodeBytes d.decodeU64))) raw

variable (keepsEmpty : Bool)

/-- `decodeOptionBytes`, on the bytes of an answer. -/
def decodeOptionBytesOf (raw : Bytes) : Except Error (Option Bytes) :=
  if raw = [] then .ok none
  else (decode (decodeFlagged d d.decodeBytes) raw).map (decodeOptionBytes keepsEmpty)

/-- The commitment of a member, in the loop of `CommitteeAt`. -/
def commitmentAt (epoch : BitVec 32) (account : AccountId) : Except Error (Option Bytes) := do
  let raw ← (stateCall "KgcApi_share_commitment" (u32le epoch ++ account)).mapError
    (wrapf ("share commitment at epoch " ++ toString epoch.toNat))
  (decodeOptionBytesOf d keepsEmpty raw).mapError
    (wrapf ("share commitment at epoch " ++ toString epoch.toNat))

end

/-- A map filled row by row keeps the last row of an account. -/
def rowOf (rows : List (AccountId × Bytes)) (account : AccountId) : Option Bytes :=
  (rows.reverse.find? (·.1 = account)).map (·.2)

def commitmentFrom (commitments : List (AccountId × Bytes)) (epoch : BitVec 32)
    (account : AccountId) (index : ℕ) : Except Error Bytes :=
  match rowOf commitments account with
  | none => .error (.plain ("share commitment missing for reachable node " ++ toString index ++
      " at epoch " ++ toString epoch.toNat))
  | some commitment => .ok commitment

/-- `assembleCommittee`, of the rows that were read. -/
def assembleRows (indexSort : IndexSort) (members : List (AccountId × ℕ))
    (endpoints commitments : List (AccountId × Bytes)) (threshold : ℤ) (epoch : BitVec 32) :
    Except Error (List Seat) :=
  if members = [] then
    .error (.plain ("no committee seated at epoch " ++ toString epoch.toNat))
  else
    match seatAll (fun id => absoluteHTTPEndpoint (endpointIn endpoints id))
      (commitmentFrom commitments epoch) members with
    | .error e => .error e
    | .ok nodes =>
      if (nodes.length : ℤ) < threshold then
        .error (.plain ("only " ++ toString nodes.length ++ " of epoch " ++ toString epoch.toNat ++
          "'s committee is reachable; need " ++ toString threshold))
      else .ok (indexSort.sort nodes)

/-- `CommitteeAt`, of the outcomes of its calls, up to the finalized head. -/
def committeeAtFrom (indexSort : IndexSort) (sharedA : Except Error Bytes)
    (threshold : Except Error ℤ) (members : Except Error (List (AccountId × ℕ)))
    (registry : Except Error (List (AccountId × Bytes × ℕ)))
    (commitment : AccountId → Except Error (Option Bytes)) (epoch : BitVec 32) :
    Except Error Committee := do
  let sharedA ← sharedA
  let threshold ← threshold.mapError (wrapf ("threshold at epoch " ++ toString epoch.toNat))
  let members ← members
  let registry ← registry.mapError (wrapf "committee registry")
  let endpoints := registry.map fun row => (row.1, row.2.1)
  let commitments ← readCommitments commitment members
  let nodes ← assembleRows indexSort members endpoints commitments threshold epoch
  .ok ⟨threshold, sharedA, nodes⟩

def committeeAtCalls (d : RuntimeDecoder) (stateCall : StateCall Error) (keepsEmpty : Bool)
    (indexSort : IndexSort) (epoch : BitVec 32) : Except Error Committee :=
  committeeAtFrom indexSort (dkgSharedAAt d stateCall epoch) (thresholdAtEpoch d stateCall epoch)
    (committeeMembersAt d stateCall epoch) (nodes d stateCall)
    (commitmentAt d stateCall keepsEmpty epoch) epoch

end Go

/-! ## Partial answers -/

/-- Whatever the first returns, the second returns. -/
def Below {α : Type} (x y : Except ε α) : Prop := ∀ a, x = .ok a → y = .ok a

section

variable {α β : Type}

theorem below_refl (x : Except ε α) : Below x x := fun _ same => same

theorem below_error (e : ε) (y : Except ε α) : Below (.error e) y := fun _ same => by cases same

theorem Below.bind {x y : Except ε α} {f g : α → Except ε β} (first : Below x y)
    (second : ∀ a, y = .ok a → Below (f a) (g a)) : Below (x >>= f) (y >>= g) := by
  intro b returned
  cases x with
  | error e => cases returned
  | ok a =>
    have given := first a rfl
    rw [given]
    exact second a given b returned

theorem below_of_bind {x : Except ε α} {f : α → Except ε β} {y : Except ε β}
    (each : ∀ a, x = .ok a → Below (f a) y) : Below (x >>= f) y := by
  cases x with
  | error e => exact below_error _ _
  | ok a => exact each a rfl

theorem readCommitments_below {commitment commitment' : AccountId → Except ε (Option Bytes)} :
    ∀ members : List (AccountId × ℕ),
      (∀ member ∈ members, Below (commitment member.1) (commitment' member.1)) →
        Below (readCommitments commitment members) (readCommitments commitment' members)
  | [], _ => below_refl _
  | (_, _) :: rest, each =>
    (each _ (List.mem_cons_self ..)).bind fun _ _ =>
      (readCommitments_below rest fun member mem => each member (List.mem_cons_of_mem _ mem)).bind
        fun _ _ => below_refl _

theorem readCommitments_ok {commitment : AccountId → Except ε (Option Bytes)}
    (found : AccountId → Option Bytes) : ∀ members : List (AccountId × ℕ),
      (∀ member ∈ members, commitment member.1 = .ok (found member.1)) →
        readCommitments commitment members =
          .ok (members.filterMap fun member => (found member.1).map (member.1, ·))
  | [], _ => rfl
  | (id, _) :: rest, each => by
    rw [readCommitments, each _ (List.mem_cons_self ..),
      readCommitments_ok found rest fun member mem => each member (List.mem_cons_of_mem _ mem),
      List.filterMap_cons]
    dsimp only
    cases found id <;> rfl

theorem seatAll_below {endpoint : AccountId → Option Bytes}
    {commitment commitment' : AccountId → ℕ → Except ε Bytes} :
    ∀ members : List (AccountId × ℕ),
      (∀ member ∈ members, Below (commitment member.1 member.2) (commitment' member.1 member.2)) →
        Below (seatAll endpoint commitment members) (seatAll endpoint commitment' members)
  | [], _ => below_refl _
  | (id, index) :: rest, each => by
    have others : Below (seatAll endpoint commitment rest) (seatAll endpoint commitment' rest) :=
      seatAll_below rest fun member mem => each member (List.mem_cons_of_mem _ mem)
    have first := each _ (List.mem_cons_self ..)
    rw [seatAll, seatAll]
    cases endpoint id with
    | none => exact others
    | some endpoint_ =>
      intro nodes found
      dsimp only at found first ⊢
      cases own : commitment id index with
      | error e => simp [own] at found
      | ok b =>
        cases tail : seatAll endpoint commitment rest with
        | error e => simp [own, tail, Except.map] at found
        | ok seats =>
          simp only [own, tail, Except.map] at found
          simp only [first b own, others seats tail, Except.map]
          exact found

theorem seatAll_congr {endpoint : AccountId → Option Bytes}
    {commitment commitment' : AccountId → ℕ → Except ε Bytes} :
    ∀ members : List (AccountId × ℕ),
      (∀ member ∈ members, commitment member.1 member.2 = commitment' member.1 member.2) →
        seatAll endpoint commitment members = seatAll endpoint commitment' members
  | [], _ => rfl
  | (_, _) :: rest, each => by
    rw [seatAll, seatAll, each _ (List.mem_cons_self ..),
      seatAll_congr rest fun member mem => each member (List.mem_cons_of_mem _ mem)]

/-- What is cut short is refused, what is whole is read. -/
theorem Delivers.decoded {stateCall : StateCall ε} {method : String} {args : Bytes} {c : Scale α}
    {a : α} (delivers : Delivers stateCall method args c a) {r : Reader String UInt8 α}
    (follows : Scale.Follows r c) {bytes : Bytes} (given : stateCall method args = .ok bytes) {b : α}
    {rest : Bytes} (decoded : r bytes = .ok (b, rest)) : b = a := by
  obtain ⟨valid, each⟩ := delivers
  have decodes := follows a valid
  have whole (behind : Bytes) (same : bytes = c.encode a ++ behind) : b = a := by
    rw [same, decodes.takes behind] at decoded
    cases decoded
    rfl
  rcases each bytes given with ⟨behind, same⟩ | ⟨missing, cut⟩
  · exact whole behind same
  · by_cases none_ : missing = []
    · exact whole [] (by rw [cut, none_, List.append_nil, List.append_nil])
    · obtain ⟨e, refused⟩ := decodes.refuses bytes missing cut none_
      rw [refused] at decoded
      cases decoded

end

namespace Rust

theorem call_of_answers {crate : ParityScaleCodec} {α : Type} {stateCall : StateCall String}
    {method : String} {args : Bytes} {c : Scale α} {a : α}
    (answers : Answers stateCall method args c a) : call crate stateCall c method args = .ok a := by
  obtain ⟨valid, rest, given⟩ := answers
  simp only [call, given, (crate.follows c a valid).takes rest]

theorem call_below {crate : ParityScaleCodec} {α : Type} {stateCall : StateCall String}
    {method : String} {args : Bytes} {c : Scale α} {a : α}
    (delivers : Delivers stateCall method args c a) :
    Below (call crate stateCall c method args) (.ok a) := by
  unfold call
  cases given : stateCall method args with
  | error e => exact below_error _ _
  | ok bytes =>
    intro b found
    cases decoded : crate.decode c bytes with
    | error e => simp [decoded] at found
    | ok pair =>
      have same := delivers.decoded (crate.follows c) given decoded
      simp only [decoded, Except.ok.injEq] at found
      rw [← found, same]

theorem committeeInfoFrom_below {dkgOutput dkgOutput' : Except SdkError (Option (Bytes × Bytes))}
    {thresholdParams thresholdParams' : Except SdkError (ℕ × ℕ)}
    {committee : Except SdkError (List (AccountId × ℕ))} {members : List (AccountId × ℕ)}
    {kgcNodes kgcNodes' : Except SdkError (List (AccountId × Bytes × ℕ))}
    {shareCommitment shareCommitment' : AccountId → Except SdkError (Option Bytes)}
    {epoch : BitVec 32} (output : Below dkgOutput dkgOutput')
    (params : Below thresholdParams thresholdParams') (seated : Below committee (.ok members))
    (nodes : Below kgcNodes kgcNodes')
    (each : ∀ member ∈ members, Below (shareCommitment member.1) (shareCommitment' member.1)) :
    Below (committeeInfoFrom dkgOutput thresholdParams committee kgcNodes shareCommitment epoch)
      (committeeInfoFrom dkgOutput' thresholdParams' (.ok members) kgcNodes' shareCommitment' epoch) := by
  refine output.bind fun found _ => ?_
  cases found with
  | none => exact below_error _ _
  | some pair =>
    refine params.bind fun _ _ => seated.bind fun committee same => ?_
    cases same
    dsimp only
    split_ifs
    · exact below_error _ _
    · exact nodes.bind fun _ _ => (readCommitments_below members each).bind fun _ _ => below_refl _

theorem committeeInfoFrom_ok {a : ChainAnswers} (size : ℕ) {rows : List (AccountId × Bytes × ℕ)}
    (registry : rows.map (fun row => (row.1, row.2.1)) = a.registry)
    (commitment : AccountId → Except SdkError (Option Bytes))
    (each : ∀ member ∈ a.committee, commitment member.1 = .ok (a.shareCommitment member.1))
    (epoch : BitVec 32) :
    committeeInfoFrom (.ok a.dkgOutput) (.ok (size, a.threshold.toNat)) (.ok a.committee) (.ok rows)
      commitment epoch = committeeInfo a epoch := by
  unfold committeeInfoFrom committeeInfo
  cases a.dkgOutput with
  | none => rfl
  | some pair =>
    have read : readCommitments commitment a.committee = .ok (commitments a) :=
      readCommitments_ok a.shareCommitment _ each
    show (if a.committee = [] then _ else _ : Except SdkError Committee) = _
    dsimp only
    split_ifs with empty
    · rfl
    · rw [read]
      show (assembleNodes a.committee (rows.map fun row => (row.1, row.2.1)) (commitments a) epoch
        >>= _) = _
      rw [registry]
      cases assembleNodes a.committee a.registry (commitments a) epoch <;> rfl

end Rust

namespace Go

section

variable {d : RuntimeDecoder}

theorem follows_array : Scale.Follows d.decodeArray (.word 32) := d.reads_array

theorem follows_u64 : Scale.Follows d.decodeU64 (.nat 8) := d.reads_u64

theorem follows_bytes : Scale.Follows d.decodeBytes .bytes := fun b valid =>
  d.reads_bytes b ((Scale.valid_bytes b).mp valid)

theorem follows_fields {α β : Type} {r : Reader String UInt8 α} {s : Reader String UInt8 β}
    {c : Scale α} {c' : Scale β} (first : Scale.Follows r c) (second : Scale.Follows s c') :
    Scale.Follows (decodeFields r s) (.pair c c') := by
  rintro ⟨a, b⟩ valid
  rw [Scale.valid_pair] at valid
  exact (first a valid.1).bind ((second b valid.2).bind_last (Reader.decodes_pure (a, b)))

theorem follows_slice {α : Type} {item : Reader String UInt8 α} {c : Scale α}
    (each : Scale.Follows item c) : Scale.Follows (decodeSlice d item) (.vec c) := by
  intro l valid
  rw [Scale.valid_vec] at valid
  exact (d.reads_compact l.length valid.1).bind (each.items l valid.2)

theorem follows_flagged {α : Type} {item : Reader String UInt8 α} {c : Scale α}
    (some_ : Scale.Follows item c) : Scale.Follows (decodeFlagged d item) (.option c) := by
  intro o valid
  rw [Scale.valid_option] at valid
  cases o with
  | none => exact (d.reads_byte 0).bind_last (Reader.decodes_pure none)
  | some a =>
    exact (d.reads_byte 1).bind ((some_ a (valid a rfl)).bind_last (Reader.decodes_pure (some a)))

theorem decode_of_answers {α : Type} {stateCall : StateCall Error} {method : String} {args : Bytes}
    {c : Scale α} {a : α} (answers : Answers stateCall method args c a) {r : Reader String UInt8 α}
    (follows : Scale.Follows r c) : ∃ raw, stateCall method args = .ok raw ∧ decode r raw = .ok a := by
  obtain ⟨valid, rest, given⟩ := answers
  refine ⟨_, given, ?_⟩
  rw [decode, (follows a valid).takes rest]

theorem decode_below {α : Type} {stateCall : StateCall Error} {method : String} {args : Bytes}
    {c : Scale α} {a : α} (delivers : Delivers stateCall method args c a)
    {r : Reader String UInt8 α} (follows : Scale.Follows r c) {raw : Bytes}
    (given : stateCall method args = .ok raw) : Below (decode r raw) (.ok a) := by
  intro b found
  unfold decode at found
  cases decoded : r raw with
  | error e => simp [decoded] at found
  | ok pair =>
    have same := delivers.decoded follows given decoded
    simp only [decoded, Except.ok.injEq] at found
    rw [← found, same]

variable {stateCall : StateCall Error} {epoch : BitVec 32} {a : ChainAnswers} {keepsEmpty : Bool}
  {indexSort : IndexSort}

theorem follows_output :
    Scale.Follows (decodeFlagged d (decodeFields d.decodeBytes d.decodeBytes)) Encoded.dkgOutput :=
  follows_flagged (follows_fields follows_bytes follows_bytes)

theorem follows_params : Scale.Follows (decodeFields d.decodeU64 d.decodeU64) Encoded.thresholdParams :=
  follows_fields follows_u64 follows_u64

theorem follows_members :
    Scale.Follows (decodeSlice d (decodeFields d.decodeArray d.decodeU64)) Encoded.committee :=
  follows_slice (follows_fields follows_array follows_u64)

theorem follows_nodes :
    Scale.Follows (decodeSlice d (decodeFields d.decodeArray (decodeFields d.decodeBytes d.decodeU64)))
      Encoded.kgcNodes :=
  follows_slice (follows_fields follows_array (follows_fields follows_bytes follows_u64))

theorem follows_commitment : Scale.Follows (decodeFlagged d d.decodeBytes) Encoded.shareCommitment :=
  follows_flagged follows_bytes

end

/-- `dkgSharedAAt`, of what the chain has. -/
def sharedAOf (epoch : BitVec 32) : Option (Bytes × Bytes) → Except Error Bytes
  | none => .error (.plain ("no DKG output at epoch " ++ toString epoch.toNat))
  | some (_, sharedA) => .ok sharedA

theorem mapError_ok {α : Type} {x : Except Error α} {f : Error → Error} {a : α}
    (mapped : x.mapError f = .ok a) : x = .ok a := by
  cases x with
  | error e => cases mapped
  | ok b => exact mapped

theorem below_mapError {α : Type} {x : Except Error α} {a : α} (f : Error → Error)
    (below : Below x (.ok a)) : Below (x.mapError f) (.ok a) := fun b found => below b (mapError_ok found)

/-- What is made of an answer, once the call has returned one. -/
theorem below_fetched {α : Type} {x : Except Error Bytes} {wrap : Error → Error}
    {f : Bytes → Except Error α} {y : Except Error α} (each : ∀ raw, x = .ok raw → Below (f raw) y) :
    Below (x.mapError wrap >>= f) y :=
  below_of_bind fun raw given => each raw (mapError_ok given)

section

variable {d : RuntimeDecoder} {stateCall : StateCall Error} {epoch : BitVec 32} {a : ChainAnswers}
  {keepsEmpty : Bool} {indexSort : IndexSort}

/-! ### Whole answers -/

theorem dkgSharedAAt_of_answers
    (answers : Answers stateCall "KgcApi_dkg_output_at_epoch" (u32le epoch) Encoded.dkgOutput
      a.dkgOutput) : dkgSharedAAt d stateCall epoch = sharedAOf epoch a.dkgOutput := by
  obtain ⟨raw, given, decoded⟩ := decode_of_answers answers (follows_output (d := d))
  rw [dkgSharedAAt, given]
  show (decode _ raw).mapError _ >>= _ = _
  rw [decoded]
  cases a.dkgOutput <;> rfl

theorem thresholdAtEpoch_of_answers {size : ℕ}
    (answers : Answers stateCall "KgcApi_threshold_params_at_epoch" (u32le epoch)
      Encoded.thresholdParams (size, a.threshold.toNat)) :
    thresholdAtEpoch d stateCall epoch = .ok a.threshold.toInt := by
  obtain ⟨raw, given, decoded⟩ := decode_of_answers answers (follows_params (d := d))
  rw [thresholdAtEpoch, given]
  show decode _ raw >>= _ = _
  rw [decoded]
  show Except.ok (BitVec.ofNat 64 a.threshold.toNat).toInt = _
  rw [BitVec.ofNat_toNat, BitVec.setWidth_eq]

theorem committeeMembersAt_of_answers
    (answers : Answers stateCall "KgcApi_committee_at_epoch" (u32le epoch) Encoded.committee
      a.committee) : committeeMembersAt d stateCall epoch = .ok a.committee := by
  obtain ⟨raw, given, decoded⟩ := decode_of_answers answers (follows_members (d := d))
  rw [committeeMembersAt, given]
  show (decode _ raw).mapError _ = _
  rw [decoded]
  rfl

theorem nodes_of_answers {rows : List (AccountId × Bytes × ℕ)}
    (answers : Answers stateCall "KgcApi_kgc_nodes" [] Encoded.kgcNodes rows) :
    nodes d stateCall = .ok rows := by
  obtain ⟨raw, given, decoded⟩ := decode_of_answers answers (follows_nodes (d := d))
  rw [nodes, given]
  exact decoded

theorem shareCommitment_ne_nil (o : Option Bytes) (rest : Bytes) :
    Encoded.shareCommitment.encode o ++ rest ≠ [] := by
  cases o with
  | none => exact List.cons_ne_nil _ _
  | some b => exact List.cons_ne_nil _ _

theorem commitmentAt_of_answers {account : AccountId} {o : Option Bytes}
    (answers : Answers stateCall "KgcApi_share_commitment" (u32le epoch ++ account)
      Encoded.shareCommitment o) :
    commitmentAt d stateCall keepsEmpty epoch account = .ok (decodeOptionBytes keepsEmpty o) := by
  obtain ⟨valid, rest, given⟩ := answers
  rw [commitmentAt, given]
  show (decodeOptionBytesOf d keepsEmpty (Encoded.shareCommitment.encode o ++ rest)).mapError _ = _
  rw [decodeOptionBytesOf, if_neg (shareCommitment_ne_nil o rest), decode,
    (follows_commitment o valid).takes rest]
  rfl

theorem rowOf_filterMap {found : AccountId → Option Bytes} {members : List (AccountId × ℕ)}
    {member : AccountId × ℕ} (mem : member ∈ members) :
    rowOf (members.filterMap fun m => (found m.1).map (m.1, ·)) member.1 = found member.1 := by
  have seated : member.1 ∈ members.reverse.map (·.1) :=
    List.mem_map_of_mem (List.mem_reverse.mpr mem)
  have looked := Rust.lookupIn_filterMap found member.1 members.reverse
  rw [if_pos seated, List.filterMap_reverse] at looked
  exact looked

theorem assembleRows_eq :
    assembleRows indexSort a.committee a.registry
      (a.committee.filterMap fun m =>
        (decodeOptionBytes keepsEmpty (a.shareCommitment m.1)).map (m.1, ·)) a.threshold.toInt epoch =
      assembleCommittee keepsEmpty indexSort a epoch := by
  have same : seatAll (fun id => absoluteHTTPEndpoint (endpointIn a.registry id))
      (commitmentFrom (a.committee.filterMap fun m =>
        (decodeOptionBytes keepsEmpty (a.shareCommitment m.1)).map (m.1, ·)) epoch) a.committee =
      seatAll (fun id => absoluteHTTPEndpoint (endpointIn a.registry id))
        (commitmentOf keepsEmpty a epoch) a.committee := by
    refine seatAll_congr _ fun member mem => ?_
    have looked := @rowOf_filterMap (fun id => decodeOptionBytes keepsEmpty (a.shareCommitment id))
      a.committee member mem
    rw [commitmentFrom, looked]
    rfl
  unfold assembleRows assembleCommittee
  exact same ▸ rfl

theorem committeeAtFrom_ok {rows : List (AccountId × Bytes × ℕ)}
    (registry : rows.map (fun row => (row.1, row.2.1)) = a.registry)
    (commitment : AccountId → Except Error (Option Bytes))
    (each : ∀ member ∈ a.committee,
      commitment member.1 = .ok (decodeOptionBytes keepsEmpty (a.shareCommitment member.1))) :
    committeeAtFrom indexSort (sharedAOf epoch a.dkgOutput) (.ok a.threshold.toInt) (.ok a.committee)
      (.ok rows) commitment epoch = committeeAt keepsEmpty indexSort a epoch := by
  unfold committeeAtFrom committeeAt
  cases a.dkgOutput with
  | none => rfl
  | some pair =>
    have read := readCommitments_ok
      (fun id => decodeOptionBytes keepsEmpty (a.shareCommitment id)) a.committee each
    show readCommitments commitment a.committee >>= _ = _
    rw [read]
    show assembleRows indexSort a.committee (rows.map fun row => (row.1, row.2.1)) _
      a.threshold.toInt epoch >>= _ = _
    rw [registry, assembleRows_eq]
    cases assembleCommittee keepsEmpty indexSort a epoch <;> rfl

/-! ### Answers cut short -/

theorem dkgSharedAAt_below
    (delivers : Delivers stateCall "KgcApi_dkg_output_at_epoch" (u32le epoch) Encoded.dkgOutput
      a.dkgOutput) : Below (dkgSharedAAt d stateCall epoch) (sharedAOf epoch a.dkgOutput) := by
  refine below_fetched fun raw given => ?_
  have decoded := below_mapError (wrapf "DKG output")
    (decode_below delivers (follows_output (d := d)) given)
  refine decoded.bind (g := sharedAOf epoch) fun o _ => ?_
  cases o with
  | none => exact below_refl _
  | some output => exact below_refl _

theorem thresholdAtEpoch_below {size : ℕ}
    (delivers : Delivers stateCall "KgcApi_threshold_params_at_epoch" (u32le epoch)
      Encoded.thresholdParams (size, a.threshold.toNat)) :
    Below (thresholdAtEpoch d stateCall epoch) (.ok a.threshold.toInt) := by
  refine below_of_bind fun raw given => below_of_bind fun params read => ?_
  have same := decode_below delivers follows_params given params read
  cases same
  show Below (Except.ok (BitVec.ofNat 64 a.threshold.toNat).toInt) _
  rw [BitVec.ofNat_toNat, BitVec.setWidth_eq]
  exact below_refl _

theorem committeeMembersAt_below
    (delivers : Delivers stateCall "KgcApi_committee_at_epoch" (u32le epoch) Encoded.committee
      a.committee) : Below (committeeMembersAt d stateCall epoch) (.ok a.committee) :=
  below_fetched fun _ given => below_mapError _ (decode_below delivers follows_members given)

theorem nodes_below {rows : List (AccountId × Bytes × ℕ)}
    (delivers : Delivers stateCall "KgcApi_kgc_nodes" [] Encoded.kgcNodes rows) :
    Below (nodes d stateCall) (.ok rows) :=
  below_of_bind fun _ given => decode_below delivers follows_nodes given

/-- A commitment that is found is the member's own; an answer of no bytes passes for none. -/
theorem commitmentAt_found {account : AccountId} {o : Option Bytes}
    (delivers : Delivers stateCall "KgcApi_share_commitment" (u32le epoch ++ account)
      Encoded.shareCommitment o) {b : Bytes}
    (found : commitmentAt d stateCall keepsEmpty epoch account = .ok (some b)) :
    decodeOptionBytes keepsEmpty o = some b := by
  unfold commitmentAt at found
  cases given : stateCall "KgcApi_share_commitment" (u32le epoch ++ account) with
  | error e => simp [given, Except.mapError, bind, Except.bind] at found
  | ok raw =>
    simp only [given] at found
    have read := mapError_ok found
    unfold decodeOptionBytesOf at read
    split_ifs at read with empty
    · cases read
    cases decoded : decode (decodeFlagged d d.decodeBytes) raw with
    | error e => simp [decoded, Except.map] at read
    | ok o' =>
      have same := decode_below delivers follows_commitment given o' decoded
      simp only [decoded, Except.map, Except.ok.injEq] at read
      rw [Except.ok.inj same]
      exact read

theorem readCommitments_found {commitment : AccountId → Except Error (Option Bytes)} :
    ∀ (members : List (AccountId × ℕ)) {table : List (AccountId × Bytes)},
      readCommitments commitment members = .ok table →
        ∀ row ∈ table, commitment row.1 = .ok (some row.2)
  | [], table, read, row, mem => by
    cases read
    cases mem
  | (id, index) :: rest, table, read, row, mem => by
    rw [readCommitments] at read
    cases own : commitment id with
    | error e => simp [own, bind, Except.bind] at read
    | ok answer =>
      cases others : readCommitments commitment rest with
      | error e => simp [own, others, bind, Except.bind] at read
      | ok tail =>
        simp only [own, others, bind, Except.bind, Except.ok.injEq] at read
        cases answer with
        | none => exact readCommitments_found rest (read ▸ others) row mem
        | some b =>
          subst read
          rcases List.mem_cons.mp mem with rfl | mem
          · exact own
          · exact readCommitments_found rest others row mem

theorem mem_of_rowOf {rows : List (AccountId × Bytes)} {account : AccountId} {b : Bytes}
    (looked : rowOf rows account = some b) : (account, b) ∈ rows := by
  obtain ⟨row, found, rfl⟩ := Option.map_eq_some_iff.mp looked
  have own : row.1 = account := by simpa using List.find?_some found
  exact own ▸ List.mem_reverse.mp (List.mem_of_find?_eq_some found)

theorem assembleRows_below {members : List (AccountId × ℕ)}
    {endpoints commitments commitments' : List (AccountId × Bytes)} {threshold : ℤ}
    (each : ∀ member ∈ members, ∀ b, rowOf commitments member.1 = some b →
      rowOf commitments' member.1 = some b) :
    Below (assembleRows indexSort members endpoints commitments threshold epoch)
      (assembleRows indexSort members endpoints commitments' threshold epoch) := by
  have seats : Below
      (seatAll (fun id => absoluteHTTPEndpoint (endpointIn endpoints id))
        (commitmentFrom commitments epoch) members)
      (seatAll (fun id => absoluteHTTPEndpoint (endpointIn endpoints id))
        (commitmentFrom commitments' epoch) members) := by
    refine seatAll_below members fun member mem => ?_
    unfold commitmentFrom
    cases looked : rowOf commitments member.1 with
    | none => exact below_error _ _
    | some b =>
      rw [each member mem b looked]
      exact below_refl _
  intro nodes found
  unfold assembleRows at found ⊢
  split_ifs at found ⊢ with empty
  cases seated : seatAll (fun id => absoluteHTTPEndpoint (endpointIn endpoints id))
      (commitmentFrom commitments epoch) members with
  | error e => simp [seated] at found
  | ok nodes' =>
    simp only [seated] at found
    simp only [seats nodes' seated]
    exact found

theorem committeeAtFrom_below {sharedA sharedA' : Except Error Bytes} {threshold : Except Error ℤ}
    {t : ℤ} {members : Except Error (List (AccountId × ℕ))} {seated : List (AccountId × ℕ)}
    {registry : Except Error (List (AccountId × Bytes × ℕ))} {rows : List (AccountId × Bytes × ℕ)}
    {commitment : AccountId → Except Error (Option Bytes)} {found : AccountId → Option Bytes}
    (output : Below sharedA sharedA') (params : Below threshold (.ok t))
    (committee : Below members (.ok seated)) (nodes : Below registry (.ok rows))
    (each : ∀ member ∈ seated, ∀ b, commitment member.1 = .ok (some b) → found member.1 = some b) :
    Below (committeeAtFrom indexSort sharedA threshold members registry commitment epoch)
      (committeeAtFrom indexSort sharedA' (.ok t) (.ok seated) (.ok rows) (fun id => .ok (found id))
        epoch) := by
  refine output.bind fun shared _ => (below_mapError _ params).bind fun _ same => ?_
  cases same
  refine committee.bind fun _ same => ?_
  cases same
  refine (below_mapError _ nodes).bind fun _ same => ?_
  cases same
  refine below_of_bind fun table read => ?_
  rw [readCommitments_ok found seated fun _ _ => rfl]
  refine Below.bind (assembleRows_below fun member mem b looked => ?_) fun _ _ => below_refl _
  rw [rowOf_filterMap mem]
  exact each member mem b (readCommitments_found seated read _ (mem_of_rowOf looked))

end

end Go

section Faithful

variable {crate : Rust.ParityScaleCodec} {rust : StateCall String} {go : StateCall Go.Error}
  {d : Go.RuntimeDecoder}
  {keepsEmpty : Bool} {indexSort : Go.IndexSort} {epoch : BitVec 32} {a : ChainAnswers}

theorem Rust.committeeInfoCalls_below (reports : Reports (@Delivers _ rust) epoch a) :
    Below (Rust.committeeInfoCalls crate rust epoch) (Rust.committeeInfo a epoch) := by
  obtain ⟨size, params⟩ := reports.threshold
  obtain ⟨rows, listed, registry⟩ := reports.registry
  have argument : crate.encodeU32 epoch = Go.u32le epoch := crate.encodes_u32 epoch
  rw [← Rust.committeeInfoFrom_ok size registry (fun id => .ok (a.shareCommitment id))
    (fun _ _ => rfl) epoch, Rust.committeeInfoCalls, argument]
  exact Rust.committeeInfoFrom_below (Rust.call_below reports.dkgOutput) (Rust.call_below params)
    (Rust.call_below reports.committee) (Rust.call_below listed)
    fun member mem => Rust.call_below (reports.commitment member mem)

theorem Rust.committeeInfoCalls_eq (reports : Reports (@Answers _ rust) epoch a) :
    Rust.committeeInfoCalls crate rust epoch = Rust.committeeInfo a epoch := by
  have argument : crate.encodeU32 epoch = Go.u32le epoch := crate.encodes_u32 epoch
  obtain ⟨size, params⟩ := reports.threshold
  obtain ⟨rows, listed, registry⟩ := reports.registry
  rw [Rust.committeeInfoCalls, argument, Rust.call_of_answers reports.dkgOutput,
    Rust.call_of_answers params, Rust.call_of_answers reports.committee, Rust.call_of_answers listed]
  have each : ∀ member ∈ a.committee, Rust.call crate rust Encoded.shareCommitment
      "KgcApi_share_commitment" (Go.u32le epoch ++ member.1) = .ok (a.shareCommitment member.1) :=
    fun member mem => Rust.call_of_answers (reports.commitment member mem)
  exact Rust.committeeInfoFrom_ok size registry _ each epoch

theorem Go.committeeAtCalls_below (reports : Reports (@Delivers _ go) epoch a) :
    Below (Go.committeeAtCalls d go keepsEmpty indexSort epoch)
      (Go.committeeAt keepsEmpty indexSort a epoch) := by
  obtain ⟨size, params⟩ := reports.threshold
  obtain ⟨rows, listed, registry⟩ := reports.registry
  rw [← Go.committeeAtFrom_ok registry
    (fun id => .ok (Go.decodeOptionBytes keepsEmpty (a.shareCommitment id))) fun _ _ => rfl]
  apply Go.committeeAtFrom_below (Go.dkgSharedAAt_below reports.dkgOutput)
    (Go.thresholdAtEpoch_below params) (Go.committeeMembersAt_below reports.committee)
    (Go.nodes_below listed)
  intro member mem b found
  exact Go.commitmentAt_found (reports.commitment member mem) found

theorem Go.committeeAtCalls_eq (reports : Reports (@Answers _ go) epoch a) :
    Go.committeeAtCalls d go keepsEmpty indexSort epoch =
      Go.committeeAt keepsEmpty indexSort a epoch := by
  obtain ⟨size, params⟩ := reports.threshold
  obtain ⟨rows, listed, registry⟩ := reports.registry
  rw [Go.committeeAtCalls, Go.dkgSharedAAt_of_answers reports.dkgOutput,
    Go.thresholdAtEpoch_of_answers params, Go.committeeMembersAt_of_answers reports.committee,
    Go.nodes_of_answers listed]
  exact Go.committeeAtFrom_ok registry _ fun member mem =>
    Go.commitmentAt_of_answers (reports.commitment member mem)

/-- Of whole answers the two clients make what the chain has.  Of answers that fail or are cut short
they make that or nothing. -/
theorem stateCalls_faithful (delivered : Reports (@Delivers _ rust) epoch a)
    (delivered' : Reports (@Delivers _ go) epoch a) :
    (∀ c, Rust.committeeInfoCalls crate rust epoch = .ok c → Rust.committeeInfo a epoch = .ok c) ∧
      (∀ c, Go.committeeAtCalls d go keepsEmpty indexSort epoch = .ok c →
        Go.committeeAt keepsEmpty indexSort a epoch = .ok c) ∧
      (Reports (@Answers _ rust) epoch a →
        Rust.committeeInfoCalls crate rust epoch = Rust.committeeInfo a epoch) ∧
      (Reports (@Answers _ go) epoch a →
        Go.committeeAtCalls d go keepsEmpty indexSort epoch =
          Go.committeeAt keepsEmpty indexSort a epoch) :=
  ⟨Rust.committeeInfoCalls_below delivered, Go.committeeAtCalls_below delivered',
    Rust.committeeInfoCalls_eq, Go.committeeAtCalls_eq⟩

end Faithful

/-! ## A node -/

/-- A node that answers for one epoch; the size of the committee stands beside its threshold. -/
def seatedNode (a : ChainAnswers) (rows : List (AccountId × Bytes × ℕ)) : StateCall ε :=
  fun method args =>
    if method = "KgcApi_dkg_output_at_epoch" then .ok (Encoded.dkgOutput.encode a.dkgOutput)
    else if method = "KgcApi_threshold_params_at_epoch" then
      .ok (Encoded.thresholdParams.encode (a.committee.length, a.threshold.toNat))
    else if method = "KgcApi_committee_at_epoch" then .ok (Encoded.committee.encode a.committee)
    else if method = "KgcApi_kgc_nodes" then .ok (Encoded.kgcNodes.encode rows)
    else if method = "KgcApi_share_commitment" then
      .ok (Encoded.shareCommitment.encode (a.shareCommitment (args.drop 4)))
    else .ok []

/-- The node's answers do not get further than `n` bytes. -/
def cutAfter (n : ℕ) (node : StateCall ε) : StateCall ε := fun method args =>
  (node method args).map (List.take n)

theorem Answers.delivers {α : Type} {node : StateCall ε} {method : String} {args : Bytes}
    {c : Scale α} {a : α} (answers : Answers node method args c a) :
    Delivers node method args c a := by
  obtain ⟨valid, rest, given⟩ := answers
  refine ⟨valid, fun bytes found => .inl ⟨rest, ?_⟩⟩
  rw [given] at found
  exact (Except.ok.inj found).symm

theorem Answers.cutAfter {α : Type} {node : StateCall ε} {method : String} {args : Bytes}
    {c : Scale α} {a : α} (answers : Answers node method args c a) (n : ℕ) :
    Delivers (cutAfter n node) method args c a := by
  obtain ⟨valid, rest, given⟩ := answers
  refine ⟨valid, fun bytes found => ?_⟩
  unfold MatterSdk.cutAfter at found
  rw [given] at found
  obtain rfl : (c.encode a ++ rest).take n = bytes := Except.ok.inj found
  rw [List.take_append]
  by_cases whole : (c.encode a).length ≤ n
  · exact .inl ⟨rest.take (n - (c.encode a).length), by rw [List.take_of_length_le whole]⟩
  · refine .inr ⟨(c.encode a).drop n, ?_⟩
    rw [Nat.sub_eq_zero_of_le (Nat.le_of_not_le whole), List.take_zero, List.append_nil,
      List.take_append_drop]

theorem seatedNode_reports {a : ChainAnswers} {rows : List (AccountId × Bytes × ℕ)}
    {epoch : BitVec 32} (output : Encoded.dkgOutput.Valid a.dkgOutput)
    (params : Encoded.thresholdParams.Valid (a.committee.length, a.threshold.toNat))
    (committee : Encoded.committee.Valid a.committee) (nodes : Encoded.kgcNodes.Valid rows)
    (registry : rows.map (fun row => (row.1, row.2.1)) = a.registry)
    (commitment : ∀ id, Encoded.shareCommitment.Valid (a.shareCommitment id)) :
    Reports (@Answers ε (seatedNode a rows)) epoch a where
  dkgOutput := ⟨output, [], (congrArg Except.ok (List.append_nil _)).symm⟩
  threshold := ⟨a.committee.length, params, [], (congrArg Except.ok (List.append_nil _)).symm⟩
  committee := ⟨committee, [], (congrArg Except.ok (List.append_nil _)).symm⟩
  registry := ⟨rows, ⟨nodes, [], (congrArg Except.ok (List.append_nil _)).symm⟩, registry⟩
  commitment member _ := by
    refine ⟨commitment member.1, [], ?_⟩
    have behind : (Go.u32le epoch ++ member.1).drop 4 = member.1 :=
      List.drop_left' (Go.length_u32le epoch)
    show Except.ok (Encoded.shareCommitment.encode (a.shareCommitment
      ((Go.u32le epoch ++ member.1).drop 4))) = _
    rw [behind, List.append_nil]

theorem Reports.imp {Gives Gives' : ∀ {α : Type}, String → Bytes → Scale α → α → Prop}
    {epoch : BitVec 32} {a : ChainAnswers} (reports : Reports @Gives epoch a)
    (each : ∀ {α : Type} {method : String} {args : Bytes} {c : Scale α} {x : α},
      Gives method args c x → Gives' method args c x) : Reports @Gives' epoch a where
  dkgOutput := each reports.dkgOutput
  threshold := reports.threshold.imp fun _ params => each params
  committee := each reports.committee
  registry := reports.registry.imp fun _ rows => ⟨each rows.1, rows.2⟩
  commitment member mem := each (reports.commitment member mem)

def runtimeDecoder : Go.RuntimeDecoder where
  toScaleDecoder := Go.scaleDecoder
  decodeUintCompact := Scale.length.decode
  decodeU64 := (Scale.nat 8).decode
  decodeBytes := Scale.bytes.decode
  reads_compact := Scale.length.decodes
  reads_u64 := (Scale.nat 8).decodes
  reads_bytes b small := Scale.bytes.decodes b ((Scale.valid_bytes b).mpr small)

def scaleCodec : Rust.ParityScaleCodec where
  decode c := c.decode
  encodeU32 n := Compact.leBytes 4 n.toNat
  encodeU128 n := Compact.leBytes 16 n.toNat
  follows c := c.decodes
  encodes_u32 _ := rfl
  encodes_u128 _ := rfl

def soleEndpoint : Bytes := utf8 "https://one".toList

/-- One seated node, whose endpoint the registry has. -/
def soleAnswers : ChainAnswers where
  dkgOutput := some ([1], [2])
  threshold := 1
  committee := [(List.replicate 32 7, 1)]
  registry := [(List.replicate 32 7, soleEndpoint)]
  shareCommitment id := if id = List.replicate 32 7 then some [3] else none

def soleRows : List (AccountId × Bytes × ℕ) := [(List.replicate 32 7, soleEndpoint, 1)]

theorem soleNode_reports (epoch : BitVec 32) :
    Reports (@Answers ε (seatedNode soleAnswers soleRows)) epoch soleAnswers := by
  apply seatedNode_reports
  · simp [soleAnswers, Encoded.dkgOutput]
  · simp [soleAnswers, Encoded.thresholdParams, Scale.nat]
  · simp [soleAnswers, Encoded.committee, Scale.nat, Scale.word]
  · have short : soleEndpoint.length < 2 ^ 32 := by decide
    simpa [soleRows, Encoded.kgcNodes, Scale.nat, Scale.word] using short
  · rfl
  · intro id
    simp only [soleAnswers]
    split_ifs <;> simp [Encoded.shareCommitment]

/-- A node answers the Rust client in full, and the Go client no more than forty bytes. -/
theorem stateCalls_faithful_sole :
    Rust.committeeInfoCalls scaleCodec (seatedNode soleAnswers soleRows) 5 =
        Rust.committeeInfo soleAnswers 5 ∧
      ∀ c, Go.committeeAtCalls runtimeDecoder (cutAfter 40 (seatedNode soleAnswers soleRows)) false
        stableSort 5 = .ok c → Go.committeeAt false stableSort soleAnswers 5 = .ok c := by
  have whole : Reports (@Answers String (seatedNode soleAnswers soleRows)) 5 soleAnswers :=
    soleNode_reports 5
  have cut : Reports (@Delivers Go.Error (cutAfter 40 (seatedNode soleAnswers soleRows))) 5
      soleAnswers := (soleNode_reports 5).imp fun answers => answers.cutAfter 40
  obtain ⟨-, go, rust, -⟩ := stateCalls_faithful (whole.imp Answers.delivers) cut
  exact ⟨rust whole, go⟩

end MatterSdk
