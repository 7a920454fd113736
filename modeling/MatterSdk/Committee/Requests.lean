import MatterSdk.Committee.Scripted
import MatterSdk.Committee.History

/-!
# Requests

Every `/partial-decrypt` request of a Rust run is bound to its recipient: it is signed for exactly
that node, the quorum it is part of and the block of the caller, and carries the coefficient of that
node over that quorum.
-/

namespace MatterSdk

variable {ω τ η ρ κ ε : Type}

namespace Rust

/-- The node has answered its health probe as active, with a compatible protocol. -/
def PassedProbe (deps : Deps ω) (run : Run String Health PartialDecryptResponse ℕ SdkError)
    (node : CommitteeNode) : Prop :=
  ∃ health, (node, .ok health) ∈ run.probes ∧ isActive health = true ∧
    speaksOurProtocol deps.protocolVersion health.cryptoProtocolVersion = true

theorem passedProbe_of_mem_active {deps : Deps ω} {req : DecryptRequest}
    {run : Run String Health PartialDecryptResponse ℕ SdkError}
    (ran : Ran (client deps req) req.task run) {node : CommitteeNode} (h : node ∈ run.active) :
    node ∈ req.nodes ∧ PassedProbe deps run node := by
  obtain ⟨mem, answer, probe, active⟩ :=
    ran.mem_active (fun probe _ => readHealth_total deps.protocolVersion probe.2) h
  obtain ⟨health, rfl, ok⟩ := readHealth_none_iff.1 active
  exact ⟨mem, health, probe, ok⟩

/-- A request of `run` to `node`, `older` being what was logged before it. -/
structure BoundRequest (deps : Deps ω) (req : DecryptRequest)
    (run : Run String Health PartialDecryptResponse ℕ SdkError)
    (older : List (Message String PartialDecryptResponse)) (node : CommitteeNode)
    (request : PartialDecryptRequest) : Prop where
  ascending : request.subset.Pairwise (· < ·)
  length : request.subset.length = req.threshold
  /-- Each index is that of a node which has passed the probe and has not been dropped. -/
  usable : ∀ i ∈ request.subset, .dropped i ∉ older ∧
    ∃ n ∈ req.nodes, n.index = i ∧ PassedProbe deps run n
  own : node ∈ req.nodes ∧ node.index ∈ request.subset
  /-- The message before is the call whose result the request carries. -/
  signed : ∃ context auth rest before after, older = .authorized context auth :: rest ∧
    context =
      { secretId := req.secretId, subset := request.subset, recipientIndex := node.index
        blockHash := req.blockHash, validUntil := none } ∧
    deps.signer.authorize context before = (.ok auth, after) ∧
    request.auth = auth.auth ∧ request.requester = auth.requester ∧
    request.signature = auth.signature ∧ request.ethAddress = auth.ethAddress ∧
    request.validUntil = auth.validUntil ∧ request.ethSignature = auth.ethSignature
  named : request.secretId = secretIdToHex req.secretId ∧
    request.blockHash = to0x req.blockHash
  coefficient : ∃ lambda, lagrangeFor deps.crypto node.index request.subset = .ok lambda ∧
    request.lagrangeCoeff = to0x lambda

/-- The requests of a run are bound, no context is signed for two nodes, and a dropped node is not
asked again. -/
structure RequestsBound (deps : Deps ω) (req : DecryptRequest)
    (run : Run String Health PartialDecryptResponse ℕ SdkError) : Prop where
  bound : ∀ newer node request answer older,
    run.log = newer ++ .asked node request answer :: older →
      BoundRequest deps req run older node request
  apart : ∀ newer node request answer context auth older newer' node' request' answer' context'
    auth' older', run.log = newer ++ .asked node request answer :: .authorized context auth :: older →
      run.log = newer' ++ .asked node' request' answer' :: .authorized context' auth' :: older' →
      node ≠ node' → context ≠ context'
  final : ∀ newer node request answer older,
    run.log = newer ++ .asked node request answer :: older → .dropped node.index ∉ older

theorem boundRequest_of_signed {deps : Deps ω} {req : DecryptRequest}
    {run : Run String Health PartialDecryptResponse ℕ SdkError}
    (ran : Ran (client deps req) req.task run) {node : CommitteeNode}
    {request : PartialDecryptRequest} {answer : Except String PartialDecryptResponse}
    {older : List (Message String PartialDecryptResponse)}
    (signed : Signed (client deps req) req.task older node request answer)
    (eligible : Eligible req.task run.active older (lastQuorum older)) :
    BoundRequest deps req run older node request := by
  have subset := signed.subset
  obtain ⟨lambda, auth, before, world, after, rest, coefficient, authorized, built, -, last⟩ :=
    signed.sent
  rw [← subset] at coefficient authorized built last
  refine ⟨subset ▸ eligible.ascending, ?_, ?_, ⟨?_, ?_⟩, ?_, ?_, lambda, ?_, ?_⟩
  · rw [subset, List.length_map]
    exact eligible.length
  · intro i hi
    rw [subset] at hi
    obtain ⟨n, hn, rfl⟩ := List.mem_map.1 hi
    obtain ⟨mem, passed⟩ := passedProbe_of_mem_active ran (eligible.active n hn)
    exact ⟨fun h => eligible.undropped n hn (mem_dropped.2 h), n, mem, rfl, passed⟩
  · exact (passedProbe_of_mem_active ran (eligible.active node signed.mem)).1
  · exact subset ▸ List.mem_map_of_mem signed.mem
  · refine ⟨_, auth, rest, before, world, last, rfl, authorized, ?_⟩
    rw [built]
    exact ⟨rfl, rfl, rfl, rfl, rfl, rfl⟩
  · rw [built]
    exact ⟨rfl, rfl⟩
  · change (lagrangeFor deps.crypto node.index request.subset).mapError SdkError.core = _
      at coefficient
    cases h : lagrangeFor deps.crypto node.index request.subset with
    | error e => simp [h, Except.mapError] at coefficient
    | ok l => simpa [h, Except.mapError] using coefficient
  · rw [built]
    rfl

theorem decrypt_requestsBound (deps : Deps ω) (req : DecryptRequest) (world : ω)
    (distinct : Distinct req.nodes) : RequestsBound deps req (decrypt deps req world) := by
  have ran : Ran (client deps req) req.task (decrypt deps req world) :=
    decrypt_ran (client deps req) distinct world
  have justified := ran.justified
  have asked {newer node request answer older}
      (h : (decrypt deps req world).log = newer ++ .asked node request answer :: older) :=
    (h ▸ justified : Justified _ _ _ _).asked
  refine ⟨fun newer node request answer older h => ?_, ?_, fun newer node request answer older h => ?_⟩
  · exact boundRequest_of_signed ran (asked h).1 (asked h).2
  · intro newer node request answer context auth older newer' node' request' answer' context' auth'
      older' h h' differ same
    have own := boundRequest_of_signed ran (asked h).1 (asked h).2
    have own' := boundRequest_of_signed ran (asked h').1 (asked h').2
    obtain ⟨_, _, hc⟩ := (asked h).1.authorized
    obtain ⟨_, _, hc'⟩ := (asked h').1.authorized
    obtain ⟨rfl, -⟩ := Message.authorized.inj (List.cons.inj hc).1
    obtain ⟨rfl, -⟩ := Message.authorized.inj (List.cons.inj hc').1
    have index : node.index = node'.index := congrArg SigningRequest.recipientIndex same
    exact differ (List.inj_on_of_nodup_map distinct own.own.1 own'.own.1 index)
  · obtain ⟨signed, eligible⟩ := asked h
    exact fun gone => eligible.undropped node signed.mem (mem_dropped.2 gone)

/-- The first member fails and the second serves epoch 7. -/
def twoDropped : Deps Unit :=
  scriptedDeps (fun _ => .ok activeHealth) fun endpoint =>
    if endpoint = "node1" then .error "connection reset"
    else if endpoint = "node2" then .ok { goodAnswer with servedEpoch := 7 }
    else .ok goodAnswer

/-- Three rounds, in the first two of which a member is dropped. -/
theorem decrypt_requestsBound_dropped :
    dropped (decrypt twoDropped (pairRequest 4) ()).log = [1, 2] ∧
      (answers (decrypt twoDropped (pairRequest 4) ()).log).map (·.1.index) = [1, 2, 3, 4] ∧
      (decrypt twoDropped (pairRequest 4) ()).result = .ok [1] ∧
      RequestsBound twoDropped (pairRequest 4) (decrypt twoDropped (pairRequest 4) ()) := by
  refine ⟨by decide, by decide, by decide, ?_⟩
  exact decrypt_requestsBound _ _ _ (by unfold Distinct; decide)

end Rust

end MatterSdk
