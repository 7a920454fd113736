import MatterSdk.Committee.Authorization
import MatterSdk.Committee.Availability
import MatterSdk.Committee.Requests
import MatterSdk.OpeningChecks

/-!
# Delivery

A Rust decrypt among nodes of which some are down, inactive, slow to follow a rotation or refuse a
request that they cannot authenticate, but none of which lies: as long as `threshold` of them serve,
it returns what was sealed.
-/

namespace MatterSdk.Rust

variable {ω : Type}

section

variable (deps : Deps ω) (proto : AuthScheme.Proto) (req : DecryptRequest)

/-- A request that the node authenticates, for the secret at the block, over a quorum of the committee
that the node is in and under its coefficient over that quorum. -/
structure Regular (n : CommitteeNode) (request : PartialDecryptRequest) : Prop where
  authentic : authenticates proto req.secretId req.blockHash n.index request = true
  named : request.secretId = secretIdToHex req.secretId ∧ request.blockHash = to0x req.blockHash
  ascending : request.subset.Pairwise (· < ·)
  length : request.subset.length = req.threshold
  inside : ∀ i ∈ request.subset, ∃ m ∈ req.nodes, m.index = i
  own : n.index ∈ request.subset
  coefficient : ∃ lambda, lagrangeFor deps.crypto n.index request.subset = .ok lambda ∧
    request.lagrangeCoeff = to0x lambda

/-- The node is active, and contributes to every regular request. -/
structure Serves (n : CommitteeNode) : Prop where
  active : ∀ w, ∃ health w', deps.transport.health n.endpoint w = (.ok health, w') ∧
    isActive health = true ∧
    speaksOurProtocol deps.protocolVersion health.cryptoProtocolVersion = true
  answers : ∀ request w, Regular deps proto req n request →
    ∃ resp w', deps.transport.partialDecrypt n.endpoint request w = (.ok resp, w') ∧
      Accepts req resp

/-- What the node answers to a regular request, for the epoch of the run, contributes a partial that is
good for the node's coefficient over the quorum of the request. -/
def Truthful (Good : deps.crypto.Lambda → PartialInput → Prop) (n : CommitteeNode) : Prop :=
  ∀ request w resp w', Regular deps proto req n request →
    deps.transport.partialDecrypt n.endpoint request w = (.ok resp, w') → Accepts req resp →
      ∃ p, contribution (n, .ok resp) = some p ∧
        Good (deps.crypto.lagrangeCoefficient n.index request.subset) p

/-- The node may answer a regular request for another epoch. -/
def Strays (n : CommitteeNode) (epoch : ℕ) : Prop :=
  ∃ request w resp w', Regular deps proto req n request ∧
    deps.transport.partialDecrypt n.endpoint request w = (.ok resp, w') ∧
    resp.servedEpoch = epoch ∧ epoch ≠ 0 ∧ epoch ≠ req.epoch

/-- `serving` holds `threshold` nodes that serve, no node lies, and no `threshold` of them stray to
one epoch. -/
structure CrashFaulty (Good : deps.crypto.Lambda → PartialInput → Prop)
    (serving : List CommitteeNode) : Prop where
  positive : 1 ≤ req.threshold
  typed : req.task.Typed
  nonzero : ∀ n ∈ req.nodes, n.index ≠ 0
  member : ∀ n ∈ serving, n ∈ req.nodes
  nodup : serving.Nodup
  enough : req.threshold ≤ serving.length
  serves : ∀ n ∈ serving, Serves deps proto req n
  truthful : ∀ n ∈ req.nodes, Truthful deps proto req Good n
  strays : ∀ epoch, ∀ voters : List CommitteeNode, voters.Nodup →
    (∀ n ∈ voters, n ∈ req.nodes ∧ Strays deps proto req n epoch) → voters.length < req.threshold

/-- The caller's part: its key signs for every quorum of the request, and every coefficient over a
valid subset can be serialized. -/
structure Equipped (key : KeySigner ω) : Prop where
  signer : deps.signer = partialDecryptAuth proto.payload key
  correct : key.Correct proto
  willing : ∀ subset, subset ⊆ req.nodes.map (·.index) → subset.length = req.threshold →
    ∀ index w, ∃ signature w',
      key.sign (proto.payload req.secretId subset req.blockHash index) w = (.ok signature, w')
  total : ∀ point subset, ValidSubset subset → point ∈ subset →
    ∃ lambda, lagrangeFor deps.crypto point subset = .ok lambda

/-- The node has answered a regular request. -/
structure RegularExchange (n : CommitteeNode) (request : PartialDecryptRequest)
    (answer : Except String PartialDecryptResponse) : Prop where
  mem : n ∈ req.nodes
  regular : Regular deps proto req n request
  sent : ∃ w w', deps.transport.partialDecrypt n.endpoint request w = (answer, w')

end

section

variable {deps : Deps ω} {proto : AuthScheme.Proto} {req : DecryptRequest}
  {Good : deps.crypto.Lambda → PartialInput → Prop} {serving : List CommitteeNode} {key : KeySigner ω}
  {run : Run String Health PartialDecryptResponse ℕ SdkError}

theorem Equipped.authorizes (equipped : Equipped deps proto req key) {subset : List ℕ}
    (inside : subset ⊆ req.nodes.map (·.index)) (length : subset.length = req.threshold) (index : ℕ)
    (w : ω) : ∃ auth w', deps.signer.authorize (req.task.context subset index) w = (.ok auth, w') := by
  obtain ⟨signature, w', signed⟩ := equipped.willing subset inside length index w
  have context : key.sign (proto.payload (req.task.context subset index).secretId
      (req.task.context subset index).subset (req.task.context subset index).blockHash
      (req.task.context subset index).recipientIndex) w = (.ok signature, w') := signed
  refine ⟨substrateAuth to0x key.accountId signature, w', ?_⟩
  simp only [equipped.signer, partialDecryptAuth, context]

/-- Every request of a run is regular, over the quorum last formed. -/
theorem regular_of_asked (ran : Ran (client deps req) req.task run)
    (authenticated : Authenticated proto key.toKey req.task run.log) {n : CommitteeNode}
    {request : PartialDecryptRequest} {answer : Except String PartialDecryptResponse}
    {newer older : List (Message String PartialDecryptResponse)}
    (logged : run.log = newer ++ .asked n request answer :: older) :
    RegularExchange deps proto req n request answer ∧
      request.subset = (lastQuorum older).map (·.index) := by
  obtain ⟨signed, eligible⟩ := (logged ▸ ran.justified : Justified _ _ _ _).asked
  have bound := boundRequest_of_signed ran signed eligible
  have authentic := authenticated n request answer (by rw [logged]; simp)
  obtain ⟨_, _, _, w, w', _, -, -, -, sent, -⟩ := signed.sent
  refine ⟨⟨bound.own.1, ⟨authentic.own, bound.named, bound.ascending, bound.length, fun i mem => ?_,
    bound.own.2, bound.coefficient⟩, w, w', sent⟩, signed.subset⟩
  obtain ⟨-, m, listed, index, -⟩ := bound.usable i mem
  exact ⟨m, listed, index⟩

/-- A serving node passes the probe. -/
theorem CrashFaulty.mem_active (faulty : CrashFaulty deps proto req Good serving)
    {s : Probed ω String Health} (sound : s.Sound (client deps req) req.nodes) {n : CommitteeNode}
    (mem : n ∈ serving) : n ∈ s.active := by
  have probed : n ∈ s.probes.map Prod.fst := sound.probes.symm ▸ faulty.member n mem
  obtain ⟨⟨_, answer⟩, probe, rfl⟩ := List.mem_map.1 probed
  obtain ⟨w, w', sent⟩ := sound.sent _ probe
  obtain ⟨health, w'', given, active, speaks⟩ := (faulty.serves _ mem).active w
  have same : answer = .ok health := congrArg Prod.fst (sent.symm.trans given)
  exact sound.mem_active.2 ⟨answer, probe, readHealth_none_iff.2 ⟨health, same, active, speaks⟩⟩

/-- Fewer than `threshold` votes are cast for any one epoch. -/
theorem CrashFaulty.votes_lt (faulty : CrashFaulty deps proto req Good serving)
    (voted : Voted (client deps req) run.log run.votes)
    (answered : ∀ n answer, (n, answer) ∈ answers run.log →
      ∃ request, RegularExchange deps proto req n request answer) (epoch : ℕ) :
    Tally.votes Tally.eqKey run.votes epoch < req.threshold := by
  have counted : run.votes = Tally.tally Tally.eqKey (epochVotes deps req run) := voted.counted
  rw [counted, Tally.votes_tally]
  obtain ⟨voters, nodup, length, reported⟩ := exists_voters voted.once epoch
  rw [← length]
  refine faulty.strays epoch voters (nodup.of_map _) fun n hn => ?_
  obtain ⟨resp, asked, served, nonzero, differs⟩ := reported n hn
  obtain ⟨request, mem, regular, w, w', sent⟩ := answered n _ asked
  exact ⟨mem, request, w, resp, w', regular, sent, served, nonzero, differs⟩

/-- A serving node contributes whenever it is asked. -/
theorem CrashFaulty.reads (faulty : CrashFaulty deps proto req Good serving)
    {n : CommitteeNode} (mem : n ∈ serving) {answer : Except String PartialDecryptResponse}
    {request : PartialDecryptRequest} (exchange : RegularExchange deps proto req n request answer) :
    ∃ share proof, readAnswer deps.hex req.epoch answer = .ok (.contributes share proof) := by
  obtain ⟨listed, regular, w, w', sent⟩ := exchange
  obtain ⟨resp, w'', given, accepts⟩ := (faulty.serves n mem).answers request w regular
  obtain rfl : answer = .ok resp := congrArg Prod.fst (sent.symm.trans given)
  obtain ⟨p, contributed, -⟩ := faulty.truthful n listed request w resp w' regular sent accepts
  exact readAnswer_of_contribution accepts contributed

/-- A serving node is never dropped. -/
theorem CrashFaulty.mem_available (faulty : CrashFaulty deps proto req Good serving)
    {s : Probed ω String Health} (sound : s.Sound (client deps req) req.nodes)
    {p : Progress ω String PartialDecryptResponse ℕ}
    (history : History (client deps req) req.task s p)
    (answered : ∀ n answer, (n, answer) ∈ answers p.log →
      ∃ request, RegularExchange deps proto req n request answer)
    {n : CommitteeNode} (mem : n ∈ serving) : n ∈ p.available := by
  refine history.mem_available.2 ⟨faulty.mem_active sound mem, fun gone => ?_⟩
  rw [history.named] at gone
  obtain ⟨f, hf, index⟩ := List.mem_map.1 gone
  obtain ⟨⟨m, answer⟩, asked, fault⟩ := List.mem_filterMap.1 hf
  obtain ⟨request, exchange⟩ := answered m answer asked
  obtain rfl : m = n := List.inj_on_of_nodup_map faulty.typed.distinct exchange.mem
    (faulty.member n mem) ((answerFault_index fault).symm.trans index)
  obtain ⟨share, proof, reads⟩ := faulty.reads mem exchange
  have none_ : answerFault (client deps req) (m, answer) = none := answerFault_contributes reads
  rw [none_] at fault
  cases fault

/-- What a quorum of truthful nodes contributes is good, at the nodes' points over the subset that all
are asked over. -/
theorem CrashFaulty.good (faulty : CrashFaulty deps proto req Good serving) {subset : List ℕ}
    {asked : List (CommitteeNode × Except String PartialDecryptResponse)}
    (answered : ∀ n answer, (n, answer) ∈ asked →
      ∃ request, RegularExchange deps proto req n request answer ∧ request.subset = subset)
    {partials : List PartialInput}
    (given : List.Forall₂ (Contribution (client deps req)) asked partials) :
    (∀ p ∈ partials, Good (deps.crypto.lagrangeCoefficient p.point subset) p) ∧
      partials.map (·.point) = (asked.map Prod.fst).map (·.index) := by
  induction given with
  | nil => simp
  | @cons exchange p rest partials each _ ih =>
    obtain ⟨n, answer⟩ := exchange
    obtain ⟨share, proof, reads, rfl⟩ := each
    obtain ⟨request, ⟨mem, regular, w, w', sent⟩, rfl⟩ := answered n answer (by simp)
    obtain ⟨good, points⟩ := ih fun m a inside => answered m a (List.mem_cons_of_mem _ inside)
    refine ⟨List.forall_mem_cons.mpr ⟨?_, good⟩, ?_⟩
    · have read := readAnswer_cases deps.hex req.epoch answer
      rw [show readAnswer deps.hex req.epoch answer = .ok (.contributes share proof) from reads] at read
      cases read with
      | contributes resp accepts _ _ hs hp =>
        obtain ⟨q, contributed, good⟩ := faulty.truthful n mem request w resp w' regular sent accepts
        have same : contribution (n, .ok resp) = some _ := contribution_eq reads
        rw [contributed, Option.some.injEq] at same
        subst same
        exact good
    · rw [List.map_cons, List.map_cons, List.map_cons, points]

/-- A quorum is a valid subset of the nodes. -/
theorem CrashFaulty.valid (faulty : CrashFaulty deps proto req Good serving)
    {s : Probed ω String Health} (sound : s.Sound (client deps req) req.nodes)
    {quorum rest : List CommitteeNode} {partials : List PartialInput}
    {p : Progress ω String PartialDecryptResponse ℕ}
    (pass : Pass (client deps req) req.task s quorum rest partials p) :
    (∀ n ∈ quorum, n ∈ req.nodes) ∧ ValidSubset (quorum.map (·.index)) := by
  have inside : ∀ n ∈ quorum, n ∈ req.nodes := fun n mem =>
    sound.sublist.subset (pass.eligible.active n mem)
  refine ⟨inside, fun empty => ?_, fun zero => ?_, pass.eligible.ascending.imp Nat.ne_of_lt⟩
  · have none_ := congrArg List.length empty
    rw [List.length_map, pass.eligible.length] at none_
    exact absurd faulty.positive (by simp [show req.threshold = 0 from none_])
  · obtain ⟨n, mem, index⟩ := List.mem_map.mp zero
    exact faulty.nonzero n (inside n mem) index

/-- The decrypt returns what every quorum of good partials opens to. -/
theorem decrypt_delivers (equipped : Equipped deps proto req key)
    (faulty : CrashFaulty deps proto req Good serving) {plaintext : Plaintext}
    (opens : ∀ partials, partials.length = req.threshold → ValidSubset (partials.map (·.point)) →
      (∀ p ∈ partials,
        Good (deps.crypto.lagrangeCoefficient p.point (partials.map (·.point))) p) →
        openSecret deps.crypto deps.limits req.openInput partials = .ok plaintext)
    (world : ω) : (decrypt deps req world).result = .ok plaintext := by
  have ran : Ran (client deps req) req.task (decrypt deps req world) :=
    decrypt_ran (client deps req) faulty.typed.distinct world
  have voted := decrypt_voted faulty.typed.distinct ran
  have frames := frames proto.payload key
  rw [← equipped.signer] at frames
  have authenticated : Authenticated proto key.toKey req.task (decrypt deps req world).log :=
    decrypt_authenticated (c := client deps req) faulty.typed equipped.correct frames world
  generalize decrypt deps req world = run at ran voted authenticated
  have answered : ∀ n answer, (n, answer) ∈ answers run.log →
      ∃ request, RegularExchange deps proto req n request answer := fun n answer asked => by
    obtain ⟨request, logged⟩ := mem_answers.1 asked
    obtain ⟨newer, older, split⟩ := List.append_of_mem logged
    exact ⟨request, (regular_of_asked ran authenticated split).1⟩
  have passed : ∀ n answer, (n, answer) ∈ passAnswers run.log →
      ∃ request, RegularExchange deps proto req n request answer ∧
        request.subset = (lastQuorum run.log).map (·.index) := fun n answer asked => by
    obtain ⟨newer, request, older, split, last⟩ := asked_of_mem_passAnswers asked
    rw [← last]
    exact ⟨request, regular_of_asked ran authenticated split⟩
  have minor := faulty.votes_lt voted answered
  clear authenticated voted
  cases ran with
  | crashed e s before node answer probes crash => exact absurd crash readHealth_ne_error
  | few s sound few =>
    have within := (faulty.nodup.subperm fun n hn => faulty.mem_active sound hn).length_le
    have enough := faulty.enough
    exact absurd few (Nat.not_lt.2 (enough.trans within))
  | closed s sound enough ending p closed =>
    cases closed with
    | exhausted _ history begun few =>
      have within := (faulty.nodup.subperm fun n hn =>
        faulty.mem_available sound history answered hn).length_le
      have enough := faulty.enough
      change p.available.length + 1 = req.threshold at few
      omega
    | opened quorum partials _ pass =>
      have split : quorum = (passAnswers p.log).map Prod.fst := by simpa using pass.split
      obtain ⟨good, points⟩ := faulty.good passed pass.given
      rw [← split] at points
      rw [show (lastQuorum p.log).map (·.index) = partials.map (·.point) by rw [points, pass.last]]
        at good
      have length : partials.length = req.threshold := by
        rw [← List.length_map (f := PartialInput.point), points, List.length_map]
        exact pass.eligible.length
      have valid : ValidSubset (partials.map (·.point)) := points ▸ (faulty.valid sound pass).2
      show (openSecret deps.crypto deps.limits req.openInput partials).mapError SdkError.core = _
      rw [opens partials length valid good]
      rfl
    | stopped quorum node rest partials q _ e pass asked =>
      obtain ⟨inside, valid⟩ := faulty.valid sound pass
      have member : node.index ∈ quorum.map (·.index) := by
        rw [pass.split, List.map_append, List.map_cons]
        exact List.mem_append_right _ (List.mem_cons_self ..)
      cases asked with
      | noLambda _ h =>
        obtain ⟨lambda, given⟩ := equipped.total node.index _ valid member
        change (lagrangeFor deps.crypto node.index (quorum.map (·.index))).mapError SdkError.core = _
          at h
        rw [given] at h
        cases h
      | unsigned detail w h =>
        have subset : quorum.map (·.index) ⊆ req.nodes.map (·.index) :=
          List.map_subset _ fun n mem => inside n mem
        have length : (quorum.map (·.index)).length = req.threshold := by
          rw [List.length_map]
          exact pass.eligible.length
        obtain ⟨auth, w', signed⟩ := equipped.authorizes subset length node.index q.world
        have clash := h.symm.trans signed
        cases clash
      | unreadable x _ h =>
        have logged : (node, x.answer) ∈ answers x.after.log :=
          List.mem_append_right _ (List.mem_singleton.2 rfl)
        obtain ⟨request, mem, regular, w, w', given⟩ := answered node x.answer logged
        exfalso
        have read := readAnswer_cases deps.hex req.epoch x.answer
        rw [show readAnswer deps.hex req.epoch x.answer = .error e from h] at read
        generalize x.answer = answer at read given
        cases read with
        | badPartial resp accepts source hs =>
          obtain ⟨p, contributed, -⟩ := faulty.truthful node mem request w resp w' regular given
            accepts
          simp [contribution, spelled_of_error hs] at contributed
        | badProof resp accepts share hs source hp =>
          obtain ⟨p, contributed, -⟩ := faulty.truthful node mem request w resp w' regular given
            accepts
          simp [contribution, spelled_of_error hp] at contributed
      | rotated x served h enough =>
        have few := minor served
        change Tally.votes Tally.eqKey (Tally.bump Tally.eqKey served q.votes) served < _ at few
        rw [Tally.votes_bump, if_pos rfl] at few
        exact absurd enough (Nat.not_le.2 few)
      | unprinted x served h _ he => cases he

end

end MatterSdk.Rust
