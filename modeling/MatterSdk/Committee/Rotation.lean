import MatterSdk.Committee.Scripted
import MatterSdk.Committee.History

/-!
# Epoch rotation

A Rust run reports a rotation on the votes of its nodes: at once when `threshold` of them have
served the same epoch, else when the nodes run out, for an epoch with the most votes.
-/

namespace MatterSdk

variable {ω τ η ρ κ ε : Type}

/-- The votes are those of the log, one a node. -/
structure Voted (c : Client ω τ η ρ κ ε) (log : List (Message τ ρ)) (votes : List (κ × ℕ)) :
    Prop where
  counted : votes = Tally.tally c.sameEpoch ((ballots c log).map Prod.snd)
  once : ((ballots c log).map (·.1.index)).Nodup

theorem History.voted {c : Client ω τ η ρ κ ε} {task : Task} {s : Probed ω τ η}
    {p : Progress ω τ ρ κ} (h : History c task s p) (distinct : Distinct task.nodes) :
    Voted c p.log p.votes :=
  ⟨h.votes, h.voters.nodup (h.nodup distinct).of_append_left⟩

/-- A node that votes has not voted before. -/
theorem Pass.voted {c : Client ω τ η ρ κ ε} {task : Task} {s : Probed ω τ η}
    {quorum rest : List CommitteeNode} {node : CommitteeNode} {partials : List PartialInput}
    {p : Progress ω τ ρ κ} (h : Pass c task s quorum (node :: rest) partials p)
    (distinct : Distinct task.nodes) (x : Exchange c task (quorum.map (·.index)) node p) {epoch : κ}
    (hr : c.readAnswer x.answer = .ok (.diverges epoch)) :
    Voted c x.after.log (x.after.vote c epoch).votes := by
  have before := h.history.voted distinct
  constructor
  · exact x.tally_vote hr before.counted
  · have fresh : node.index ∉ (ballots c p.log).map (·.1.index) := fun hm =>
      h.eligible.undropped node (by simp [h.split]) (h.history.voters.subset hm)
    rw [x.ballots_vote hr, List.map_append, List.map_singleton, List.nodup_append]
    refine ⟨before.once, by simp, fun a ha b hb => ?_⟩
    obtain rfl := List.mem_singleton.1 hb
    exact fun same => fresh (same ▸ ha)

namespace Rust

/-- A request to the node was answered from another epoch. -/
def Reported (req : DecryptRequest) (run : Run String Health PartialDecryptResponse ℕ SdkError)
    (node : CommitteeNode) (epoch : ℕ) : Prop :=
  ∃ resp, (node, .ok resp) ∈ answers run.log ∧ resp.servedEpoch = epoch ∧ epoch ≠ 0 ∧
    epoch ≠ req.epoch

/-- The epochs voted for in a run, one entry a vote. -/
def epochVotes (deps : Deps ω) (req : DecryptRequest)
    (run : Run String Health PartialDecryptResponse ℕ SdkError) : List ℕ :=
  (ballots (client deps req) run.log).map Prod.snd

section Votes

variable {deps : Deps ω} {req : DecryptRequest}
  {run : Run String Health PartialDecryptResponse ℕ SdkError}

theorem readAnswer_diverges_iff {hex : HexCrate} {epoch served : ℕ}
    {answer : Except String PartialDecryptResponse} :
    readAnswer hex epoch answer = .ok (.diverges served) ↔
      ∃ resp, answer = .ok resp ∧ resp.servedEpoch = served ∧ served ≠ 0 ∧ served ≠ epoch := by
  constructor
  · intro h
    have read := readAnswer_cases hex epoch answer
    rw [h] at read
    cases read with
    | diverges resp nonzero differs => exact ⟨resp, rfl, rfl, nonzero, differs⟩
  · rintro ⟨resp, rfl, rfl, nonzero, differs⟩
    simp [readAnswer, nonzero, differs]

theorem reported_iff (deps : Deps ω) {node : CommitteeNode} {epoch : ℕ} :
    Reported req run node epoch ↔ (node, epoch) ∈ ballots (client deps req) run.log := by
  rw [mem_ballots]
  constructor
  · rintro ⟨resp, mem, served, nonzero, differs⟩
    exact ⟨_, mem, readAnswer_diverges_iff.2 ⟨resp, rfl, served, nonzero, differs⟩⟩
  · rintro ⟨answer, mem, h⟩
    obtain ⟨resp, rfl, served⟩ := readAnswer_diverges_iff.1 h
    exact ⟨resp, mem, served⟩

/-- `n` votes for an epoch were cast by `n` nodes. -/
theorem exists_voters (once : ((ballots (client deps req) run.log).map (·.1.index)).Nodup)
    (epoch : ℕ) : ∃ voters : List CommitteeNode, (voters.map (·.index)).Nodup ∧
      voters.length = (epochVotes deps req run).count epoch ∧
      ∀ n ∈ voters, Reported req run n epoch := by
  let chosen := (ballots (client deps req) run.log).filter (·.2 = epoch)
  refine ⟨chosen.map Prod.fst, ?_, ?_, fun n hn => ?_⟩
  · rw [List.map_map]
    exact (List.filter_sublist.map _).nodup once
  · rw [List.length_map, epochVotes, List.count_eq_countP, List.countP_map,
      List.countP_eq_length_filter]
    refine congrArg List.length (List.filter_congr fun v _ => ?_)
    rw [Function.comp_apply, beq_eq_decide]
  · obtain ⟨⟨n', e⟩, hv, rfl⟩ := List.mem_map.1 hn
    obtain ⟨mem, same⟩ := List.mem_filter.1 hv
    obtain rfl : e = epoch := by simpa using same
    exact (reported_iff deps).2 mem

/-- The epoch reported at exhaustion has been voted for, by no fewer nodes than any other. -/
theorem dominant_spec {epochs : List ℕ} {epoch : ℕ}
    (h : dominant (Tally.tally Tally.eqKey epochs) = some epoch) :
    epoch ∈ epochs ∧ ∀ other, epochs.count other ≤ epochs.count epoch := by
  obtain ⟨best, pick, rfl⟩ := Option.map_eq_some_iff.1 h
  have prefers (a b : ℕ × ℕ) : Tally.Prefers Prod.snd (fun new best => best.2 ≤ new.2) a b :=
    ⟨fun h => by simpa using h, fun h => Nat.le_of_lt (by simpa using h)⟩
  have leads := Tally.leads_of_pick (List.pairwise_of_forall prefers) pick
  exact Tally.leads_tally_iff.1 (leads.of_perm (List.perm_insertionSort _ _))

theorem dominant_eq_none_iff {votes : List (ℕ × ℕ)} : dominant votes = none ↔ votes = [] := by
  rw [dominant, Option.map_eq_none_iff, Tally.pick_eq_none_iff]
  constructor
  · intro h
    exact List.perm_nil.1 (h ▸ (List.perm_insertionSort _ votes).symm)
  · rintro rfl
    rfl

/-- The run's log holds its votes. -/
theorem decrypt_voted (distinct : Distinct req.nodes) (ran : Ran (client deps req) req.task run) :
    Voted (client deps req) run.log run.votes := by
  cases ran with
  | crashed | few => exact ⟨rfl, by simp [ballots]⟩
  | closed s sound enough ending p closed =>
    cases closed with
    | exhausted _ history => exact history.voted distinct
    | opened quorum partials _ pass => exact pass.history.voted distinct
    | stopped quorum node rest partials q _ e pass asked =>
      cases asked with
      | noLambda | unsigned => exact pass.history.voted distinct
      | rotated x epoch h => exact pass.voted distinct x h
      | unprinted x epoch h => exact pass.voted distinct x h
      | unreadable x _ h =>
        have same : ballots (client deps req) x.after.log = ballots (client deps req) q.log := by
          simp [Exchange.after, Progress.exchanged, ballots, ballot, h]
        have before := pass.history.voted distinct
        exact ⟨same ▸ before.counted, same ▸ before.once⟩

/-- A rotation is reported on `threshold` votes while there are nodes enough, else on the most. -/
theorem epochRotated_cases (ran : Ran (client deps req) req.task run)
    (voted : Voted (client deps req) run.log run.votes) {served provided : ℕ}
    (rotated : run.result = .error (.epochRotated served provided)) :
    provided = req.epoch ∧
      ((req.threshold ≤ run.available.length ∧
          req.threshold ≤ (epochVotes deps req run).count served ∧
          ∃ n, Reported req run n served) ∨
        (run.available.length < req.threshold ∧ dominant run.votes = some served)) := by
  have counted : run.votes = Tally.tally Tally.eqKey (epochVotes deps req run) := voted.counted
  cases ran with
  | crashed e s before node answer probes crash =>
    exact absurd crash readHealth_ne_error
  | few => cases rotated
  | closed s sound enough ending p closed =>
    cases closed with
    | exhausted _ history begun few =>
      rw [conclude_exhausted] at rotated
      split at rotated
      · rename_i best top
        obtain ⟨rfl, rfl⟩ := SdkError.epochRotated.inj (Except.error.inj rotated)
        exact ⟨rfl, Or.inr ⟨Nat.lt_of_succ_le few.le, top⟩⟩
      · cases rotated
    | opened quorum partials _ pass =>
      obtain ⟨source, -, other⟩ := mapError_core rotated
      cases other
    | stopped quorum node rest partials q _ e pass asked =>
      obtain rfl := Except.error.inj rotated
      rcases abort_cases asked with ⟨_, other⟩ | ⟨_, other⟩ | ⟨epoch, x, same, rfl, hr, enough⟩
      · cases other
      · cases other
      · obtain ⟨rfl, rfl⟩ := SdkError.epochRotated.inj same
        refine ⟨rfl, Or.inl ⟨pass.enough, ?_, node, ?_⟩⟩
        · rw [← Tally.votes_tally, ← counted]
          exact enough
        · refine (reported_iff deps).2 (mem_ballots.2 ⟨x.answer, ?_, hr⟩)
          exact List.mem_append_right _ (List.mem_singleton.2 rfl)

end Votes

/-- No more nodes than there are votes for an epoch have reported it. -/
theorem length_le_count {deps : Deps ω} {req : DecryptRequest}
    {run : Run String Health PartialDecryptResponse ℕ SdkError} {epoch : ℕ}
    {others : List CommitteeNode} (nodup : (others.map (·.index)).Nodup)
    (reported : ∀ n ∈ others, Reported req run n epoch) :
    others.length ≤ (epochVotes deps req run).count epoch := by
  have distinct : (others.map fun n => (n, epoch)).Nodup :=
    (nodup.of_map _).map fun a b same => congrArg Prod.fst same
  have within : (others.map fun n => (n, epoch)).Subperm (ballots (client deps req) run.log) := by
    refine distinct.subperm fun v hv => ?_
    obtain ⟨n, hn, rfl⟩ := List.mem_map.1 hv
    exact (reported_iff deps).1 (reported n hn)
  have all : (others.map fun n => (n, epoch)).countP (·.2 == epoch) = others.length := by
    rw [List.countP_eq_length.2 (by simp), List.length_map]
  rw [epochVotes, List.count_eq_countP, List.countP_map, ← all]
  exact within.countP_le _

/-- The nodes answer every request from `epoch`. -/
def AlwaysServe (deps : Deps ω) (nodes : List CommitteeNode) (epoch : ℕ) : Prop :=
  ∀ n ∈ nodes, ∀ request w, ∃ resp w',
    deps.transport.partialDecrypt n.endpoint request w = (.ok resp, w') ∧ resp.servedEpoch = epoch

/-- What a run's verdict says of the epochs served. -/
structure RotationVerdict (deps : Deps ω) (req : DecryptRequest)
    (run : Run String Health PartialDecryptResponse ℕ SdkError) : Prop where
  /-- Every vote is a report, and no node votes twice. -/
  votes : ∃ cast : List (CommitteeNode × ℕ),
    run.votes = Tally.tally Tally.eqKey (cast.map Prod.snd) ∧ (cast.map (·.1.index)).Nodup ∧
    ∀ n epoch, (n, epoch) ∈ cast ↔ Reported req run n epoch
  early : ∀ served provided, run.result = .error (.epochRotated served provided) →
    req.threshold ≤ run.available.length →
    provided = req.epoch ∧ served ≠ 0 ∧ served ≠ req.epoch ∧
      ∃ voters : List CommitteeNode, (voters.map (·.index)).Nodup ∧
        req.threshold ≤ voters.length ∧ ∀ n ∈ voters, Reported req run n served
  late : ∀ served provided, run.result = .error (.epochRotated served provided) →
    run.available.length < req.threshold →
    provided = req.epoch ∧ ∃ voters : List CommitteeNode, (voters.map (·.index)).Nodup ∧
      voters ≠ [] ∧ (∀ n ∈ voters, Reported req run n served) ∧
      ∀ epoch, ∀ others : List CommitteeNode, (others.map (·.index)).Nodup →
        (∀ n ∈ others, Reported req run n epoch) → others.length ≤ voters.length
  never : (∀ n epoch, ¬ Reported req run n epoch) →
    ∀ served provided, run.result ≠ .error (.epochRotated served provided)
  unanimous : ∀ epoch, epoch ≠ 0 → epoch ≠ req.epoch → 1 ≤ req.threshold →
    req.threshold ≤ run.active.length → AlwaysServe deps run.active epoch →
    (∀ context w, ∃ auth w', deps.signer.authorize context w = (.ok auth, w')) →
    (∀ point subset, ∃ lambda, lagrangeFor deps.crypto point subset = .ok lambda) →
    run.result = .error (.epochRotated epoch req.epoch)

section Verdict

variable {deps : Deps ω} {req : DecryptRequest}
  {run : Run String Health PartialDecryptResponse ℕ SdkError} {epoch : ℕ}

/-- A logged answer is one that the transport gave to an active node. -/
theorem answered_of_justified {active : List CommitteeNode}
    {log : List (Message String PartialDecryptResponse)}
    (justified : Justified (client deps req) req.task active log) {n : CommitteeNode}
    {answer : Except String PartialDecryptResponse} (h : (n, answer) ∈ answers log) :
    n ∈ active ∧ ∃ request w w',
      deps.transport.partialDecrypt n.endpoint request w = (answer, w') := by
  obtain ⟨request, mem⟩ := mem_answers.1 h
  obtain ⟨newer, older, rfl⟩ := List.append_of_mem mem
  obtain ⟨signed, eligible⟩ := justified.asked
  obtain ⟨lambda, auth, before, world, after, rest, -, -, -, sent, -⟩ := signed.sent
  exact ⟨eligible.active n signed.mem, request, world, after, sent⟩

theorem unanimous_reading (nonzero : epoch ≠ 0) (differs : epoch ≠ req.epoch)
    (always : AlwaysServe deps run.active epoch)
    (justified : Justified (client deps req) req.task run.active run.log) {n : CommitteeNode}
    {answer : Except String PartialDecryptResponse} (h : (n, answer) ∈ answers run.log) :
    readAnswer deps.hex req.epoch answer = .ok (.diverges epoch) := by
  obtain ⟨active, request, w, w', sent⟩ := answered_of_justified justified h
  obtain ⟨resp, _, same, served⟩ := always n active request w
  obtain ⟨rfl, -⟩ := Prod.mk.inj (sent.symm.trans same)
  exact readAnswer_diverges_iff.2 ⟨resp, rfl, served, nonzero, differs⟩

section Unanimous

variable {s : Probed ω String Health} {p : Progress ω String PartialDecryptResponse ℕ}

/-- A pass that got all its partials has an answer that contributes. -/
theorem not_unanimous_of_opened (positive : 1 ≤ req.threshold) {quorum : List CommitteeNode}
    {partials : List PartialInput} (pass : Pass (client deps req) req.task s quorum [] partials p) :
    ¬ ∀ n answer, (n, answer) ∈ answers p.log →
      readAnswer deps.hex req.epoch answer = .ok (.diverges epoch) := by
  intro reads
  have size : (passAnswers p.log).length = req.threshold := by
    have split := pass.split
    rw [List.append_nil] at split
    rw [← List.length_map (f := Prod.fst), ← split]
    exact pass.eligible.length
  obtain ⟨⟨n, answer⟩, rest, log⟩ := List.exists_cons_of_length_pos (by omega :
    0 < (passAnswers p.log).length)
  have given := pass.given
  rw [log] at given
  obtain ⟨_, _, ⟨share, proof, contributed, -⟩, -, -⟩ := List.forall₂_cons_left_iff.1 given
  have mem : (n, answer) ∈ answers p.log := mem_answers_of_mem_passAnswers (by simp [log])
  exact absurd ((reads n answer mem).symm.trans contributed) (by simp)

variable (reads : ∀ n answer, (n, answer) ∈ answers p.log →
  readAnswer deps.hex req.epoch answer = .ok (.diverges epoch))

include reads

/-- A loop that has run out of nodes has dropped one, which has voted. -/
theorem ballots_ne_nil (sound : s.Sound (client deps req) req.task.nodes)
    (enough : req.threshold ≤ s.active.length) (history : History (client deps req) req.task s p)
    (few : p.available.length + 1 = req.threshold) : ballots (client deps req) p.log ≠ [] := by
  intro none_
  have silent : answers p.log = [] := by
    by_contra some_
    obtain ⟨⟨n, answer⟩, rest, log⟩ := List.exists_cons_of_ne_nil some_
    have mem : (n, answer) ∈ answers p.log := by simp [log]
    have vote := (mem_ballots (c := client deps req)).2 ⟨answer, mem, reads n answer mem⟩
    exact List.ne_nil_of_mem vote none_
  have undropped : (dropped p.log).length = 0 := by
    rw [history.named]
    simp [drops, silent]
  have := history.length sound
  omega

/-- No other epoch can have votes, so the loop concludes with this one. -/
theorem exhausted_unanimous (sound : s.Sound (client deps req) req.task.nodes)
    (enough : req.threshold ≤ s.active.length) (history : History (client deps req) req.task s p)
    (few : p.available.length + 1 = req.threshold) :
    conclude (client deps req) req.task .exhausted p = .error (.epochRotated epoch req.epoch) := by
  have counted : p.votes = Tally.tally Tally.eqKey _ := history.votes
  rw [conclude_exhausted]
  cases top : dominant p.votes with
  | none =>
    rw [dominant_eq_none_iff, counted] at top
    obtain ⟨first, rest, log⟩ :=
      List.exists_cons_of_ne_nil (ballots_ne_nil reads sound enough history few)
    have zero := Tally.votes_tally ((ballots (client deps req) p.log).map Prod.snd) first.2
    rw [top, log, List.map_cons] at zero
    simp [Tally.votes] at zero
  | some best =>
    rw [counted] at top
    obtain ⟨⟨n, e⟩, vote, rfl⟩ := List.mem_map.1 (dominant_spec top).1
    obtain ⟨answer, mem, read⟩ := mem_ballots.1 vote
    have same := (reads n answer mem).symm.trans read
    rw [Reading.diverges.inj (Except.ok.inj same)]

end Unanimous

/-- When every answer diverges to the same epoch, so does the verdict. -/
theorem rotated_of_unanimous (ran : Ran (client deps req) req.task run)
    (positive : 1 ≤ req.threshold) (enough : req.threshold ≤ run.active.length)
    (willing : ∀ context w, ∃ auth w', deps.signer.authorize context w = (.ok auth, w'))
    (total : ∀ point subset, ∃ lambda, lagrangeFor deps.crypto point subset = .ok lambda)
    (reads : ∀ n answer, (n, answer) ∈ answers run.log →
      readAnswer deps.hex req.epoch answer = .ok (.diverges epoch)) :
    run.result = .error (.epochRotated epoch req.epoch) := by
  cases ran with
  | crashed e s before node answer probes crash =>
    exact absurd crash readHealth_ne_error
  | few s sound few => exact absurd enough (Nat.not_le.2 few)
  | closed s sound enough ending p closed =>
    cases closed with
    | exhausted _ history begun few => exact exhausted_unanimous reads sound enough history few
    | opened quorum partials _ pass => exact absurd reads (not_unanimous_of_opened positive pass)
    | stopped quorum node rest partials q _ e pass asked =>
      cases asked with
      | noLambda _ h => exact absurd h (lagrangeFor_ne_error total req)
      | unsigned detail w h => exact absurd h (Signer.authorize_ne_error willing)
      | unreadable x _ h =>
        have mem : (node, x.answer) ∈ answers x.after.log :=
          List.mem_append_right _ (List.mem_singleton.2 rfl)
        exact absurd ((reads node x.answer mem).symm.trans h) (by simp)
      | rotated x served h =>
        have mem : (node, x.answer) ∈ answers x.after.log :=
          List.mem_append_right _ (List.mem_singleton.2 rfl)
        have same := (reads node x.answer mem).symm.trans h
        rw [Reading.diverges.inj (Except.ok.inj same)]
        rfl
      | unprinted x served h _ he => cases he

end Verdict

theorem decrypt_rotation (deps : Deps ω) (req : DecryptRequest) (world : ω)
    (distinct : Distinct req.nodes) : RotationVerdict deps req (decrypt deps req world) := by
  have ran : Ran (client deps req) req.task (decrypt deps req world) :=
    decrypt_ran (client deps req) distinct world
  have voted := decrypt_voted distinct ran
  generalize decrypt deps req world = run at ran voted
  have counted : run.votes = Tally.tally Tally.eqKey (epochVotes deps req run) := voted.counted
  constructor
  case votes =>
    exact ⟨_, voted.counted, voted.once, fun n epoch => (reported_iff deps).symm⟩
  case early =>
    intro served provided rotated enough
    obtain ⟨rfl, ⟨-, count, n, resp, -, -, nonzero, differs⟩ | ⟨few, -⟩⟩ :=
      epochRotated_cases ran voted rotated
    · obtain ⟨voters, nodup, length, reported⟩ := exists_voters voted.once served
      exact ⟨rfl, nonzero, differs, voters, nodup, length ▸ count, reported⟩
    · omega
  case late =>
    intro served provided rotated few
    obtain ⟨rfl, ⟨enough, -⟩ | ⟨-, top⟩⟩ := epochRotated_cases ran voted rotated
    · omega
    rw [counted] at top
    obtain ⟨mem, most⟩ := dominant_spec top
    obtain ⟨voters, nodup, length, reported⟩ := exists_voters voted.once served
    refine ⟨rfl, voters, nodup, ?_, reported, fun epoch others nodup' reported' => ?_⟩
    · rintro rfl
      exact absurd (List.count_pos_iff.2 mem) (by simp [← length])
    · rw [length]
      exact (length_le_count nodup' reported').trans (most epoch)
  case never =>
    intro silent served provided rotated
    obtain ⟨-, ⟨-, -, n, reported⟩ | ⟨-, top⟩⟩ := epochRotated_cases ran voted rotated
    · exact silent n served reported
    · rw [counted] at top
      obtain ⟨⟨n, e⟩, vote, rfl⟩ := List.mem_map.1 (dominant_spec top).1
      exact silent n e ((reported_iff deps).2 vote)
  case unanimous =>
    intro epoch nonzero differs positive enough always willing total
    exact rotated_of_unanimous ran positive enough willing total fun n answer h =>
      unanimous_reading nonzero differs always ran.justified h

/-- The first member fails and the others serve epoch 7. -/
def othersRotated : Deps Unit :=
  scriptedDeps (fun _ => .ok activeHealth) fun endpoint =>
    if endpoint = "node1" then .error "connection reset" else .ok { goodAnswer with servedEpoch := 7 }

/-- One member is dropped for a failure and one for its epoch, and the vote of the next decides. -/
theorem decrypt_rotation_dropped :
    dropped (decrypt othersRotated (pairRequest 4) ()).log = [1, 2] ∧
      (decrypt othersRotated (pairRequest 4) ()).votes = [(7, 2)] ∧
      (decrypt othersRotated (pairRequest 4) ()).result = .error (.epochRotated 7 5) ∧
      RotationVerdict othersRotated (pairRequest 4) (decrypt othersRotated (pairRequest 4) ()) := by
  refine ⟨by decide, by decide, by decide, ?_⟩
  exact decrypt_rotation _ _ _ (by unfold Distinct; decide)

/-- One of two members can be reached, and it always serves epoch 7. -/
def loneRotated : Deps Unit :=
  scriptedDeps (fun endpoint => if endpoint = "node1" then .ok activeHealth else .error "unreachable")
    fun _ => .ok { goodAnswer with servedEpoch := 7 }

/-- With fewer active nodes than the threshold, what they serve is never asked. -/
theorem loneRotated_unavailable :
    Distinct (pairRequest 2).nodes ∧ 1 ≤ (pairRequest 2).threshold ∧
      (decrypt loneRotated (pairRequest 2) ()).active = [member 1] ∧
      AlwaysServe loneRotated (decrypt loneRotated (pairRequest 2) ()).active 7 ∧
      7 ≠ (pairRequest 2).epoch ∧
      (decrypt loneRotated (pairRequest 2) ()).result =
        .error (.quorumUnavailable 2 1 [⟨2, "node2", .health, .exchange "unreachable"⟩]) := by
  refine ⟨by unfold Distinct; decide, by decide, by decide, ?_, by decide, by decide⟩
  intro n _ request w
  exact ⟨_, w, rfl, rfl⟩

end Rust

end MatterSdk
