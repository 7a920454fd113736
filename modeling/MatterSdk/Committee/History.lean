import MatterSdk.Committee.Runs

/-!
# The history of a run

The quorum loop keeps its accounts by its log: the nodes still available are the active ones less
the dropped ones, the faults and the votes are those of the answers received.  `History` says so of
the state between two rounds, `Pass` of the state within one, and `quorumLoop_closed` of the state
in which the loop ends.
-/

namespace MatterSdk

open Loop

variable {ω τ η ρ κ ε : Type}

/-! ## What an answer leaves behind -/

/-- The fault for which an answer has its node dropped. -/
def answerFault (c : Client ω τ η ρ κ ε) (asked : CommitteeNode × Except τ ρ) : Option NodeFault :=
  match c.readAnswer asked.2 with
  | .ok (.failed detail) => some (asked.1.fault .partialDecrypt detail)
  | .ok (.diverges epoch) =>
    match c.epochDetail epoch with
    | .ok detail => some (asked.1.fault .epochMismatch detail)
    | .error _ => none
  | _ => none

theorem answerFault_contributes {c : Client ω τ η ρ κ ε} {node : CommitteeNode}
    {answer : Except τ ρ} {share proof : Bytes}
    (h : c.readAnswer answer = .ok (.contributes share proof)) :
    answerFault c (node, answer) = none := by
  simp [answerFault, h]

theorem answerFault_index {c : Client ω τ η ρ κ ε} {asked : CommitteeNode × Except τ ρ}
    {f : NodeFault} (h : answerFault c asked = some f) : f.index = asked.1.index := by
  unfold answerFault at h
  split at h
  · exact (congrArg NodeFault.index (Option.some.inj h)).symm
  · split at h
    · exact (congrArg NodeFault.index (Option.some.inj h)).symm
    · simp at h
  · simp at h

/-- The epoch for which an answer votes. -/
def ballot (c : Client ω τ η ρ κ ε) (asked : CommitteeNode × Except τ ρ) :
    Option (CommitteeNode × κ) :=
  match c.readAnswer asked.2 with
  | .ok (.diverges epoch) => some (asked.1, epoch)
  | _ => none

/-- The faults of the dropped nodes, in order. -/
def drops (c : Client ω τ η ρ κ ε) (log : List (Message τ ρ)) : List NodeFault :=
  (answers log).filterMap (answerFault c)

/-- The votes cast, with who cast them, in order. -/
def ballots (c : Client ω τ η ρ κ ε) (log : List (Message τ ρ)) : List (CommitteeNode × κ) :=
  (answers log).filterMap (ballot c)

theorem mem_ballots {c : Client ω τ η ρ κ ε} {log : List (Message τ ρ)} {node : CommitteeNode}
    {epoch : κ} : (node, epoch) ∈ ballots c log ↔
      ∃ answer, (node, answer) ∈ answers log ∧ c.readAnswer answer = .ok (.diverges epoch) := by
  simp only [ballots, List.mem_filterMap, ballot, Prod.exists]
  constructor
  · rintro ⟨n, answer, mem, h⟩
    split at h
    · rename_i e hr
      obtain ⟨rfl, rfl⟩ := Prod.mk.inj (Option.some.inj h)
      exact ⟨answer, mem, hr⟩
    · simp at h
  · rintro ⟨answer, mem, hr⟩
    exact ⟨node, answer, mem, by simp [hr]⟩

section

variable {c : Client ω τ η ρ κ ε} {task : Task} {subset : List ℕ} {node : CommitteeNode}
  {p : Progress ω τ ρ κ} (x : Exchange c task subset node p)
include x

theorem Exchange.ballots_quiet (quiet : ballot c (node, x.answer) = none) :
    ballots c x.after.log = ballots c p.log := by
  simp [after, Progress.exchanged, ballots, quiet]

theorem Exchange.ballots_vote {epoch : κ} (hr : c.readAnswer x.answer = .ok (.diverges epoch)) :
    ballots c x.after.log = ballots c p.log ++ [(node, epoch)] := by
  simp [after, Progress.exchanged, ballots, ballot, hr]

/-- One more vote is counted as it is cast. -/
theorem Exchange.tally_vote {epoch : κ} (hr : c.readAnswer x.answer = .ok (.diverges epoch))
    (counted : p.votes = Tally.tally c.sameEpoch ((ballots c p.log).map Prod.snd)) :
    Tally.bump c.sameEpoch epoch p.votes =
      Tally.tally c.sameEpoch ((ballots c x.after.log).map Prod.snd) := by
  rw [x.ballots_vote hr, List.map_append, List.map_singleton, Tally.tally_concat, ← counted]

end

/-- What an answer contributes. -/
def Contribution (c : Client ω τ η ρ κ ε) (asked : CommitteeNode × Except τ ρ)
    (input : PartialInput) : Prop :=
  ∃ share proof, c.readAnswer asked.2 = .ok (.contributes share proof) ∧
    input =
      { point := asked.1.index, share, proof, commitment := asked.1.shareCommitment }

/-! ## Between and within rounds -/

/-- What the log says of the state of the loop. -/
structure History (c : Client ω τ η ρ κ ε) (task : Task) (s : Probed ω τ η)
    (p : Progress ω τ ρ κ) : Prop where
  justified : Justified c task s.active p.log
  available : p.available = s.active.filter (·.index ∉ dropped p.log)
  faults : p.faults = s.faults ++ drops c p.log
  named : dropped p.log = (drops c p.log).map (·.index)
  votes : p.votes = Tally.tally c.sameEpoch ((ballots c p.log).map Prod.snd)
  voters : ((ballots c p.log).map (·.1.index)).Sublist (dropped p.log)
  accounted : Accounted task.nodes p.faults p.available
  readable : ∀ asked ∈ answers p.log, ∃ reading, c.readAnswer asked.2 = .ok reading

/-- A pass over `quorum`, of which `rest` is still to be asked. -/
structure Pass (c : Client ω τ η ρ κ ε) (task : Task) (s : Probed ω τ η)
    (quorum rest : List CommitteeNode) (partials : List PartialInput) (p : Progress ω τ ρ κ) :
    Prop where
  history : History c task s p
  begun : rounds p.log = (dropped p.log).length + 1
  enough : task.threshold ≤ p.available.length
  eligible : Eligible task s.active p.log quorum
  last : lastQuorum p.log = quorum
  split : quorum = (passAnswers p.log).map Prod.fst ++ rest
  given : List.Forall₂ (Contribution c) (passAnswers p.log) partials

/-- How the quorum loop can end. -/
inductive Closed (c : Client ω τ η ρ κ ε) (task : Task) (s : Probed ω τ η) :
    Ending ε × Progress ω τ ρ κ → Prop where
  | exhausted (p : Progress ω τ ρ κ) (history : History c task s p)
      (begun : rounds p.log = (dropped p.log).length)
      (few : p.available.length + 1 = task.threshold) : Closed c task s (.exhausted, p)
  | stopped (quorum : List CommitteeNode) (node : CommitteeNode) (rest : List CommitteeNode)
      (partials : List PartialInput) (p p' : Progress ω τ ρ κ) (e : ε)
      (pass : Pass c task s quorum (node :: rest) partials p)
      (asked : Asked c task (quorum.map (·.index)) node partials p (.done (.abort e, p'))) :
      Closed c task s (.stopped e, p')
  | opened (quorum : List CommitteeNode) (partials : List PartialInput) (p : Progress ω τ ρ κ)
      (pass : Pass c task s quorum [] partials p) :
      Closed c task s (.opened (c.openSecret partials), p)

section Steps

variable {c : Client ω τ η ρ κ ε} {task : Task} {s : Probed ω τ η} {p : Progress ω τ ρ κ}

theorem Probed.Sound.start_history (h : s.Sound c task.nodes) : History c task s s.start where
  justified := trivial
  available := by simp [Probed.start]
  faults := by simp [Probed.start, drops]
  named := rfl
  votes := rfl
  voters := List.Sublist.refl _
  accounted := h.accounted
  readable := by simp [Probed.start]

theorem History.mem_available (h : History c task s p) {n : CommitteeNode} :
    n ∈ p.available ↔ n ∈ s.active ∧ n.index ∉ dropped p.log := by
  simp [h.available]

/-- The indices dropped are distinct, and none of them is available. -/
theorem History.nodup (h : History c task s p) (distinct : Distinct task.nodes) :
    (dropped p.log ++ p.available.map (·.index)).Nodup := by
  have all := h.accounted.nodup distinct
  rw [h.faults, List.map_append, ← h.named, List.append_assoc] at all
  exact all.of_append_right

/-- Available and dropped nodes make up the active ones. -/
theorem History.length (h : History c task s p) (sound : s.Sound c task.nodes) :
    (dropped p.log).length + p.available.length = s.active.length := by
  have now := h.accounted.length
  have start := sound.accounted.length
  rw [h.faults, List.length_append] at now
  rw [h.named, List.length_map]
  omega

/-- A quorum of the available nodes may be asked. -/
theorem History.eligible (h : History c task s p) (distinct : Distinct task.nodes)
    {quorum : List CommitteeNode} (enough : task.threshold ≤ p.available.length)
    (hq : IsQuorum p.available task.threshold quorum) : Eligible task s.active p.log quorum where
  length := hq.length.trans (Nat.min_eq_left enough)
  ascending := by
    obtain ⟨part, perm, sub⟩ := hq.subperm
    have nodup : (quorum.map (·.index)).Nodup :=
      (perm.map _).nodup_iff.1 ((sub.map _).nodup (h.nodup distinct).of_append_right)
    have sorted : (quorum.map (·.index)).Pairwise (· ≤ ·) := List.pairwise_map.2 hq.sorted
    exact (sorted.and nodup).imp fun h => Nat.lt_of_le_of_ne h.1 h.2
  active n hn := (h.mem_available.1 (hq.mem hn)).1
  undropped n hn := (h.mem_available.1 (hq.mem hn)).2

theorem History.form (h : History c task s p) (distinct : Distinct task.nodes)
    (even : rounds p.log = (dropped p.log).length)
    {quorum : List CommitteeNode} (enough : task.threshold ≤ p.available.length)
    (hq : IsQuorum p.available task.threshold quorum) (world : ω) :
    Pass c task s quorum quorum [] (p.formed quorum world) where
  history := ⟨⟨h.eligible distinct enough hq, h.justified⟩, h.available, h.faults, h.named,
    h.votes, h.voters, h.accounted, h.readable⟩
  begun := by simp [Progress.formed, even]
  enough := enough
  eligible := (h.eligible distinct enough hq).of_dropped rfl
  last := rfl
  split := rfl
  given := .nil

/-- An abort drops nothing; the log has grown by the exchange at most. -/
theorem Asked.aborted {subset : List ℕ} {node : CommitteeNode} {partials : List PartialInput}
    {e : ε} {p' : Progress ω τ ρ κ}
    (h : Asked c task subset node partials p (.done (.abort e, p'))) :
    p'.available = p.available ∧ p'.faults = p.faults ∧
      (p'.log = p.log ∨ ∃ x : Exchange c task subset node p, p'.log = x.after.log) := by
  cases h with
  | noLambda | unsigned => exact ⟨rfl, rfl, Or.inl rfl⟩
  | unreadable x => exact ⟨rfl, rfl, Or.inr ⟨x, rfl⟩⟩
  | rotated x => exact ⟨rfl, rfl, Or.inr ⟨x, rfl⟩⟩
  | unprinted x => exact ⟨rfl, rfl, Or.inr ⟨x, rfl⟩⟩

/-- The log once an answer is in is justified. -/
theorem Pass.justified {quorum rest : List CommitteeNode} {partials : List PartialInput}
    {node : CommitteeNode} (h : Pass c task s quorum (node :: rest) partials p)
    (x : Exchange c task (quorum.map (·.index)) node p) :
    Justified c task s.active x.after.log := by
  have split := h.split
  have last := h.last
  refine ⟨⟨?_, x.lambda, x.auth, p.world, x.signed, x.world, p.log, ?_⟩, ?_, h.history.justified⟩
  · simp [last, split]
  · rw [lastQuorum_authorized, last]
    exact ⟨x.lambda_eq, x.auth_eq, rfl, x.answer_eq, rfl⟩
  · simp only [lastQuorum_authorized, last]
    exact h.eligible.of_dropped rfl

theorem Pass.readable {quorum rest : List CommitteeNode} {partials : List PartialInput}
    {node : CommitteeNode} (h : Pass c task s quorum rest partials p)
    (x : Exchange c task (quorum.map (·.index)) node p) {reading : Reading κ}
    (hr : c.readAnswer x.answer = .ok reading) :
    ∀ asked ∈ answers x.after.log, ∃ reading, c.readAnswer asked.2 = .ok reading := by
  intro asked mem
  rcases List.mem_append.1 mem with mem | mem
  · exact h.history.readable asked mem
  · obtain rfl := List.mem_singleton.1 mem
    exact ⟨reading, hr⟩

/-- A contribution changes no account. -/
theorem Pass.contributed {quorum rest : List CommitteeNode} {partials : List PartialInput}
    {node : CommitteeNode} (h : Pass c task s quorum (node :: rest) partials p)
    (x : Exchange c task (quorum.map (·.index)) node p) (share proof : Bytes)
    (hr : c.readAnswer x.answer = .ok (.contributes share proof)) :
    Pass c task s quorum rest (partials ++
      [{ point := node.index, share, proof, commitment := node.shareCommitment }]) x.after := by
  have log : answers x.after.log = answers p.log ++ [(node, x.answer)] := rfl
  have sameDrops : drops c x.after.log = drops c p.log := by
    simp [drops, log, answerFault, hr]
  have sameBallots := x.ballots_quiet (by simp [ballot, hr])
  have history : History c task s x.after :=
    { justified := h.justified x
      available := h.history.available
      faults := sameDrops ▸ h.history.faults
      named := sameDrops ▸ h.history.named
      votes := sameBallots ▸ h.history.votes
      voters := sameBallots ▸ h.history.voters
      accounted := h.history.accounted
      readable := h.readable x hr }
  refine ⟨history, h.begun, h.enough, h.eligible.of_dropped rfl, h.last, ?_, ?_⟩
  · change quorum = (passAnswers p.log ++ [(node, x.answer)]).map Prod.fst ++ rest
    rw [List.map_append, List.append_assoc]
    exact h.split
  · exact List.rel_append h.given (.cons ⟨share, proof, hr, rfl⟩ .nil)

/-- An answer with a fault has its node dropped; `votes` are those it leaves. -/
theorem Pass.drop {quorum rest : List CommitteeNode} {partials : List PartialInput}
    {node : CommitteeNode} (h : Pass c task s quorum (node :: rest) partials p)
    (distinct : Distinct task.nodes) (x : Exchange c task (quorum.map (·.index)) node p)
    (fault : NodeFault) (votes : List (κ × ℕ))
    (hf : answerFault c (node, x.answer) = some fault) {reading : Reading κ}
    (hr : c.readAnswer x.answer = .ok reading) (place : fault.place = node.place)
    (counted : votes = Tally.tally c.sameEpoch ((ballots c x.after.log).map Prod.snd)) :
    History c task s (({ x.after with votes }.addFault fault).drop node.index) ∧
      rounds x.after.log = (dropped p.log ++ [node.index]).length := by
  have split := h.split
  have mem : node ∈ p.available :=
    h.history.mem_available.2 ⟨h.eligible.active node (by simp [split]),
      h.eligible.undropped node (by simp [split])⟩
  have log : answers x.after.log = answers p.log ++ [(node, x.answer)] := rfl
  have newDrops : drops c x.after.log = drops c p.log ++ [fault] := by
    simp [drops, log, hf]
  have newVoters : ((ballots c x.after.log).map (·.1.index)).Sublist
      (dropped p.log ++ [node.index]) := by
    simp only [ballots, log, List.filterMap_append, List.map_append]
    refine h.history.voters.append ?_
    cases hb : ballot c (node, x.answer) with
    | none => simp [hb]
    | some voted =>
      have : voted.1 = node := by
        unfold ballot at hb
        split at hb
        · exact (congrArg Prod.fst (Option.some.inj hb)).symm
        · simp at hb
      simp [hb, this]
  have index : fault.index = node.index := congrArg Prod.fst place
  refine ⟨⟨h.justified x, ?_, ?_, ?_, counted, newVoters, ?_, h.readable x hr⟩, ?_⟩
  · change p.available.filter _ = _
    rw [h.history.available, List.filter_filter]
    refine List.filter_congr fun n _ => ?_
    change (decide _ && decide _) = decide (n.index ∉ dropped p.log ++ [node.index])
    simp [Bool.and_comm]
  · change p.faults ++ [fault] = s.faults ++ drops c x.after.log
    rw [newDrops, h.history.faults, List.append_assoc]
  · change dropped p.log ++ [node.index] = (drops c x.after.log).map _
    rw [newDrops, List.map_append, ← h.history.named, List.map_singleton, index]
  · exact h.history.accounted.drop distinct mem place
  · rw [List.length_append, List.length_singleton]
    exact h.begun

end Steps

/-- The state between two rounds of a loop that started with enough nodes. -/
structure Between (c : Client ω τ η ρ κ ε) (task : Task) (s : Probed ω τ η)
    (p : Progress ω τ ρ κ) : Prop where
  history : History c task s p
  begun : rounds p.log = (dropped p.log).length
  spare : task.threshold ≤ p.available.length + 1

/-- The loop keeps its history, whatever the nodes answer. -/
theorem quorumLoop_closed {c : Client ω τ η ρ κ ε} {task : Task} {s : Probed ω τ η}
    (sound : s.Sound c task.nodes) (distinct : Distinct task.nodes)
    (enough : task.threshold ≤ s.active.length) : Closed c task s (quorumLoop c task s) := by
  refine quorumLoop_rule (I := Between c task s) ?_
    ⟨sound.start_history, rfl, Nat.le_succ_of_le enough⟩
  intro p between
  refine round_rule (M := Pass c task s) ?_
    (fun quorum world enough hq => between.history.form distinct between.begun enough hq world) ?_
    (fun quorum partials q => Closed.opened quorum partials q)
  · intro few
    exact .exhausted p between.history between.begun (Nat.le_antisymm few between.spare)
  intro quorum node rest partials q r pass outcome
  have again {q' : Progress ω τ ρ κ} (log : dropped q'.log = dropped q.log ++ [node.index])
      (begun : rounds q'.log = (dropped q.log ++ [node.index]).length)
      (history : History c task s q') : Between c task s q' := by
    refine ⟨history, by rw [log, begun], ?_⟩
    have before := pass.history.length sound
    have after := history.length sound
    have left := pass.enough
    rw [log, List.length_append, List.length_singleton] at after
    omega
  cases outcome with
  | noLambda e h => exact Closed.stopped quorum node rest partials q _ _ pass (.noLambda e h)
  | unsigned e world h =>
    exact Closed.stopped quorum node rest partials q _ _ pass (.unsigned e world h)
  | unreadable x e h =>
    exact Closed.stopped quorum node rest partials q _ _ pass (.unreadable x e h)
  | rotated x epoch h enough =>
    exact Closed.stopped quorum node rest partials q _ _ pass (.rotated x epoch h enough)
  | unprinted x epoch h e he =>
    exact Closed.stopped quorum node rest partials q _ _ pass (.unprinted x epoch h e he)
  | contributed x share proof hr => exact pass.contributed x share proof hr
  | failed x detail hr =>
    obtain ⟨history, begun⟩ := pass.drop distinct x (node.fault .partialDecrypt detail) q.votes
      (by simp [answerFault, hr]) hr rfl
      (by rw [x.ballots_quiet (by simp [ballot, hr]), pass.history.votes])
    exact again rfl begun history
  | diverged x epoch hr few detail hd =>
    obtain ⟨history, begun⟩ := pass.drop distinct x (node.fault .epochMismatch detail)
      (Tally.bump c.sameEpoch epoch q.votes) (by simp [answerFault, hr, hd]) hr rfl
      (x.tally_vote hr pass.history.votes)
    exact again rfl begun history

/-! ## Whole runs -/

/-- How a run can go. -/
inductive Ran (c : Client ω τ η ρ κ ε) (task : Task) : Run τ η ρ κ ε → Prop where
  | crashed (e : ε) (s : Probed ω τ η) (before : List (CommitteeNode × Except τ η))
      (node : CommitteeNode) (answer : Except τ η) (probes : s.probes = before ++ [(node, answer)])
      (crash : c.readHealth answer = .error e) :
      Ran c task ⟨.error e, s.probes, s.active, s.active, [], s.faults, []⟩
  | few (s : Probed ω τ η) (sound : s.Sound c task.nodes)
      (few : s.active.length < task.threshold) :
      Ran c task ⟨.error (c.quorumUnavailable task.threshold s.active.length s.faults), s.probes,
        s.active, s.active, [], s.faults, []⟩
  | closed (s : Probed ω τ η) (sound : s.Sound c task.nodes)
      (enough : task.threshold ≤ s.active.length) (ending : Ending ε) (p : Progress ω τ ρ κ)
      (closed : Closed c task s (ending, p)) :
      Ran c task ⟨conclude c task ending p, s.probes, s.active, p.available, p.votes, p.faults,
        p.log⟩

theorem decrypt_ran (c : Client ω τ η ρ κ ε) {task : Task} (distinct : Distinct task.nodes)
    (world : ω) : Ran c task (decrypt c task world) := by
  refine decrypt_rule (C := fun e s => ∃ before node answer,
    s.probes = before ++ [(node, answer)] ∧ c.readHealth answer = .error e)
    (probe_sound c task.nodes world) ?_ Ran.few ?_
  · rintro e s ⟨before, node, answer, probes, crash⟩
    exact .crashed e s before node answer probes crash
  · intro s sound enough
    exact .closed s sound enough _ _ (quorumLoop_closed sound distinct enough)

theorem Closed.justified {c : Client ω τ η ρ κ ε} {task : Task} {s : Probed ω τ η}
    {ending : Ending ε} {p : Progress ω τ ρ κ} (h : Closed c task s (ending, p)) :
    Justified c task s.active p.log := by
  cases h with
  | exhausted _ history => exact history.justified
  | opened quorum partials _ pass => exact pass.history.justified
  | stopped quorum node rest partials q _ e pass asked =>
    obtain ⟨-, -, log | ⟨x, log⟩⟩ := asked.aborted
    · exact log ▸ pass.history.justified
    · exact log ▸ pass.justified x

/-- Every message of a run's log could follow the older ones. -/
theorem Ran.justified {c : Client ω τ η ρ κ ε} {task : Task} {run : Run τ η ρ κ ε}
    (h : Ran c task run) : Justified c task run.active run.log := by
  cases h with
  | crashed | few => trivial
  | closed s sound enough ending p closed => exact closed.justified

/-- The probes of a run are what the transport answered. -/
theorem Ran.sent {c : Client ω τ η ρ κ ε} {task : Task} {run : Run τ η ρ κ ε}
    (h : Ran c task run) (readable : ∀ probe ∈ run.probes, ∃ v, c.readHealth probe.2 = .ok v) :
    ∀ probe ∈ run.probes, ∃ w w', c.transport.health probe.1.endpoint w = (probe.2, w') := by
  cases h with
  | crashed e s before node answer probes crash =>
    obtain ⟨v, hv⟩ := readable (node, answer) (by simp [probes])
    rw [crash] at hv
    cases hv
  | few s sound => exact sound.sent
  | closed s sound => exact sound.sent

theorem Ran.mem_active {c : Client ω τ η ρ κ ε} {task : Task} {run : Run τ η ρ κ ε}
    (h : Ran c task run) (readable : ∀ probe ∈ run.probes, ∃ v, c.readHealth probe.2 = .ok v)
    {n : CommitteeNode} (hn : n ∈ run.active) :
    n ∈ task.nodes ∧ ∃ answer, (n, answer) ∈ run.probes ∧ c.readHealth answer = .ok none := by
  cases h with
  | crashed e s before node answer probes crash =>
    obtain ⟨v, hv⟩ := readable (node, answer) (by simp [probes])
    rw [crash] at hv
    cases hv
  | few s sound => exact ⟨sound.sublist.subset hn, sound.mem_active.1 hn⟩
  | closed s sound => exact ⟨sound.sublist.subset hn, sound.mem_active.1 hn⟩

end MatterSdk
