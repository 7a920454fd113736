import MatterSdk.Committee.History

/-!
# Tolerance

What the answer of a node can do to a run.  A client tolerates its nodes when each of them that does
not contribute ends up with a fault, and no answer makes it throw an error that is not its own.
-/

namespace MatterSdk

open Loop

variable {ω τ η ρ κ ε : Type}

/-! ## Tolerance -/

/-- The answer can be read, and the epoch it votes for printed. -/
def Heeded (c : Client ω τ η ρ κ ε) (answer : Except τ ρ) : Prop :=
  ∃ reading, c.readAnswer answer = .ok reading ∧
    ∀ epoch, reading = .diverges epoch → ∃ detail, c.epochDetail epoch = .ok detail

/-- The answer was a contribution, or its node has been dropped with a fault. -/
def Settled (c : Client ω τ η ρ κ ε) (faults : List NodeFault) (log : List (Message τ ρ))
    (asked : CommitteeNode × Except τ ρ) : Prop :=
  (∃ share proof, c.readAnswer asked.2 = .ok (.contributes share proof)) ∨
    asked.1.index ∈ dropped log ∧ ∃ f ∈ faults, f.place = asked.1.place

/-- Which errors are not the client's own, which epochs have the right type, and which can be ranked
by their votes. -/
structure Standard (κ ε : Type) where
  Foreign : ε → Prop
  Typed : κ → Prop
  Ranked : κ → Prop

/-- The number of votes for an epoch in a log. -/
def votesFor (c : Client ω τ η ρ κ ε) (log : List (Message τ ρ)) (epoch : κ) : ℕ :=
  Tally.votes c.sameEpoch (Tally.tally c.sameEpoch ((ballots c log).map Prod.snd)) epoch

/-- A vote that does no harm: for an epoch of the right type, or one with few votes; and one that can
be ranked, if the nodes run out. -/
structure Minor (c : Client ω τ η ρ κ ε) (std : Standard κ ε) (task : Task) (run : Run τ η ρ κ ε)
    (epoch : κ) : Prop where
  few : std.Typed epoch ∨ 1 < task.threshold ∧ votesFor c run.log epoch < task.threshold
  ranked : run.available.length < task.threshold → std.Ranked epoch

/-- Every answer of the run can be read, and no vote does harm. -/
structure Harmless (c : Client ω τ η ρ κ ε) (std : Standard κ ε) (task : Task)
    (run : Run τ η ρ κ ε) : Prop where
  probes : ∀ probe ∈ run.probes, ∃ v, c.readHealth probe.2 = .ok v
  answers : ∀ asked ∈ answers run.log, Heeded c asked.2
  votes : ∀ asked ∈ MatterSdk.answers run.log, ∀ epoch,
    c.readAnswer asked.2 = .ok (.diverges epoch) → Minor c std task run epoch

/-- What the loop has made of the answers so far. -/
structure Heard (c : Client ω τ η ρ κ ε) (task : Task) (s : Probed ω τ η) (p : Progress ω τ ρ κ) :
    Prop where
  heeded : ∀ asked ∈ answers p.log, Heeded c asked.2
  settled : ∀ asked ∈ answers p.log, Settled c p.faults p.log asked
  votes : p.votes = Tally.tally c.sameEpoch ((ballots c p.log).map Prod.snd)
  /-- No epoch voted for has reached the threshold. -/
  few : ∀ vote ∈ ballots c p.log,
    1 < task.threshold ∧ Tally.votes c.sameEpoch p.votes vote.2 < task.threshold
  faults : s.faults ⊆ p.faults
  undropped : ∀ n ∈ p.available, n.index ∉ dropped p.log
  sent : ∀ asked ∈ answers p.log, ∃ request w w',
    c.transport.partialDecrypt asked.1.endpoint request w = (asked.2, w')

section Loop

variable {c : Client ω τ η ρ κ ε} {task : Task} {s : Probed ω τ η} {p p' : Progress ω τ ρ κ}
  {subset : List ℕ} {node : CommitteeNode}

/-- No vote has reached the threshold. -/
theorem Heard.minor (h : Heard c task s p) {std : Standard κ ε} {run : Run τ η ρ κ ε}
    (log : run.log = p.log) {asked : CommitteeNode × Except τ ρ} (mem : asked ∈ answers run.log)
    {epoch : κ} (read : c.readAnswer asked.2 = .ok (.diverges epoch))
    (ranked : run.available.length < task.threshold → std.Ranked epoch) :
    Minor c std task run epoch := by
  rw [log] at mem
  obtain ⟨several, few⟩ := h.few (asked.1, epoch) (mem_ballots.2 ⟨asked.2, mem, read⟩)
  rw [h.votes] at few
  refine ⟨Or.inr ⟨several, ?_⟩, ranked⟩
  rw [votesFor, log]
  exact few

end Loop

/-! ## Whole runs -/

section Runs

variable {c : Client ω τ η ρ κ ε} {std : Standard κ ε} {task : Task}
  {nodes : List CommitteeNode} {s : Probed ω τ η}

theorem Probed.Sound.admitted (sound : s.Sound c nodes) {faults : List NodeFault}
    (kept : s.faults ⊆ faults) :
    ∀ node ∈ nodes, node ∈ s.active ∨ ∃ f ∈ faults, f.place = node.place := by
  intro node mem
  rw [← sound.probes] at mem
  obtain ⟨probe, hp, rfl⟩ := List.mem_map.1 mem
  obtain ⟨_ | ⟨stage, detail⟩, hv⟩ := sound.readable probe hp
  · exact Or.inl (sound.mem_active.2 ⟨probe.2, hp, hv⟩)
  · refine Or.inr ⟨probe.1.fault stage detail, kept ?_, rfl⟩
    rw [sound.faults]
    exact List.mem_filterMap.2 ⟨probe, hp, by simp [probeFault, hv]⟩

end Runs

end MatterSdk
