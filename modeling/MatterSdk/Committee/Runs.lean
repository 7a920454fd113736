import MatterSdk.Committee.Log

/-!
# What a run keeps

The log and the accounts of a run of any client: what the probe leaves behind, which nodes the
quorum loop has dropped, and the votes it has counted.
-/

namespace MatterSdk

open Loop

variable {ω τ η ρ κ ε : Type}

/-! ## Rules -/

theorem quorumLoop_rule {c : Client ω τ η ρ κ ε} {task : Task} {s : Probed ω τ η}
    {Q : Ending ε × Progress ω τ ρ κ → Prop} {I : Progress ω τ ρ κ → Prop}
    (step : ∀ p, I p → (round c task p).Meets Q I) (start : I s.start) :
    Q (quorumLoop c task s) :=
  run_rule (roundVariant c task) step _ start

/-- A run fails during the probe, finds too few active nodes, or goes through the quorum loop. -/
theorem decrypt_rule {c : Client ω τ η ρ κ ε} {task : Task} {world : ω}
    {P : Run τ η ρ κ ε → Prop} {C : ε → Probed ω τ η → Prop} {D : Probed ω τ η → Prop}
    (probed : (forEach (probeNode c) task.nodes ⟨world, [], [], []⟩).Meets
      (fun b => C b.1 b.2) D)
    (crashed : ∀ e s, C e s → P ⟨.error e, s.probes, s.active, s.active, [], s.faults, []⟩)
    (few : ∀ s, D s → s.active.length < task.threshold →
      P ⟨.error (c.quorumUnavailable task.threshold s.active.length s.faults), s.probes, s.active,
        s.active, [], s.faults, []⟩)
    (loop : ∀ s, D s → task.threshold ≤ s.active.length →
      P ⟨conclude c task (quorumLoop c task s).1 (quorumLoop c task s).2, s.probes, s.active,
        (quorumLoop c task s).2.available, (quorumLoop c task s).2.votes,
        (quorumLoop c task s).2.faults, (quorumLoop c task s).2.log⟩) :
    P (decrypt c task world) := by
  unfold decrypt
  cases hf : forEach (probeNode c) task.nodes ⟨world, [], [], []⟩ with
  | done b =>
    rw [hf] at probed
    exact crashed b.1 b.2 probed
  | next s =>
    rw [hf] at probed
    dsimp only
    unfold decryptActive
    split_ifs with h
    · exact few s probed h
    · exact loop s probed (Nat.le_of_not_lt h)

/-! ## The probe -/

/-- The fault that a probe's answer gives its node. -/
def probeFault (c : Client ω τ η ρ κ ε) (probe : CommitteeNode × Except τ η) : Option NodeFault :=
  match c.readHealth probe.2 with
  | .ok (some (stage, detail)) => some (probe.1.fault stage detail)
  | _ => none

/-- Whether a probe's answer makes its node active. -/
def passed (c : Client ω τ η ρ κ ε) (probe : CommitteeNode × Except τ η) : Bool :=
  match c.readHealth probe.2 with
  | .ok none => true
  | _ => false

/-- What the probe has done to the nodes in `probed`. -/
structure Probed.Sound (c : Client ω τ η ρ κ ε) (probed : List CommitteeNode)
    (s : Probed ω τ η) : Prop where
  probes : s.probes.map Prod.fst = probed
  active : s.active = (s.probes.filter (passed c)).map Prod.fst
  faults : s.faults = s.probes.filterMap (probeFault c)
  readable : ∀ probe ∈ s.probes, ∃ v, c.readHealth probe.2 = .ok v
  sent : ∀ probe ∈ s.probes, ∃ w w', c.transport.health probe.1.endpoint w = (probe.2, w')

theorem sortProbe_sound (c : Client ω τ η ρ κ ε) (probed : List CommitteeNode)
    (node : CommitteeNode) (answer : Except τ η) (w w' : ω)
    (sent : c.transport.health node.endpoint w = (answer, w')) (s : Probed ω τ η)
    (h : s.Sound c probed) :
    (sortProbe c.toDialect (node, answer) s).Meets
      (fun b => b.2.probes = s.probes ++ [(node, answer)] ∧ c.readHealth answer = .error b.1)
      (fun s' => s'.Sound c (probed ++ [node])) := by
  unfold sortProbe
  dsimp only
  have probes : (s.probes ++ [(node, answer)]).map Prod.fst = probed ++ [node] := by
    simp [h.probes]
  have all {P : CommitteeNode × Except τ η → Prop} (before : ∀ probe ∈ s.probes, P probe)
      (now : P (node, answer)) : ∀ probe ∈ s.probes ++ [(node, answer)], P probe := by
    intro probe hp
    rcases List.mem_append.1 hp with hp | hp
    · exact before probe hp
    · exact List.mem_singleton.1 hp ▸ now
  cases hr : c.readHealth answer with
  | error e => exact ⟨rfl, rfl⟩
  | ok verdict =>
    have readable := all h.readable ⟨verdict, hr⟩
    have sent := all h.sent ⟨w, w', sent⟩
    cases verdict with
    | none =>
      exact ⟨probes, by simp [h.active, passed, hr], by simp [h.faults, probeFault, hr], readable,
        sent⟩
    | some fault =>
      exact ⟨probes, by simp [h.active, passed, hr], by simp [h.faults, probeFault, hr], readable,
        sent⟩

theorem probeNode_sound (c : Client ω τ η ρ κ ε) (probed : List CommitteeNode)
    (node : CommitteeNode) (s : Probed ω τ η) (h : s.Sound c probed) :
    (probeNode c node s).Meets
      (fun b => ∃ before answer, b.2.probes = before ++ [(node, answer)] ∧
        c.readHealth answer = .error b.1)
      (fun s' => s'.Sound c (probed ++ [node])) := by
  unfold probeNode
  rcases hs : c.transport.health node.endpoint s.world with ⟨answer, world⟩
  have h' : ({ s with world } : Probed ω τ η).Sound c probed :=
    ⟨h.probes, h.active, h.faults, h.readable, h.sent⟩
  have one := sortProbe_sound c probed node answer s.world world hs { s with world } h'
  dsimp only
  cases hb : sortProbe c.toDialect (node, answer) { s with world } with
  | done b =>
    rw [hb] at one
    exact ⟨s.probes, answer, one⟩
  | next s' =>
    rw [hb] at one
    exact one

/-- The probe goes through the nodes in order and stops only at an answer it cannot read. -/
theorem probe_sound (c : Client ω τ η ρ κ ε) (nodes : List CommitteeNode) (world : ω) :
    (forEach (probeNode c) nodes ⟨world, [], [], []⟩).Meets
      (fun b => ∃ before node answer, b.2.probes = before ++ [(node, answer)] ∧
        c.readHealth answer = .error b.1)
      (fun s => s.Sound c nodes) := by
  have start : (⟨world, [], [], []⟩ : Probed ω τ η).Sound c [] :=
    ⟨rfl, rfl, rfl, by simp, by simp⟩
  have rule := forEach_rule (f := probeNode c)
    (Q := fun b => ∃ before node answer, b.2.probes = before ++ [(node, answer)] ∧
      c.readHealth answer = .error b.1)
    (I := fun rest s => ∃ probed, probed ++ rest = nodes ∧ s.Sound c probed)
    (fun node rest s ⟨probed, split, h⟩ => by
      have one := probeNode_sound c probed node s h
      cases hb : probeNode c node s with
      | done b =>
        rw [hb] at one
        obtain ⟨before, answer, crash⟩ := one
        exact ⟨before, node, answer, crash⟩
      | next s' =>
        rw [hb] at one
        exact ⟨probed ++ [node], by simp [← split], one⟩)
    nodes ⟨world, [], [], []⟩ ⟨[], rfl, start⟩
  cases hf : forEach (probeNode c) nodes ⟨world, [], [], []⟩ with
  | done b =>
    rw [hf] at rule
    exact rule
  | next s =>
    rw [hf] at rule
    obtain ⟨probed, split, h⟩ := rule
    rw [List.append_nil] at split
    exact split ▸ h

theorem Probed.Sound.mem_active {c : Client ω τ η ρ κ ε} {nodes : List CommitteeNode}
    {s : Probed ω τ η} (h : s.Sound c nodes) {n : CommitteeNode} :
    n ∈ s.active ↔ ∃ answer, (n, answer) ∈ s.probes ∧ c.readHealth answer = .ok none := by
  simp only [h.active, List.mem_map, List.mem_filter, passed]
  constructor
  · rintro ⟨⟨n', answer⟩, ⟨mem, pass⟩, rfl⟩
    refine ⟨answer, mem, ?_⟩
    split at pass
    · assumption
    · simp at pass
  · rintro ⟨answer, mem, pass⟩
    exact ⟨(n, answer), ⟨mem, by simp [pass]⟩, rfl⟩

theorem Probed.Sound.sublist {c : Client ω τ η ρ κ ε} {nodes : List CommitteeNode}
    {s : Probed ω τ η} (h : s.Sound c nodes) : s.active.Sublist nodes := by
  rw [h.active, ← h.probes]
  exact List.filter_sublist.map _

/-! ## Accounts -/

/-- Which node a fault is of. -/
def NodeFault.place (f : NodeFault) : ℕ × String := (f.index, f.endpoint)

def CommitteeNode.place (n : CommitteeNode) : ℕ × String := (n.index, n.endpoint)

/-- Every node is either still available or has one fault. -/
def Accounted (nodes : List CommitteeNode) (faults : List NodeFault)
    (available : List CommitteeNode) : Prop :=
  (faults.map NodeFault.place ++ available.map CommitteeNode.place).Perm
    (nodes.map CommitteeNode.place)

/-- A node that passes the probe has no fault, any other has one. -/
theorem Probed.Sound.accounted {c : Client ω τ η ρ κ ε} {nodes : List CommitteeNode}
    {s : Probed ω τ η} (h : s.Sound c nodes) : Accounted nodes s.faults s.active := by
  unfold Accounted
  rw [h.faults, h.active, ← h.probes]
  have readable := h.readable
  generalize s.probes = probes at readable
  induction probes with
  | nil => simp
  | cons probe rest ih =>
    have tail := ih fun p hp => readable p (List.mem_cons_of_mem _ hp)
    obtain ⟨_ | ⟨stage, detail⟩, hv⟩ := readable probe (by simp)
    · simp only [probeFault, hv, passed, List.filterMap_cons, List.filter_cons, if_true,
        List.map_cons]
      exact List.perm_middle.trans (tail.cons _)
    · simp only [probeFault, hv, passed, List.filterMap_cons, List.filter_cons, List.map_cons,
        List.cons_append, Bool.false_eq_true, if_false]
      exact tail.cons _

theorem Accounted.length {nodes available : List CommitteeNode} {faults : List NodeFault}
    (h : Accounted nodes faults available) : faults.length + available.length = nodes.length := by
  simpa using List.Perm.length_eq h

/-- The indices of a node list are distinct. -/
def Distinct (nodes : List CommitteeNode) : Prop := (nodes.map (·.index)).Nodup

theorem Accounted.nodup {nodes available : List CommitteeNode} {faults : List NodeFault}
    (h : Accounted nodes faults available) (distinct : Distinct nodes) :
    (faults.map (·.index) ++ available.map (·.index)).Nodup := by
  have indices := (List.Perm.map Prod.fst h).nodup_iff.2 (by
    simpa [Distinct, CommitteeNode.place, Function.comp_def] using distinct)
  simpa [NodeFault.place, CommitteeNode.place, Function.comp_def] using indices

theorem perm_cons_filter_ne {α β : Type*} [DecidableEq β] {f : α → β} {a : α} :
    ∀ {l : List α}, (l.map f).Nodup → a ∈ l → (a :: l.filter (f · ≠ f a)).Perm l
  | b :: l, nodup, h => by
    rw [List.map_cons, List.nodup_cons] at nodup
    rcases List.mem_cons.1 h with rfl | h
    · have others : l.filter (f · ≠ f a) = l := by
        refine List.filter_eq_self.2 fun b hb => decide_eq_true fun heq => nodup.1 ?_
        exact heq ▸ List.mem_map_of_mem hb
      rw [List.filter_cons_of_neg (by simp), others]
    · have differ : f b ≠ f a := fun heq => nodup.1 (heq ▸ List.mem_map_of_mem h)
      rw [List.filter_cons_of_pos (by simpa using differ)]
      exact (List.Perm.swap b a _).trans ((perm_cons_filter_ne nodup.2 h).cons b)

/-- A dropped node moves from the available ones to the faults. -/
theorem Accounted.drop {nodes available : List CommitteeNode} {faults : List NodeFault}
    (h : Accounted nodes faults available) (distinct : Distinct nodes) {node : CommitteeNode}
    (mem : node ∈ available) {fault : NodeFault} (place : fault.place = node.place) :
    Accounted nodes (faults ++ [fault]) (available.filter (·.index ≠ node.index)) := by
  unfold Accounted
  have split := perm_cons_filter_ne (h.nodup distinct).of_append_right mem
  rw [List.map_append, List.map_singleton, place, List.append_assoc, List.singleton_append,
    ← List.map_cons]
  exact ((split.map _).append_left _).trans h

end MatterSdk
