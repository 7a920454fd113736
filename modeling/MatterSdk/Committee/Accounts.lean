import MatterSdk.Committee.Scripted
import MatterSdk.Committee.History

/-!
# Faults

When too few nodes are left, a Rust run names each node that it could not use, once, and the reason:
first those that failed the probe, in node order, then those dropped, in the order of the drops.
-/

namespace MatterSdk

variable {ω τ η ρ κ ε : Type}

/-- The loop begins at most one round for each node it can spare, and a last one. -/
theorem Closed.rounds_le {c : Client ω τ η ρ κ ε} {task : Task} {s : Probed ω τ η}
    (sound : s.Sound c task.nodes) {ending : Ending ε} {p : Progress ω τ ρ κ}
    (h : Closed c task s (ending, p)) : rounds p.log ≤ s.active.length - task.threshold + 1 := by
  have within {quorum rest : List CommitteeNode} {partials : List PartialInput}
      {q : Progress ω τ ρ κ} (pass : Pass c task s quorum rest partials q) :
      rounds q.log ≤ s.active.length - task.threshold + 1 := by
    have total := pass.history.length sound
    have begun := pass.begun
    have left := pass.enough
    omega
  cases h with
  | opened quorum partials _ pass => exact within pass
  | stopped quorum node rest partials q _ e pass asked =>
    obtain ⟨-, -, log | ⟨x, log⟩⟩ := asked.aborted
    · exact log ▸ within pass
    · have bound := within pass
      rw [log]
      exact bound
  | exhausted _ history begun few =>
    have total := history.length sound
    omega

theorem Ran.rounds_le {c : Client ω τ η ρ κ ε} {task : Task} {run : Run τ η ρ κ ε}
    (h : Ran c task run) : rounds run.log ≤ run.active.length - task.threshold + 1 := by
  cases h with
  | crashed | few => exact Nat.zero_le _
  | closed s sound enough ending p closed => exact closed.rounds_le sound

/-! ## The node list and the faults -/

section Accounted

variable {nodes available : List CommitteeNode} {faults : List NodeFault}

theorem Accounted.disjoint (h : Accounted nodes faults available) (distinct : Distinct nodes)
    {node : CommitteeNode} (mem : node ∈ available) {f : NodeFault} (hf : f ∈ faults) :
    f.index ≠ node.index :=
  List.disjoint_of_nodup_append (h.nodup distinct) (List.mem_map_of_mem hf)
    |> fun apart same => apart (same ▸ List.mem_map_of_mem mem)

/-- A node that is not available has one fault, at its own endpoint. -/
theorem Accounted.single (h : Accounted nodes faults available) (distinct : Distinct nodes)
    (known : available ⊆ nodes) {node : CommitteeNode} (mem : node ∈ nodes)
    (gone : node ∉ available) :
    ∃ f, faults.filter (·.index = node.index) = [f] ∧ f.endpoint = node.endpoint := by
  have place := (List.Perm.mem_iff h).2 (List.mem_map_of_mem mem)
  rcases List.mem_append.1 place with place | place
  · obtain ⟨f, hf, same⟩ := List.mem_map.1 place
    obtain ⟨index, endpoint⟩ := Prod.mk.inj same
    refine ⟨f, ?_, endpoint⟩
    have nodup : (faults.map (·.index)).Nodup := (h.nodup distinct).of_append_left
    have only := perm_cons_filter_ne nodup hf
    have one : (f :: faults.filter (·.index ≠ f.index)).filter (·.index = node.index) = [f] := by
      rw [List.filter_cons_of_pos (by simpa using index), List.filter_filter, index]
      simp
    exact List.perm_singleton.1 (one ▸ (only.filter _).symm)
  · obtain ⟨n, hn, same⟩ := List.mem_map.1 place
    have index : n.index = node.index := congrArg Prod.fst same
    exact absurd (List.inj_on_of_nodup_map distinct (known hn) mem index ▸ hn) gone

theorem Accounted.each (h : Accounted nodes faults available) (distinct : Distinct nodes)
    (known : available ⊆ nodes) {node : CommitteeNode} (mem : node ∈ nodes) :
    (node ∈ available ∧ ∀ f ∈ faults, f.index ≠ node.index) ∨
      (node ∉ available ∧
        ∃ f, faults.filter (·.index = node.index) = [f] ∧ f.endpoint = node.endpoint) := by
  by_cases left : node ∈ available
  · exact Or.inl ⟨left, fun f hf => h.disjoint distinct left hf⟩
  · exact Or.inr ⟨left, h.single distinct known mem left⟩

end Accounted

namespace Rust

/-- The accounts behind a report of too few nodes. -/
structure FaultAccount (req : DecryptRequest)
    (run : Run String Health PartialDecryptResponse ℕ SdkError) (needed active : ℕ)
    (faults : List NodeFault) : Prop where
  needed : needed = req.threshold
  few : active < req.threshold
  left : run.available.length = active
  each : ∀ node ∈ req.nodes,
    (node ∈ run.available ∧ ∀ f ∈ faults, f.index ≠ node.index) ∨
      (node ∉ run.available ∧
        ∃ f, faults.filter (·.index = node.index) = [f] ∧ f.endpoint = node.endpoint)
  total : faults.length + active = req.nodes.length
  /-- Those of the probe in node order, then those of the drops as they happened. -/
  order : ∃ probed gone, faults = probed ++ gone ∧
    (probed.map NodeFault.place).Sublist (req.nodes.map CommitteeNode.place) ∧
    (∀ f ∈ probed, f.stage ∈ [.health, .inactive, .protocolVersion]) ∧
    gone.map (·.index) = dropped run.log ∧
    ∀ f ∈ gone, f.stage ∈ [.partialDecrypt, .epochMismatch]

section Account

variable {deps : Deps ω} {req : DecryptRequest} {s : Probed ω String Health}
  {p : Progress ω String PartialDecryptResponse ℕ}

theorem probed_faults (sound : s.Sound (client deps req) req.nodes) :
    (s.faults.map NodeFault.place).Sublist (req.nodes.map CommitteeNode.place) ∧
      ∀ f ∈ s.faults, f.stage ∈ [.health, .inactive, .protocolVersion] := by
  rw [sound.faults]
  constructor
  · rw [← sound.probes]
    generalize s.probes = probes
    induction probes with
    | nil => simp
    | cons probe rest ih =>
      unfold probeFault at ih ⊢
      rw [List.filterMap_cons]
      split
      · exact ih.cons _
      · rename_i f hf
        split at hf
        · obtain rfl := Option.some.inj hf
          exact ih.cons_cons _
        · simp at hf
  · intro f hf
    obtain ⟨⟨node, answer⟩, -, h⟩ := List.mem_filterMap.1 hf
    unfold probeFault at h
    split at h
    · rename_i stage detail hr
      obtain rfl := Option.some.inj h
      change readHealth deps.protocolVersion answer = _ at hr
      exact readHealth_stage hr
    · simp at h

theorem drops_stage {f : NodeFault} (h : f ∈ drops (client deps req) p.log) :
    f.stage ∈ [.partialDecrypt, .epochMismatch] := by
  obtain ⟨⟨node, answer⟩, -, h⟩ := List.mem_filterMap.1 h
  unfold answerFault at h
  split at h
  · obtain rfl := Option.some.inj h
    simp [CommitteeNode.fault]
  · split at h
    · obtain rfl := Option.some.inj h
      simp [CommitteeNode.fault]
    · simp at h
  · simp at h

/-- The accounts when a loop runs out of nodes. -/
theorem faultAccount_of_exhausted (sound : s.Sound (client deps req) req.nodes)
    (distinct : Distinct req.nodes) (history : History (client deps req) req.task s p)
    (few : p.available.length < req.threshold)
    {run : Run String Health PartialDecryptResponse ℕ SdkError}
    (available : run.available = p.available) (log : run.log = p.log) :
    FaultAccount req run req.threshold p.available.length p.faults := by
  have known : p.available ⊆ req.nodes := by
    rw [history.available]
    exact (List.filter_sublist.trans sound.sublist).subset
  refine ⟨rfl, few, by rw [available], fun node mem => ?_, history.accounted.length,
    s.faults, drops (client deps req) p.log, history.faults, (probed_faults sound).1,
    (probed_faults sound).2, ?_, fun f hf => drops_stage hf⟩
  · rw [available]
    exact history.accounted.each distinct known mem
  · rw [log]
    exact history.named.symm

end Account

theorem decrypt_faults (deps : Deps ω) (req : DecryptRequest) (world : ω)
    (distinct : Distinct req.nodes) :
    rounds (decrypt deps req world).log ≤
        (decrypt deps req world).active.length - req.threshold + 1 ∧
      ∀ needed active faults,
        (decrypt deps req world).result = .error (.quorumUnavailable needed active faults) →
        FaultAccount req (decrypt deps req world) needed active faults := by
  have ran : Ran (client deps req) req.task (decrypt deps req world) :=
    decrypt_ran (client deps req) distinct world
  refine ⟨ran.rounds_le, fun needed active faults unavailable => ?_⟩
  generalize decrypt deps req world = run at ran unavailable
  cases ran with
  | crashed e s before node answer probes crash =>
    exact absurd crash readHealth_ne_error
  | few s sound few =>
    obtain ⟨rfl, rfl, rfl⟩ := SdkError.quorumUnavailable.inj (Except.error.inj unavailable)
    have history := sound.start_history (ρ := PartialDecryptResponse)
    exact faultAccount_of_exhausted sound distinct history few rfl rfl
  | closed s sound enough ending p closed =>
    cases closed with
    | exhausted _ history begun few =>
      rw [conclude_exhausted] at unavailable
      split at unavailable
      · cases unavailable
      · obtain ⟨rfl, rfl, rfl⟩ := SdkError.quorumUnavailable.inj (Except.error.inj unavailable)
        exact faultAccount_of_exhausted sound distinct history (Nat.lt_of_succ_le few.le) rfl rfl
    | opened quorum partials _ pass =>
      obtain ⟨source, -, other⟩ := mapError_core unavailable
      cases other
    | stopped quorum node rest partials q _ e pass asked =>
      obtain rfl := Except.error.inj unavailable
      rcases abort_cases asked with ⟨_, other⟩ | ⟨_, other⟩ | ⟨_, _, other, -⟩ <;> cases other

/-- The first of the members cannot be reached, and the next two fail when they are asked. -/
def oneLeft : Deps Unit :=
  scriptedDeps (fun endpoint => if endpoint = "node1" then .error "unreachable" else .ok activeHealth)
    fun endpoint => if endpoint = "node4" then .ok goodAnswer else .error "connection reset"

/-- One member is left of four, after a fault in the probe and one in each of two rounds. -/
theorem decrypt_faults_dropped :
    FaultAccount (pairRequest 4) (decrypt oneLeft (pairRequest 4) ()) 2 1
      [⟨1, "node1", .health, .exchange "unreachable"⟩,
        ⟨2, "node2", .partialDecrypt, .exchange "connection reset"⟩,
        ⟨3, "node3", .partialDecrypt, .exchange "connection reset"⟩] :=
  (decrypt_faults _ _ _ (by unfold Distinct; decide)).2 _ _ _ (by decide)

end Rust

end MatterSdk
