import Mathlib.Data.Prod.Lex
import MatterSdk.Committee.Readings
import MatterSdk.Committee.Rotation

/-!
# Agreement

The four decrypt loops run in step, so their verdicts are the same until the nodes run out.  Then
each reports an epoch with the most votes, and of several such Rust takes the highest, Go and Python
the lowest and TypeScript the first reported.  Without a vote each lists its faults, and Python quotes
the status of an inactive node in its own way.
-/

namespace MatterSdk

open Loop

variable {ω : Type}

/-! ## The epoch reported at exhaustion -/

/-- Of the epochs with most votes, Rust reports the highest. -/
theorem Rust.dominant_highest {epochs : List ℕ} {epoch : ℕ}
    (h : dominant (Tally.tally Tally.eqKey epochs) = some epoch) :
    Tally.Leads (Tally.tally Tally.eqKey epochs) epoch ∧
      ∀ other, Tally.Leads (Tally.tally Tally.eqKey epochs) other → other ≤ epoch := by
  refine ⟨Tally.leads_tally_iff.2 (dominant_spec h), fun other leads => ?_⟩
  obtain ⟨best, pick, rfl⟩ := Option.map_eq_some_iff.1 h
  have perm := List.perm_insertionSort (fun a b : ℕ × ℕ => a.1 ≤ b.1)
    (Tally.tally Tally.eqKey epochs)
  have ascending : (List.insertionSort (fun a b : ℕ × ℕ => a.1 ≤ b.1)
      (Tally.tally Tally.eqKey epochs)).Pairwise fun a b => a.1 < b.1 := by
    have : Std.Total fun a b : ℕ × ℕ => a.1 ≤ b.1 := ⟨fun _ _ => Nat.le_total _ _⟩
    have : IsTrans (ℕ × ℕ) fun a b => a.1 ≤ b.1 := ⟨fun _ _ _ => Nat.le_trans⟩
    have sorted := List.pairwise_insertionSort (fun a b : ℕ × ℕ => a.1 ≤ b.1)
      (Tally.tally Tally.eqKey epochs)
    have keys := List.pairwise_map.1 ((perm.map Prod.fst).nodup_iff.2 (Tally.keys_tally epochs))
    exact (sorted.and keys).imp fun h => Nat.lt_of_le_of_ne h.1 h.2
  have prefers := ascending.imp (S := Tally.Prefers (fun e : ℕ × ℕ => toLex (e.2, e.1))
      fun new best => best.2 ≤ new.2) fun {a b} before => by
    constructor
    · intro taken
      have : a.2 ≤ b.2 := by simpa using taken
      exact Prod.Lex.toLex_le_toLex.2 (by omega)
    · intro left
      have : b.2 < a.2 := by simpa using left
      exact Prod.Lex.toLex_le_toLex.2 (Or.inl this)
  obtain ⟨mem, top⟩ := Tally.pick_spec prefers pick
  obtain ⟨n, listed, most⟩ := leads
  have below := Prod.Lex.toLex_le_toLex.1 (top (other, n) (perm.mem_iff.2 listed))
  have above := most best (perm.mem_iff.1 mem)
  simp only at below above
  omega

/-- Of the epochs with most votes, Go reports the lowest, in whatever order it ranges over them. -/
theorem Go.dominant_lowest (range : MapOrder) (epochs : List ℕ) :
    match dominant range (Tally.tally Tally.eqKey epochs) with
    | none => epochs = []
    | some epoch => Tally.Leads (Tally.tally Tally.eqKey epochs) epoch ∧
        ∀ other, Tally.Leads (Tally.tally Tally.eqKey epochs) other → epoch ≤ other := by
  set votes := Tally.tally Tally.eqKey epochs with hv
  have perm := range.perm votes
  have prefers (a b : ℕ × ℕ) :
      Tally.Prefers (fun e : ℕ × ℕ => toLex (e.2, OrderDual.toDual e.1)) better a b := by
    constructor
    · intro taken
      simp only [better, Bool.or_eq_true, Bool.and_eq_true, decide_eq_true_eq] at taken
      refine Prod.Lex.toLex_le_toLex.2 (taken.imp id fun h => ⟨h.1.symm, ?_⟩)
      exact OrderDual.toDual_le_toDual.2 h.2.le
    · intro left
      simp only [better, Bool.or_eq_false_iff, Bool.and_eq_false_iff, decide_eq_false_iff_not] at left
      rcases Nat.lt_or_ge b.2 a.2 with less | more
      · exact Prod.Lex.toLex_le_toLex.2 (Or.inl less)
      · have equal : b.2 = a.2 := by omega
        refine Prod.Lex.toLex_le_toLex.2 (Or.inr ⟨equal, OrderDual.toDual_le_toDual.2 ?_⟩)
        rcases left.2 with h | h
        · exact absurd equal h
        · exact Nat.le_of_not_lt h
  obtain ⟨mem, top⟩ := Tally.pick_spec (l := (0, 0) :: range.order votes)
    (List.pairwise_of_forall prefers) rfl
  simp only [dominant]
  generalize List.foldl (fun best entry => if better entry best then entry else best) (0, 0)
    (range.order votes) = best at mem top
  split
  · rename_i none
    split_ifs at none with zero
    cases epochs with
    | nil => rfl
    | cons e rest =>
      have listed : (e, (e :: rest).count e) ∈ votes :=
        Tally.mem_tally_iff.2 ⟨List.count_pos_iff.2 (by simp), rfl⟩
      have count : 0 < (e :: rest).count e := List.count_pos_iff.2 (by simp)
      have below := Prod.Lex.toLex_le_toLex.1 (top _ (List.mem_cons_of_mem _ (perm.mem_iff.2 listed)))
      simp only at below
      omega
  · rename_i epoch some
    split_ifs at some with positive
    obtain rfl := Option.some.inj some
    have listed : best ∈ votes := by
      rcases List.mem_cons.1 mem with rfl | mem
      · exact absurd positive (Nat.lt_irrefl 0)
      · exact perm.mem_iff.1 mem
    have most (entry : ℕ × ℕ) (he : entry ∈ votes) :
        entry.2 < best.2 ∨ entry.2 = best.2 ∧ best.1 ≤ entry.1 :=
      (Prod.Lex.toLex_le_toLex.1 (top entry (List.mem_cons_of_mem _ (perm.mem_iff.2 he)))).imp id
        fun h => ⟨h.1, OrderDual.toDual_le_toDual.1 h.2⟩
    refine ⟨⟨best.2, listed, fun entry he => ?_⟩, fun other ⟨n, mem, above⟩ => ?_⟩
    · have := most entry he
      omega
    · have := most _ mem
      have := above best listed
      simp only at *
      omega

/-- The client reports an epoch with most votes, if any has one. -/
structure ReportsLeader {τ η ρ κ ε : Type} (c : Client ω τ η ρ κ ε) (key : ℕ → κ) : Prop where
  none : c.dominant [] = .ok none
  some : ∀ epochs : List ℕ, epochs ≠ [] → ∃ epoch,
    Tally.Leads (Tally.tally Tally.eqKey epochs) epoch ∧
    c.dominant ((Tally.tally Tally.eqKey epochs).map (Prod.map key id)) = .ok (some (key epoch))

theorem Go.reportsLeader (deps : Deps ω) (params : DecryptParams) :
    ReportsLeader (client deps params) id where
  none := by
    have lowest := dominant_lowest deps.range []
    change Except.ok (dominant deps.range []) = _
    split at lowest
    · rename_i empty
      exact congrArg Except.ok empty
    · obtain ⟨⟨n, mem, -⟩, -⟩ := lowest
      cases mem
  some epochs nonempty := by
    have lowest := dominant_lowest deps.range epochs
    split at lowest
    · exact absurd lowest nonempty
    · rename_i epoch top
      refine ⟨epoch, lowest.1, ?_⟩
      rw [Prod.map_id, List.map_id]
      exact congrArg Except.ok top

theorem Python.reportsLeader (deps : Deps ω) (params : DecryptParams) :
    ReportsLeader (client deps params) fun n => .num (pythonNumber n) where
  none := rfl
  some epochs nonempty := by
    have prefers (a b : Value × ℕ) : Tally.Prefers Prod.snd better a b := by
      constructor
      · intro taken
        simp only [better, Bool.or_eq_true, Bool.and_eq_true, decide_eq_true_eq] at taken
        rcases taken with less | ⟨equal, -⟩ <;> omega
      · intro left
        simp only [better, Bool.or_eq_false_iff, decide_eq_false_iff_not] at left
        omega
    obtain ⟨epoch, leads, picked⟩ := Tally.exists_leads_of_pick_map prefers
      (fun n => (.num (pythonNumber n) : Value)) (Tally.tally_ne_nil nonempty)
    refine ⟨epoch, leads, ?_⟩
    change dominant _ = _
    rw [dominant, if_pos, picked]
    exact List.all_eq_true.2 fun entry he => by
      obtain ⟨vote, -, rfl⟩ := List.mem_map.1 he
      rfl

theorem TypeScript.reportsLeader (deps : Deps ω) (params : DecryptParams) :
    ReportsLeader (client deps params) fun n => .num (.ofNat n) where
  none := rfl
  some epochs nonempty := by
    have prefers (a b : Value × ℕ) :
        Tally.Prefers Prod.snd (fun entry best => best.2 < entry.2) a b :=
      ⟨fun h => Nat.le_of_lt (by simpa using h), fun h => by simpa using h⟩
    obtain ⟨epoch, leads, picked⟩ := Tally.exists_leads_of_pick_map prefers
      (fun n => (.num (.ofNat n) : Value)) (Tally.tally_ne_nil nonempty)
    exact ⟨epoch, leads, congrArg Except.ok picked⟩

/-! ## In step -/

/-- A client over the wire of a setting, which shares its signer and random source, agrees with the
Rust one when it reads and reports alike. -/
theorem agrees_of_wire {τ η ρ κ ε : Type} (s : Setting ω) (req : Rust.DecryptRequest)
    (total : ∀ point subset, ∃ lambda, lagrangeFor s.crypto point subset = .ok lambda)
    {c : Client ω τ η ρ κ ε} {key : ℕ → κ} {told : Except ε Plaintext → Conclusion}
    {health : Except String WireHealth → Except τ η} {answer : Except String WireAnswer → Except τ ρ}
    (transport : c.transport = s.transport.via health answer) (signer : c.signer = s.signer)
    (sampler : c.sampler = s.sampler)
    (readHealth : ∀ a, c.readHealth (health a) = .ok (wireFault s.protocolVersion a))
    (readAnswer : ∀ a reading, WireReading req.epoch a reading →
      c.readAnswer (answer a) = .ok (reading.map key))
    (lambda : ∀ point subset lambda, lagrangeFor s.crypto point subset = .ok lambda →
      c.lagrangeFor point subset = .ok lambda)
    (sameEpoch : ∀ a b, c.sameEpoch (key a) (key b) = decide (a = b))
    (epochDetail : ∀ epoch, epoch < 2 ^ 32 →
      c.epochDetail (key epoch) = .ok (.epochMismatch (toString epoch) (toString req.epoch)))
    (rotated : ∀ epoch, epoch < 2 ^ 32 →
      told (.error (c.rotated (key epoch))) = .epoch (some epoch) req.epoch)
    (refused : ∀ detail, told (.error (c.refused detail)) = .other detail)
    (quorumUnavailable : ∀ needed found faults,
      told (.error (c.quorumUnavailable needed found faults)) = .quorum needed found faults)
    (opened : ∀ partials, told (c.openSecret partials) =
      Rust.conclusion ((openSecret s.crypto s.limits req.openInput partials).mapError .core)) :
    Agrees (Rust.client s.rust req) c key (· < 2 ^ 32) Rust.conclusion told where
  sampler := sampler
  signer := signer
  health endpoint w := by
    rcases h : s.transport.health endpoint w with ⟨a, w'⟩
    refine ⟨a.map WireHealth.decoded, health a, w', wireFault s.protocolVersion a, ?_, ?_,
      Rust.readHealth_wire _ a, readHealth a⟩
    · simp only [Rust.client, Setting.rust, Transport.via, h]
    · simp only [transport, Transport.via, h]
  answer endpoint request w := by
    rcases h : s.transport.partialDecrypt endpoint request w with ⟨a, w'⟩
    obtain ⟨reading, hr⟩ := exists_wireReading req.epoch a
    refine ⟨a.map WireAnswer.decoded, answer a, w', reading, ?_, ?_, Rust.readAnswer_wire s.hex hr,
      readAnswer a reading hr, fun epoch => hr.lt⟩
    · simp only [Rust.client, Setting.rust, Transport.via, h]
    · simp only [transport, Transport.via, h]
  lambda point subset := by
    obtain ⟨l, hl⟩ := total point subset
    refine ⟨l, ?_, lambda point subset l hl⟩
    change (lagrangeFor s.crypto point subset).mapError SdkError.core = _
    rw [hl]
    rfl
  sameEpoch := sameEpoch
  epochDetail epoch valid := ⟨_, rfl, epochDetail epoch valid⟩
  rotated := rotated
  refused := refused
  quorumUnavailable := quorumUnavailable
  opened := opened

theorem Python.sameKey_nat (a b : ℕ) :
    sameKey (.num (pythonNumber a)) (.num (pythonNumber b)) = decide (a = b) := by
  simp [sameKey, numeric, pythonNumber_value, Number.ofNat]

theorem TypeScript.sameValueZero_nat (a b : ℕ) :
    sameValueZero (.num (.ofNat a)) (.num (.ofNat b)) = decide (a = b) := by
  simp [sameValueZero, Number.ofNat]

section Setting

variable (s : Setting ω) (req : Rust.DecryptRequest)
  (total : ∀ point subset, ∃ lambda, lagrangeFor s.crypto point subset = .ok lambda)

include total

theorem go_agrees : Agrees (Rust.client s.rust req) (Go.client s.go req) id (· < 2 ^ 32)
    Rust.conclusion Go.conclusion := by
  refine agrees_of_wire s req total rfl rfl rfl (Go.readHealth_wire _) ?_ ?_ (fun _ _ => rfl)
    (fun _ _ => rfl) (fun _ _ => rfl) (fun _ => rfl) (fun _ _ _ => rfl) ?_
  · intro a reading h
    refine (Go.readAnswer_wire h).trans ?_
    cases reading <;> rfl
  · intro point subset l hl
    change (lagrangeFor s.crypto point subset).mapError _ = _
    rw [hl]
    rfl
  · intro partials
    change Go.conclusion ((openSecret s.crypto s.limits req.openInput partials).mapError _) = _
    cases openSecret s.crypto s.limits req.openInput partials <;> rfl

theorem python_agrees : Agrees (Rust.client s.rust req) (Python.client s.python req)
    (fun n => .num (pythonNumber n)) (· < 2 ^ 32) Rust.conclusion Python.conclusion := by
  refine agrees_of_wire s req total rfl rfl rfl (Python.readHealth_wire _ _)
    (fun a reading => Python.readAnswer_wire) ?_ (fun a b => ?_) (fun _ _ => rfl) (fun _ _ => rfl)
    (fun _ => rfl) (fun _ _ _ => rfl) ?_
  · intro point subset l hl
    change (lagrangeFor s.crypto point subset).mapError _ = _
    rw [hl]
    rfl
  · exact Python.sameKey_nat a b
  · intro partials
    change Python.conclusion ((openSecret s.crypto s.limits req.openInput partials).mapError _) = _
    cases openSecret s.crypto s.limits req.openInput partials <;> rfl

theorem typescript_agrees : Agrees (Rust.client s.rust req) (TypeScript.client s.typescript req)
    (fun n => .num (.ofNat n)) (· < 2 ^ 32) Rust.conclusion TypeScript.conclusion := by
  refine agrees_of_wire s req total rfl rfl rfl (TypeScript.readHealth_wire _ _)
    (fun a reading => TypeScript.readAnswer_wire) ?_ (fun a b => ?_) (fun epoch valid => ?_)
    (fun epoch valid => ?_) (fun _ => rfl) (fun _ _ _ => rfl) ?_
  · intro point subset l hl
    change (lagrangeFor s.crypto point subset).mapError _ = _
    rw [hl]
    rfl
  · exact TypeScript.sameValueZero_nat a b
  · exact congrArg (Except.map fun printed => FaultDetail.epochMismatch printed (toString req.epoch))
      (TypeScript.template_nat s.printer.other valid)
  · change TypeScript.conclusion (.error (TypeScript.epochRotated req.epoch (.num (.ofNat epoch))
      (TypeScript.template s.printer.other (some (.num (.ofNat epoch)))))) = _
    rw [TypeScript.template_nat s.printer.other valid]
    exact congrArg (Conclusion.epoch · req.epoch) (TypeScript.natural_ofNat epoch)
  · intro partials
    change TypeScript.conclusion ((openSecret s.crypto s.limits req.openInput partials).mapError _) = _
    cases openSecret s.crypto s.limits req.openInput partials <;> rfl

end Setting

/-- Settling all probes before any is sorted finds what probing the nodes one by one finds. -/
theorem TypeScript.settle_same {τ η ρ κ ε : Type} {c : Client ω τ η ρ κ ε} {deps : Deps ω}
    {params : DecryptParams} {key : κ → Value} {Valid : κ → Prop}
    {told : Except ε Plaintext → Conclusion} {told' : Except Thrown Plaintext → Conclusion}
    (agrees : Agrees c (client deps params) key Valid told told')
    (nodes : List CommitteeNode) (s : Probed ω τ η) (s' : Probed ω String Value)
    (active : s'.active = s.active) (faults : s'.faults = s.faults)
    (world : s'.world = (settle deps.transport nodes s.world).2) :
    ∃ t t', forEach (probeNode c) nodes s = .next t ∧
      forEach (sortProbe (client deps params).toDialect) (settle deps.transport nodes s.world).1 s' =
        .next t' ∧ SameProbe t t' := by
  induction nodes generalizing s s' with
  | nil => exact ⟨s, s', rfl, rfl, world, active, faults⟩
  | cons node rest ih =>
    obtain ⟨answer, answer', w, fault, ha, ha', hr, hr'⟩ := agrees.health node.endpoint s.world
    change deps.transport.health node.endpoint s.world = _ at ha'
    simp only [settle, ha'] at world ⊢
    simp only [forEach, probeNode, sortProbe, ha, hr, hr']
    cases fault with
    | none => exact ih _ _ (by rw [active]) faults world
    | some fault => exact ih _ _ active (by rw [faults]) world

theorem TypeScript.decrypt_inStep {τ η ρ κ ε : Type} {c : Client ω τ η ρ κ ε} {deps : Deps ω}
    {params : DecryptParams} {key : κ → Value} {Valid : κ → Prop}
    {told : Except ε Plaintext → Conclusion} {told' : Except Thrown Plaintext → Conclusion}
    (agrees : Agrees c (client deps params) key Valid told told') (world : ω) :
    InStep c (client deps params) key Valid told told' params.task
      (MatterSdk.decrypt c params.task world) (decrypt deps params world) := by
  rcases hs : settle deps.transport params.nodes world with ⟨probes, world'⟩
  obtain ⟨t, t', ht, ht', same⟩ := settle_same agrees params.nodes
    ⟨world, [], [], []⟩ ⟨world', [], [], []⟩ rfl rfl (by rw [hs])
  rw [hs] at ht'
  have probed : forEach (probeNode c) params.task.nodes ⟨world, [], [], []⟩ = .next t := ht
  unfold decrypt MatterSdk.decrypt
  rw [hs, probed]
  simp only [ht']
  exact decryptActive_inStep agrees same

/-! ## The verdicts -/

/-- No epoch was served more often. -/
def MostServed (epochs : List ℕ) (epoch : ℕ) : Prop :=
  epoch ∈ epochs ∧ ∀ other, epochs.count other ≤ epochs.count epoch

/-- The nodes ran out, and two epochs had been served by as many of them as any. -/
def TiedAtExhaustion (deps : Rust.Deps ω) (req : Rust.DecryptRequest)
    (run : Run String Health PartialDecryptResponse ℕ SdkError) : Prop :=
  run.available.length < req.threshold ∧ ∃ a b, a ≠ b ∧
    MostServed (Rust.epochVotes deps req run) a ∧ MostServed (Rust.epochVotes deps req run) b

section Verdicts

variable {deps : Rust.Deps ω} {req : Rust.DecryptRequest}
  {run : Run String Health PartialDecryptResponse ℕ SdkError}

theorem tiedAtExhaustion_iff
    (counted : run.votes = Tally.tally Tally.eqKey (Rust.epochVotes deps req run)) :
    TiedAtExhaustion deps req run ↔ run.available.length < req.threshold ∧
      ∃ a b, a ≠ b ∧ Tally.Leads run.votes a ∧ Tally.Leads run.votes b := by
  simp only [TiedAtExhaustion, MostServed, counted, Tally.leads_tally_iff]

variable {τ η ρ κ ε : Type} {c : Client ω τ η ρ κ ε} {key : ℕ → κ} {Valid : ℕ → Prop}
  {told : Except ε Plaintext → Conclusion} {run' : Run τ η ρ κ ε}

/-- A client in step that reports a leader gives the Rust conclusion, unless there are two leaders. -/
theorem conclusion_eq_of_not_tied
    (agrees : Agrees (Rust.client deps req) c key Valid Rust.conclusion told)
    (reports : ReportsLeader c key)
    (step : InStep (Rust.client deps req) c key Valid Rust.conclusion told req.task run run')
    (counted : run.votes = Tally.tally Tally.eqKey (Rust.epochVotes deps req run))
    (untied : ¬ TiedAtExhaustion deps req run) :
    told run'.result = Rust.conclusion run.result := by
  cases step with
  | same _ h => exact h
  | exhausted p p' m few votes h h' =>
    rw [h, h', Rust.conclude_exhausted]
    rw [votes] at counted
    simp only [conclude, m.votes, m.available, m.faults]
    cases top : Rust.dominant p.votes with
    | none =>
      have none := Rust.dominant_eq_none_iff.1 top
      rw [none, List.map_nil, reports.none]
      exact agrees.quorumUnavailable _ _ _
    | some served =>
      rw [counted] at top
      obtain ⟨leads, -⟩ := Rust.dominant_highest top
      have cast : Rust.epochVotes deps req run ≠ [] :=
        List.ne_nil_of_mem (Tally.leads_tally_iff.1 leads).1
      obtain ⟨epoch, leads', reported⟩ := reports.some _ cast
      rw [← counted] at leads leads' reported
      have same : epoch = served := by
        by_contra differ
        refine untied ((tiedAtExhaustion_iff (votes.trans counted)).2 ⟨few, epoch, served, differ, ?_⟩)
        rw [votes]
        exact ⟨leads', leads⟩
      obtain ⟨n, mem, -⟩ := leads
      rw [reported, same]
      exact agrees.rotated served (m.valid served (List.mem_map_of_mem mem))

/-- On a tie, the lowest leader is not the highest. -/
theorem go_epoch_ne_of_tied {range : Go.MapOrder} {goClient : Client ω τ η ρ ℕ Go.Failure}
    {run' : Run τ η ρ ℕ Go.Failure}
    (lowest : ∀ votes, goClient.dominant votes = .ok (Go.dominant range votes))
    (rotated : ∀ epoch, goClient.rotated epoch = .decrypt (.epoch epoch req.epoch))
    (step : InStep (Rust.client deps req) goClient id Valid Rust.conclusion Go.conclusion req.task
      run run')
    (counted : run.votes = Tally.tally Tally.eqKey (Rust.epochVotes deps req run))
    (tied : TiedAtExhaustion deps req run) :
    ∃ lowest highest, lowest ≠ highest ∧
      Go.conclusion run'.result = .epoch (some lowest) req.epoch ∧
      Rust.conclusion run.result = .epoch (some highest) req.epoch := by
  obtain ⟨few, a, b, differ, ha, hb⟩ := (tiedAtExhaustion_iff counted).1 tied
  cases step with
  | same spare h =>
    rcases spare with none | enough
    · rw [none] at ha
      obtain ⟨n, mem, -⟩ := ha
      cases mem
    · exact absurd few (Nat.not_lt.2 enough)
  | exhausted p p' m _ votes h h' =>
    rw [votes] at counted ha hb
    rw [h, h', Rust.conclude_exhausted]
    simp only [conclude, m.votes, Prod.map_id, List.map_id, lowest, rotated]
    have least := Go.dominant_lowest range (Rust.epochVotes deps req run)
    rw [← counted] at least
    cases top : Rust.dominant p.votes with
    | none =>
      obtain ⟨n, mem, -⟩ := ha
      rw [Rust.dominant_eq_none_iff.1 top] at mem
      cases mem
    | some highest =>
      rw [counted] at top
      have greatest := (Rust.dominant_highest top).2
      rw [← counted] at greatest
      split at least
      · rename_i none
        rw [counted, least] at ha
        obtain ⟨n, mem, -⟩ := ha
        cases mem
      · rename_i epoch some
        rw [some]
        refine ⟨epoch, highest, ?_, rfl, rfl⟩
        have := least.2 a ha
        have := least.2 b hb
        have := greatest a ha
        have := greatest b hb
        omega

end Verdicts

/-! ### The faults listed -/

/-- The nodes ran out without a vote for another epoch, and one that speaks our protocol had reported
an inactive status that the languages quote differently. -/
def MisquotedAtExhaustion (tables : Quoting.Tables) (deps : Rust.Deps ω) (req : Rust.DecryptRequest)
    (run : Run String Health PartialDecryptResponse ℕ SdkError) : Prop :=
  run.available.length < req.threshold ∧ Rust.epochVotes deps req run = [] ∧
    ∃ node health, (node, .ok health) ∈ run.probes ∧
      Rust.speaksOurProtocol deps.protocolVersion health.cryptoProtocolVersion = true ∧
      health.status ≠ "active" ∧ ¬ Quoting.Uniform tables health.status.toList

namespace Rust

variable {deps : Deps ω} {req : DecryptRequest}
  {run : Run String Health PartialDecryptResponse ℕ SdkError}

/-- The faults of the probe and then those of the drops. -/
def listed (deps : Deps ω) (req : DecryptRequest)
    (run : Run String Health PartialDecryptResponse ℕ SdkError) : List NodeFault :=
  run.probes.filterMap (probeFault (client deps req)) ++ drops (client deps req) run.log

/-- The loop has a tally exactly when a vote was cast. -/
theorem epochVotes_eq_nil_iff
    (counted : run.votes = Tally.tally Tally.eqKey (epochVotes deps req run)) :
    epochVotes deps req run = [] ↔ run.votes = [] := by
  rw [counted]
  constructor
  · intro silent
    rw [silent]
    rfl
  · intro empty
    by_contra cast
    exact Tally.tally_ne_nil cast empty

/-- Too few nodes are reported exactly when they ran out without a vote. -/
theorem quorumUnavailable_iff (ran : Ran (client deps req) req.task run)
    (counted : run.votes = Tally.tally Tally.eqKey (epochVotes deps req run))
    {needed found : ℕ} {faults : List NodeFault} :
    run.result = .error (.quorumUnavailable needed found faults) ↔
      (run.available.length < req.threshold ∧ epochVotes deps req run = []) ∧
        req.threshold = needed ∧ run.available.length = found ∧ listed deps req run = faults := by
  rw [epochVotes_eq_nil_iff counted, listed]
  clear counted
  cases ran with
  | crashed e s before node answer probes crash => exact absurd crash readHealth_ne_error
  | few s sound few =>
    have left : s.active.length < req.threshold := few
    have nothing : drops (client deps req) [] = [] := rfl
    have reported : (client deps req).quorumUnavailable = .quorumUnavailable := rfl
    rw [nothing, List.append_nil, ← sound.faults, reported]
    simp [left, DecryptRequest.task]
  | closed s sound enough ending p closed =>
    cases closed with
    | exhausted _ history begun few =>
      have left : p.available.length < req.threshold := Nat.lt_of_succ_le few.le
      rw [conclude_exhausted, ← sound.faults, ← history.faults]
      cases top : dominant p.votes with
      | none => simp [left, dominant_eq_none_iff.1 top]
      | some served =>
        have cast : p.votes ≠ [] := fun silent => by
          rw [dominant_eq_none_iff.2 silent] at top
          cases top
        simp [cast]
    | opened quorum partials _ pass =>
      constructor
      · intro unavailable
        obtain ⟨source, -, other⟩ := mapError_core unavailable
        cases other
      · rintro ⟨⟨few, -⟩, -⟩
        exact absurd few (Nat.not_lt.2 pass.enough)
    | stopped quorum node rest partials q _ e pass asked =>
      constructor
      · intro unavailable
        obtain rfl := Except.error.inj unavailable
        rcases abort_cases asked with ⟨_, other⟩ | ⟨_, other⟩ | ⟨epoch, x, other, -⟩ <;> cases other
      · rintro ⟨⟨few, -⟩, -⟩
        rw [asked.aborted.1] at few
        exact absurd few (Nat.not_lt.2 pass.enough)

/-- A probe lists a status exactly when it is that of an inactive node of our protocol. -/
theorem probeFault_inactive_iff {probe : CommitteeNode × Except String Health} {text : String} :
    (∃ fault epoch version, probeFault (client deps req) probe = some fault ∧
        fault.detail = .inactive (.text text) epoch version) ↔
      ∃ health, probe.2 = .ok health ∧
        speaksOurProtocol deps.protocolVersion health.cryptoProtocolVersion = true ∧
        health.status ≠ "active" ∧ health.status = text := by
  obtain ⟨node, answer⟩ := probe
  have reads : (client deps req).readHealth answer = readHealth deps.protocolVersion answer := rfl
  simp only [probeFault, reads]
  cases answer with
  | error e => simp [readHealth, CommitteeNode.fault]
  | ok health =>
    simp only [readHealth, isActive, Except.ok.injEq, exists_eq_left']
    cases speaksOurProtocol deps.protocolVersion health.cryptoProtocolVersion
    · simp [CommitteeNode.fault]
    · by_cases active : health.status = "active"
      · simp [active]
      · simp [active, CommitteeNode.fault]

/-- A drop lists no status. -/
theorem drops_detail {log : List (Message String PartialDecryptResponse)} {fault : NodeFault}
    (mem : fault ∈ drops (client deps req) log) {status : Status} {epoch version : String} :
    fault.detail ≠ .inactive status epoch version := by
  obtain ⟨⟨node, answer⟩, -, h⟩ := List.mem_filterMap.1 mem
  unfold answerFault at h
  have reads : (client deps req).readAnswer answer = readAnswer deps.hex req.epoch answer := rfl
  have read := readAnswer_cases deps.hex req.epoch answer
  rw [reads] at h
  generalize readAnswer deps.hex req.epoch answer = reading at h read
  cases read with
  | failed e =>
    obtain rfl := Option.some.inj h
    simp [CommitteeNode.fault]
  | diverges resp =>
    obtain rfl := Option.some.inj h
    simp [CommitteeNode.fault]
  | badPartial | badProof | contributes => cases h

theorem listed_inactive_iff {text : String} :
    (∃ fault ∈ listed deps req run, ∃ epoch version,
        fault.detail = .inactive (.text text) epoch version) ↔
      ∃ node health, (node, .ok health) ∈ run.probes ∧
        speaksOurProtocol deps.protocolVersion health.cryptoProtocolVersion = true ∧
        health.status ≠ "active" ∧ health.status = text := by
  constructor
  · rintro ⟨fault, mem, epoch, version, detail⟩
    rcases List.mem_append.1 mem with mem | mem
    · obtain ⟨⟨node, answer⟩, probed, given⟩ := List.mem_filterMap.1 mem
      obtain ⟨health, rfl, inactive⟩ := probeFault_inactive_iff.1 ⟨fault, epoch, version, given, detail⟩
      exact ⟨node, health, probed, inactive⟩
    · exact absurd detail (drops_detail mem)
  · rintro ⟨node, health, probed, inactive⟩
    obtain ⟨fault, epoch, version, given, detail⟩ : ∃ fault epoch version,
        probeFault (client deps req) (node, .ok health) = some fault ∧
          fault.detail = .inactive (.text text) epoch version :=
      probeFault_inactive_iff.2 ⟨health, rfl, inactive⟩
    exact ⟨fault, List.mem_append_left _ (List.mem_filterMap.2 ⟨_, probed, given⟩), epoch, version,
      detail⟩

theorem conclusion_quorum_iff {result : Except SdkError Plaintext} {needed found : ℕ}
    {faults : List NodeFault} : conclusion result = .quorum needed found faults ↔
      result = .error (.quorumUnavailable needed found faults) := by
  constructor
  · intro h
    unfold conclusion at h
    split at h <;> cases h
    rfl
  · rintro rfl
    rfl

variable {tables : Quoting.Tables}

theorem quotedAlike_iff {text : String} :
    (Go.quote tables text = quote tables text ∧ Python.quote tables text = quote tables text ∧
        TypeScript.quote text = quote tables text) ↔ Quoting.Uniform tables text.toList := by
  rw [← Quoting.quotedAlike_iff]
  simp only [Go.quote, Python.quote, TypeScript.quote, quote, Quoting.QuotedAlike,
    String.ofList_inj]

/-- The languages print the conclusion of a run alike exactly when it lists no status that they quote
differently. -/
theorem verdicts_alike_iff (tables : Quoting.Tables) (ran : Ran (client deps req) req.task run)
    (counted : run.votes = Tally.tally Tally.eqKey (epochVotes deps req run)) :
    ((conclusion run.result).verdict (Go.quote tables) =
          (conclusion run.result).verdict (quote tables) ∧
        (conclusion run.result).verdict (Python.quote tables) =
          (conclusion run.result).verdict (quote tables) ∧
        (conclusion run.result).verdict TypeScript.quote =
          (conclusion run.result).verdict (quote tables)) ↔
      ¬ MisquotedAtExhaustion tables deps req run := by
  constructor
  · rintro ⟨go, python, typescript⟩ ⟨few, silent, node, health, probed, ours, inactive, misquoted⟩
    have unavailable := (quorumUnavailable_iff ran counted).2 ⟨⟨few, silent⟩, rfl, rfl, rfl⟩
    obtain ⟨fault, mem, epoch, version, detail⟩ : ∃ fault ∈ listed deps req run, ∃ epoch version,
        fault.detail = .inactive (.text health.status) epoch version :=
      listed_inactive_iff.2 ⟨node, health, probed, ours, inactive, rfl⟩
    have each {quote' : String → String} (same : (conclusion run.result).verdict quote' =
        (conclusion run.result).verdict (quote tables)) :
        quote' health.status = quote tables health.status :=
      FaultDetail.render_eq_iff.1 (Conclusion.verdict_eq_iff.1 same _ _ _
        (conclusion_quorum_iff.2 unavailable) fault mem) _ _ _ detail
    exact misquoted (quotedAlike_iff.1 ⟨each go, each python, each typescript⟩)
  · intro uniform
    have each {quote' : String → String} (alike : ∀ text, Quoting.Uniform tables text.toList →
        quote' text = quote tables text) : (conclusion run.result).verdict quote' =
          (conclusion run.result).verdict (quote tables) := by
      refine Conclusion.verdict_eq_iff.2 fun needed found faults quorum fault mem => ?_
      refine FaultDetail.render_eq_iff.2 fun text epoch version detail => alike text ?_
      obtain ⟨⟨few, silent⟩, -, -, rfl⟩ :=
        (quorumUnavailable_iff ran counted).1 (conclusion_quorum_iff.1 quorum)
      obtain ⟨node, health, probed, ours, inactive, rfl⟩ :=
        listed_inactive_iff.1 ⟨fault, mem, epoch, version, detail⟩
      by_contra misquoted
      exact uniform ⟨few, silent, node, health, probed, ours, inactive, misquoted⟩
    exact ⟨each fun text h => (quotedAlike_iff.2 h).1, each fun text h => (quotedAlike_iff.2 h).2.1,
      each fun text h => (quotedAlike_iff.2 h).2.2⟩

end Rust

/-- The four programs give the same verdict exactly when, once the nodes have run out, no two epochs
tie and no status is quoted differently. -/
theorem verdicts_agree_iff (s : Setting ω) (tables : Quoting.Tables) (req : Rust.DecryptRequest)
    (world : ω) (distinct : Distinct req.nodes)
    (total : ∀ point subset, ∃ lambda, lagrangeFor s.crypto point subset = .ok lambda) :
    (Go.verdict tables (Go.decrypt s.go req world).result =
        Rust.verdict tables (Rust.decrypt s.rust req world).result ∧
      Python.verdict tables (Python.decrypt s.python req world).result =
        Rust.verdict tables (Rust.decrypt s.rust req world).result ∧
      TypeScript.verdict (TypeScript.decrypt s.typescript req world).result =
        Rust.verdict tables (Rust.decrypt s.rust req world).result) ↔
      ¬ TiedAtExhaustion s.rust req (Rust.decrypt s.rust req world) ∧
        ¬ MisquotedAtExhaustion tables s.rust req (Rust.decrypt s.rust req world) := by
  have ran : Ran (Rust.client s.rust req) req.task (Rust.decrypt s.rust req world) :=
    decrypt_ran (Rust.client s.rust req) distinct world
  have counted : (Rust.decrypt s.rust req world).votes = Tally.tally Tally.eqKey
      (Rust.epochVotes s.rust req (Rust.decrypt s.rust req world)) :=
    (Rust.decrypt_voted distinct ran).counted
  have goStep := decrypt_inStep req.task (go_agrees s req total) world
  have alike := Rust.verdicts_alike_iff tables ran counted
  by_cases tied : TiedAtExhaustion s.rust req (Rust.decrypt s.rust req world)
  · obtain ⟨lowest, highest, differ, go, rust⟩ :=
      go_epoch_ne_of_tied (fun _ => rfl) (fun _ => rfl) goStep counted tied
    refine iff_of_false (fun ⟨same, _⟩ => differ ?_) fun ⟨untied, _⟩ => untied tied
    unfold Go.verdict Rust.verdict at same
    have goRun : Go.conclusion (Go.decrypt s.go req world).result = .epoch (some lowest) req.epoch := go
    have rustRun : Rust.conclusion (Rust.decrypt s.rust req world).result =
        .epoch (some highest) req.epoch := rust
    rw [goRun, rustRun] at same
    exact Option.some.inj (Verdict.epoch.inj same).1
  · have go : Go.conclusion (Go.decrypt s.go req world).result =
        Rust.conclusion (Rust.decrypt s.rust req world).result :=
      conclusion_eq_of_not_tied (go_agrees s req total) (Go.reportsLeader s.go req) goStep counted tied
    have python : Python.conclusion (Python.decrypt s.python req world).result =
        Rust.conclusion (Rust.decrypt s.rust req world).result :=
      conclusion_eq_of_not_tied (python_agrees s req total) (Python.reportsLeader s.python req)
        (decrypt_inStep req.task (python_agrees s req total) world) counted tied
    have typescript : TypeScript.conclusion (TypeScript.decrypt s.typescript req world).result =
        Rust.conclusion (Rust.decrypt s.rust req world).result :=
      conclusion_eq_of_not_tied (typescript_agrees s req total)
        (TypeScript.reportsLeader s.typescript req)
        (TypeScript.decrypt_inStep (typescript_agrees s req total) world) counted tied
    unfold Go.verdict Python.verdict TypeScript.verdict Rust.verdict
    rw [go, python, typescript, and_iff_right tied]
    exact alike

def servedAt (epoch : UInt32) : WireAnswer where
  partialHex := "0x07"
  proof := "0x07"
  servedEpoch := some epoch
  partial_wellFormed := ⟨[7], by decide⟩
  proof_wellFormed := ⟨[7], by decide⟩

/-- All members are active; the first serves epoch 6 and the others epoch `rest`. -/
def splitSetting (rest : UInt32) : Setting Unit where
  crypto := mirrorCrypto
  hex := hexCrate
  limits := { bindingId := 64, capsule := 1024, ciphertext := 4096 }
  protocolVersion := 1
  transport :=
    scripted
      (fun _ => .ok { status := "active", epoch := some 5, cryptoProtocolVersion := some 1 })
      fun endpoint => .ok (servedAt (if endpoint = "node1" then 6 else rest))
  signer := willing
  sampler := firstNodes
  range := { order := id, perm := fun _ => .refl _ }
  other := .const _ ""
  printer := { other := .const _ "", stringify := .const _ "" }

/-- Languages that print no character beyond ASCII as it stands. -/
def asciiTables : Quoting.Tables where
  rust _ := false
  go _ := false
  python _ := false

theorem verdicts_agree_iff_split :
    (Go.verdict asciiTables (Go.decrypt (splitSetting 6).go (pairRequest 3) ()).result =
        Rust.verdict asciiTables (Rust.decrypt (splitSetting 6).rust (pairRequest 3) ()).result ∧
      Python.verdict asciiTables (Python.decrypt (splitSetting 6).python (pairRequest 3) ()).result =
        Rust.verdict asciiTables (Rust.decrypt (splitSetting 6).rust (pairRequest 3) ()).result ∧
      TypeScript.verdict (TypeScript.decrypt (splitSetting 6).typescript (pairRequest 3) ()).result =
        Rust.verdict asciiTables (Rust.decrypt (splitSetting 6).rust (pairRequest 3) ()).result) ↔
      ¬ TiedAtExhaustion (splitSetting 6).rust (pairRequest 3)
          (Rust.decrypt (splitSetting 6).rust (pairRequest 3) ()) ∧
        ¬ MisquotedAtExhaustion asciiTables (splitSetting 6).rust (pairRequest 3)
          (Rust.decrypt (splitSetting 6).rust (pairRequest 3) ()) :=
  verdicts_agree_iff (splitSetting 6) asciiTables (pairRequest 3) () (by unfold Distinct; decide)
    fun _ _ => ⟨_, rfl⟩

/-- The second member is idle. -/
def idleSetting : Setting Unit where
  __ := splitSetting 6
  transport :=
    scripted
      (fun endpoint => .ok
        { status := if endpoint = "node2" then "idle" else "active", epoch := some 5
          cryptoProtocolVersion := some 1 })
      fun _ => .ok (servedAt 6)

/-- One vote for epoch 6 and one for epoch 7: Rust reports the higher, Go and Python the lower and
TypeScript the first.  Of an idle node Python quotes the status between apostrophes. -/
theorem splitSetting_verdicts :
    Distinct (pairRequest 3).nodes ∧ Distinct (pairRequest 2).nodes ∧
      Rust.verdict asciiTables (Rust.decrypt (splitSetting 7).rust (pairRequest 3) ()).result =
        .epoch (some 7) 5 ∧
      Go.verdict asciiTables (Go.decrypt (splitSetting 7).go (pairRequest 3) ()).result =
        .epoch (some 6) 5 ∧
      Python.verdict asciiTables (Python.decrypt (splitSetting 7).python (pairRequest 3) ()).result =
        .epoch (some 6) 5 ∧
      TypeScript.verdict (TypeScript.decrypt (splitSetting 7).typescript (pairRequest 3) ()).result =
        .epoch (some 6) 5 ∧
      Rust.verdict asciiTables (Rust.decrypt idleSetting.rust (pairRequest 2) ()).result =
        .quorum 2 1 [⟨2, "node2", "inactive", "status \"idle\", epoch 5, crypto protocol v1"⟩] ∧
      Python.verdict asciiTables (Python.decrypt idleSetting.python (pairRequest 2) ()).result =
        .quorum 2 1 [⟨2, "node2", "inactive", "status 'idle', epoch 5, crypto protocol v1"⟩] := by
  refine ⟨by unfold Distinct; decide, by unfold Distinct; decide, ?_, ?_, ?_, ?_, ?_, ?_⟩
  iterate 4 decide
  iterate 2 decide +kernel

end MatterSdk
