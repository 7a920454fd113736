import MatterSdk.Committee.Requests
import MatterSdk.Committee.Rotation
import MatterSdk.OpeningChecks

/-!
# Availability

How far one bad node can deny a Rust decrypt.  With `threshold` honest nodes the loop drops the bad
ones until a quorum answers, except that a partial or a proof which is not hex ends the run at once,
and one of more than `maxDecodeBytes` bytes ends it on opening.
-/

namespace MatterSdk.Rust

variable {ω : Type}

/-- The answer is for the epoch of the request. -/
def Accepts (req : DecryptRequest) (resp : PartialDecryptResponse) : Prop :=
  resp.servedEpoch = 0 ∨ resp.servedEpoch = req.epoch

/-- What an answer with well-formed hex contributes. -/
def contribution (asked : CommitteeNode × Except String PartialDecryptResponse) :
    Option PartialInput :=
  match asked.2 with
  | .ok resp =>
    match spelled resp.partialHex, spelled resp.proof with
    | some share, some proof =>
      some { point := asked.1.index, share, proof, commitment := asked.1.shareCommitment }
    | _, _ => none
  | .error _ => none

/-- What the last quorum contributed. -/
def given (run : Run String Health PartialDecryptResponse ℕ SdkError) : List PartialInput :=
  (passAnswers run.log).filterMap contribution

abbrev StoredSecret (deps : Deps ω) (req : DecryptRequest) :=
  Sealed deps.crypto deps.limits req.openInput req.threshold

/-- `honest` holds `threshold` nodes that were active and answered with genuine partials, and fewer
than `threshold` others reported any one divergent epoch. -/
structure HonestRun (deps : Deps ω) (req : DecryptRequest) (secret : StoredSecret deps req)
    (honest : List CommitteeNode) (run : Run String Health PartialDecryptResponse ℕ SdkError) :
    Prop where
  member : ∀ n ∈ honest, n ∈ req.nodes
  nodup : honest.Nodup
  enough : req.threshold ≤ honest.length
  active : ∀ n ∈ honest, ∀ answer, (n, answer) ∈ run.probes → ∃ health, answer = .ok health ∧
    isActive health = true ∧
    speaksOurProtocol deps.protocolVersion health.cryptoProtocolVersion = true
  genuine : ∀ n ∈ honest, ∀ request answer, .asked n request answer ∈ run.log →
    ∃ resp p, answer = .ok resp ∧ Accepts req resp ∧ contribution (n, answer) = some p ∧
      Genuine secret request.subset p
  outsiders : ∀ epoch, ∀ voters : List CommitteeNode, voters.Nodup →
    (∀ n ∈ voters, n ∉ honest ∧ Reported req run n epoch) → voters.length < req.threshold

/-- The run opens the secret, or the core refuses a well-formed contribution of the last quorum that
is not genuine. -/
def NotDenied {deps : Deps ω} {req : DecryptRequest} (secret : StoredSecret deps req)
    (run : Run String Health PartialDecryptResponse ℕ SdkError) : Prop :=
  run.result = .ok secret.plaintext ∨
    ∃ e, run.result = .error (.core e) ∧
      ((∃ field detail, e = .decode field detail) ∨ ∃ detail, e = .aggregate detail) ∧
      ∃ p ∈ given run, ¬ Genuine secret ((lastQuorum run.log).map (·.index)) p

/-- Every accepted answer of the run has well-formed hex fields, and what the last quorum contributed
is small enough to be decoded. -/
structure Readable (deps : Deps ω) (req : DecryptRequest)
    (run : Run String Health PartialDecryptResponse ℕ SdkError) : Prop where
  hex : ∀ n resp, (n, .ok resp) ∈ answers run.log → Accepts req resp →
    WellFormedHex resp.partialHex ∧ WellFormedHex resp.proof
  size : SizesPass deps.crypto (given run)

section Honest

variable {deps : Deps ω} {req : DecryptRequest} {secret : StoredSecret deps req}
  {honest : List CommitteeNode} {run : Run String Health PartialDecryptResponse ℕ SdkError}

theorem contribution_eq {asked : CommitteeNode × Except String PartialDecryptResponse}
    {share proof : Bytes} (h : readAnswer deps.hex req.epoch asked.2 = .ok (.contributes share proof)) :
    contribution asked =
      some { point := asked.1.index, share, proof, commitment := asked.1.shareCommitment } := by
  obtain ⟨n, answer⟩ := asked
  have read := readAnswer_cases deps.hex req.epoch answer
  rw [h] at read
  cases read with
  | contributes resp served _ _ hs hp =>
    simp [contribution, (from0x_ok_iff deps.hex _ _).mp hs, (from0x_ok_iff deps.hex _ _).mp hp]

theorem readAnswer_of_contribution {n : CommitteeNode} {resp : PartialDecryptResponse}
    {p : PartialInput} (accepts : Accepts req resp) (h : contribution (n, .ok resp) = some p) :
    ∃ share proof, readAnswer deps.hex req.epoch (.ok resp) = .ok (.contributes share proof) := by
  have read := readAnswer_cases deps.hex req.epoch (.ok resp)
  generalize readAnswer deps.hex req.epoch (.ok resp) = reading at read
  cases read with
  | diverges _ nonzero differs => exact absurd accepts (by simp [Accepts, nonzero, differs])
  | badPartial _ _ source hs => simp [contribution, spelled_of_error hs] at h
  | badProof _ _ share hs source hp => simp [contribution, spelled_of_error hp] at h
  | contributes _ _ share proof => exact ⟨share, proof, rfl⟩

/-- An honest answer contributes. -/
theorem HonestRun.reads (h : HonestRun deps req secret honest run) {n : CommitteeNode}
    (mem : n ∈ honest) {answer : Except String PartialDecryptResponse}
    (asked : (n, answer) ∈ answers run.log) :
    ∃ share proof, readAnswer deps.hex req.epoch answer = .ok (.contributes share proof) := by
  obtain ⟨request, logged⟩ := mem_answers.1 asked
  obtain ⟨resp, p, rfl, accepts, hp, -⟩ := h.genuine n mem request answer logged
  exact readAnswer_of_contribution accepts hp

/-- Fewer than `threshold` nodes vote for any one epoch. -/
theorem HonestRun.votes_lt (h : HonestRun deps req secret honest run)
    (voted : Voted (client deps req) run.log run.votes) (epoch : ℕ) :
    Tally.votes Tally.eqKey run.votes epoch < req.threshold := by
  have counted : run.votes = Tally.tally Tally.eqKey (epochVotes deps req run) := voted.counted
  rw [counted, Tally.votes_tally]
  obtain ⟨voters, nodup, length, reported⟩ := exists_voters voted.once epoch
  rw [← length]
  refine h.outsiders epoch voters (nodup.of_map _) fun n hn => ⟨fun mem => ?_, reported n hn⟩
  obtain ⟨resp, asked, served, nonzero, differs⟩ := reported n hn
  obtain ⟨share, proof, reads⟩ := h.reads mem asked
  have diverges : readAnswer deps.hex req.epoch (.ok resp) = .ok (.diverges epoch) :=
    readAnswer_diverges_iff.2 ⟨resp, rfl, served, nonzero, differs⟩
  exact absurd (reads.symm.trans diverges) (by simp)

theorem HonestRun.mem_active (h : HonestRun deps req secret honest run)
    {s : Probed ω String Health} (sound : s.Sound (client deps req) req.nodes)
    (probes : run.probes = s.probes) {n : CommitteeNode} (mem : n ∈ honest) : n ∈ s.active := by
  have probed : n ∈ s.probes.map Prod.fst := sound.probes.symm ▸ h.member n mem
  obtain ⟨⟨_, answer⟩, probe, rfl⟩ := List.mem_map.1 probed
  obtain ⟨health, rfl, active⟩ := h.active _ mem answer (probes ▸ probe)
  exact sound.mem_active.2 ⟨_, probe, readHealth_none_iff.2 ⟨health, rfl, active⟩⟩

/-- Honest nodes are never dropped. -/
theorem HonestRun.mem_available (h : HonestRun deps req secret honest run)
    (distinct : Distinct req.nodes) {s : Probed ω String Health}
    (sound : s.Sound (client deps req) req.nodes) (probes : run.probes = s.probes)
    {p : Progress ω String PartialDecryptResponse ℕ}
    (history : History (client deps req) req.task s p) (log : run.log = p.log)
    {n : CommitteeNode} (mem : n ∈ honest) : n ∈ p.available := by
  refine history.mem_available.2 ⟨h.mem_active sound probes mem, fun gone => ?_⟩
  rw [history.named] at gone
  obtain ⟨f, hf, index⟩ := List.mem_map.1 gone
  obtain ⟨⟨m, answer⟩, asked, fault⟩ := List.mem_filterMap.1 hf
  have same : m = n := by
    obtain ⟨active, -⟩ := answered_of_justified history.justified asked
    have place : f.index = m.index := answerFault_index fault
    exact List.inj_on_of_nodup_map distinct (sound.sublist.subset active) (h.member n mem)
      (place ▸ index)
  subst same
  obtain ⟨share, proof, reads⟩ := h.reads mem (log ▸ asked)
  have none : answerFault (client deps req) (m, answer) = none := answerFault_contributes reads
  exact absurd (none.symm.trans fault) (by simp)

/-- A pass that has asked the whole quorum ends in `openSecret`, with one partial a member. -/
theorem opened_cases (secret : StoredSecret deps req) (positive : 1 ≤ req.threshold)
    (nonzero : ∀ n ∈ req.nodes, n.index ≠ 0)
    (commitments : ∀ n ∈ req.nodes, CommitmentDecodes deps.crypto n.shareCommitment)
    {s : Probed ω String Health} (sound : s.Sound (client deps req) req.nodes)
    {quorum : List CommitteeNode} {partials : List PartialInput}
    {p : Progress ω String PartialDecryptResponse ℕ}
    (pass : Pass (client deps req) req.task s quorum [] partials p)
    (unforged : Unforged secret ((lastQuorum p.log).map (·.index))
      ((passAnswers p.log).filterMap contribution)) :
    (passAnswers p.log).filterMap contribution = partials ∧
      partials.map (·.point) = (lastQuorum p.log).map (·.index) ∧
      Opened secret partials (openSecret deps.crypto deps.limits req.openInput partials) := by
  have split : quorum = (passAnswers p.log).map Prod.fst := by simpa using pass.split
  have contributed : (passAnswers p.log).filterMap contribution = partials := by
    have each := pass.given
    clear pass split
    generalize passAnswers p.log = asked at each
    induction each with
    | nil => rfl
    | cons h _ ih =>
      obtain ⟨share, proof, reads, rfl⟩ := h
      rw [List.filterMap_cons, contribution_eq reads, ih]
  have places : partials.map (·.point) = quorum.map (·.index) := by
    rw [split]
    have each := pass.given
    clear pass split contributed
    generalize passAnswers p.log = asked at each
    induction each with
    | nil => rfl
    | cons h _ ih =>
      obtain ⟨share, proof, -, rfl⟩ := h
      rw [List.map_cons, List.map_cons, List.map_cons, ih]
  have node {q : PartialInput} (hq : q ∈ partials) :
      ∃ n ∈ req.nodes, q.point = n.index ∧ q.commitment = n.shareCommitment := by
    obtain ⟨i, hi, rfl⟩ := List.getElem_of_mem hq
    have hi' : i < (passAnswers p.log).length := pass.given.length_eq ▸ hi
    obtain ⟨share, proof, -, input⟩ := (List.forall₂_iff_get.1 pass.given).2 i hi' hi
    have member : (passAnswers p.log)[i].1 ∈ quorum := by
      rw [split]
      exact List.mem_map_of_mem (List.getElem_mem hi')
    refine ⟨_, sound.sublist.subset (pass.eligible.active _ member), ?_⟩
    rw [List.get_eq_getElem, List.get_eq_getElem] at input
    rw [input]
    exact ⟨rfl, rfl⟩
  have last : partials.map (·.point) = (lastQuorum p.log).map (·.index) := by
    rw [places, pass.last]
  rw [contributed, ← last] at unforged
  refine ⟨contributed, last, openSecret_cases secret positive ?_ ?_ ?_ ?_ unforged⟩
  · rw [← List.length_map (f := PartialInput.point), places, List.length_map]
    exact pass.eligible.length
  · intro q hq
    obtain ⟨n, mem, point, -⟩ := node hq
    exact point ▸ nonzero n mem
  · rw [places]
    exact pass.eligible.ascending.imp Nat.ne_of_lt
  · intro q hq
    obtain ⟨n, mem, -, commitment⟩ := node hq
    exact commitment ▸ commitments n mem

/-- When the last quorum has contributed, only the size of its fields matters. -/
theorem notDenied_iff_of_opened {partials : List PartialInput}
    (contributed : given run = partials)
    (places : partials.map (·.point) = (lastQuorum run.log).map (·.index))
    (opened : Opened secret partials (openSecret deps.crypto deps.limits req.openInput partials))
    (result : run.result =
      (openSecret deps.crypto deps.limits req.openInput partials).mapError .core)
    (hex : ∀ n resp, (n, .ok resp) ∈ answers run.log → Accepts req resp →
      WellFormedHex resp.partialHex ∧ WellFormedHex resp.proof) :
    NotDenied secret run ↔ Readable deps req run := by
  have readable : Readable deps req run ↔ SizesPass deps.crypto partials :=
    ⟨fun h => contributed ▸ h.size, fun h => ⟨hex, contributed.symm ▸ h⟩⟩
  rw [readable]
  unfold NotDenied
  rw [contributed, ← places, result]
  generalize openSecret deps.crypto deps.limits req.openInput partials = outcome at opened
  cases opened with
  | opened sized => exact ⟨fun _ => sized, fun _ => Or.inl rfl⟩
  | refused sized q mem bad field detail =>
    exact ⟨fun _ => sized,
      fun _ => Or.inr ⟨_, rfl, Or.inl ⟨field, detail, rfl⟩, q, mem, bad⟩⟩
  | rejected sized q mem bad detail =>
    exact ⟨fun _ => sized, fun _ => Or.inr ⟨_, rfl, Or.inr ⟨detail, rfl⟩, q, mem, bad⟩⟩
  | tooLarge oversized field max actual =>
    refine ⟨?_, fun sized => absurd sized oversized⟩
    rintro (h | ⟨e, h, ⟨f, d, rfl⟩ | ⟨d, rfl⟩, -⟩) <;> cases h

/-- An accepted answer that cannot be read has a field which is not hex. -/
theorem not_readable_of_unreadable {n : CommitteeNode}
    {answer : Except String PartialDecryptResponse} {e : SdkError}
    (h : readAnswer deps.hex req.epoch answer = .error e) (logged : (n, answer) ∈ answers run.log) :
    ¬ Readable deps req run := by
  intro fine
  have read := readAnswer_cases deps.hex req.epoch answer
  rw [h] at read
  cases read with
  | badPartial resp served source hs =>
    obtain ⟨⟨share, ok⟩, -⟩ := fine.hex n resp logged served
    exact absurd (ok.symm.trans (spelled_of_error hs)) (by simp)
  | badProof resp served share hs source hp =>
    obtain ⟨-, ⟨proof, ok⟩⟩ := fine.hex n resp logged served
    exact absurd (ok.symm.trans (spelled_of_error hp)) (by simp)

theorem not_notDenied_of_unreadable {answer : Except String PartialDecryptResponse} {e : SdkError}
    (h : readAnswer deps.hex req.epoch answer = .error e) (result : run.result = .error e) :
    ¬ NotDenied secret run := by
  have read := readAnswer_cases deps.hex req.epoch answer
  rw [h] at read
  rintro (fine | ⟨e', refused, ⟨f, d, rfl⟩ | ⟨d, rfl⟩, -⟩)
  · exact absurd (result.symm.trans fine) (by simp)
  all_goals
    obtain rfl := Except.error.inj (result.symm.trans refused)
    cases read

end Honest

theorem decrypt_notDenied_iff (deps : Deps ω) (req : DecryptRequest) (world : ω)
    (secret : StoredSecret deps req) (honest : List CommitteeNode)
    (positive : 1 ≤ req.threshold) (distinct : Distinct req.nodes)
    (nonzero : ∀ n ∈ req.nodes, n.index ≠ 0)
    (commitments : ∀ n ∈ req.nodes, CommitmentDecodes deps.crypto n.shareCommitment)
    (willing : ∀ context w, ∃ auth w', deps.signer.authorize context w = (.ok auth, w'))
    (total : ∀ point subset, ∃ lambda, lagrangeFor deps.crypto point subset = .ok lambda)
    (most : HonestRun deps req secret honest (decrypt deps req world))
    (unforged : Unforged secret ((lastQuorum (decrypt deps req world).log).map (·.index))
      (given (decrypt deps req world))) :
    NotDenied secret (decrypt deps req world) ↔ Readable deps req (decrypt deps req world) := by
  have ran : Ran (client deps req) req.task (decrypt deps req world) :=
    decrypt_ran (client deps req) distinct world
  have voted := decrypt_voted distinct ran
  generalize decrypt deps req world = run at ran voted most unforged
  cases ran with
  | crashed e s before node answer probes crash =>
    exact absurd crash readHealth_ne_error
  | few s sound few =>
    have within := (most.nodup.subperm fun n hn => most.mem_active sound rfl hn).length_le
    have enough := most.enough
    exact absurd few (Nat.not_lt.2 (enough.trans within))
  | closed s sound enough ending p closed =>
    cases closed with
    | exhausted _ history begun few =>
      have within := (most.nodup.subperm fun n hn =>
        most.mem_available distinct sound rfl history rfl hn).length_le
      have enough := most.enough
      change p.available.length + 1 = req.threshold at few
      omega
    | opened quorum partials _ pass =>
      obtain ⟨contributed, places, opened⟩ :=
        opened_cases secret positive nonzero commitments sound pass unforged
      refine notDenied_iff_of_opened contributed places opened rfl fun n resp asked accepts => ?_
      obtain ⟨reading, hr⟩ := pass.history.readable _ asked
      have read := readAnswer_cases deps.hex req.epoch (.ok resp)
      rw [show readAnswer deps.hex req.epoch (.ok resp) = .ok reading from hr] at read
      cases read with
      | diverges _ nonzero differs => exact absurd accepts (by simp [Accepts, nonzero, differs])
      | contributes _ _ share proof hs hp =>
        exact ⟨⟨share, (from0x_ok_iff deps.hex _ _).mp hs⟩, proof, (from0x_ok_iff deps.hex _ _).mp hp⟩
    | stopped quorum node rest partials q _ e pass asked =>
      cases asked with
      | noLambda _ h => exact absurd h (lagrangeFor_ne_error total req)
      | unsigned detail w h => exact absurd h (Signer.authorize_ne_error willing)
      | unreadable x _ h =>
        have logged : (node, x.answer) ∈ answers x.after.log :=
          List.mem_append_right _ (List.mem_singleton.2 rfl)
        exact ⟨fun fine => absurd fine (not_notDenied_of_unreadable h rfl),
          fun fine => absurd fine (not_readable_of_unreadable h logged)⟩
      | rotated x served h enough =>
        have few := most.votes_lt voted served
        change Tally.votes Tally.eqKey (Tally.bump Tally.eqKey served q.votes) served < _ at few
        rw [Tally.votes_bump, if_pos rfl] at few
        exact absurd enough (Nat.not_le.2 few)
      | unprinted x served h _ he => cases he

/-! ### Three members on a line, one of them bad -/

theorem contribution_some {n : CommitteeNode} {answer : Except String PartialDecryptResponse}
    {p : PartialInput} (contributed : contribution (n, answer) = some p) :
    p.point = n.index ∧ p.commitment = n.shareCommitment := by
  unfold contribution at contributed
  split at contributed
  · split at contributed
    · cases contributed
      exact ⟨rfl, rfl⟩
    · cases contributed
  · cases contributed

/-- Threshold two; the ciphertext is of `[7]`, under the line `1 + 2 x`. -/
def trioRequest : DecryptRequest where
  secretId := 7
  epoch := 5
  bindingId := []
  aad := []
  capsule := []
  ct := List.replicate 12 0 ++ [1, 8]
  sharedA := []
  blockHash := []
  threshold := 2
  nodes := [⟨1, "node1", [3]⟩, ⟨2, "node2", [5]⟩, ⟨3, "node3", [7]⟩]

/-- What the last two members make of their coefficient. -/
def trioShare (index : ℕ) (subset : List ℕ) : String :=
  if index = 2 then if subset = [1, 2] then "0x010501" else "0x000f01"
  else if subset = [1, 3] then "0x010702" else "0x010e01"

/-- The subsets that two of three are asked over. -/
theorem pair_of_three {subset : List ℕ} (ascending : subset.Pairwise (· < ·))
    (length : subset.length = 2) (listed : ∀ i ∈ subset, i = 1 ∨ i = 2 ∨ i = 3) :
    subset = [1, 2] ∨ subset = [1, 3] ∨ subset = [2, 3] := by
  obtain ⟨x, y, rfl⟩ := List.length_eq_two.mp length
  have below : x < y := by simpa using ascending
  rcases listed x (by simp) with rfl | rfl | rfl <;>
    rcases listed y (by simp) with rfl | rfl | rfl <;> simp at below ⊢

/-- The share is the member's value on the line `1 + 2 x`, times its coefficient over the subset. -/
theorem trioShare_weighted {index : ℕ} (member : index = 2 ∨ index = 3) {subset : List ℕ}
    (pair : subset = [1, 2] ∨ subset = [1, 3] ∨ subset = [2, 3]) (own : index ∈ subset) :
    ∃ bytes, ∃ share : ℚ, spelled (trioShare index subset) = some bytes ∧
      de interpolation.decodeShare "partial" bytes maxDecodeBytes = .ok share ∧
      share = interpolate index subset * ((1 + 2 * index : ℕ) : ℚ) := by
  rcases member with rfl | rfl <;> rcases pair with rfl | rfl | rfl
  · exact ⟨[1, 5, 1], _, by decide, rfl, by decide +kernel⟩
  · simp at own
  · exact ⟨[0, 15, 1], _, by decide, rfl, by decide +kernel⟩
  · simp at own
  · exact ⟨[1, 7, 2], _, by decide, rfl, by decide +kernel⟩
  · exact ⟨[1, 14, 1], _, by decide, rfl, by decide +kernel⟩

/-- All members are active, and the first answers with `first`. -/
def trioDeps (first : Except String PartialDecryptResponse) : Deps Unit where
  hex := hexCrate
  crypto := interpolation
  limits := { bindingId := 64, capsule := 1024, ciphertext := 4096 }
  protocolVersion := 1
  transport :=
    { health := fun _ w => (.ok activeHealth, w)
      partialDecrypt := fun endpoint request w =>
        (if endpoint = "node1" then first
          else .ok ⟨trioShare (if endpoint = "node2" then 2 else 3) request.subset, "0x", 5⟩, w) }
  signer := willing
  sampler := firstNodes

/-- The members' values are committed to, and a share is checked against them. -/
def trioSecret (first : Except String PartialDecryptResponse) :
    StoredSecret (trioDeps first) trioRequest where
  sharedA := ([] : Bytes)
  capsule := ([] : Bytes)
  plaintext := [7]
  commitment point := ((1 + 2 * point : ℕ) : ℚ)
  genuine point (lambda : ℚ) (share : ℚ) := share = lambda * ((1 + 2 * point : ℕ) : ℚ)
  verifies (e : PartialEntry ℚ Bytes ℚ ℚ) := e.share = e.lambda * e.commitment
  sharedA_eq := rfl
  capsule_eq := rfl
  bindingId_le := Nat.zero_le _
  nonce_le := by simp [DecryptRequest.openInput, trioRequest]
  ct_le := by simp [DecryptRequest.openInput, trioRequest, trioDeps]
  opens points entries valid length each :=
    interpolateOpen_line 1 2 valid length
      (each.imp fun _ _ of => ⟨of.1, of.2.1, of.2.2.2⟩) [7] (List.replicate 12 0)
  rejects entries := fun ⟨e, mem, bad⟩ =>
    ⟨"a share is not of its commitment", if_neg fun all => bad (all e mem)⟩

theorem trio_distinct : Distinct trioRequest.nodes := by unfold Distinct; decide

/-- The commitments on record are the committee's. -/
theorem trio_committed {n : CommitteeNode} (mem : n ∈ trioRequest.nodes) :
    de interpolation.decodeCommitment "commitment" n.shareCommitment maxDecodeBytes =
      .ok ((1 + 2 * n.index : ℕ) : ℚ) := by
  have which : n = ⟨1, "node1", [3]⟩ ∨ n = ⟨2, "node2", [5]⟩ ∨ n = ⟨3, "node3", [7]⟩ := by
    simpa [trioRequest] using mem
  rcases which with rfl | rfl | rfl <;> rfl

/-- Under this scheme nothing is forged. -/
theorem trio_unforged (first : Except String PartialDecryptResponse) :
    Unforged (trioSecret first)
      ((lastQuorum (decrypt (trioDeps first) trioRequest ()).log).map (·.index))
      (given (decrypt (trioDeps first) trioRequest ())) := by
  intro p mem entry decoded verified
  obtain ⟨⟨n, answer⟩, asked, contributed⟩ := List.mem_filterMap.1 mem
  obtain ⟨point, commitment⟩ := contribution_some contributed
  have ran : Ran (client (trioDeps first) trioRequest) trioRequest.task
      (decrypt (trioDeps first) trioRequest ()) := decrypt_ran _ trio_distinct ()
  obtain ⟨active, -⟩ := answered_of_justified ran.justified (mem_answers_of_mem_passAnswers asked)
  have of := decodePartial_eq_ok_iff.mp decoded
  have committed : entry.commitment = ((1 + 2 * p.point : ℕ) : ℚ) := by
    have recorded := of.commitment
    rw [commitment] at recorded
    rw [point]
    exact Except.ok.inj (recorded.symm.trans (trio_committed (passedProbe_of_mem_active ran active).1))
  have weighted {share lambda commitment value : ℚ} (checked : share = lambda * commitment)
      (same : commitment = value) : share = lambda * value := same ▸ checked
  exact ⟨committed, weighted verified committed⟩

/-- The last two members make genuine partials, each for the subset that it is asked over. -/
theorem trio_genuine (first : Except String PartialDecryptResponse) {n : CommitteeNode}
    (listed : n ∈ trioRequest.nodes) (member : n.index = 2 ∨ n.index = 3) {subset : List ℕ}
    (pair : subset = [1, 2] ∨ subset = [1, 3] ∨ subset = [2, 3]) (own : n.index ∈ subset) :
    ∃ p, contribution (n, .ok ⟨trioShare n.index subset, "0x", 5⟩) = some p ∧
      Genuine (trioSecret first) subset p := by
  obtain ⟨bytes, share, hex, decoded, weighted⟩ := trioShare_weighted member pair own
  have empty : spelled "0x" = some [] := by decide
  refine ⟨⟨n.index, bytes, [], n.shareCommitment⟩, by simp only [contribution, hex, empty],
    ⟨share, ([] : Bytes), ((1 + 2 * n.index : ℕ) : ℚ), interpolate n.index subset⟩, ?_, weighted, rfl,
    weighted⟩
  exact decodePartial_eq_ok_iff.mpr ⟨decoded, rfl, trio_committed listed, rfl⟩

/-- The last two members are honest, whatever the first answers for the epoch of the request. -/
theorem trio_honestRun {first : Except String PartialDecryptResponse}
    (current : ∀ resp, first = .ok resp → resp.servedEpoch = 5) :
    HonestRun (trioDeps first) trioRequest (trioSecret first)
      [⟨2, "node2", [5]⟩, ⟨3, "node3", [7]⟩] (decrypt (trioDeps first) trioRequest ()) := by
  have ran : Ran (client (trioDeps first) trioRequest) trioRequest.task
      (decrypt (trioDeps first) trioRequest ()) := decrypt_ran _ trio_distinct ()
  have justified := ran.justified
  refine ⟨by decide, by decide, by decide, fun n _ reply probe => ?_,
    fun n mem request reply logged => ?_, fun epoch voters nodup voted => ?_⟩
  · obtain ⟨w, w', sent⟩ := ran.sent (fun p _ => readHealth_total _ p.2) _ probe
    obtain rfl : .ok activeHealth = reply := congrArg Prod.fst sent
    exact ⟨activeHealth, rfl, rfl, rfl⟩
  · obtain ⟨newer, older, split⟩ := List.append_of_mem logged
    obtain ⟨signed, eligible⟩ := (split ▸ justified : Justified _ _ _ _).asked
    have bound := boundRequest_of_signed ran signed eligible
    obtain ⟨_, _, _, w, w', _, -, -, -, sent, -⟩ := signed.sent
    have listed : ∀ i ∈ request.subset, i = 1 ∨ i = 2 ∨ i = 3 := by
      intro i named
      obtain ⟨-, m, member, index, -⟩ := bound.usable i named
      simp only [trioRequest, List.mem_cons, List.not_mem_nil, or_false] at member
      rcases member with rfl | rfl | rfl <;> simp [← index]
    obtain ⟨index, answers⟩ : (n.index = 2 ∨ n.index = 3) ∧
        reply = .ok ⟨trioShare n.index request.subset, "0x", 5⟩ := by
      have reply_eq := congrArg Prod.fst sent.symm
      simp only [List.mem_cons, List.not_mem_nil, or_false] at mem
      rcases mem with rfl | rfl
      · exact ⟨Or.inl rfl, reply_eq⟩
      · exact ⟨Or.inr rfl, reply_eq⟩
    obtain ⟨p, contributed, genuine⟩ := trio_genuine first bound.own.1 index
      (pair_of_three bound.ascending bound.length listed) bound.own.2
    rw [answers]
    exact ⟨_, p, rfl, Or.inr rfl, contributed, genuine⟩
  · cases voters with
    | nil => exact Nat.succ_pos 1
    | cons n rest =>
      obtain ⟨-, resp, asked, served, -, differs⟩ := voted n (by simp)
      obtain ⟨-, request, w, w', sent⟩ := answered_of_justified justified asked
      have reply : (if n.endpoint = "node1" then first
        else .ok ⟨trioShare (if n.endpoint = "node2" then 2 else 3) request.subset, "0x", 5⟩) =
          .ok resp := congrArg Prod.fst sent
      refine absurd ?_ differs
      generalize (if n.endpoint = "node2" then 2 else 3) = index at reply
      split_ifs at reply with bad
      · exact served.symm.trans (current resp reply)
      · cases reply
        exact served.symm

/-- The first member fails, is dropped, and the others open the secret. -/
theorem decrypt_notDenied_iff_dropped :
    (decrypt (trioDeps (.error "connection reset")) trioRequest ()).faults =
        [⟨1, "node1", .partialDecrypt, .exchange "connection reset"⟩] ∧
      (decrypt (trioDeps (.error "connection reset")) trioRequest ()).result = .ok [7] ∧
      (NotDenied (trioSecret (.error "connection reset"))
          (decrypt (trioDeps (.error "connection reset")) trioRequest ()) ↔
        Readable (trioDeps (.error "connection reset")) trioRequest
          (decrypt (trioDeps (.error "connection reset")) trioRequest ())) := by
  refine ⟨by decide, by decide +kernel, ?_⟩
  exact decrypt_notDenied_iff _ _ _ (trioSecret _) [⟨2, "node2", [5]⟩, ⟨3, "node3", [7]⟩] (by decide)
    trio_distinct (by decide) (fun n mem => ⟨_, trio_committed mem⟩)
    (fun _ w => ⟨willingAuth, w, rfl⟩) (fun _ _ => ⟨_, rfl⟩)
    (trio_honestRun fun resp answered => by cases answered) (trio_unforged _)

/-- The first member answers with a partial that is not hex. -/
def misspelt : PartialDecryptResponse := ⟨"zz", "0x", 5⟩

/-- One of three members, two of whom are honest, has the decrypt fail on the hex of its partial. -/
theorem misspelt_denies :
    Distinct trioRequest.nodes ∧
      HonestRun (trioDeps (.ok misspelt)) trioRequest (trioSecret (.ok misspelt))
        [⟨2, "node2", [5]⟩, ⟨3, "node3", [7]⟩] (decrypt (trioDeps (.ok misspelt)) trioRequest ()) ∧
      Unforged (trioSecret (.ok misspelt))
        ((lastQuorum (decrypt (trioDeps (.ok misspelt)) trioRequest ()).log).map (·.index))
        (given (decrypt (trioDeps (.ok misspelt)) trioRequest ())) ∧
      (decrypt (trioDeps (.ok misspelt)) trioRequest ()).result =
        .error (.core (.hex "partial" (.invalidHexCharacter 122 0))) ∧
      ¬ NotDenied (trioSecret (.ok misspelt)) (decrypt (trioDeps (.ok misspelt)) trioRequest ()) := by
  have result : (decrypt (trioDeps (.ok misspelt)) trioRequest ()).result =
      .error (.core (.hex "partial" (.invalidHexCharacter 122 0))) := by decide
  refine ⟨trio_distinct, ?_, trio_unforged _, result, ?_⟩
  · exact trio_honestRun fun resp answered => by
      obtain rfl := Except.ok.inj answered
      rfl
  · have aborts : readAnswer hexCrate 5 (.ok misspelt) =
        .error (.core (.hex "partial" (.invalidHexCharacter 122 0))) := rfl
    exact not_notDenied_of_unreadable aborts result

end MatterSdk.Rust
