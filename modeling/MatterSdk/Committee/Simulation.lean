import MatterSdk.Committee.Runs

/-!
# Two clients in step

Two clients that share their signer and random source, and read each answer alike, go through the
quorum loop in step: they keep the same nodes, faults and partials, and votes for corresponding
epochs.  They can part only in the epoch they report once the nodes have run out.
-/

namespace MatterSdk

open Loop

/-- What a decrypt ends in, with the faults in their parts. -/
inductive Conclusion where
  | opened (plaintext : Plaintext)
  | quorum (needed found : ℕ) (faults : List NodeFault)
  | epoch (served : Option ℕ) (provided : ℕ)
  | transport (message : String)
  | crypto (source : CoreError)
  | other (message : String)
deriving DecidableEq

def Reading.map {κ κ' : Type} (key : κ → κ') : Reading κ → Reading κ'
  | .failed detail => .failed detail
  | .diverges epoch => .diverges (key epoch)
  | .contributes share proof => .contributes share proof

section

variable {ω τ η ρ κ ε τ' η' ρ' κ' ε' : Type}

/-- The second client reads every answer as the first does, under `key`, and reports alike; epochs
are compared and printed alike where `Valid`. -/
structure Agrees (c : Client ω τ η ρ κ ε) (c' : Client ω τ' η' ρ' κ' ε') (key : κ → κ')
    (Valid : κ → Prop) (told : Except ε Plaintext → Conclusion)
    (told' : Except ε' Plaintext → Conclusion) : Prop where
  sampler : c'.sampler = c.sampler
  signer : c'.signer = c.signer
  health : ∀ endpoint w, ∃ answer answer' w' fault,
    c.transport.health endpoint w = (answer, w') ∧
    c'.transport.health endpoint w = (answer', w') ∧
    c.readHealth answer = .ok fault ∧ c'.readHealth answer' = .ok fault
  answer : ∀ endpoint request w, ∃ answer answer' w' reading,
    c.transport.partialDecrypt endpoint request w = (answer, w') ∧
    c'.transport.partialDecrypt endpoint request w = (answer', w') ∧
    c.readAnswer answer = .ok reading ∧ c'.readAnswer answer' = .ok (reading.map key) ∧
    ∀ epoch, reading = .diverges epoch → Valid epoch
  lambda : ∀ point subset, ∃ lambda,
    c.lagrangeFor point subset = .ok lambda ∧ c'.lagrangeFor point subset = .ok lambda
  sameEpoch : ∀ a b, c'.sameEpoch (key a) (key b) = c.sameEpoch a b
  epochDetail : ∀ epoch, Valid epoch → ∃ detail,
    c.epochDetail epoch = .ok detail ∧ c'.epochDetail (key epoch) = .ok detail
  rotated : ∀ epoch, Valid epoch →
    told' (.error (c'.rotated (key epoch))) = told (.error (c.rotated epoch))
  refused : ∀ detail, told' (.error (c'.refused detail)) = told (.error (c.refused detail))
  quorumUnavailable : ∀ needed found faults,
    told' (.error (c'.quorumUnavailable needed found faults)) =
      told (.error (c.quorumUnavailable needed found faults))
  opened : ∀ partials, told' (c'.openSecret partials) = told (c.openSecret partials)

/-- Two states of the loop that differ in their logs at most. -/
structure Matches (key : κ → κ') (Valid : κ → Prop) (p : Progress ω τ ρ κ)
    (p' : Progress ω τ' ρ' κ') : Prop where
  world : p'.world = p.world
  available : p'.available = p.available
  votes : p'.votes = p.votes.map (Prod.map key id)
  faults : p'.faults = p.faults
  valid : ∀ epoch ∈ p.votes.map Prod.fst, Valid epoch

variable {c : Client ω τ η ρ κ ε} {c' : Client ω τ' η' ρ' κ' ε'} {key : κ → κ'}
  {Valid : κ → Prop} {told : Except ε Plaintext → Conclusion}
  {told' : Except ε' Plaintext → Conclusion} {task : Task}

/-- Passes that stop early for the same reason. -/
def SameInterrupt (told : Except ε Plaintext → Conclusion) (told' : Except ε' Plaintext → Conclusion) :
    Interrupt ε → Interrupt ε' → Prop
  | .faulty i, .faulty j => i = j
  | .abort e, .abort e' => told' (.error e') = told (.error e)
  | _, _ => False

/-- Loops that end in the same way. -/
def SameEnding (told : Except ε Plaintext → Conclusion) (told' : Except ε' Plaintext → Conclusion) :
    Ending ε → Ending ε' → Prop
  | .exhausted, .exhausted => True
  | .stopped e, .stopped e' => told' (.error e') = told (.error e)
  | .opened r, .opened r' => told' r' = told r
  | _, _ => False

theorem Matches.vote (agrees : Agrees c c' key Valid told told')
    {p : Progress ω τ ρ κ} {p' : Progress ω τ' ρ' κ'} (m : Matches key Valid p p') {epoch : κ}
    (valid : Valid epoch) : Matches key Valid (p.vote c epoch) (p'.vote c' (key epoch)) where
  world := m.world
  available := m.available
  votes := by
    simp only [Progress.vote, m.votes]
    exact Tally.bump_map agrees.sameEpoch epoch p.votes
  faults := m.faults
  valid e he := by
    rcases Tally.mem_keys_bump he with rfl | he
    · exact valid
    · exact m.valid e he

theorem Matches.addFault {p : Progress ω τ ρ κ} {p' : Progress ω τ' ρ' κ'}
    (m : Matches key Valid p p') (fault : NodeFault) :
    Matches key Valid (p.addFault fault) (p'.addFault fault) :=
  ⟨m.world, m.available, m.votes, congrArg (· ++ [fault]) m.faults, m.valid⟩

theorem Matches.drop {p : Progress ω τ ρ κ} {p' : Progress ω τ' ρ' κ'}
    (m : Matches key Valid p p') (bad : ℕ) : Matches key Valid (p.drop bad) (p'.drop bad) where
  world := m.world
  available := by simp only [Progress.drop, m.available]
  votes := m.votes
  faults := m.faults
  valid := m.valid

theorem ask_related (task : Task) (agrees : Agrees c c' key Valid told told') (subset : List ℕ)
    (node : CommitteeNode) (s : List PartialInput × Progress ω τ ρ κ)
    (s' : List PartialInput × Progress ω τ' ρ' κ')
    (h : s'.1 = s.1 ∧ Matches key Valid s.2 s'.2) :
    (ask c task subset node s).Related
      (fun b b' => SameInterrupt told told' b.1 b'.1 ∧ Matches key Valid b.2 b'.2)
      (fun t t' => t'.1 = t.1 ∧ Matches key Valid t.2 t'.2) (ask c' task subset node s') := by
  obtain ⟨partials, p⟩ := s
  obtain ⟨partials', p'⟩ := s'
  obtain ⟨rfl, m⟩ := h
  change Matches key Valid p p' at m
  obtain ⟨lambda, hl, hl'⟩ := agrees.lambda node.index subset
  unfold ask
  simp only [hl, hl', agrees.signer, m.world]
  rcases c.signer.authorize (task.context subset node.index) p.world with ⟨_ | auth, signed⟩
  · exact ⟨agrees.refused _, rfl, m.available, m.votes, m.faults, m.valid⟩
  obtain ⟨answer, answer', after, reading, ha, ha', hr, hr', valid⟩ :=
    agrees.answer node.endpoint (task.request subset lambda auth) signed
  simp only [ha, ha']
  have exchanged : Matches key Valid
      (p.exchanged (task.context subset node.index) auth node (task.request subset lambda auth)
        answer after)
      (p'.exchanged (task.context subset node.index) auth node (task.request subset lambda auth)
        answer' after) := ⟨rfl, m.available, m.votes, m.faults, m.valid⟩
  unfold receive
  rw [hr, hr']
  cases reading with
  | failed detail => exact ⟨rfl, exchanged.addFault _⟩
  | contributes share proof => exact ⟨rfl, exchanged⟩
  | diverges epoch =>
    have voted := exchanged.vote agrees (valid epoch rfl)
    have count : Tally.votes c'.sameEpoch p'.votes (key epoch) =
        Tally.votes c.sameEpoch p.votes epoch := by
      rw [m.votes, Tally.votes_map agrees.sameEpoch]
    obtain ⟨detail, hd, hd'⟩ := agrees.epochDetail epoch (valid epoch rfl)
    simp only [Reading.map, Progress.exchanged, count, hd, hd']
    split_ifs with enough
    · exact ⟨agrees.rotated epoch (valid epoch rfl), voted⟩
    · exact ⟨rfl, voted.addFault _⟩

theorem round_related (agrees : Agrees c c' key Valid told told')
    (p : Progress ω τ ρ κ) (p' : Progress ω τ' ρ' κ') (m : Matches key Valid p p') :
    (round c task p).Related
      (fun b b' => SameEnding told told' b.1 b'.1 ∧ Matches key Valid b.2 b'.2)
      (Matches key Valid) (round c' task p') := by
  unfold round
  rw [m.available, m.world, agrees.sampler]
  split_ifs with few
  · exact ⟨trivial, m⟩
  rcases chooseQuorum c.sampler p.available task.threshold p.world with ⟨quorum, world⟩
  dsimp only
  have formed : Matches key Valid (p.formed quorum world) (p'.formed quorum world) :=
    ⟨rfl, m.available, m.votes, m.faults, m.valid⟩
  have pass := forEach_related (ask_related task agrees (quorum.map (·.index))) quorum
    ([], p.formed quorum world) ([], p'.formed quorum world) ⟨rfl, formed⟩
  generalize forEach (ask c task (quorum.map (·.index))) quorum ([], p.formed quorum world) = r
    at pass
  generalize forEach (ask c' task (quorum.map (·.index))) quorum ([], p'.formed quorum world) = r'
    at pass
  match r, r', pass with
  | .done (.faulty i, q), .done (.faulty _, q'), ⟨rfl, m⟩ =>
    exact m.drop i
  | .done (.abort e, q), .done (.abort e', q'), ⟨same, m⟩ => exact ⟨same, m⟩
  | .next (partials, q), .next (_, q'), ⟨rfl, m⟩ => exact ⟨agrees.opened partials, m⟩

/-- Two probes that found the same. -/
structure SameProbe (s : Probed ω τ η) (s' : Probed ω τ' η') : Prop where
  world : s'.world = s.world
  active : s'.active = s.active
  faults : s'.faults = s.faults

/-- Two runs in step: the verdicts are the same, unless both are left to the tally of the votes. -/
inductive InStep (c : Client ω τ η ρ κ ε) (c' : Client ω τ' η' ρ' κ' ε') (key : κ → κ')
    (Valid : κ → Prop) (told : Except ε Plaintext → Conclusion)
    (told' : Except ε' Plaintext → Conclusion) (task : Task) (r : Run τ η ρ κ ε)
    (r' : Run τ' η' ρ' κ' ε') : Prop where
  | same (spare : r.votes = [] ∨ task.threshold ≤ r.available.length)
      (h : told' r'.result = told r.result) : InStep c c' key Valid told told' task r r'
  | exhausted (p : Progress ω τ ρ κ) (p' : Progress ω τ' ρ' κ') (m : Matches key Valid p p')
      (few : r.available.length < task.threshold) (votes : r.votes = p.votes)
      (h : r.result = conclude c task .exhausted p)
      (h' : r'.result = conclude c' task .exhausted p') :
      InStep c c' key Valid told told' task r r'

theorem quorumLoop_related (task : Task) (agrees : Agrees c c' key Valid told told')
    {s : Probed ω τ η}
    {s' : Probed ω τ' η'} (same : SameProbe s s') :
    SameEnding told told' (quorumLoop c task s).1 (quorumLoop c' task s').1 ∧
      Matches key Valid (quorumLoop c task s).2 (quorumLoop c' task s').2 :=
  run_related (roundVariant c task) (roundVariant c' task)
    (fun p p' m => round_related agrees p p' m) s.start s'.start
    ⟨same.world, same.active, rfl, same.faults, by simp [Probed.start]⟩

/-- The nodes are enough, unless the loop has run out of them. -/
def Spare (task : Task) : Ending ε × Progress ω τ ρ κ → Prop
  | (.exhausted, p) => p.available.length < task.threshold
  | (_, p) => task.threshold ≤ p.available.length

theorem quorumLoop_spare (c : Client ω τ η ρ κ ε) (task : Task) (s : Probed ω τ η) :
    Spare task (quorumLoop c task s) := by
  refine quorumLoop_rule (I := fun _ => True) (fun p _ => ?_) trivial
  refine round_rule (M := fun _ _ _ q => task.threshold ≤ q.available.length) id
    (fun _ _ enough _ => enough) ?_ (fun _ _ _ enough => enough)
  intro quorum node rest partials q r enough outcome
  cases outcome with
  | failed | diverged => trivial
  | noLambda | unsigned | unreadable | rotated | unprinted | contributed => exact enough

theorem decryptActive_inStep (agrees : Agrees c c' key Valid told told') {s : Probed ω τ η}
    {s' : Probed ω τ' η'} (same : SameProbe s s') :
    InStep c c' key Valid told told' task (decryptActive c task s)
      (decryptActive c' task s') := by
  have spare := quorumLoop_spare c task s
  have ⟨ending, m⟩ := quorumLoop_related task agrees same
  unfold decryptActive
  rw [same.active, same.faults]
  split_ifs with few
  · exact .same (Or.inl rfl) (agrees.quorumUnavailable _ _ _)
  rcases hq : quorumLoop c task s with ⟨e, p⟩
  rcases hq' : quorumLoop c' task s' with ⟨e', p'⟩
  rw [hq] at spare ending m
  rw [hq'] at ending m
  cases e with
  | exhausted =>
    cases e' with
    | exhausted => exact .exhausted p p' m spare rfl rfl rfl
    | stopped | opened => exact ending.elim
  | stopped =>
    cases e' with
    | stopped => exact .same (Or.inr spare) ending
    | exhausted | opened => exact ending.elim
  | opened =>
    cases e' with
    | opened => exact .same (Or.inr spare) ending
    | exhausted | stopped => exact ending.elim

/-- Probing the nodes one by one finds the same for both. -/
theorem probe_same (agrees : Agrees c c' key Valid told told') (nodes : List CommitteeNode)
    {s : Probed ω τ η} {s' : Probed ω τ' η'} (same : SameProbe s s') :
    ∃ t t', forEach (probeNode c) nodes s = .next t ∧
      forEach (probeNode c') nodes s' = .next t' ∧ SameProbe t t' := by
  induction nodes generalizing s s' with
  | nil => exact ⟨s, s', rfl, rfl, same⟩
  | cons node rest ih =>
    obtain ⟨answer, answer', w, fault, ha, ha', hr, hr'⟩ := agrees.health node.endpoint s.world
    simp only [forEach, probeNode, sortProbe, same.world, ha, ha', hr, hr']
    cases fault with
    | none => exact ih ⟨rfl, by rw [same.active], same.faults⟩
    | some fault => exact ih ⟨rfl, same.active, by rw [same.faults]⟩

theorem decrypt_inStep (task : Task) (agrees : Agrees c c' key Valid told told') (world : ω) :
    InStep c c' key Valid told told' task (decrypt c task world) (decrypt c' task world) := by
  have start : SameProbe (⟨world, [], [], []⟩ : Probed ω τ η)
      (⟨world, [], [], []⟩ : Probed ω τ' η') := ⟨rfl, rfl, rfl⟩
  obtain ⟨t, t', ht, ht', same⟩ := probe_same agrees task.nodes start
  unfold decrypt
  rw [ht, ht']
  exact decryptActive_inStep agrees same

end

end MatterSdk
