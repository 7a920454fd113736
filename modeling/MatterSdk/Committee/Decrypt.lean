import Mathlib.Data.List.Sort
import Mathlib.Data.List.Perm.Subperm
import MatterSdk.Core
import MatterSdk.Lib.Loop
import MatterSdk.Lib.Tally

/-!
# Threshold decrypt

The quorum flow that the four clients share: probe the nodes, pick a random quorum of the active
ones, ask each for its partial, drop the one that fails and pick again.  What the clients do
differently with an answer is their `Dialect`.

Everything outside the client (nodes, signer, random source) acts on a world `ω` of its own, so a
node may answer differently at every call.  A run keeps a log of what was done, newest first.
-/

namespace MatterSdk

open Loop

/-- The context one `/partial-decrypt` request is signed for. -/
structure SigningRequest where
  secretId : BitVec 128
  subset : List ℕ
  recipientIndex : ℕ
  blockHash : Bytes
  validUntil : Option ℕ
deriving DecidableEq, Repr

/-- The auth fields a signer returns, copied onto the request. -/
structure RequestAuth where
  auth : AuthScheme
  requester : String
  signature : String
  ethAddress : Option String
  validUntil : Option ℕ
  ethSignature : Option String
deriving DecidableEq, Repr

/-- What the caller supplies, less the parts only opening reads. -/
structure Task where
  secretId : BitVec 128
  blockHash : Bytes
  threshold : ℕ
  nodes : List CommitteeNode

/-! ## The world outside the client -/

/-- `τ` is a failed exchange, `η` a `/health` answer and `ρ` a `/partial-decrypt` answer. -/
structure Transport (ω τ η ρ : Type) where
  health : String → ω → Except τ η × ω
  partialDecrypt : String → PartialDecryptRequest → ω → Except τ ρ × ω

/-- A signer fails with the text of its own error. -/
structure Signer (ω : Type) where
  authorize : SigningRequest → ω → Except String RequestAuth × ω

/-- A signer that signs whatever it is asked never fails. -/
theorem Signer.authorize_ne_error {ω : Type} {signer : Signer ω}
    (willing : ∀ context w, ∃ auth w', signer.authorize context w = (.ok auth, w'))
    {context : SigningRequest} {w w' : ω} {detail : String} :
    signer.authorize context w ≠ (.error detail, w') := by
  obtain ⟨auth, w'', signed⟩ := willing context w
  rw [signed]
  simp

/-- A random source that draws `amount` elements of a list without repetition, in any order. -/
structure Sampler (ω : Type) where
  chooseMultiple : List CommitteeNode → ℕ → ω → List CommitteeNode × ω
  subperm : ∀ available amount w, (chooseMultiple available amount w).1.Subperm available
  length : ∀ available amount w,
    (chooseMultiple available amount w).1.length = min amount available.length

/-- One step of a run. -/
inductive Message (τ ρ : Type) where
  | formed (quorum : List CommitteeNode)
  | authorized (context : SigningRequest) (auth : RequestAuth)
  | asked (node : CommitteeNode) (request : PartialDecryptRequest) (answer : Except τ ρ)
  | dropped (index : ℕ)

/-! ## The clients -/

/-- What a client makes of a node's answer, `κ` being its epochs. -/
inductive Reading (κ : Type) where
  | failed (detail : FaultDetail)
  | diverges (epoch : κ)
  | contributes (share proof : Bytes)

/-- How one client reads answers and reports errors.  A reader fails with the error that ends the
run there and then. -/
structure Dialect (τ η ρ κ ε : Type) where
  /-- Nothing for an active node, else its fault. -/
  readHealth : Except τ η → Except ε (Option (FaultStage × FaultDetail))
  readAnswer : Except τ ρ → Except ε (Reading κ)
  sameEpoch : κ → κ → Bool
  epochDetail : κ → Except ε FaultDetail
  /-- The epoch to report once the nodes have run out. -/
  dominant : List (κ × ℕ) → Except ε (Option κ)
  rotated : κ → ε
  quorumUnavailable : ℕ → ℕ → List NodeFault → ε
  refused : String → ε

structure Client (ω τ η ρ κ ε : Type) extends Dialect τ η ρ κ ε where
  transport : Transport ω τ η ρ
  signer : Signer ω
  sampler : Sampler ω
  lagrangeFor : ℕ → List ℕ → Except ε Bytes
  openSecret : List PartialInput → Except ε Plaintext

variable {ω τ η ρ κ ε : Type}

/-! ## Health probe -/

structure Probed (ω τ η : Type) where
  world : ω
  active : List CommitteeNode
  faults : List NodeFault
  /-- The answers, in node order. -/
  probes : List (CommitteeNode × Except τ η)

/-- Sort a probed node by its answer. -/
def sortProbe (d : Dialect τ η ρ κ ε) (probe : CommitteeNode × Except τ η) (s : Probed ω τ η) :
    Flow (ε × Probed ω τ η) (Probed ω τ η) :=
  let s := { s with probes := s.probes ++ [probe] }
  match d.readHealth probe.2 with
  | .error e => .done (e, s)
  | .ok (some (stage, detail)) =>
    .next { s with faults := s.faults ++ [probe.1.fault stage detail] }
  | .ok none => .next { s with active := s.active ++ [probe.1] }

def probeNode (c : Client ω τ η ρ κ ε) (node : CommitteeNode) (s : Probed ω τ η) :
    Flow (ε × Probed ω τ η) (Probed ω τ η) :=
  match c.transport.health node.endpoint s.world with
  | (answer, world) => sortProbe c.toDialect (node, answer) { s with world }

/-! ## The quorum loop -/

structure Progress (ω τ ρ κ : Type) where
  world : ω
  available : List CommitteeNode
  votes : List (κ × ℕ)
  faults : List NodeFault
  log : List (Message τ ρ)

/-- Choose `threshold` of `available` at random, in index order. -/
def chooseQuorum (sampler : Sampler ω) (available : List CommitteeNode) (threshold : ℕ)
    (world : ω) : List CommitteeNode × ω :=
  match sampler.chooseMultiple available threshold world with
  | (chosen, world) => (chosen.insertionSort fun a b => a.index ≤ b.index, world)

/-- Why a pass over a quorum stopped early. -/
inductive Interrupt (ε : Type) where
  | faulty (index : ℕ)
  | abort (e : ε)

/-- Count a vote for a divergent epoch. -/
def Progress.vote (c : Client ω τ η ρ κ ε) (p : Progress ω τ ρ κ) (epoch : κ) :
    Progress ω τ ρ κ :=
  { p with votes := Tally.bump c.sameEpoch epoch p.votes }

/-- Record a fault. -/
def Progress.addFault (p : Progress ω τ ρ κ) (fault : NodeFault) : Progress ω τ ρ κ :=
  { p with faults := p.faults ++ [fault] }

/-- `available.retain(|n| n.index != bad)`. -/
def Progress.drop (p : Progress ω τ ρ κ) (bad : ℕ) : Progress ω τ ρ κ :=
  { p with available := p.available.filter (·.index ≠ bad), log := .dropped bad :: p.log }

/-- What the client does with the answer of `node`. -/
def receive (c : Client ω τ η ρ κ ε) (task : Task) (node : CommitteeNode) (answer : Except τ ρ)
    (partials : List PartialInput) (p : Progress ω τ ρ κ) :
    Flow (Interrupt ε × Progress ω τ ρ κ) (List PartialInput × Progress ω τ ρ κ) :=
  match c.readAnswer answer with
  | .error e => .done (.abort e, p)
  | .ok (.failed detail) =>
    .done (.faulty node.index, p.addFault (node.fault .partialDecrypt detail))
  | .ok (.diverges epoch) =>
    if task.threshold ≤ Tally.votes c.sameEpoch p.votes epoch + 1 then
      .done (.abort (c.rotated epoch), p.vote c epoch)
    else
      match c.epochDetail epoch with
      | .error e => .done (.abort e, p.vote c epoch)
      | .ok detail =>
        .done (.faulty node.index, (p.vote c epoch).addFault (node.fault .epochMismatch detail))
  | .ok (.contributes share proof) =>
    .next (partials ++ [{ point := node.index, share, proof, commitment := node.shareCommitment }], p)

/-- The context signed for the node with index `recipientIndex`. -/
def Task.context (task : Task) (subset : List ℕ) (recipientIndex : ℕ) : SigningRequest :=
  { secretId := task.secretId, subset, recipientIndex, blockHash := task.blockHash,
    validUntil := none }

def Task.request (task : Task) (subset : List ℕ) (lambda : Bytes) (auth : RequestAuth) :
    PartialDecryptRequest :=
  { secretId := secretIdToHex task.secretId
    subset
    lagrangeCoeff := to0x lambda
    requester := auth.requester
    blockHash := to0x task.blockHash
    signature := auth.signature
    auth := auth.auth
    ethAddress := auth.ethAddress
    validUntil := auth.validUntil
    ethSignature := auth.ethSignature }

/-- The progress once `node` has answered. -/
def Progress.exchanged (p : Progress ω τ ρ κ) (context : SigningRequest) (auth : RequestAuth)
    (node : CommitteeNode) (request : PartialDecryptRequest) (answer : Except τ ρ) (world : ω) :
    Progress ω τ ρ κ :=
  { p with world, log := .asked node request answer :: .authorized context auth :: p.log }

/-- Sign a request for `node`, send it and take in the answer. -/
def ask (c : Client ω τ η ρ κ ε) (task : Task) (subset : List ℕ) (node : CommitteeNode)
    (s : List PartialInput × Progress ω τ ρ κ) :
    Flow (Interrupt ε × Progress ω τ ρ κ) (List PartialInput × Progress ω τ ρ κ) :=
  match c.lagrangeFor node.index subset with
  | .error e => .done (.abort e, s.2)
  | .ok lambda =>
    match c.signer.authorize (task.context subset node.index) s.2.world with
    | (.error e, world) => .done (.abort (c.refused e), { s.2 with world })
    | (.ok auth, world) =>
      match c.transport.partialDecrypt node.endpoint (task.request subset lambda auth) world with
      | (answer, world) =>
        receive c task node answer s.1
          (s.2.exchanged (task.context subset node.index) auth node
            (task.request subset lambda auth) answer world)

/-- How the quorum loop ends. -/
inductive Ending (ε : Type) where
  | exhausted
  | stopped (e : ε)
  | opened (result : Except ε Plaintext)

/-- The progress once a quorum has been formed. -/
def Progress.formed (p : Progress ω τ ρ κ) (quorum : List CommitteeNode) (world : ω) :
    Progress ω τ ρ κ :=
  { p with world, log := .formed quorum :: p.log }

/-- What follows a pass over a quorum: drop the faulty node, give up, or open the secret. -/
def afterPass (c : Client ω τ η ρ κ ε) :
    Flow (Interrupt ε × Progress ω τ ρ κ) (List PartialInput × Progress ω τ ρ κ) →
      Flow (Ending ε × Progress ω τ ρ κ) (Progress ω τ ρ κ)
  | .done (.faulty bad, p) => .next (p.drop bad)
  | .done (.abort e, p) => .done (.stopped e, p)
  | .next (partials, p) => .done (.opened (c.openSecret partials), p)

/-- One round of the loop. -/
def round (c : Client ω τ η ρ κ ε) (task : Task) (p : Progress ω τ ρ κ) :
    Flow (Ending ε × Progress ω τ ρ κ) (Progress ω τ ρ κ) :=
  if p.available.length < task.threshold then .done (.exhausted, p)
  else
    match chooseQuorum c.sampler p.available task.threshold p.world with
    | (quorum, world) =>
      afterPass c (forEach (ask c task (quorum.map (·.index))) quorum ([], p.formed quorum world))

/-! ### What asking a node can do -/

/-- One request to `node` and its answer. -/
structure Exchange (c : Client ω τ η ρ κ ε) (task : Task) (subset : List ℕ) (node : CommitteeNode)
    (p : Progress ω τ ρ κ) where
  lambda : Bytes
  auth : RequestAuth
  signed : ω
  answer : Except τ ρ
  world : ω
  lambda_eq : c.lagrangeFor node.index subset = .ok lambda
  auth_eq : c.signer.authorize (task.context subset node.index) p.world = (.ok auth, signed)
  answer_eq : c.transport.partialDecrypt node.endpoint (task.request subset lambda auth) signed =
    (answer, world)

/-- The progress once the answer is in. -/
def Exchange.after {c : Client ω τ η ρ κ ε} {task : Task} {subset : List ℕ} {node : CommitteeNode}
    {p : Progress ω τ ρ κ} (x : Exchange c task subset node p) : Progress ω τ ρ κ :=
  p.exchanged (task.context subset node.index) x.auth node (task.request subset x.lambda x.auth)
    x.answer x.world

/-- Everything that asking `node` can lead to. -/
inductive Asked (c : Client ω τ η ρ κ ε) (task : Task) (subset : List ℕ) (node : CommitteeNode)
    (partials : List PartialInput) (p : Progress ω τ ρ κ) :
    Flow (Interrupt ε × Progress ω τ ρ κ) (List PartialInput × Progress ω τ ρ κ) → Prop where
  | noLambda (e : ε) (h : c.lagrangeFor node.index subset = .error e) :
      Asked c task subset node partials p (.done (.abort e, p))
  | unsigned (e : String) (world : ω)
      (h : c.signer.authorize (task.context subset node.index) p.world = (.error e, world)) :
      Asked c task subset node partials p (.done (.abort (c.refused e), { p with world }))
  | unreadable (x : Exchange c task subset node p) (e : ε) (h : c.readAnswer x.answer = .error e) :
      Asked c task subset node partials p (.done (.abort e, x.after))
  | failed (x : Exchange c task subset node p) (detail : FaultDetail)
      (h : c.readAnswer x.answer = .ok (.failed detail)) :
      Asked c task subset node partials p
        (.done (.faulty node.index, x.after.addFault (node.fault .partialDecrypt detail)))
  | rotated (x : Exchange c task subset node p) (epoch : κ)
      (h : c.readAnswer x.answer = .ok (.diverges epoch))
      (enough : task.threshold ≤ Tally.votes c.sameEpoch p.votes epoch + 1) :
      Asked c task subset node partials p
        (.done (.abort (c.rotated epoch), x.after.vote c epoch))
  | unprinted (x : Exchange c task subset node p) (epoch : κ)
      (h : c.readAnswer x.answer = .ok (.diverges epoch)) (e : ε)
      (he : c.epochDetail epoch = .error e) :
      Asked c task subset node partials p (.done (.abort e, x.after.vote c epoch))
  | diverged (x : Exchange c task subset node p) (epoch : κ)
      (h : c.readAnswer x.answer = .ok (.diverges epoch))
      (few : Tally.votes c.sameEpoch p.votes epoch + 1 < task.threshold)
      (detail : FaultDetail) (hd : c.epochDetail epoch = .ok detail) :
      Asked c task subset node partials p
        (.done (.faulty node.index,
          (x.after.vote c epoch).addFault (node.fault .epochMismatch detail)))
  | contributed (x : Exchange c task subset node p) (share proof : Bytes)
      (h : c.readAnswer x.answer = .ok (.contributes share proof)) :
      Asked c task subset node partials p
        (.next (partials ++
          [{ point := node.index, share, proof, commitment := node.shareCommitment }], x.after))

theorem ask_cases (c : Client ω τ η ρ κ ε) (task : Task) (subset : List ℕ) (node : CommitteeNode)
    (partials : List PartialInput) (p : Progress ω τ ρ κ) :
    Asked c task subset node partials p (ask c task subset node (partials, p)) := by
  unfold ask
  cases hl : c.lagrangeFor node.index subset with
  | error e => exact .noLambda e hl
  | ok lambda =>
    dsimp only
    rcases ha : c.signer.authorize (task.context subset node.index) p.world with ⟨_ | auth, signed⟩
    · exact .unsigned _ _ ha
    let sent := c.transport.partialDecrypt node.endpoint (task.request subset lambda auth) signed
    let x : Exchange c task subset node p :=
      ⟨lambda, auth, signed, sent.1, sent.2, hl, ha, rfl⟩
    change Asked c task subset node partials p (receive c task node x.answer partials x.after)
    unfold receive
    cases hr : c.readAnswer x.answer with
    | error e => exact .unreadable x e hr
    | ok reading =>
      cases reading with
      | failed detail => exact .failed x detail hr
      | contributes share proof => exact .contributed x share proof hr
      | diverges epoch =>
        dsimp only
        split_ifs with enough
        · exact .rotated x epoch hr enough
        · cases hd : c.epochDetail epoch with
          | error e => exact .unprinted x epoch hr e hd
          | ok detail => exact .diverged x epoch hr (Nat.lt_of_not_le enough) detail hd

/-! ### The loop ends -/

/-- A quorum as `chooseQuorum` forms it. -/
structure IsQuorum (available : List CommitteeNode) (threshold : ℕ) (quorum : List CommitteeNode) :
    Prop where
  subperm : quorum.Subperm available
  length : quorum.length = min threshold available.length
  sorted : quorum.Pairwise fun a b => a.index ≤ b.index

theorem IsQuorum.mem {available quorum : List CommitteeNode} {threshold : ℕ}
    (h : IsQuorum available threshold quorum) {n : CommitteeNode} (hn : n ∈ quorum) :
    n ∈ available :=
  h.subperm.subset hn

theorem chooseQuorum_isQuorum (sampler : Sampler ω) (available : List CommitteeNode)
    (threshold : ℕ) (world : ω) :
    IsQuorum available threshold (chooseQuorum sampler available threshold world).1 where
  subperm := (List.perm_insertionSort _ _).subperm.trans (sampler.subperm _ _ _)
  length := (List.perm_insertionSort _ _).length_eq.trans (sampler.length _ _ _)
  sorted := by
    have : Std.Total fun a b : CommitteeNode => a.index ≤ b.index := ⟨fun _ _ => Nat.le_total _ _⟩
    have : IsTrans CommitteeNode fun a b => a.index ≤ b.index := ⟨fun _ _ _ => Nat.le_trans⟩
    exact List.pairwise_insertionSort _ _

/-- An invariant of one round: `M` holds while the nodes of `quorum` still to be asked are
asked. -/
theorem round_rule {c : Client ω τ η ρ κ ε} {task : Task} {p : Progress ω τ ρ κ}
    {Q : Ending ε × Progress ω τ ρ κ → Prop} {I : Progress ω τ ρ κ → Prop}
    {M : List CommitteeNode → List CommitteeNode → List PartialInput → Progress ω τ ρ κ → Prop}
    (exhausted : p.available.length < task.threshold → Q (.exhausted, p))
    (formed : ∀ quorum world, task.threshold ≤ p.available.length →
      IsQuorum p.available task.threshold quorum → M quorum quorum [] (p.formed quorum world))
    (asked : ∀ quorum node rest partials q r, M quorum (node :: rest) partials q →
      Asked c task (quorum.map (·.index)) node partials q r →
      r.Meets
        (fun b => match b with
          | (.faulty bad, q') => I (q'.drop bad)
          | (.abort e, q') => Q (.stopped e, q'))
        (fun s => M quorum rest s.1 s.2))
    (opened : ∀ quorum partials q, M quorum [] partials q →
      Q (.opened (c.openSecret partials), q)) :
    (round c task p).Meets Q I := by
  unfold round
  split_ifs with few
  · exact exhausted few
  have quorum_ok := chooseQuorum_isQuorum c.sampler p.available task.threshold p.world
  rcases hq : chooseQuorum c.sampler p.available task.threshold p.world with ⟨quorum, world⟩
  rw [hq] at quorum_ok
  have start := formed quorum world (Nat.le_of_not_lt few) quorum_ok
  have pass := forEach_rule (f := ask c task (quorum.map (·.index)))
    (I := fun rest s => M quorum rest s.1 s.2)
    (fun node rest s hs => asked quorum node rest s.1 s.2 _ hs (ask_cases c task _ node s.1 s.2))
    quorum ([], p.formed quorum world) start
  dsimp only
  cases hf : forEach (ask c task (quorum.map (·.index))) quorum ([], p.formed quorum world) with
  | done b =>
    rw [hf] at pass
    obtain ⟨bad | e, q⟩ := b
    · exact pass
    · exact pass
  | next s =>
    rw [hf] at pass
    exact opened quorum s.1 s.2 pass

theorem round_decreases (c : Client ω τ η ρ κ ε) (task : Task) (p p' : Progress ω τ ρ κ)
    (h : round c task p = .next p') : p'.available.length < p.available.length := by
  have fewer (node : CommitteeNode) (q : Progress ω τ ρ κ) (hn : node ∈ p.available)
      (hq : q.available = p.available) :
      (q.drop node.index).available.length < p.available.length := by
    simp only [Progress.drop, hq]
    exact List.length_filter_lt_length_iff_exists.2 ⟨node, hn, by simp⟩
  have rule : (round c task p).Meets (fun _ => True)
      (fun q => q.available.length < p.available.length) := by
    refine round_rule
      (M := fun _ rest _ q => q.available = p.available ∧ ∀ n ∈ rest, n ∈ p.available)
      (fun _ => trivial) (fun quorum world _ hq => ⟨rfl, fun n hn => hq.mem hn⟩) ?_
      (fun _ _ _ _ => trivial)
    rintro quorum node rest partials q r ⟨same, mem⟩ outcome
    have hn := mem node (by simp)
    cases outcome with
    | noLambda | unsigned | unreadable | rotated | unprinted => trivial
    | failed x => exact fewer node _ hn same
    | diverged x => exact fewer node _ hn same
    | contributed x => exact ⟨same, fun n h => mem n (List.mem_cons_of_mem _ h)⟩
  rw [h] at rule
  exact rule

/-- Every round that goes on drops a node. -/
def roundVariant (c : Client ω τ η ρ κ ε) (task : Task) : Variant (round c task) where
  measure p := p.available.length
  decreases := round_decreases c task

/-! ## A run -/

/-- The result of a run, with what it did. -/
structure Run (τ η ρ κ ε : Type) where
  result : Except ε Plaintext
  probes : List (CommitteeNode × Except τ η)
  active : List CommitteeNode
  available : List CommitteeNode
  votes : List (κ × ℕ)
  faults : List NodeFault
  log : List (Message τ ρ)

/-- The result of a run whose quorum loop has ended. -/
def conclude (c : Client ω τ η ρ κ ε) (task : Task) (ending : Ending ε) (p : Progress ω τ ρ κ) :
    Except ε Plaintext :=
  match ending with
  | .opened result => result
  | .stopped e => .error e
  | .exhausted =>
    match c.dominant p.votes with
    | .error e => .error e
    | .ok (some served) => .error (c.rotated served)
    | .ok none => .error (c.quorumUnavailable task.threshold p.available.length p.faults)

/-- The state in which the quorum loop starts. -/
def Probed.start (s : Probed ω τ η) : Progress ω τ ρ κ :=
  { world := s.world, available := s.active, votes := [], faults := s.faults, log := [] }

/-- The quorum loop from the nodes found active. -/
def quorumLoop (c : Client ω τ η ρ κ ε) (task : Task) (s : Probed ω τ η) :
    Ending ε × Progress ω τ ρ κ :=
  Loop.run (roundVariant c task) s.start

/-- The run after the probe. -/
def decryptActive (c : Client ω τ η ρ κ ε) (task : Task) (s : Probed ω τ η) : Run τ η ρ κ ε :=
  if s.active.length < task.threshold then
    { result := .error (c.quorumUnavailable task.threshold s.active.length s.faults)
      probes := s.probes, active := s.active, available := s.active, votes := []
      faults := s.faults, log := [] }
  else
    match quorumLoop c task s with
    | (ending, p) =>
      { result := conclude c task ending p
        probes := s.probes, active := s.active, available := p.available, votes := p.votes
        faults := p.faults, log := p.log }

def decrypt (c : Client ω τ η ρ κ ε) (task : Task) (world : ω) : Run τ η ρ κ ε :=
  match forEach (probeNode c) task.nodes { world, active := [], faults := [], probes := [] } with
  | .done (e, s) =>
    { result := .error e, probes := s.probes, active := s.active, available := s.active, votes := []
      faults := s.faults, log := [] }
  | .next s => decryptActive c task s

end MatterSdk
