import MatterSdk.Committee.Scripted
import MatterSdk.Committee.Runs
import MatterSdk.OpeningChecks

/-!
# Subsets of a run

A coefficient is defined only over points that are not zero and pairwise distinct.  `decrypt` takes
its subsets from the caller's nodes as they are, so it signs and sends good subsets for every world
exactly if no choice of nodes can be a bad one.
-/

namespace MatterSdk

open Loop

variable {ω τ η ρ κ ε : Type}

/-- The coefficients of the message, if it has a subset, are defined. -/
def Message.SubsetValid : Message τ ρ → Prop
  | .formed quorum => ValidSubset (quorum.map (·.index))
  | .authorized context _ => ValidSubset context.subset
  | .asked _ request _ => ValidSubset request.subset
  | .dropped _ => True

/-- Every subset that a coefficient was taken over, that was signed and that was sent, is valid. -/
def SubsetsValid (log : List (Message τ ρ)) : Prop := ∀ m ∈ log, m.SubsetValid

theorem SubsetsValid.cons {log : List (Message τ ρ)} (valid : SubsetsValid log) {m : Message τ ρ}
    (here : m.SubsetValid) : SubsetsValid (m :: log) :=
  List.forall_mem_cons.mpr ⟨here, valid⟩

/-- Any `threshold` of the nodes have points that a coefficient is defined for. -/
def AllSubsetsValid (nodes : List CommitteeNode) (threshold : ℕ) : Prop :=
  ∀ quorum : List CommitteeNode, quorum.Subperm nodes → quorum.length = threshold →
    ValidSubset (quorum.map (·.index))

/-! ## Runs keep what the nodes have -/

section

variable {c : Client ω τ η ρ κ ε} {task : Task}

/-- The log's subsets are valid, and nodes are only ever taken away. -/
structure Sifted (task : Task) (p : Progress ω τ ρ κ) : Prop where
  available : p.available.Sublist task.nodes
  valid : SubsetsValid p.log

/-- An exchange is over the subset of its quorum. -/
theorem Exchange.sifted {subset : List ℕ} {node : CommitteeNode} {p : Progress ω τ ρ κ}
    (x : Exchange c task subset node p) (sifted : Sifted task p) (valid : ValidSubset subset) :
    Sifted task x.after where
  available := sifted.available
  valid := by
    refine SubsetsValid.cons (SubsetsValid.cons sifted.valid ?_) ?_
    · exact valid
    · exact valid

theorem Sifted.addFault {p : Progress ω τ ρ κ} (sifted : Sifted task p) (fault : NodeFault) :
    Sifted task (p.addFault fault) := ⟨sifted.available, sifted.valid⟩

theorem Sifted.vote {p : Progress ω τ ρ κ} (sifted : Sifted task p) (epoch : κ) :
    Sifted task (p.vote c epoch) := ⟨sifted.available, sifted.valid⟩

theorem Sifted.drop {p : Progress ω τ ρ κ} (sifted : Sifted task p) (bad : ℕ) :
    Sifted task (p.drop bad) where
  available := List.filter_sublist.trans sifted.available
  valid := sifted.valid.cons (m := .dropped bad) trivial

theorem round_sifted (all : AllSubsetsValid task.nodes task.threshold) (p : Progress ω τ ρ κ)
    (sifted : Sifted task p) :
    (round c task p).Meets (fun b => SubsetsValid b.2.log) (Sifted task) := by
  refine round_rule (M := fun quorum _ _ q => Sifted task q ∧ ValidSubset (quorum.map (·.index)))
    (fun _ => sifted.valid) ?_ ?_ (fun _ _ _ pass => pass.1.valid)
  · intro quorum world enough isQuorum
    have valid := all quorum (isQuorum.subperm.trans sifted.available.subperm)
      (isQuorum.length.trans (Nat.min_eq_left enough))
    exact ⟨⟨sifted.available, sifted.valid.cons (m := .formed quorum) valid⟩, valid⟩
  · rintro quorum node rest partials q r ⟨sifted, valid⟩ outcome
    cases outcome with
    | noLambda | unsigned => exact sifted.valid
    | unreadable x | rotated x | unprinted x => exact (x.sifted sifted valid).valid
    | failed x => exact ((x.sifted sifted valid).addFault _).drop node.index
    | diverged x epoch => exact (((x.sifted sifted valid).vote epoch).addFault _).drop node.index
    | contributed x => exact ⟨x.sifted sifted valid, valid⟩

/-- If all subsets of the nodes are valid, then so are those of a run. -/
theorem decrypt_subsetsValid
    (all : task.threshold ≤ task.nodes.length → AllSubsetsValid task.nodes task.threshold)
    (world : ω) : SubsetsValid (decrypt c task world).log := by
  refine decrypt_rule (P := fun run => SubsetsValid run.log) (C := fun _ _ => True)
    (D := fun s => s.active.Sublist task.nodes) ?_ ?_ ?_ ?_
  · exact Flow.Meets.imp (fun _ _ => trivial) (fun _ sound => sound.sublist)
      (probe_sound c task.nodes world)
  · rintro - - -
    exact fun _ inside => by cases inside
  · rintro - - -
    exact fun _ inside => by cases inside
  · intro s sublist enough
    exact quorumLoop_rule (I := Sifted task) (round_sifted (all (enough.trans sublist.length_le)))
      ⟨sublist, fun _ inside => by cases inside⟩

end

/-! ## Nodes of which some are a bad subset -/

/-- A part of a list is part of a longer one. -/
theorem exists_extension {α : Type*} {front l : List α} (part : front.Subperm l) {size : ℕ}
    (longer : front.length ≤ size) (enough : size ≤ l.length) :
    ∃ rest, (front ++ rest).Subperm l ∧ (front ++ rest).length = size := by
  obtain ⟨front', same, sublist⟩ := part
  obtain ⟨rest, whole⟩ := sublist.exists_perm_append
  have lengths := whole.length_eq
  rw [List.length_append, same.length_eq] at lengths
  refine ⟨rest.take (size - front.length), ?_, ?_⟩
  · have taken : (front' ++ rest.take (size - front.length)).Sublist (front' ++ rest) :=
      (List.take_sublist _ _).append_left _
    exact ((same.symm.append_right _).subperm.trans taken.subperm).trans whole.symm.subperm
  · rw [List.length_append, List.length_take]
    omega

/-- Two nodes of a list that is not distinct have one index. -/
theorem exists_repeated {nodes : List CommitteeNode} (repeated : ¬ Distinct nodes) :
    ∃ a b, [a, b].Sublist nodes ∧ a.index = b.index := by
  by_contra none_
  refine repeated (List.pairwise_map.mpr (List.pairwise_iff_forall_sublist.mpr ?_))
  intro a b sublist same
  exact none_ ⟨a, b, sublist, same⟩

/-- Of nodes that are enough, any `threshold` have good points exactly if no index is zero and, from
two on, none is repeated. -/
theorem allSubsetsValid_iff {nodes : List CommitteeNode} {threshold : ℕ} (positive : 1 ≤ threshold)
    (enough : threshold ≤ nodes.length) : AllSubsetsValid nodes threshold ↔
      (∀ n ∈ nodes, n.index ≠ 0) ∧ (threshold = 1 ∨ Distinct nodes) := by
  constructor
  · intro all
    refine ⟨fun n listed zero => ?_, ?_⟩
    · obtain ⟨rest, part, length⟩ := exists_extension
        (List.singleton_sublist.mpr listed).subperm positive enough
      exact (all _ part length).nonzero (by simp [zero])
    · by_contra bad
      obtain ⟨several, repeated⟩ := not_or.mp bad
      obtain ⟨a, b, sublist, same⟩ := exists_repeated repeated
      have two : [a, b].length ≤ threshold := by
        show 2 ≤ threshold
        omega
      obtain ⟨rest, part, length⟩ := exists_extension sublist.subperm two enough
      have distinct := (all _ part length).distinct
      simp [same] at distinct
  · rintro ⟨nonzero, alone⟩ quorum part length
    refine ⟨?_, ?_, ?_⟩
    · rw [ne_eq, List.map_eq_nil_iff, ← List.length_eq_zero_iff]
      omega
    · intro zero
      obtain ⟨n, listed, same⟩ := List.mem_map.mp zero
      exact nonzero n (part.subset listed) same
    · rcases alone with one | distinct
      · obtain ⟨n, rfl⟩ := List.length_eq_one_iff.mp (length.trans one)
        exact List.nodup_singleton _
      · obtain ⟨quorum', same, sublist⟩ := part
        exact (same.map _).nodup_iff.mp (distinct.sublist (sublist.map _))

/-! ## A world that forms a given quorum -/

/-- A random source that draws `quorum` where it may. -/
def drawing (quorum : List CommitteeNode) : Sampler ω where
  chooseMultiple available amount w :=
    (if quorum.Subperm available ∧ quorum.length = min amount available.length then quorum
      else available.take amount, w)
  subperm available amount w := by
    show List.Subperm (if _ then _ else _) _
    split
    · rename_i drawn
      exact drawn.1
    · exact (available.take_sublist amount).subperm
  length available amount w := by
    show List.length (if _ then _ else _) = _
    split
    · rename_i drawn
      exact drawn.2
    · exact List.length_take

namespace Rust

/-- An answer whose partial is not hex. -/
def garbledAnswer : PartialDecryptResponse :=
  { partialHex := "zz", proof := "0x07", servedEpoch := 5 }

theorem readAnswer_garbled : ∃ e, readAnswer hexCrate 5 (.ok garbledAnswer) = .error e := ⟨_, rfl⟩

/-- All nodes well, `quorum` drawn, and the first answer garbled. -/
def drawingDeps (quorum : List CommitteeNode) : Deps Unit :=
  { scriptedDeps (fun _ => .ok activeHealth) (fun _ => .ok garbledAnswer) with
    sampler := drawing quorum }

def requestOf (nodes : List CommitteeNode) (threshold : ℕ) : DecryptRequest :=
  { pairRequest 0 with nodes, threshold }

section

variable {nodes quorum : List CommitteeNode} {threshold : ℕ}

theorem probe_active (req : DecryptRequest) :
    (forEach (probeNode (client (drawingDeps quorum) req)) req.nodes ⟨(), [], [], []⟩).Meets
      (fun _ => False) fun s => s.active = req.nodes := by
  have rule := forEach_rule (f := probeNode (client (drawingDeps quorum) req)) (Q := fun _ => False)
    (I := fun rest s => s.active ++ rest = req.nodes)
    (fun node rest s split => by
      show (s.active ++ [node]) ++ rest = req.nodes
      rw [List.append_assoc]
      exact split)
    req.nodes ⟨(), [], [], []⟩ rfl
  exact rule.imp (fun _ never => never) fun s split => by simpa using split

/-- The first node of a quorum is sent the subset of the quorum, and its answer ends the run. -/
theorem ask_garbled (quorum : List CommitteeNode) (req : DecryptRequest) (epoch : req.epoch = 5)
    (subset : List ℕ) (node : CommitteeNode)
    (s : List PartialInput × Progress Unit String PartialDecryptResponse ℕ) :
    ∃ e lambda, ask (client (drawingDeps quorum) req) req.task subset node s =
      .done (.abort e, s.2.exchanged (req.task.context subset node.index) willingAuth node
        (req.task.request subset lambda willingAuth) (.ok garbledAnswer) s.2.world) := by
  obtain ⟨e, unread⟩ := readAnswer_garbled
  have read : (client (drawingDeps quorum) req).readAnswer (.ok garbledAnswer) = .error e := by
    show readAnswer hexCrate req.epoch (.ok garbledAnswer) = .error e
    rw [epoch, unread]
  refine ⟨e, [UInt8.ofNat (node.index + subset.length)], ?_⟩
  show receive _ _ _ (Except.ok garbledAnswer) _ _ = _
  rw [receive, read]
  rfl

theorem drawing_chosen (part : quorum.Subperm nodes) (length : quorum.length = threshold) :
    chooseQuorum (drawing quorum) nodes threshold () =
      (quorum.insertionSort fun a b => a.index ≤ b.index, ()) := by
  have drawn : quorum.Subperm nodes ∧ quorum.length = min threshold nodes.length :=
    ⟨part, length.trans (Nat.min_eq_left (length ▸ part.length_le)).symm⟩
  unfold chooseQuorum drawing
  simp only [if_pos drawn]

/-- The first round forms the quorum and stops. -/
theorem round_garbled (part : quorum.Subperm nodes) (length : quorum.length = threshold)
    (positive : 1 ≤ threshold) (p : Progress Unit String PartialDecryptResponse ℕ)
    (available : p.available = nodes) :
    ∃ e p', round (client (drawingDeps quorum) (requestOf nodes threshold))
        (requestOf nodes threshold).task p = .done (.stopped e, p') ∧
      .formed (quorum.insertionSort fun a b => a.index ≤ b.index) ∈ p'.log := by
  have enough : threshold ≤ nodes.length := length ▸ part.length_le
  have same : (quorum.insertionSort fun a b => a.index ≤ b.index).Perm quorum :=
    List.perm_insertionSort _ _
  have drawn : chooseQuorum (client (drawingDeps quorum) (requestOf nodes threshold)).sampler
      p.available (requestOf nodes threshold).task.threshold p.world =
        (quorum.insertionSort fun a b => a.index ≤ b.index, ()) := by
    rw [available]
    exact drawing_chosen part length
  have many : ¬ p.available.length < (requestOf nodes threshold).task.threshold := by
    rw [available]
    exact Nat.not_lt.mpr enough
  unfold round
  rw [if_neg many, drawn]
  dsimp only
  cases chosen : quorum.insertionSort fun a b => a.index ≤ b.index with
  | nil =>
    rw [chosen] at same
    have nothing := same.length_eq
    rw [List.length_nil] at nothing
    omega
  | cons node rest =>
    obtain ⟨e, lambda, asked⟩ := ask_garbled quorum (requestOf nodes threshold) rfl
      ((node :: rest).map (·.index)) node ([], p.formed (node :: rest) ())
    rw [forEach, asked]
    refine ⟨e, _, rfl, ?_⟩
    show _ ∈ Message.asked .. :: Message.authorized .. :: Message.formed (node :: rest) :: p.log
    simp

theorem drawing_formed (part : quorum.Subperm nodes) (length : quorum.length = threshold)
    (positive : 1 ≤ threshold) :
    ∃ formed, formed.Perm quorum ∧
      .formed formed ∈ (decrypt (drawingDeps quorum) (requestOf nodes threshold) ()).log := by
  have enough : threshold ≤ nodes.length := length ▸ part.length_le
  refine ⟨_, List.perm_insertionSort (fun a b => a.index ≤ b.index) quorum, ?_⟩
  refine decrypt_rule (P := fun run => Message.formed _ ∈ run.log) (C := fun _ _ => False)
    (D := fun s => s.active = nodes) (probe_active (requestOf nodes threshold)) ?_ ?_ ?_
  · exact fun _ _ never => absurd never id
  · intro s active few
    rw [active] at few
    exact absurd few (Nat.not_lt.mpr enough)
  · intro s active _
    obtain ⟨e, p', stopped, logged⟩ := round_garbled part length positive s.start active
    show _ ∈ (quorumLoop _ _ s).2.log
    rw [quorumLoop, run_unfold, stopped]
    exact logged

end

/-- The subsets of `decrypt` are valid in every world exactly if there are too few nodes for one, or
no index is zero and, from a threshold of two on, none is repeated. -/
theorem decrypt_subsets_iff (nodes : List CommitteeNode) (threshold : ℕ) (positive : 1 ≤ threshold) :
    (∀ (ω : Type) (deps : Deps ω) (req : DecryptRequest) (world : ω), req.nodes = nodes →
        req.threshold = threshold → SubsetsValid (decrypt deps req world).log) ↔
      nodes.length < threshold ∨
        (∀ n ∈ nodes, n.index ≠ 0) ∧ (threshold = 1 ∨ Distinct nodes) := by
  constructor
  · intro valid
    by_cases few : nodes.length < threshold
    · exact .inl few
    · refine .inr ((allSubsetsValid_iff positive (Nat.not_lt.mp few)).mp fun quorum part length => ?_)
      obtain ⟨formed, same, logged⟩ := drawing_formed part length positive
      exact (valid Unit (drawingDeps quorum) (requestOf nodes threshold) () rfl rfl _ logged).perm
        (same.map _)
  · rintro safe ω deps req world rfl rfl
    refine decrypt_subsetsValid (fun enough => ?_) world
    exact (allSubsetsValid_iff positive enough).mpr (safe.resolve_left (Nat.not_lt.mpr enough))

theorem decrypt_subsets_pair : 1 ≤ 2 ∧
    ((∀ (ω : Type) (deps : Deps ω) (req : DecryptRequest) (world : ω),
        req.nodes = [member 1, member 2] → req.threshold = 2 →
          SubsetsValid (decrypt deps req world).log) ↔
      [member 1, member 2].length < 2 ∨
        (∀ n ∈ [member 1, member 2], n.index ≠ 0) ∧ (2 = 1 ∨ Distinct [member 1, member 2])) :=
  ⟨by decide, decrypt_subsets_iff [member 1, member 2] 2 (by decide)⟩

/-- Two nodes of one index are asked for partials over a subset that repeats it. -/
theorem repeatedIndex_signed : ¬ ∀ (nodes : List CommitteeNode) (threshold : ℕ), 1 ≤ threshold →
    ∀ (ω : Type) (deps : Deps ω) (req : DecryptRequest) (world : ω), req.nodes = nodes →
      req.threshold = threshold → SubsetsValid (decrypt deps req world).log := by
  intro valid
  obtain ⟨formed, same, logged⟩ := drawing_formed (List.Subperm.refl [member 1, member 1])
    (show [member 1, member 1].length = 2 from rfl) (by decide)
  have points := valid _ 2 (by decide) Unit _ (requestOf [member 1, member 1] 2) () rfl rfl _ logged
  exact absurd (points.perm (same.map _)).distinct (by decide)

end Rust

end MatterSdk
