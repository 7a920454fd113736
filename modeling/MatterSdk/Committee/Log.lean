import MatterSdk.Committee.Decrypt

/-!
# Logs

What a log says of a run: the answers received, the indices dropped, the rounds begun.  A log is
`Justified` when every message in it could follow the older ones: quorums are formed of active nodes
not dropped, and a request is for a member of the last quorum formed and has just been signed.
-/

namespace MatterSdk

variable {ω τ η ρ κ ε : Type}

/-! ## Readings of a log -/

/-- The nodes asked, with their answers, in the order in which they were asked. -/
def answers : List (Message τ ρ) → List (CommitteeNode × Except τ ρ)
  | [] => []
  | .asked node _ answer :: older => answers older ++ [(node, answer)]
  | _ :: older => answers older

/-- The indices dropped, in order. -/
def dropped : List (Message τ ρ) → List ℕ
  | [] => []
  | .dropped index :: older => dropped older ++ [index]
  | _ :: older => dropped older

/-- The number of rounds that reached a quorum. -/
def rounds : List (Message τ ρ) → ℕ
  | [] => 0
  | .formed _ :: older => rounds older + 1
  | _ :: older => rounds older

/-- The last quorum formed. -/
def lastQuorum : List (Message τ ρ) → List CommitteeNode
  | [] => []
  | .formed quorum :: _ => quorum
  | _ :: older => lastQuorum older

/-- The answers received since the last quorum was formed. -/
def passAnswers : List (Message τ ρ) → List (CommitteeNode × Except τ ρ)
  | [] => []
  | .formed _ :: _ => []
  | .asked node _ answer :: older => passAnswers older ++ [(node, answer)]
  | _ :: older => passAnswers older

section Simp

variable (older : List (Message τ ρ)) (node : CommitteeNode) (request : PartialDecryptRequest)
  (answer : Except τ ρ) (context : SigningRequest) (auth : RequestAuth)
  (quorum : List CommitteeNode) (index : ℕ)

@[simp] theorem answers_nil : answers ([] : List (Message τ ρ)) = [] := rfl
@[simp] theorem answers_asked :
    answers (.asked node request answer :: older) = answers older ++ [(node, answer)] := rfl
@[simp] theorem answers_authorized :
    answers (.authorized context auth :: older) = answers older := rfl
@[simp] theorem answers_formed : answers (.formed quorum :: older) = answers older := rfl
@[simp] theorem answers_dropped : answers (.dropped index :: older) = answers older := rfl

@[simp] theorem dropped_nil : dropped ([] : List (Message τ ρ)) = [] := rfl
@[simp] theorem dropped_asked :
    dropped (.asked node request answer :: older) = dropped older := rfl
@[simp] theorem dropped_authorized :
    dropped (.authorized context auth :: older) = dropped older := rfl
@[simp] theorem dropped_formed : dropped (.formed quorum :: older) = dropped older := rfl
@[simp] theorem dropped_dropped :
    dropped (.dropped index :: older) = dropped older ++ [index] := rfl

@[simp] theorem rounds_nil : rounds ([] : List (Message τ ρ)) = 0 := rfl
@[simp] theorem rounds_asked : rounds (.asked node request answer :: older) = rounds older := rfl
@[simp] theorem rounds_authorized : rounds (.authorized context auth :: older) = rounds older := rfl
@[simp] theorem rounds_formed : rounds (.formed quorum :: older) = rounds older + 1 := rfl
@[simp] theorem rounds_dropped : rounds (.dropped index :: older) = rounds older := rfl

@[simp] theorem lastQuorum_asked :
    lastQuorum (.asked node request answer :: older) = lastQuorum older := rfl
@[simp] theorem lastQuorum_authorized :
    lastQuorum (.authorized context auth :: older) = lastQuorum older := rfl
@[simp] theorem lastQuorum_formed : lastQuorum (.formed quorum :: older) = quorum := rfl
@[simp] theorem lastQuorum_dropped :
    lastQuorum (.dropped index :: older) = lastQuorum older := rfl

@[simp] theorem passAnswers_asked :
    passAnswers (.asked node request answer :: older) = passAnswers older ++ [(node, answer)] := rfl
@[simp] theorem passAnswers_authorized :
    passAnswers (.authorized context auth :: older) = passAnswers older := rfl
@[simp] theorem passAnswers_formed : passAnswers (.formed quorum :: older) = [] := rfl

end Simp

theorem mem_answers_of_mem_passAnswers {log : List (Message τ ρ)}
    {asked : CommitteeNode × Except τ ρ} (h : asked ∈ passAnswers log) : asked ∈ answers log := by
  induction log with
  | nil => exact h
  | cons m older ih =>
    cases m with
    | formed => simp [passAnswers] at h
    | authorized | dropped => exact ih h
    | asked =>
      rcases List.mem_append.1 h with h | h
      · exact List.mem_append_left _ (ih h)
      · exact List.mem_append_right _ h

/-- Who has answered since the last quorum was formed was asked after that. -/
theorem asked_of_mem_passAnswers {log : List (Message τ ρ)} {node : CommitteeNode}
    {answer : Except τ ρ} (h : (node, answer) ∈ passAnswers log) :
    ∃ newer request older, log = newer ++ .asked node request answer :: older ∧
      lastQuorum older = lastQuorum log := by
  induction log with
  | nil => simp [passAnswers] at h
  | cons m log ih =>
    have later (h : (node, answer) ∈ passAnswers log) (same : lastQuorum (m :: log) = lastQuorum log) :
        ∃ newer request older, m :: log = newer ++ .asked node request answer :: older ∧
          lastQuorum older = lastQuorum (m :: log) := by
      obtain ⟨newer, request, older, split, last⟩ := ih h
      exact ⟨m :: newer, request, older, by rw [split]; rfl, last.trans same.symm⟩
    cases m with
    | formed => simp [passAnswers] at h
    | authorized | dropped => exact later h rfl
    | asked =>
      rcases List.mem_append.1 h with h | h
      · exact later h rfl
      · cases List.mem_singleton.1 h
        exact ⟨[], _, log, rfl, rfl⟩

theorem mem_answers {log : List (Message τ ρ)} {node : CommitteeNode} {answer : Except τ ρ} :
    (node, answer) ∈ answers log ↔ ∃ request, .asked node request answer ∈ log := by
  induction log with
  | nil => simp
  | cons m older ih =>
    cases m <;> simp [ih, exists_or, or_comm]

/-- An index is dropped when a message says so. -/
theorem mem_dropped {log : List (Message τ ρ)} {index : ℕ} :
    index ∈ dropped log ↔ .dropped index ∈ log := by
  induction log with
  | nil => simp
  | cons m older ih => cases m <;> simp [ih, eq_comm, or_comm]

/-! ## Justified logs -/

/-- A quorum that may be formed after `older`. -/
structure Eligible (task : Task) (active : List CommitteeNode) (older : List (Message τ ρ))
    (quorum : List CommitteeNode) : Prop where
  length : quorum.length = task.threshold
  ascending : (quorum.map (·.index)).Pairwise (· < ·)
  active : ∀ n ∈ quorum, n ∈ active
  undropped : ∀ n ∈ quorum, n.index ∉ dropped older

theorem Eligible.of_dropped {task : Task} {active quorum : List CommitteeNode}
    {older older' : List (Message τ ρ)} (h : Eligible task active older quorum)
    (same : dropped older' = dropped older) : Eligible task active older' quorum :=
  ⟨h.length, h.ascending, h.active, by rw [same]; exact h.undropped⟩

/-- A request that may be sent to `node` after `older`: signed by the call just made for it, and sent
from the world which that call left. -/
structure Signed (c : Client ω τ η ρ κ ε) (task : Task) (older : List (Message τ ρ))
    (node : CommitteeNode) (request : PartialDecryptRequest) (answer : Except τ ρ) : Prop where
  mem : node ∈ lastQuorum older
  sent : ∃ lambda auth before signed after rest,
    c.lagrangeFor node.index ((lastQuorum older).map (·.index)) = .ok lambda ∧
    c.signer.authorize (task.context ((lastQuorum older).map (·.index)) node.index) before =
      (.ok auth, signed) ∧
    request = task.request ((lastQuorum older).map (·.index)) lambda auth ∧
    c.transport.partialDecrypt node.endpoint request signed = (answer, after) ∧
    older = .authorized (task.context ((lastQuorum older).map (·.index)) node.index) auth :: rest

/-- Every message is one that could follow the older ones. -/
def Justified (c : Client ω τ η ρ κ ε) (task : Task) (active : List CommitteeNode) :
    List (Message τ ρ) → Prop
  | [] => True
  | .formed quorum :: older => Eligible task active older quorum ∧ Justified c task active older
  | .asked node request answer :: older =>
    Signed c task older node request answer ∧ Eligible task active older (lastQuorum older) ∧
      Justified c task active older
  | _ :: older => Justified c task active older

/-- A justified log is justified at every message. -/
theorem Justified.suffix {c : Client ω τ η ρ κ ε} {task : Task} {active : List CommitteeNode}
    {older : List (Message τ ρ)} :
    ∀ {newer : List (Message τ ρ)}, Justified c task active (newer ++ older) →
      Justified c task active older
  | [], h => h
  | .formed _ :: _, h => Justified.suffix h.2
  | .asked .. :: _, h => Justified.suffix h.2.2
  | .authorized .. :: _, h => Justified.suffix (by simpa [Justified] using h)
  | .dropped _ :: _, h => Justified.suffix (by simpa [Justified] using h)

/-- A request in a justified log, with what was logged before it. -/
theorem Justified.asked {c : Client ω τ η ρ κ ε} {task : Task} {active : List CommitteeNode}
    {newer older : List (Message τ ρ)} {node : CommitteeNode} {request : PartialDecryptRequest}
    {answer : Except τ ρ}
    (h : Justified c task active (newer ++ .asked node request answer :: older)) :
    Signed c task older node request answer ∧ Eligible task active older (lastQuorum older) := by
  obtain ⟨signed, eligible, -⟩ := h.suffix
  exact ⟨signed, eligible⟩

/-- The subset of a request is the last quorum formed. -/
theorem Signed.subset {c : Client ω τ η ρ κ ε} {task : Task} {older : List (Message τ ρ)}
    {node : CommitteeNode} {request : PartialDecryptRequest} {answer : Except τ ρ}
    (h : Signed c task older node request answer) :
    request.subset = (lastQuorum older).map (·.index) := by
  obtain ⟨lambda, auth, before, signed, after, rest, -, -, rfl, -⟩ := h.sent
  rfl

theorem Signed.authorized {c : Client ω τ η ρ κ ε} {task : Task} {older : List (Message τ ρ)}
    {node : CommitteeNode} {request : PartialDecryptRequest} {answer : Except τ ρ}
    (h : Signed c task older node request answer) :
    ∃ auth rest, older = .authorized (task.context request.subset node.index) auth :: rest := by
  rw [h.subset]
  obtain ⟨lambda, auth, before, signed, after, rest, -, -, -, -, last⟩ := h.sent
  exact ⟨auth, rest, last⟩

end MatterSdk
