import MatterSdk.Chain.CommitteeAt

/-!
# Three readers of one committee

Each client's result is the join of what it makes of the chain's answers.  So the clients agree where
they make the same of those answers that matter: the endpoints of the members, and the commitments of
those that can be asked.
-/

namespace MatterSdk

/-- What a client makes of the answers: `shared_a`, whether all rows of the registry can be read,
the endpoint and the commitment of an account, and the threshold. -/
structure View where
  sharedA : Option Bytes
  legible : Prop
  endpoint : AccountId → Option Bytes
  commitment : AccountId → Option Bytes
  threshold : ℤ

namespace View

/-- The seat of a member that can be asked. -/
def node (v : View) (member : AccountId × ℕ) : Option Seat :=
  (v.endpoint member.1).map fun endpoint =>
    ⟨member.2, endpoint, (v.commitment member.1).getD []⟩

def nodes (v : View) (committee : List (AccountId × ℕ)) : List Seat := committee.filterMap v.node

/-- The answers make a committee: there is an output and a member, each member that can be asked has
a commitment, and they are enough. -/
structure Seated (v : View) (committee : List (AccountId × ℕ)) : Prop where
  output : v.sharedA ≠ none
  legible : v.legible
  nonempty : committee ≠ []
  committed : ∀ member ∈ committee, v.endpoint member.1 ≠ none → v.commitment member.1 ≠ none
  enough : v.threshold ≤ (v.nodes committee).length

/-- The committee that is returned, with its seats in some order. -/
def result (v : View) (sort : List Seat → List Seat) (committee : List (AccountId × ℕ)) : Committee :=
  ⟨v.threshold, v.sharedA.getD [], sort (v.nodes committee)⟩

/-- The clients' loop over the members is the join. -/
theorem seatAll_eq_ok_iff {ε : Type} (v : View) {endpoint : AccountId → Option Bytes}
    {commitment : AccountId → ℕ → Except ε Bytes} {committee : List (AccountId × ℕ)}
    (endpoint_eq : ∀ member ∈ committee, endpoint member.1 = v.endpoint member.1)
    (commitment_eq : ∀ member ∈ committee,
      (commitment member.1 member.2).toOption = v.commitment member.1) (nodes : List Seat) :
    seatAll endpoint commitment committee = .ok nodes ↔
      (∀ member ∈ committee, v.endpoint member.1 ≠ none → v.commitment member.1 ≠ none) ∧
        nodes = v.nodes committee := by
  induction committee generalizing nodes with
  | nil => simp [seatAll, View.nodes, eq_comm]
  | cons member rest ih =>
    obtain ⟨id, index⟩ := member
    have ih := ih (fun m listed => endpoint_eq m (List.mem_cons_of_mem _ listed))
      (fun m listed => commitment_eq m (List.mem_cons_of_mem _ listed))
    have endpoint_eq := endpoint_eq (id, index) (List.mem_cons_self ..)
    have commitment_eq := commitment_eq (id, index) (List.mem_cons_self ..)
    simp only at endpoint_eq commitment_eq
    rw [List.forall_mem_cons, seatAll, endpoint_eq]
    cases reached : v.endpoint id with
    | none =>
      simp only [ih]
      simp [View.nodes, View.node, reached]
    | some endpoint_ =>
      cases committed : commitment id index with
      | error e =>
        rw [committed] at commitment_eq
        have absent : v.commitment id = none := commitment_eq.symm
        simp [absent]
      | ok shareCommitment =>
        rw [committed] at commitment_eq
        have present : v.commitment id = some shareCommitment := commitment_eq.symm
        have node : v.node (id, index) = some ⟨index, endpoint_, shareCommitment⟩ := by
          simp [View.node, reached, present]
        cases others : seatAll endpoint commitment rest with
        | error e =>
          have never : ¬ ∀ member ∈ rest,
              v.endpoint member.1 ≠ none → v.commitment member.1 ≠ none := by
            intro all
            rw [(ih _).mpr ⟨all, rfl⟩] at others
            cases others
          exact iff_of_false (by simp [Except.map]) fun h => never h.1.2
        | ok seats =>
          obtain ⟨all, rfl⟩ := (ih seats).mp others
          have nodes_eq : v.nodes ((id, index) :: rest) =
              ⟨index, endpoint_, shareCommitment⟩ :: v.nodes rest := by simp [View.nodes, node]
          rw [nodes_eq]
          constructor
          · intro same
            exact ⟨⟨by simp [present], all⟩, (Except.ok.inj same).symm⟩
          · rintro ⟨-, rfl⟩
            rfl

/-- A client that fails where the join does or its seats are too few, and else returns them. -/
theorem concluded_iff {ε : Type} (v : View) {committee : List (AccountId × ℕ)}
    {sort : List Seat → List Seat} {joined : Except ε (List Seat)} {result : Except ε Committee}
    {sharedA : Bytes} (output : v.sharedA = some sharedA) (legible : v.legible)
    (nonempty : committee ≠ [])
    (seats : ∀ nodes, joined = .ok nodes ↔
      (∀ member ∈ committee, v.endpoint member.1 ≠ none → v.commitment member.1 ≠ none) ∧
        nodes = v.nodes committee)
    (failed : ∀ e, joined = .error e → ∀ c, result ≠ .ok c)
    (few : ∀ nodes, joined = .ok nodes → (nodes.length : ℤ) < v.threshold → ∀ c, result ≠ .ok c)
    (enough : ∀ nodes, joined = .ok nodes → v.threshold ≤ nodes.length →
      result = .ok ⟨v.threshold, sharedA, sort nodes⟩) (r : Committee) :
    result = .ok r ↔ v.Seated committee ∧ r = v.result sort committee := by
  cases outcome : joined with
  | error e =>
    refine iff_of_false (failed e outcome r) fun h => ?_
    rw [(seats _).mpr ⟨h.1.committed, rfl⟩] at outcome
    cases outcome
  | ok nodes =>
    obtain ⟨committed, rfl⟩ := (seats nodes).mp outcome
    by_cases short : ((v.nodes committee).length : ℤ) < v.threshold
    · refine iff_of_false (few _ outcome short r) fun h => ?_
      have := h.1.enough
      omega
    · have seated : v.Seated committee :=
        ⟨by simp [output], legible, nonempty, committed, not_lt.mp short⟩
      rw [enough _ outcome (not_lt.mp short), Except.ok.injEq, eq_comm, View.result, output]
      exact (and_iff_right seated).symm

end View

/-! ## What each client makes of the answers -/

namespace Rust

def view (a : ChainAnswers) : View where
  sharedA := a.dkgOutput.map (·.2)
  legible := True
  endpoint id := (lookupIn a.registry id).bind parseEndpoint
  commitment := a.shareCommitment
  threshold := a.threshold.toNat

theorem lookupIn_filterMap (answer : AccountId → Option Bytes) (id : AccountId)
    (committee : List (AccountId × ℕ)) :
    lookupIn (committee.filterMap fun member => (answer member.1).map (member.1, ·)) id =
      if id ∈ committee.map (·.1) then answer id else none := by
  induction committee with
  | nil => rfl
  | cons first rest ih =>
    rw [List.filterMap_cons]
    by_cases same : first.1 = id
    · subst same
      cases committed : answer first.1 with
      | none =>
        rw [committed] at ih
        simp only [Option.map_none, ih]
        simp
      | some shareCommitment => simp [lookupIn]
    · have other : id ∈ (first :: rest).map (·.1) ↔ id ∈ rest.map (·.1) := by
        simp [Ne.symm same]
      cases answer first.1 with
      | none => simp only [Option.map_none, ih, other]
      | some shareCommitment =>
        simp only [Option.map_some, other, ← ih]
        simp [lookupIn, same]

theorem lookupIn_commitments {a : ChainAnswers} {member : AccountId × ℕ}
    (seated : member ∈ a.committee) :
    lookupIn (commitments a) member.1 = a.shareCommitment member.1 := by
  unfold commitments
  rw [lookupIn_filterMap]
  exact if_pos (List.mem_map_of_mem seated)

theorem commitment_eq {a : ChainAnswers} (epoch : BitVec 32) :
    ∀ member ∈ a.committee,
      (commitmentIn (commitments a) epoch member.1 member.2).toOption = a.shareCommitment member.1 := by
  intro member seated
  unfold commitmentIn
  rw [lookupIn_commitments seated]
  cases a.shareCommitment member.1 <;> rfl

theorem committeeInfo_eq_ok_iff (a : ChainAnswers) (epoch : BitVec 32) (r : Committee) :
    committeeInfo a epoch = .ok r ↔
      (view a).Seated a.committee ∧ r = (view a).result sortByIndex a.committee := by
  unfold committeeInfo
  cases output : a.dkgOutput with
  | none =>
    refine iff_of_false (by simp) fun h => h.1.output ?_
    simp [view, output]
  | some pair =>
    obtain ⟨jointPk, sharedA⟩ := pair
    by_cases empty : a.committee = []
    · exact iff_of_false (by simp [empty]) fun h => h.1.nonempty empty
    · have seats := @View.seatAll_eq_ok_iff _ (view a)
        (fun id => (lookupIn a.registry id).bind parseEndpoint) _ a.committee (fun _ _ => rfl)
        (commitment_eq epoch)
      have shared : (view a).sharedA = some sharedA := by simp [view, output]
      refine (view a).concluded_iff shared trivial empty seats
        (fun e failed => by simp [empty, assembleNodes, failed, Except.map])
        (fun nodes joined few => ?_) (fun nodes joined enough => ?_) r
      · have few : nodes.length < a.threshold.toNat := by simpa [view] using few
        simp only [if_neg empty, assembleNodes, joined, Except.map, sortByIndex,
          List.length_mergeSort, if_pos few]
        simp
      · have enough : ¬ nodes.length < a.threshold.toNat := by simpa [view] using enough
        simp only [if_neg empty, assembleNodes, joined, Except.map, sortByIndex,
          List.length_mergeSort, if_neg enough]
        rfl

end Rust

namespace Go

def view (keepsEmpty : Bool) (a : ChainAnswers) : View where
  sharedA := a.dkgOutput.map (·.2)
  legible := True
  endpoint id := absoluteHTTPEndpoint (endpointIn a.registry id)
  commitment id := decodeOptionBytes keepsEmpty (a.shareCommitment id)
  threshold := a.threshold.toInt

theorem commitment_eq (keepsEmpty : Bool) (a : ChainAnswers) (epoch : BitVec 32) :
    ∀ member ∈ a.committee, (commitmentOf keepsEmpty a epoch member.1 member.2).toOption =
      (view keepsEmpty a).commitment member.1 := by
  intro member _
  simp only [commitmentOf, view]
  cases decodeOptionBytes keepsEmpty (a.shareCommitment member.1) <;> rfl

theorem committeeAt_eq_ok_iff (keepsEmpty : Bool) (indexSort : IndexSort) (a : ChainAnswers)
    (epoch : BitVec 32) (r : Committee) :
    committeeAt keepsEmpty indexSort a epoch = .ok r ↔ (view keepsEmpty a).Seated a.committee ∧
      r = (view keepsEmpty a).result indexSort.sort a.committee := by
  unfold committeeAt
  cases output : a.dkgOutput with
  | none =>
    refine iff_of_false (by simp) fun h => h.1.output ?_
    simp [view, output]
  | some pair =>
    obtain ⟨jointPk, sharedA⟩ := pair
    by_cases empty : a.committee = []
    · exact iff_of_false (by simp [assembleCommittee, empty]) fun h => h.1.nonempty empty
    · have seats := @View.seatAll_eq_ok_iff _ (view keepsEmpty a)
        (fun id => absoluteHTTPEndpoint (endpointIn a.registry id)) _ a.committee (fun _ _ => rfl)
        (commitment_eq keepsEmpty a epoch)
      have shared : (view keepsEmpty a).sharedA = some sharedA := by simp [view, output]
      refine (view keepsEmpty a).concluded_iff shared trivial empty seats
        (fun e failed => by simp [assembleCommittee, empty, failed])
        (fun nodes joined few => ?_) (fun nodes joined enough => ?_) r
      · have few : (nodes.length : ℤ) < a.threshold.toInt := few
        simp only [assembleCommittee, if_neg empty, joined, if_pos few]
        simp
      · have enough : ¬ (nodes.length : ℤ) < a.threshold.toInt := not_lt.mpr enough
        simp only [assembleCommittee, if_neg empty, joined, if_neg enough]
        rfl

end Go

namespace Python

/-- The endpoint that a row of the registry gives, if the row can be read. -/
def reading (raw : Bytes) : Option Bytes := (absoluteHttpEndpoint raw).toOption.join

def view (a : ChainAnswers) : View where
  sharedA := a.dkgOutput.bind fun output => bytesField (renderedBytes output.2)
  legible := ∀ row ∈ a.registry, bytesField (renderedBytes row.2) ≠ none
  endpoint id := (a.registry.reverse.find? (·.1 = id)).bind fun row => reading row.2
  commitment id := (a.shareCommitment id).bind fun b =>
    if b = [] then none else bytesField (renderedBytes b)
  threshold := a.threshold.toNat

theorem absoluteHttpEndpoint_cases (raw : Bytes) :
    bytesField (renderedBytes raw) = none ∧ absoluteHttpEndpoint raw = .error .valueError ∨
      bytesField (renderedBytes raw) ≠ none ∧ absoluteHttpEndpoint raw = .ok (reading raw) := by
  unfold reading absoluteHttpEndpoint
  cases bytesField (renderedBytes raw) with
  | none => exact .inl ⟨rfl, rfl⟩
  | some bytes =>
    refine .inr ⟨by simp, ?_⟩
    simp only
    cases Utf8.decode bytes <;> rfl

theorem endpoints_eq_ok {registry : List (AccountId × Bytes)}
    (legible : ∀ row ∈ registry, bytesField (renderedBytes row.2) ≠ none) :
    endpoints registry = .ok (registry.map fun row => (row.1, reading row.2)) := by
  unfold endpoints
  induction registry with
  | nil => rfl
  | cons row rest ih =>
    have first := legible row (List.mem_cons_self ..)
    have ih := ih fun r listed => legible r (List.mem_cons_of_mem _ listed)
    rcases absoluteHttpEndpoint_cases row.2 with ⟨unread, -⟩ | ⟨-, read⟩
    · exact absurd unread first
    · rw [List.mapM_cons, read, ih]
      rfl

theorem endpoints_eq_error {registry : List (AccountId × Bytes)}
    (illegible : ¬ ∀ row ∈ registry, bytesField (renderedBytes row.2) ≠ none) :
    endpoints registry = .error .valueError := by
  unfold endpoints
  induction registry with
  | nil => exact absurd (by simp) illegible
  | cons row rest ih =>
    rw [List.mapM_cons]
    rcases absoluteHttpEndpoint_cases row.2 with ⟨-, failed⟩ | ⟨present, read⟩
    · rw [failed]
      rfl
    · have later : ¬ ∀ row ∈ rest, bytesField (renderedBytes row.2) ≠ none := fun all =>
        illegible (List.forall_mem_cons.mpr ⟨present, all⟩)
      rw [read, ih later]
      rfl

theorem endpointIn_eq (a : ChainAnswers) (id : AccountId) :
    endpointIn (a.registry.map fun row => (row.1, reading row.2)) id = (view a).endpoint id := by
  simp only [endpointIn, view, ← List.map_reverse, List.find?_map, Function.comp_def]
  cases a.registry.reverse.find? (·.1 = id) <;> rfl

theorem commitment_eq (a : ChainAnswers) (epoch : BitVec 32) :
    ∀ member ∈ a.committee,
      (memberCommitment epoch member.2 (a.shareCommitment member.1)).toOption =
        (view a).commitment member.1 := by
  intro member _
  simp only [memberCommitment, view]
  cases a.shareCommitment member.1 with
  | none => rfl
  | some b =>
    by_cases empty : b = []
    · subst empty
      rfl
    · simp only [presentBytes, if_neg (renderedBytes_ne_empty empty), Option.bind_some, if_neg empty]
      cases bytesField (renderedBytes b) <;> rfl

theorem committeeAt_eq_ok_iff (a : ChainAnswers) (epoch : BitVec 32) (r : Committee) :
    committeeAt a epoch = .ok r ↔
      (view a).Seated a.committee ∧ r = (view a).result sortByIndex a.committee := by
  unfold committeeAt
  cases read : (view a).sharedA with
  | none =>
    have failed : ∃ e, dkgSharedA epoch a.dkgOutput = .error e := by
      cases output : a.dkgOutput with
      | none => exact ⟨_, rfl⟩
      | some pair =>
        have unread : bytesField (renderedBytes pair.2) = none := by simpa [view, output] using read
        exact ⟨.valueError, by simp [dkgSharedA, unread]⟩
    obtain ⟨e, failed⟩ := failed
    exact iff_of_false (by simp [failed]) fun h => h.1.output read
  | some sharedA =>
    have shared : dkgSharedA epoch a.dkgOutput = .ok sharedA := by
      cases output : a.dkgOutput with
      | none => simp [view, output] at read
      | some pair =>
        have present : bytesField (renderedBytes pair.2) = some sharedA := by
          simpa [view, output] using read
        simp [dkgSharedA, present]
    by_cases empty : a.committee = []
    · exact iff_of_false (by simp [shared, empty]) fun h => h.1.nonempty empty
    · simp only [shared, if_neg empty]
      by_cases legible : (view a).legible
      · have seats := @View.seatAll_eq_ok_iff _ (view a)
          (endpointIn (a.registry.map fun row => (row.1, reading row.2)))
          (fun id index => memberCommitment epoch index (a.shareCommitment id)) a.committee
          (fun member _ => endpointIn_eq a member.1) (commitment_eq a epoch)
        rw [endpoints_eq_ok legible]
        refine (view a).concluded_iff read legible empty seats
          (fun e failed => by simp [failed])
          (fun nodes joined few => ?_) (fun nodes joined enough => ?_) r
        · have few : nodes.length < a.threshold.toNat := by simpa [view] using few
          simp only [joined, sortByIndex, List.length_mergeSort, if_pos few]
          simp
        · have enough : ¬ nodes.length < a.threshold.toNat := by simpa [view] using enough
          simp only [joined, sortByIndex, List.length_mergeSort, if_neg enough]
          rfl
      · rw [endpoints_eq_error legible]
        exact iff_of_false (by simp) fun h => legible h.1.legible

end Python

end MatterSdk
