import Mathlib.Data.List.Pairwise
import MatterSdk.Chain.CommitteeRows

/-!
# When the three readers agree

Go sorts the seats by index with a sort that may change the order of equal indices.  So the readers
agree, whatever that sort does, when they make the same seats and no index has two different ones.
-/

namespace MatterSdk

open Go (IndexSort)

/-! ## Sorts by index -/

/-- A sort by index that puts some seats before others of the same index. -/
def sortFirst (first : Seat → Bool) : IndexSort where
  sort nodes := nodes.mergeSort fun a b =>
    2 * a.index + (if first a then 0 else 1) ≤ 2 * b.index + (if first b then 0 else 1)
  perm nodes := List.mergeSort_perm nodes _
  sorted nodes := by
    refine (List.pairwise_mergeSort ?_ ?_ nodes).imp fun {a b} before => ?_
    · simp only [decide_eq_true_eq]
      omega
    · simp only [Bool.or_eq_true, decide_eq_true_eq]
      omega
    · simp only [decide_eq_true_eq] at before
      split at before <;> split at before <;> omega

theorem sortFirst_sorted (first : Seat → Bool) (nodes : List Seat) :
    ((sortFirst first).sort nodes).Pairwise fun a b =>
      a.index = b.index → first b = true → first a = true := by
  refine (List.pairwise_mergeSort ?_ ?_ nodes).imp fun {a b} before same later => ?_
  · simp only [decide_eq_true_eq]
    omega
  · simp only [Bool.or_eq_true, decide_eq_true_eq]
    omega
  · simp only [decide_eq_true_eq, later, if_true] at before
    by_contra early
    rw [if_neg early] at before
    omega

/-- The stable sort of Rust and Python. -/
def stableSort : IndexSort where
  sort := sortByIndex
  perm nodes := List.mergeSort_perm nodes _
  sorted nodes := by
    have sorted : (sortByIndex nodes).Pairwise fun a b => decide (a.index ≤ b.index) = true :=
      List.pairwise_mergeSort (by simp only [decide_eq_true_eq]; omega)
        (by simp only [Bool.or_eq_true, decide_eq_true_eq]; omega) nodes
    simpa using sorted

/-- The same seats, none of which shares its index with a different one. -/
structure SeatsAlike (nodes nodes' : List Seat) : Prop where
  seat : ∀ a ∈ nodes, ∀ b ∈ nodes', a.index = b.index → a = b
  count : ∀ index, nodes.countP (·.index = index) = nodes'.countP (·.index = index)

namespace SeatsAlike

variable {nodes nodes' : List Seat}

theorem mem (alike : SeatsAlike nodes nodes') {a : Seat} (seated : a ∈ nodes) : a ∈ nodes' := by
  have some_index : 0 < nodes.countP (·.index = a.index) :=
    List.countP_pos_iff.mpr ⟨a, seated, decide_eq_true rfl⟩
  rw [alike.count] at some_index
  obtain ⟨b, seated', same⟩ := List.countP_pos_iff.mp some_index
  rw [alike.seat a seated b seated' (of_decide_eq_true same).symm]
  exact seated'

theorem symm (alike : SeatsAlike nodes nodes') : SeatsAlike nodes' nodes where
  seat a seated b seated' same := (alike.seat b seated' a seated same.symm).symm
  count index := (alike.count index).symm

theorem inj (alike : SeatsAlike nodes nodes') {a b : Seat} (left : a ∈ nodes) (right : b ∈ nodes)
    (same : a.index = b.index) : a = b :=
  alike.seat a left b (alike.mem right) same

theorem count_eq (alike : SeatsAlike nodes nodes') {a : Seat} (seated : a ∈ nodes) :
    nodes.count a = nodes.countP (·.index = a.index) := by
  refine List.countP_congr fun b listed => ?_
  simp only [beq_iff_eq, decide_eq_true_eq]
  exact ⟨fun same => same ▸ rfl, fun same => alike.inj listed seated same⟩

theorem perm (alike : SeatsAlike nodes nodes') : nodes.Perm nodes' := by
  refine List.perm_iff_count.mpr fun a => ?_
  by_cases seated : a ∈ nodes
  · rw [alike.count_eq seated, alike.symm.count_eq (alike.mem seated), alike.count]
  · have absent : a ∉ nodes' := fun seated' => seated (alike.symm.mem seated')
    rw [List.count_eq_zero_of_not_mem seated, List.count_eq_zero_of_not_mem absent]

theorem sort_eq (alike : SeatsAlike nodes nodes') (sort sort' : IndexSort) :
    sort.sort nodes = sort'.sort nodes' := by
  have moved : (sort.sort nodes).Perm (sort'.sort nodes') :=
    (sort.perm nodes).trans (alike.perm.trans (sort'.perm nodes').symm)
  refine moved.eq_of_pairwise (fun a b left right ab ba => ?_) (sort.sorted nodes)
    (sort'.sorted nodes')
  exact alike.seat a ((sort.perm nodes).subset left) b ((sort'.perm nodes').subset right)
    (le_antisymm ab ba)

theorem of_perm (perm : nodes.Perm nodes')
    (inj : ∀ a ∈ nodes, ∀ b ∈ nodes, a.index = b.index → a = b) : SeatsAlike nodes nodes' where
  seat a left b right := inj a left b (perm.symm.subset right)
  count _ := perm.countP_eq _

end SeatsAlike

theorem perm_of_sort_eq (sort sort' : IndexSort) {nodes nodes' : List Seat}
    (same : sort.sort nodes = sort'.sort nodes') : nodes.Perm nodes' := by
  have left := sort.perm nodes
  rw [same] at left
  exact left.symm.trans (sort'.perm nodes')

theorem pairwise_or {R : Seat → Seat → Prop} {nodes : List Seat} (sorted : nodes.Pairwise R)
    {a b : Seat} (left : a ∈ nodes) (right : b ∈ nodes) (differ : a ≠ b) : R a b ∨ R b a := by
  have symmetric : Std.Symm fun a b => R a b ∨ R b a := ⟨fun _ _ => Or.symm⟩
  exact (sorted.imp (S := fun a b => R a b ∨ R b a) fun h => .inl h).forall left right differ

/-- Where every sort by index gives the same list, an index has one seat: else a sort could put
either of two first. -/
theorem seatsAlike_of_sorts {nodes nodes' : List Seat}
    (same : ∀ sort' : IndexSort, sortByIndex nodes = sort'.sort nodes') :
    SeatsAlike nodes nodes' := by
  refine SeatsAlike.of_perm (perm_of_sort_eq stableSort stableSort (same stableSort))
    fun a left b right index => ?_
  by_contra differ
  have stable : (sortByIndex nodes).Perm nodes := List.mergeSort_perm nodes _
  have early := sortFirst_sorted (· = a) nodes'
  have late := sortFirst_sorted (· ≠ a) nodes'
  rw [← same] at early late
  rcases pairwise_or (early.and late) (stable.symm.subset left) (stable.symm.subset right) differ
    with ab | ba
  · exact of_decide_eq_true (ab.2 index (decide_eq_true (Ne.symm differ))) rfl
  · exact differ (of_decide_eq_true (ba.1 index.symm (decide_eq_true rfl))).symm

/-! ## What the readers return -/

namespace View

variable {v w : View} {committee : List (AccountId × ℕ)}

open Classical in
/-- The committee that a reader with this view returns, if any. -/
noncomputable def read (v : View) (sort : List Seat → List Seat) (committee : List (AccountId × ℕ)) :
    Option Committee :=
  if v.Seated committee then some (v.result sort committee) else none

theorem toOption_eq_read {ε : Type} {x : Except ε Committee} {sort : List Seat → List Seat}
    (spec : ∀ r, x = .ok r ↔ v.Seated committee ∧ r = v.result sort committee) :
    x.toOption = v.read sort committee := by
  by_cases seated : v.Seated committee
  · rw [(spec _).mpr ⟨seated, rfl⟩, read, if_pos seated]
    rfl
  · rw [read, if_neg seated]
    cases x with
    | error e => rfl
    | ok r => exact absurd ((spec r).mp rfl).1 seated

theorem read_eq_read_iff (sort sort' : List Seat → List Seat) :
    v.read sort committee = w.read sort' committee ↔
      (¬ v.Seated committee ∧ ¬ w.Seated committee) ∨
        (v.Seated committee ∧ w.Seated committee ∧
          v.result sort committee = w.result sort' committee) := by
  unfold read
  by_cases seated : v.Seated committee <;> by_cases seated' : w.Seated committee <;>
    simp [seated, seated']

/-- The same members of an index can be asked, at the same endpoint and with the same commitment. -/
structure MembersAlike (v w : View) (committee : List (AccountId × ℕ)) : Prop where
  endpoint : ∀ m ∈ committee, ∀ m' ∈ committee, m.2 = m'.2 →
    ∀ e ∈ v.endpoint m.1, ∀ e' ∈ w.endpoint m'.1, e = e'
  commitment : ∀ m ∈ committee, ∀ m' ∈ committee, m.2 = m'.2 →
    v.endpoint m.1 ≠ none → w.endpoint m'.1 ≠ none → v.commitment m.1 = w.commitment m'.1
  count : ∀ index, committee.countP (fun m => m.2 = index ∧ (v.endpoint m.1).isSome) =
    committee.countP fun m => m.2 = index ∧ (w.endpoint m.1).isSome

theorem mem_nodes_iff (seated : v.Seated committee) {s : Seat} :
    s ∈ v.nodes committee ↔ ∃ m ∈ committee, m.2 = s.index ∧ v.endpoint m.1 = some s.endpoint ∧
      v.commitment m.1 = some s.shareCommitment := by
  simp only [nodes, List.mem_filterMap]
  refine exists_congr fun m => and_congr_right fun listed => ?_
  cases reached : v.endpoint m.1 with
  | none => simp [node, reached]
  | some e =>
    obtain ⟨c, committed⟩ := Option.ne_none_iff_exists'.mp
      (seated.committed m listed (by simp [reached]))
    obtain ⟨index, endpoint, shareCommitment⟩ := s
    simp [node, reached, committed]

theorem countP_nodes (index : ℕ) : (v.nodes committee).countP (·.index = index) =
    committee.countP fun m => m.2 = index ∧ (v.endpoint m.1).isSome := by
  rw [nodes, List.countP_filterMap]
  refine List.countP_congr fun m _ => ?_
  cases reached : v.endpoint m.1 <;> simp [node, reached]

theorem length_nodes (v : View) (committee : List (AccountId × ℕ)) :
    (v.nodes committee).length = committee.countP fun m => (v.endpoint m.1).isSome := by
  rw [nodes, List.length_filterMap_eq_countP]
  refine List.countP_congr fun m _ => ?_
  cases reached : v.endpoint m.1 <;> simp [node, reached]

/-- Answers in which enough members can be asked and those have commitments. -/
theorem seated_of_endpoints {endpoint : AccountId → Option Bytes} (output : v.sharedA ≠ none)
    (legible : v.legible) (nonempty : committee ≠ [])
    (endpoints : ∀ m ∈ committee, v.endpoint m.1 = endpoint m.1)
    (committed : ∀ m ∈ committee, endpoint m.1 ≠ none → v.commitment m.1 ≠ none)
    (enough : v.threshold ≤ (committee.countP fun m => (endpoint m.1).isSome : ℕ)) :
    v.Seated committee where
  output := output
  legible := legible
  nonempty := nonempty
  committed m listed reached := committed m listed (by rwa [← endpoints m listed])
  enough := by
    have same : (committee.countP fun m => (v.endpoint m.1).isSome) =
        committee.countP fun m => (endpoint m.1).isSome :=
      List.countP_congr fun m listed => by rw [endpoints m listed]
    rwa [length_nodes, same]

theorem seatsAlike_nodes_iff (left : v.Seated committee) (right : w.Seated committee) :
    SeatsAlike (v.nodes committee) (w.nodes committee) ↔ MembersAlike v w committee := by
  constructor
  · intro alike
    have seat_eq {m m' : AccountId × ℕ} (listed : m ∈ committee) (listed' : m' ∈ committee)
        (same : m.2 = m'.2) {e e' : Bytes} (reached : v.endpoint m.1 = some e)
        (reached' : w.endpoint m'.1 = some e') : e = e' ∧ v.commitment m.1 = w.commitment m'.1 := by
      obtain ⟨c, committed⟩ := Option.ne_none_iff_exists'.mp
        (left.committed m listed (by simp [reached]))
      obtain ⟨c', committed'⟩ := Option.ne_none_iff_exists'.mp
        (right.committed m' listed' (by simp [reached']))
      have seat := alike.seat ⟨m.2, e, c⟩
        ((mem_nodes_iff left).mpr ⟨m, listed, rfl, reached, committed⟩)
        ⟨m'.2, e', c'⟩ ((mem_nodes_iff right).mpr ⟨m', listed', rfl, reached', committed'⟩) same
      injection seat with _ endpoint commitment
      exact ⟨endpoint, by rw [committed, committed', commitment]⟩
    refine
      { endpoint := fun m listed m' listed' same e reached e' reached' =>
          (seat_eq listed listed' same reached reached').1
        commitment := fun m listed m' listed' same reached reached' => ?_
        count := fun index => by simpa only [countP_nodes] using alike.count index }
    obtain ⟨e, reached⟩ := Option.ne_none_iff_exists'.mp reached
    obtain ⟨e', reached'⟩ := Option.ne_none_iff_exists'.mp reached'
    exact (seat_eq listed listed' same reached reached').2
  · intro alike
    refine
      { seat := fun s seated s' seated' same => ?_
        count := fun index => by simpa only [countP_nodes] using alike.count index }
    obtain ⟨m, listed, index, reached, committed⟩ := (mem_nodes_iff left).mp seated
    obtain ⟨m', listed', index', reached', committed'⟩ := (mem_nodes_iff right).mp seated'
    have shared : m.2 = m'.2 := by rw [index, index', same]
    have endpoint := alike.endpoint m listed m' listed' shared _ reached _ reached'
    have commitment := alike.commitment m listed m' listed' shared (by simp [reached])
      (by simp [reached'])
    rw [committed, committed'] at commitment
    obtain ⟨index_, e, c⟩ := s
    obtain ⟨index_', e', c'⟩ := s'
    obtain rfl : index_ = index_' := same
    obtain rfl : e = e' := endpoint
    obtain rfl : c = c' := Option.some.inj commitment
    rfl

theorem countP_pos_iff (distinct : (committee.map (·.2)).Nodup) {m : AccountId × ℕ}
    (listed : m ∈ committee) :
    0 < committee.countP (fun m' => m'.2 = m.2 ∧ (v.endpoint m'.1).isSome) ↔
      (v.endpoint m.1).isSome := by
  simp only [List.countP_pos_iff, decide_eq_true_eq]
  constructor
  · rintro ⟨m', listed', same, reached⟩
    exact List.inj_on_of_nodup_map distinct listed' listed same ▸ reached
  · intro reached
    exact ⟨m, listed, rfl, reached⟩

/-- For distinct indices, member by member. -/
theorem membersAlike_iff (distinct : (committee.map (·.2)).Nodup) :
    MembersAlike v w committee ↔ ∀ m ∈ committee, v.endpoint m.1 = w.endpoint m.1 ∧
      (v.endpoint m.1 ≠ none → v.commitment m.1 = w.commitment m.1) := by
  have same_member {m m' : AccountId × ℕ} (listed : m ∈ committee) (listed' : m' ∈ committee)
      (same : m.2 = m'.2) : m = m' := List.inj_on_of_nodup_map distinct listed listed' same
  constructor
  · intro alike m listed
    have reached_iff : (v.endpoint m.1).isSome ↔ (w.endpoint m.1).isSome := by
      rw [← countP_pos_iff distinct listed, alike.count, countP_pos_iff distinct listed]
    cases reached : v.endpoint m.1 with
    | none =>
      have absent : w.endpoint m.1 = none := by
        refine Option.not_isSome_iff_eq_none.mp fun reached' => ?_
        rw [← reached_iff, reached] at reached'
        cases reached'
      exact ⟨absent.symm, fun again => absurd rfl again⟩
    | some e =>
      rw [reached] at reached_iff
      obtain ⟨e', reached'⟩ := Option.isSome_iff_exists.mp (reached_iff.mp rfl)
      have endpoint := alike.endpoint m listed m listed rfl e reached e' reached'
      have commitment := alike.commitment m listed m listed rfl (by simp [reached])
        (by simp [reached'])
      exact ⟨by rw [reached', endpoint], fun _ => commitment⟩
  · intro same
    refine
      { endpoint := fun m listed m' listed' index e reached e' reached' => ?_
        commitment := fun m listed m' listed' index reached _ => ?_
        count := fun index => List.countP_congr fun m listed => by rw [(same m listed).1] }
    · obtain rfl := same_member listed listed' index
      rw [Option.mem_def, (same m listed).1, reached'] at reached
      exact (Option.some.inj reached).symm
    · obtain rfl := same_member listed listed' index
      exact (same m listed).2 reached

end View

/-- All three clients fail, or return the same committee. -/
def AllAgree {ε ε' ε'' : Type} (rust : Except ε Committee) (go : Except ε' Committee)
    (python : Except ε'' Committee) : Prop :=
  rust.toOption = go.toOption ∧ rust.toOption = python.toOption

section

variable (keepsEmpty : Bool) (a : ChainAnswers)

/-- No client finds a committee in the answers. -/
structure NoneSeated : Prop where
  rust : ¬ (Rust.view a).Seated a.committee
  go : ¬ (Go.view keepsEmpty a).Seated a.committee
  python : ¬ (Python.view a).Seated a.committee

/-- All find one, they read its members alike, and neither Go's `int` nor scalecodec's texts change
the threshold or `shared_a`. -/
structure ReadAlike : Prop where
  rust : (Rust.view a).Seated a.committee
  go : (Go.view keepsEmpty a).Seated a.committee
  python : (Python.view a).Seated a.committee
  threshold : a.threshold.toNat < 2 ^ 63
  sharedA : ∀ jointPk b, a.dkgOutput = some (jointPk, b) → ¬ Python.LooksHex b
  goMembers : View.MembersAlike (Rust.view a) (Go.view keepsEmpty a) a.committee
  pythonMembers : View.MembersAlike (Rust.view a) (Python.view a) a.committee

/-- The same in rows and bytes.  The members that can be asked are those with a URL in the first row
of their account.  They have a commitment that is neither empty nor a text of hex, and are enough; and
the last row of each member has the same URL, which Go and Python find there as well. -/
structure RowsAlike : Prop where
  output : a.dkgOutput ≠ none
  sharedA : ∀ jointPk b, a.dkgOutput = some (jointPk, b) → ¬ Python.LooksHex b
  threshold : a.threshold.toNat < 2 ^ 63
  nonempty : a.committee ≠ []
  readable : ∀ row ∈ a.registry, ¬ Python.Unreadable row.2
  url : ∀ m ∈ a.committee, ∀ row ∈ a.registry.reverse.find? (·.1 = m.1),
    urlIn Text.isWhiteSpace row.2 = a.urlOf m.1 ∧ ¬ Go.RawUrl row.2 ∧
      ¬ Python.Unhexed row.2 ∧ ¬ Python.Separated row.2
  commitment : ∀ m ∈ a.committee, a.urlOf m.1 ≠ none →
    ∃ b, a.shareCommitment m.1 = some b ∧ b ≠ [] ∧ ¬ Python.LooksHex b
  enough : a.threshold.toNat ≤ a.committee.countP fun m => (a.urlOf m.1).isSome

variable {keepsEmpty a}

theorem threshold_eq_iff :
    (Rust.view a).threshold = (Go.view keepsEmpty a).threshold ↔ a.threshold.toNat < 2 ^ 63 := by
  have bound := a.threshold.isLt
  simp only [Rust.view, Go.view, BitVec.toInt]
  split <;> omega

theorem sharedA_eq_iff (seated : (Python.view a).Seated a.committee) :
    (Rust.view a).sharedA.getD [] = (Python.view a).sharedA.getD [] ↔
      ∀ jointPk b, a.dkgOutput = some (jointPk, b) → ¬ Python.LooksHex b := by
  have output := seated.output
  simp only [Rust.view, Python.view] at output ⊢
  cases stored : a.dkgOutput with
  | none => simp [stored] at output
  | some pair =>
    obtain ⟨jointPk, b⟩ := pair
    simp only [stored, Option.bind_some] at output
    obtain ⟨b', present⟩ := Option.ne_none_iff_exists'.mp output
    have same := Python.bytesField_renderedBytes_iff b
    simp only [present, Option.some.injEq] at same
    simp [present, ← same, eq_comm]

/-- The last row of each member has its URL, for all clients. -/
theorem url_iff (m : AccountId × ℕ) :
    ((Go.view keepsEmpty a).endpoint m.1 = a.urlOf m.1 ∧
        (Python.view a).endpoint m.1 = a.urlOf m.1) ↔
      ∀ row ∈ a.registry.reverse.find? (·.1 = m.1),
        urlIn Text.isWhiteSpace row.2 = a.urlOf m.1 ∧ ¬ Go.RawUrl row.2 ∧
          ¬ Python.Unhexed row.2 ∧ ¬ Python.Separated row.2 := by
  rw [Go.endpoint_eq_iff, Python.endpoint_eq_iff, ← forall₂_and]
  refine forall₂_congr fun row _ => ?_
  constructor
  · rintro ⟨⟨known, same⟩, read⟩
    exact ⟨same, known, (Python.reading_eq_iff row.2).mp (read.trans same.symm)⟩
  · rintro ⟨same, known, plain⟩
    exact ⟨⟨known, same⟩, ((Python.reading_eq_iff row.2).mpr plain).trans same⟩

/-- For distinct indices the clients read alike just when the rows and bytes are alike. -/
theorem readAlike_iff (distinct : (a.committee.map (·.2)).Nodup) :
    ReadAlike keepsEmpty a ↔ RowsAlike a := by
  constructor
  · intro alike
    have go := (View.membersAlike_iff distinct).mp alike.goMembers
    have python := (View.membersAlike_iff distinct).mp alike.pythonMembers
    simp only [Rust.endpoint_eq] at go python
    refine
      { output := fun none_ => alike.rust.output (by simp [Rust.view, none_])
        sharedA := alike.sharedA
        threshold := alike.threshold
        nonempty := alike.rust.nonempty
        readable := fun row listed => (Python.legible_iff row.2).mp (alike.python.legible row listed)
        url := fun m listed =>
          (url_iff m).mp ⟨(go m listed).1.symm, (python m listed).1.symm⟩
        commitment := fun m listed reached => ?_
        enough := ?_ }
    · obtain ⟨b, stored⟩ := Option.ne_none_iff_exists'.mp
        (alike.rust.committed m listed (by rwa [Rust.endpoint_eq]))
      have read := ((python m listed).2 reached).symm.trans stored
      exact ⟨b, stored, (Python.commitment_eq_some_iff stored).mp read⟩
    · have enough := alike.rust.enough
      simp only [View.length_nodes, Rust.endpoint_eq] at enough
      exact Int.ofNat_le.mp enough
  · intro alike
    have endpoints m (listed : m ∈ a.committee) := (@url_iff keepsEmpty a m).mpr (alike.url m listed)
    have commitments m (listed : m ∈ a.committee) (reached : a.urlOf m.1 ≠ none) :
        ∃ b, (Rust.view a).commitment m.1 = some b ∧
          (Go.view keepsEmpty a).commitment m.1 = some b ∧ (Python.view a).commitment m.1 = some b := by
      obtain ⟨b, stored, some_, plain⟩ := alike.commitment m listed reached
      exact ⟨b, stored, Go.commitment_eq_some keepsEmpty stored some_,
        (Python.commitment_eq_some_iff stored).mpr ⟨some_, plain⟩⟩
    have enough := Int.ofNat_le.mpr alike.enough
    obtain ⟨⟨jointPk, sharedA⟩, output⟩ := Option.ne_none_iff_exists'.mp alike.output
    have threshold : (Rust.view a).threshold = (Go.view keepsEmpty a).threshold :=
      threshold_eq_iff.mpr alike.threshold
    have legible row (listed : row ∈ a.registry) :=
      (Python.legible_iff row.2).mpr (alike.readable row listed)
    have read := (Python.bytesField_renderedBytes_iff sharedA).mpr (alike.sharedA jointPk _ output)
    refine
      { rust := View.seated_of_endpoints (by simp [Rust.view, output]) trivial alike.nonempty
          (fun m _ => Rust.endpoint_eq a m.1) (fun m listed reached => ?_) enough
        go := View.seated_of_endpoints (by simp [Go.view, output]) trivial alike.nonempty
          (fun m listed => (endpoints m listed).1) (fun m listed reached => ?_) (threshold ▸ enough)
        python := View.seated_of_endpoints (by simp [Python.view, output, read]) legible
          alike.nonempty (fun m listed => (endpoints m listed).2) (fun m listed reached => ?_) enough
        threshold := alike.threshold
        sharedA := alike.sharedA
        goMembers := (View.membersAlike_iff distinct).mpr fun m listed =>
          ⟨(Rust.endpoint_eq a m.1).trans (endpoints m listed).1.symm, fun reached => ?_⟩
        pythonMembers := (View.membersAlike_iff distinct).mpr fun m listed =>
          ⟨(Rust.endpoint_eq a m.1).trans (endpoints m listed).2.symm, fun reached => ?_⟩ }
    · obtain ⟨b, rust, -, -⟩ := commitments m listed reached
      exact rust.trans_ne (Option.some_ne_none b)
    · obtain ⟨b, -, go, -⟩ := commitments m listed reached
      exact go.trans_ne (Option.some_ne_none b)
    · obtain ⟨b, -, -, python⟩ := commitments m listed reached
      exact python.trans_ne (Option.some_ne_none b)
    · obtain ⟨b, rust, go, -⟩ := commitments m listed (Rust.endpoint_eq a m.1 ▸ reached)
      exact rust.trans go.symm
    · obtain ⟨b, rust, -, python⟩ := commitments m listed (Rust.endpoint_eq a m.1 ▸ reached)
      exact rust.trans python.symm

/-- The three clients agree, whatever Go's sort does to equal indices, just when the answers make a
committee for none of them, or for all and they read them alike. -/
theorem all_agree_iff (keepsEmpty : Bool) (a : ChainAnswers) (epoch : BitVec 32) :
    (∀ indexSort : IndexSort, AllAgree (Rust.committeeInfo a epoch)
        (Go.committeeAt keepsEmpty indexSort a epoch) (Python.committeeAt a epoch)) ↔
      NoneSeated keepsEmpty a ∨ ReadAlike keepsEmpty a := by
  have rust := View.toOption_eq_read (Rust.committeeInfo_eq_ok_iff a epoch)
  have go indexSort := View.toOption_eq_read (Go.committeeAt_eq_ok_iff keepsEmpty indexSort a epoch)
  have python := View.toOption_eq_read (Python.committeeAt_eq_ok_iff a epoch)
  simp only [AllAgree, rust, go, python, View.read_eq_read_iff]
  constructor
  · intro agree
    obtain ⟨unseated, unseated'⟩ | ⟨seated, seated', same'⟩ := (agree stableSort).2
    · have go_unseated := (agree stableSort).1.resolve_right fun h => unseated h.1
      exact .inl ⟨unseated, go_unseated.2, unseated'⟩
    · have same indexSort := (agree indexSort).1.resolve_left fun h => h.1 seated
      simp only [View.result, Committee.mk.injEq] at same same'
      have goSeats := seatsAlike_of_sorts fun indexSort => (same indexSort).2.2.2.2
      exact .inr
        { rust := seated
          go := (same stableSort).2.1
          python := seated'
          threshold := threshold_eq_iff.mp (same stableSort).2.2.1
          sharedA := (sharedA_eq_iff seated').mp same'.2.1
          goMembers := (View.seatsAlike_nodes_iff seated (same stableSort).2.1).mp goSeats
          pythonMembers := (View.seatsAlike_nodes_iff seated seated').mp
            (SeatsAlike.of_perm (perm_of_sort_eq stableSort stableSort same'.2.2)
              fun _ left _ right => goSeats.inj left right) }
  · rintro (unseated | alike) indexSort
    · exact ⟨.inl ⟨unseated.rust, unseated.go⟩, .inl ⟨unseated.rust, unseated.python⟩⟩
    · have goSeats := (View.seatsAlike_nodes_iff alike.rust alike.go).mpr alike.goMembers
      have pythonSeats := (View.seatsAlike_nodes_iff alike.rust alike.python).mpr
        alike.pythonMembers
      refine ⟨.inr ⟨alike.rust, alike.go, ?_⟩, .inr ⟨alike.rust, alike.python, ?_⟩⟩
      · rw [View.result, View.result, threshold_eq_iff.mpr alike.threshold,
          show sortByIndex _ = _ from goSeats.sort_eq stableSort indexSort]
        rfl
      · rw [View.result, View.result, (sharedA_eq_iff alike.python).mpr alike.sharedA,
          show sortByIndex _ = _ from pythonSeats.sort_eq stableSort stableSort]
        rfl

/-- The three clients agree just when the answers make a committee for none of them, or for all and
they read them alike; for distinct indices the latter is said in rows and bytes. -/
theorem committees_agree_iff (keepsEmpty : Bool) (a : ChainAnswers) (epoch : BitVec 32) :
    ((∀ indexSort : IndexSort, AllAgree (Rust.committeeInfo a epoch)
        (Go.committeeAt keepsEmpty indexSort a epoch) (Python.committeeAt a epoch)) ↔
      NoneSeated keepsEmpty a ∨ ReadAlike keepsEmpty a) ∧
    ((a.committee.map (·.2)).Nodup → (ReadAlike keepsEmpty a ↔ RowsAlike a)) :=
  ⟨all_agree_iff keepsEmpty a epoch, readAlike_iff⟩

end

/-- A member that can be asked, and the row of an account that is no member. -/
def foreignRow : ChainAnswers where
  dkgOutput := some ([], [1])
  threshold := 1
  committee := [(List.replicate 32 1, 1)]
  registry :=
    [(List.replicate 32 1, utf8 "http://a".toList), (List.replicate 32 2, utf8 "0x!".toList)]
  shareCommitment _ := some [7]

/-- Rust returns the committee, and Python fails on the row that no member owns. -/
theorem foreignRow_disagrees : ¬ ∀ (keepsEmpty : Bool) (a : ChainAnswers) (epoch : BitVec 32)
    (indexSort : IndexSort), AllAgree (Rust.committeeInfo a epoch)
      (Go.committeeAt keepsEmpty indexSort a epoch) (Python.committeeAt a epoch) := by
  intro agree
  have agree := (agree true foreignRow 0 stableSort).2
  rw [View.toOption_eq_read (Rust.committeeInfo_eq_ok_iff _ _),
    View.toOption_eq_read (Python.committeeAt_eq_ok_iff _ _), View.read_eq_read_iff] at agree
  have parsed : Rust.parseEndpoint (utf8 "http://a".toList) = some (utf8 "http://a".toList) := by
    simp only [Rust.parseEndpoint, utf8_eq_encode, Utf8.decode_encode]
    decide
  have endpoint : (Rust.view foreignRow).endpoint (List.replicate 32 1) =
      some (utf8 "http://a".toList) := by
    simp only [Rust.view, foreignRow, Rust.lookupIn, List.find?_cons, decide_true, Option.map_some,
      Option.bind_some, parsed]
  have node : (Rust.view foreignRow).node (List.replicate 32 1, 1) =
      some ⟨1, utf8 "http://a".toList, [7]⟩ := by
    rw [View.node, endpoint]
    rfl
  have rust : (Rust.view foreignRow).Seated foreignRow.committee :=
    { output := by decide
      legible := trivial
      nonempty := by decide
      committed := by simp [Rust.view, foreignRow]
      enough := by
        show 1 ≤ (([(List.replicate 32 1, 1)].filterMap (Rust.view foreignRow).node).length : ℤ)
        rw [List.filterMap_cons_some node]
        decide }
  have python : ¬ (Python.view foreignRow).Seated foreignRow.committee := by
    intro seated
    refine seated.legible (List.replicate 32 2, utf8 "0x!".toList) (by simp [foreignRow]) ?_
    rw [Python.renderedBytes, utf8_eq_encode, Utf8.decode_encode]
    decide
  rcases agree with ⟨unseated, -⟩ | ⟨-, seated, -⟩
  · exact unseated rust
  · exact python seated

end MatterSdk
