import MatterSdk.Chain.CommitteeViews

/-!
# Assembling nodes

The Rust join of an epoch's members with the tables, for any three tables.  It pairs each member with
its own rows; a node's endpoint is a usable URL unless the registry's text has nothing but slashes
behind the scheme, or a blank before the slashes that are taken off.
-/

namespace MatterSdk.Rust

/-! ## Endpoints -/

/-- The schemes of an endpoint that can be asked. -/
def schemes : List (List Char) := ["https://".toList, "http://".toList]

/-- A scheme, and behind it some text that does not end in a slash. -/
structure UsableUrl (text : List Char) : Prop where
  absolute : ∃ scheme ∈ schemes, ∃ rest, rest ≠ [] ∧ text = scheme ++ rest
  no_slash : text.getLast? ≠ some '/'

/-- Behind the scheme there is a character other than a slash, and the last of these is no blank. -/
def Settled (text : List Char) : Prop :=
  ∃ scheme ∈ schemes, ∃ host last count, text = scheme ++ host ++ last :: List.replicate count '/' ∧
    last ≠ '/' ∧ Text.isWhiteSpace last = false

/-- The text of a registry entry that can be asked, between its margins. -/
def Announces (raw : Bytes) (text : List Char) : Prop :=
  (∃ whole, Utf8.decode raw = some whole ∧ text = Text.trim Text.isWhiteSpace whole) ∧
    ∃ scheme ∈ schemes, scheme <+: text

theorem absoluteUrl_eq_some_iff {s u : List Char} :
    absoluteUrl s = some u ↔ (∃ scheme ∈ schemes, scheme <+: s) ∧ u = s.rdropWhile (· = '/') := by
  have starts : ("https://".toList.isPrefixOf s || "http://".toList.isPrefixOf s) = true ↔
      ∃ scheme ∈ schemes, scheme <+: s := by
    simp [schemes, List.isPrefixOf_iff_prefix]
  unfold absoluteUrl
  by_cases absolute : ∃ scheme ∈ schemes, scheme <+: s
  · rw [if_pos (starts.mpr absolute), Option.some_inj, eq_comm]
    exact (and_iff_right absolute).symm
  · rw [if_neg (starts.not.mpr absolute)]
    exact iff_of_false (by simp) fun both => absolute both.1

theorem parseEndpoint_eq_some_iff {raw endpoint : Bytes} :
    parseEndpoint raw = some endpoint ↔
      ∃ text, Announces raw text ∧ endpoint = utf8 (text.rdropWhile (· = '/')) := by
  unfold parseEndpoint Announces
  cases Utf8.decode raw with
  | none => simp
  | some whole =>
    simp only [Option.map_eq_some_iff, absoluteUrl_eq_some_iff, Option.some.injEq]
    constructor
    · rintro ⟨_, ⟨absolute, rfl⟩, rfl⟩
      exact ⟨_, ⟨⟨whole, rfl, rfl⟩, absolute⟩, rfl⟩
    · rintro ⟨_, ⟨⟨_, rfl, rfl⟩, absolute⟩, rfl⟩
      exact ⟨_, ⟨absolute, rfl⟩, rfl⟩

theorem scheme_head {scheme : List Char} (known : scheme ∈ schemes) :
    ∃ rest, scheme = 'h' :: rest := by
  rcases List.mem_pair.mp known with rfl | rfl
  · exact ⟨"ttps://".toList, rfl⟩
  · exact ⟨"ttp://".toList, rfl⟩

theorem scheme_last {scheme : List Char} (known : scheme ∈ schemes) :
    scheme.getLast? = some '/' := by
  rcases List.mem_pair.mp known with rfl | rfl <;> rfl

/-- What is left of a settled text is a usable URL without margins. -/
theorem Settled.usable {text : List Char} (settled : Settled text) :
    UsableUrl (text.rdropWhile (· = '/')) ∧
      Text.trim Text.isWhiteSpace (text.rdropWhile (· = '/')) = text.rdropWhile (· = '/') := by
  obtain ⟨scheme, known, host, last, count, rfl, no_slash, no_blank⟩ := settled
  have left : (scheme ++ host ++ last :: List.replicate count '/').rdropWhile (· = '/') =
      scheme ++ host ++ [last] := by
    rw [List.append_cons,
      Text.rdropWhile_append_of_forall fun c inside =>
        decide_eq_true (List.eq_of_mem_replicate inside)]
    exact List.rdropWhile_concat_neg _ _ _ (by simpa using no_slash)
  rw [left]
  constructor
  · refine ⟨⟨scheme, known, host ++ [last], by simp, List.append_assoc ..⟩, ?_⟩
    rw [List.getLast?_concat]
    exact fun slash => no_slash (Option.some.inj slash)
  · obtain ⟨rest, rfl⟩ := scheme_head known
    have front : ('h' :: rest ++ host ++ [last]).dropWhile Text.isWhiteSpace =
        'h' :: rest ++ host ++ [last] := List.dropWhile_cons_of_neg (by decide)
    rw [Text.trim, front]
    exact List.rdropWhile_concat_neg _ _ _ (by simp [no_blank])

/-- A text is settled if what is left of it is read as itself. -/
theorem settled_of_again {text : List Char}
    (again : absoluteUrl (Text.trim Text.isWhiteSpace (text.rdropWhile (· = '/'))) =
      some (text.rdropWhile (· = '/'))) : Settled text := by
  have split : text.rdropWhile (· = '/') ++ text.rtakeWhile (· = '/') = text :=
    List.rdropWhile_append_rtakeWhile
  have slashes : text.rtakeWhile (· = '/') =
      List.replicate (text.rtakeWhile (· = '/')).length '/' :=
    List.eq_replicate_iff.mpr ⟨rfl, fun c inside => by simpa using List.mem_rtakeWhile_imp inside⟩
  have no_slash : (text.rdropWhile (· = '/')).getLast? ≠ some '/' := fun slash =>
    absurd (Text.getLast?_rdropWhile slash) (by decide)
  rw [slashes] at split
  generalize text.rdropWhile (· = '/') = left at again split no_slash
  obtain ⟨⟨scheme, known, starts⟩, same⟩ := absoluteUrl_eq_some_iff.mp again
  -- Nothing is taken off again, so there are no margins.
  have trimmed : Text.trim Text.isWhiteSpace left = left := by
    refine (Text.trim_sublist _ left).eq_of_length_le ?_
    calc
      left.length = ((Text.trim Text.isWhiteSpace left).rdropWhile (· = '/')).length :=
        congrArg List.length same
      _ ≤ (Text.trim Text.isWhiteSpace left).length := (List.rdropWhile_prefix _ _).length_le
  rw [trimmed] at starts
  obtain ⟨rest, rfl⟩ := starts
  rcases List.eq_nil_or_concat rest with rfl | ⟨host, last, rfl⟩
  · rw [List.append_nil] at no_slash
    exact absurd (scheme_last known) no_slash
  · refine ⟨scheme, known, host, last, (text.rtakeWhile (· = '/')).length, ?_, ?_, ?_⟩
    · refine split.symm.trans ?_
      simp
    · rintro rfl
      exact no_slash (by simp)
    · refine Text.getLast?_rdropWhile (p := Text.isWhiteSpace)
        (l := (scheme ++ host.concat last).dropWhile Text.isWhiteSpace) ?_
      change (Text.trim Text.isWhiteSpace (scheme ++ host.concat last)).getLast? = some last
      rw [trimmed]
      simp

/-- An endpoint is read as itself if and only if its text is settled. -/
theorem parseEndpoint_again_iff (text : List Char) :
    parseEndpoint (utf8 (text.rdropWhile (· = '/'))) = some (utf8 (text.rdropWhile (· = '/'))) ↔
      Settled text := by
  have read : Utf8.decode (utf8 (text.rdropWhile (· = '/'))) = some (text.rdropWhile (· = '/')) :=
    Utf8.decode_encode _
  unfold parseEndpoint
  simp only [read, Option.map_eq_some_iff]
  constructor
  · rintro ⟨url, again, same⟩
    rw [Utf8.encode_injective same] at again
    exact settled_of_again again
  · intro settled
    obtain ⟨usable, trimmed⟩ := settled.usable
    obtain ⟨scheme, known, rest, -, whole⟩ := usable.absolute
    refine ⟨_, absoluteUrl_eq_some_iff.mpr ⟨⟨scheme, known, ?_⟩, ?_⟩, rfl⟩
    · rw [trimmed, whole]
      exact List.prefix_append _ _
    · rw [trimmed, List.rdropWhile_idempotent]

/-! ## The join -/

section

variable (committee : List (AccountId × ℕ)) (endpoints commitments : List (AccountId × Bytes))

/-- The endpoint of a member, which is the one of its first registry entry. -/
def endpointOf (id : AccountId) : Option Bytes := (lookupIn endpoints id).bind parseEndpoint

/-- A member's own index, its own endpoint and its own first commitment. -/
def seat (member : AccountId × ℕ) : Option Seat :=
  match endpointOf endpoints member.1, lookupIn commitments member.1 with
  | some endpoint, some shareCommitment => some ⟨member.2, endpoint, shareCommitment⟩
  | _, _ => none

/-- Some member that can be asked has no commitment. -/
def Uncommitted : Prop :=
  ∃ member ∈ committee, endpointOf endpoints member.1 ≠ none ∧
    lookupIn commitments member.1 = none

/-- The texts of the members that can be asked are settled. -/
def AllSettled : Prop :=
  ∀ member ∈ committee, ∀ raw, lookupIn endpoints member.1 = some raw →
    ∀ text, Announces raw text → Settled text

/-- The join fails only for a missing commitment, pairs each member with its own rows in the order
of the indices, and makes usable URLs that are read as themselves. -/
structure AssemblesExactly (epoch : BitVec 32) : Prop where
  fails : (∃ e, assembleNodes committee endpoints commitments epoch = .error e) ↔
    Uncommitted committee endpoints commitments
  joined : ∀ nodes, assembleNodes committee endpoints commitments epoch = .ok nodes →
    nodes.Perm (committee.filterMap (seat endpoints commitments)) ∧
      nodes.Pairwise fun a b => a.index ≤ b.index
  usable : ∀ nodes, assembleNodes committee endpoints commitments epoch = .ok nodes →
    ∀ node ∈ nodes, ∃ text, node.endpoint = utf8 text ∧ UsableUrl text
  again : ∀ nodes, assembleNodes committee endpoints commitments epoch = .ok nodes →
    ∀ node ∈ nodes, parseEndpoint node.endpoint = some node.endpoint

variable {committee endpoints commitments}

theorem commitmentIn_toOption (epoch : BitVec 32) (id : AccountId) (index : ℕ) :
    (commitmentIn commitments epoch id index).toOption = lookupIn commitments id := by
  unfold commitmentIn
  cases lookupIn commitments id <;> rfl

theorem assembleNodes_eq_ok_iff {epoch : BitVec 32} {nodes : List Seat} :
    assembleNodes committee endpoints commitments epoch = .ok nodes ↔
      ¬ Uncommitted committee endpoints commitments ∧
        nodes = sortByIndex (committee.filterMap (seat endpoints commitments)) := by
  let tables : View :=
    ⟨none, True, endpointOf endpoints, lookupIn commitments, 0⟩
  have joined := @View.seatAll_eq_ok_iff _ tables (endpointOf endpoints)
    (commitmentIn commitments epoch) committee (fun _ _ => rfl)
    (fun member _ => commitmentIn_toOption epoch member.1 member.2)
  have committed_iff : (∀ member ∈ committee, tables.endpoint member.1 ≠ none →
      tables.commitment member.1 ≠ none) ↔ ¬ Uncommitted committee endpoints commitments := by
    unfold Uncommitted
    push Not
    rfl
  have seats (committed : ¬ Uncommitted committee endpoints commitments) :
      tables.nodes committee = committee.filterMap (seat endpoints commitments) := by
    refine List.filterMap_congr fun member listed => ?_
    have present := committed_iff.mpr committed member listed
    change endpointOf endpoints member.1 ≠ none → lookupIn commitments member.1 ≠ none at present
    unfold seat View.node
    show (endpointOf endpoints member.1).map _ = _
    cases reached : endpointOf endpoints member.1 with
    | none => rfl
    | some endpoint =>
      obtain ⟨commitment, found⟩ := Option.ne_none_iff_exists'.mp (present (by simp [reached]))
      show some (Seat.mk _ _ ((lookupIn commitments member.1).getD [])) = _
      rw [found]
      rfl
  rw [committed_iff] at joined
  unfold assembleNodes
  show (seatAll (endpointOf endpoints) (commitmentIn commitments epoch) committee).map sortByIndex =
    .ok nodes ↔ _
  constructor
  · intro assembled
    cases all : seatAll (endpointOf endpoints) (commitmentIn commitments epoch) committee with
    | error e => rw [all] at assembled; cases assembled
    | ok found =>
      rw [all] at assembled
      obtain ⟨committed, rfl⟩ := (joined found).mp all
      rw [seats committed] at assembled
      exact ⟨committed, (Except.ok.inj assembled).symm⟩
  · rintro ⟨committed, rfl⟩
    rw [(joined _).mpr ⟨committed, rfl⟩, seats committed]
    rfl

theorem assembleNodes_error_iff {epoch : BitVec 32} :
    (∃ e, assembleNodes committee endpoints commitments epoch = .error e) ↔
      Uncommitted committee endpoints commitments := by
  cases assembled : assembleNodes committee endpoints commitments epoch with
  | error e =>
    refine iff_of_true ⟨e, rfl⟩ (by_contra fun committed => ?_)
    rw [assembleNodes_eq_ok_iff.mpr ⟨committed, rfl⟩] at assembled
    cases assembled
  | ok nodes =>
    exact iff_of_false (by simp) (assembleNodes_eq_ok_iff.mp assembled).1

theorem sortByIndex_perm (nodes : List Seat) : (sortByIndex nodes).Perm nodes :=
  List.mergeSort_perm _ _

theorem sortByIndex_sorted (nodes : List Seat) :
    (sortByIndex nodes).Pairwise fun a b => a.index ≤ b.index := by
  have sorted := @List.pairwise_mergeSort Seat (fun a b => decide (a.index ≤ b.index))
    (fun a b c first second => decide_eq_true
      ((of_decide_eq_true first).trans (of_decide_eq_true second)))
    (fun a b => by simpa using Nat.le_total a.index b.index) nodes
  exact sorted.imp fun ordered => of_decide_eq_true ordered

theorem endpointOf_eq_some_iff {id : AccountId} {endpoint : Bytes} :
    endpointOf endpoints id = some endpoint ↔ ∃ raw, lookupIn endpoints id = some raw ∧
      ∃ text, Announces raw text ∧ endpoint = utf8 (text.rdropWhile (· = '/')) := by
  unfold endpointOf
  simp only [Option.bind_eq_some_iff, parseEndpoint_eq_some_iff]

/-- The endpoints of the seats are those of the members that can be asked. -/
theorem mem_endpoints_iff (committed : ¬ Uncommitted committee endpoints commitments)
    {endpoint : Bytes} :
    (∃ node ∈ committee.filterMap (seat endpoints commitments), node.endpoint = endpoint) ↔
      ∃ member ∈ committee, endpointOf endpoints member.1 = some endpoint := by
  simp only [List.mem_filterMap]
  constructor
  · rintro ⟨node, ⟨member, listed, seated⟩, rfl⟩
    refine ⟨member, listed, ?_⟩
    unfold seat at seated
    split at seated
    · rename_i endpoint commitment reached found
      cases seated
      exact reached
    · cases seated
  · rintro ⟨member, listed, reached⟩
    cases found : lookupIn commitments member.1 with
    | none => exact absurd ⟨member, listed, by simp [reached], found⟩ committed
    | some commitment =>
      refine ⟨⟨member.2, endpoint, commitment⟩, ⟨member, listed, ?_⟩, rfl⟩
      rw [seat, reached, found]

/-- The join is exact if and only if it fails for a missing commitment or all the texts that it uses
are settled; and the endpoint of any entry is read as itself if and only if its text is. -/
theorem assembleNodes_exact_iff (committee : List (AccountId × ℕ))
    (endpoints commitments : List (AccountId × Bytes)) (epoch : BitVec 32) (raw : Bytes) :
    (AssemblesExactly committee endpoints commitments epoch ↔
      Uncommitted committee endpoints commitments ∨ AllSettled committee endpoints) ∧
    ((∀ endpoint, parseEndpoint raw = some endpoint → parseEndpoint endpoint = some endpoint) ↔
      ∀ text, Announces raw text → Settled text) := by
  refine ⟨⟨fun exact_ => ?_, fun settled => ?_⟩, fun again text announced => ?_,
    fun settled endpoint read => ?_⟩
  · by_cases committed : Uncommitted committee endpoints commitments
    · exact .inl committed
    · refine .inr fun member listed raw found text announced => ?_
      obtain ⟨node, seated, same⟩ := (mem_endpoints_iff committed).mpr ⟨member, listed,
        endpointOf_eq_some_iff.mpr ⟨raw, found, text, announced, rfl⟩⟩
      have again := exact_.again _ (assembleNodes_eq_ok_iff.mpr ⟨committed, rfl⟩) node
        ((sortByIndex_perm _).mem_iff.mpr seated)
      rw [same] at again
      exact (parseEndpoint_again_iff text).mp again
  · have settled_nodes : ∀ nodes, assembleNodes committee endpoints commitments epoch = .ok nodes →
        ∀ node ∈ nodes, ∃ text, node.endpoint = utf8 (text.rdropWhile (· = '/')) ∧
          Settled text := by
      intro nodes assembled node listed
      obtain ⟨committed, rfl⟩ := assembleNodes_eq_ok_iff.mp assembled
      obtain ⟨member, seated, reached⟩ := (mem_endpoints_iff committed).mp
        ⟨node, (sortByIndex_perm _).mem_iff.mp listed, rfl⟩
      obtain ⟨raw, found, text, announced, same⟩ := endpointOf_eq_some_iff.mp reached
      exact ⟨text, same, settled.resolve_left committed member seated raw found text announced⟩
    refine ⟨assembleNodes_error_iff, fun nodes assembled => ?_, fun nodes assembled node listed => ?_,
      fun nodes assembled node listed => ?_⟩
    · obtain ⟨-, rfl⟩ := assembleNodes_eq_ok_iff.mp assembled
      exact ⟨sortByIndex_perm _, sortByIndex_sorted _⟩
    · obtain ⟨text, same, settled⟩ := settled_nodes nodes assembled node listed
      exact ⟨_, same, settled.usable.1⟩
    · obtain ⟨text, same, settled⟩ := settled_nodes nodes assembled node listed
      rw [same]
      exact (parseEndpoint_again_iff text).mpr settled
  · refine (parseEndpoint_again_iff text).mp (again _ ?_)
    exact parseEndpoint_eq_some_iff.mpr ⟨text, announced, rfl⟩
  · obtain ⟨text, announced, rfl⟩ := parseEndpoint_eq_some_iff.mp read
    exact (parseEndpoint_again_iff text).mpr (settled text announced)

/-- A member that announces a scheme alone is seated with an endpoint that is no URL. -/
theorem schemeAlone_not_exact : ¬ ∀ (committee : List (AccountId × ℕ))
    (endpoints commitments : List (AccountId × Bytes)) (epoch : BitVec 32),
    AssemblesExactly committee endpoints commitments epoch := by
  intro exact_
  have announced : Announces (utf8 "http://".toList) "http://".toList :=
    ⟨⟨_, Utf8.decode_encode _, by decide⟩, "http://".toList, by decide, List.prefix_rfl⟩
  have committed : ¬ Uncommitted [([1], 1)] [([1], utf8 "http://".toList)] [([1], [7])] := by
    rintro ⟨member, listed, -, missing⟩
    obtain rfl : member = ([1], 1) := by simpa using listed
    cases missing
  have reached : endpointOf [([1], utf8 "http://".toList)] [1] = some (utf8 "http:".toList) :=
    endpointOf_eq_some_iff.mpr ⟨_, rfl, _, announced, rfl⟩
  obtain ⟨node, seated, same⟩ := (mem_endpoints_iff committed).mpr ⟨([1], 1), by simp, reached⟩
  obtain ⟨text, same', usable⟩ := (exact_ _ _ _ 0).usable _
    (assembleNodes_eq_ok_iff.mpr ⟨committed, rfl⟩) node ((sortByIndex_perm _).mem_iff.mpr seated)
  obtain rfl : "http:".toList = text := Utf8.encode_injective (same.symm.trans same')
  obtain ⟨scheme, known, rest, -, whole⟩ := usable.absolute
  have short := congrArg List.length whole
  rw [List.length_append] at short
  rcases List.mem_pair.mp known with rfl | rfl
  · change 5 = 8 + rest.length at short
    omega
  · change 5 = 7 + rest.length at short
    omega

end

end MatterSdk.Rust
