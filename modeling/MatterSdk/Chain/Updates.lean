import MatterSdk.Chain.Delegated

/-!
# Settling a submission

The promise of the TypeScript `submit`.  Each callback of `send` may settle it; one with a dispatch
error settles it later, when the error has been classified, and only what comes first counts.
-/

namespace MatterSdk.TypeScript

/-- The `ClientError`s with which `submit` rejects after it was sent. -/
inductive ClientError where
  | chain (target detail : String)
  | dispatch (target detail : String)
  | keyRevoked (target : String)
  | notPermitted (target required held : String)
  | unsponsored (target principal : String)
deriving DecidableEq, Repr

/-- `#classifyDispatchFailure`; `gone` is whether a re-read of the grant found it gone. -/
def classifyDispatchFailure (delegated : Bool) (target detail : String) (gone : Bool) :
    ClientError :=
  if !delegated || !("proxy.NotProxy".toList.isPrefixOf detail.toList) then .chain target detail
  else if gone then .keyRevoked target
  else .chain target detail

/-- What settles the promise: the callback of an index, or the failure of `send` itself. -/
inductive Settlement where
  | callback (i : ℕ) (result : Except ClientError TxReceipt)
  | send (error : ClientError)

/-- A submission under way: the callbacks so far, the dispatch errors that are being classified,
and what has settled the promise. -/
structure Submission where
  seen : List SubmittableResult
  pending : List (ℕ × String)
  settled : Option Settlement

inductive Step where
  | deliver (update : SubmittableResult)
  | classified (i : ℕ) (gone : Bool)
  | sendFailed (error : ClientError)

namespace Submission

/-- `resolve` or `reject`, of which only the first call counts. -/
def settle (s : Submission) (how : Settlement) : Submission :=
  match s.settled with
  | none => { s with settled := some how }
  | some _ => s

theorem settle_eq (s : Submission) (how : Settlement) :
    s.settle how = ⟨s.seen, s.pending, s.settled.or (some how)⟩ := by
  obtain ⟨seen, pending, settled⟩ := s
  cases settled <;> rfl

section

variable (palletNames : ℕ → Option String) (delegated : Bool) (target txHash : String)

/-- One turn of the event loop. -/
def step (s : Submission) : Step → Submission
  | .deliver update =>
    let next := { s with seen := s.seen ++ [update] }
    match onUpdate palletNames delegated target txHash update with
    | none => next
    | some (.error (.outer detail)) =>
      { next with pending := s.pending ++ [(s.seen.length, detail)] }
    | some (.error (.dispatch target failure)) =>
      next.settle (.callback s.seen.length (.error (.dispatch target failure)))
    | some (.ok receipt) => next.settle (.callback s.seen.length (.ok receipt))
  | .classified i gone =>
    match s.pending.lookup i with
    | none => s
    | some detail =>
      settle { s with pending := s.pending.filter (·.1 ≠ i) }
        (.callback i (.error (classifyDispatchFailure delegated target detail gone)))
  | .sendFailed error => s.settle (.send error)

def run (steps : List Step) : Submission :=
  steps.foldl (step palletNames delegated target txHash) ⟨[], [], none⟩

end

end Submission

/-- The callbacks of a run. -/
def delivered (steps : List Step) : List SubmittableResult :=
  steps.filterMap fun
    | .deliver update => some update
    | _ => none

/-- The update settles the promise there and then: it is final and the extrinsic did not fail. -/
def SubmittableResult.Settles (update : SubmittableResult) : Prop :=
  update.isFinalized = true ∧ update.dispatchError = none

section

variable (palletNames : ℕ → Option String) (delegated : Bool) (target txHash : String)

/-- The outcome that a callback reports. -/
def Gives (update : SubmittableResult) (result : Except ClientError TxReceipt) : Prop :=
  match update.dispatchError with
  | some detail => ∃ gone, result = .error (classifyDispatchFailure delegated target detail gone)
  | none =>
    match onUpdate palletNames delegated target txHash update with
    | some (.ok receipt) => result = .ok receipt
    | some (.error (.dispatch target failure)) => result = .error (.dispatch target failure)
    | _ => False

/-- A callback settles the promise only if it is final, and with its own outcome; the first final
one settles it if the extrinsic did not fail in its block. -/
structure SettlesOnFinality (s : Submission) : Prop where
  final : ∀ i result, s.settled = some (.callback i result) → ∃ update, s.seen[i]? = some update ∧
    update.isFinalized = true ∧ Gives palletNames delegated target txHash update result
  success : ∀ i update, s.seen[i]? = some update → update.Settles →
    (∀ j < i, ∀ earlier, s.seen[j]? = some earlier → earlier.isFinalized = false) →
    (∀ error, s.settled ≠ some (.send error)) →
    ∃ result, s.settled = some (.callback i result)

end

/-- No callback that is not final carries a dispatch error, unless one before it settled the promise
there and then. -/
def FailsFinally (updates : List SubmittableResult) : Prop :=
  ∀ (j : ℕ) (update : SubmittableResult), updates[j]? = some update → update.isFinalized = false →
    update.dispatchError ≠ none →
      ∃ i < j, ∃ earlier : SubmittableResult, updates[i]? = some earlier ∧ earlier.Settles

/-! ## One turn -/

section

variable {palletNames : ℕ → Option String} {delegated : Bool} {target txHash : String}

theorem step_failing (s : Submission) {update : SubmittableResult} {detail : String}
    (failed : update.dispatchError = some detail) :
    s.step palletNames delegated target txHash (.deliver update) =
      ⟨s.seen ++ [update], s.pending ++ [(s.seen.length, detail)], s.settled⟩ := by
  simp [Submission.step, onUpdate, failed]

theorem step_waiting (s : Submission) {update : SubmittableResult}
    (unfailed : update.dispatchError = none) (unfinal : update.isFinalized = false) :
    s.step palletNames delegated target txHash (.deliver update) =
      ⟨s.seen ++ [update], s.pending, s.settled⟩ := by
  simp [Submission.step, onUpdate, unfailed, unfinal]

theorem step_settling (s : Submission) {update : SubmittableResult} (settles : update.Settles) :
    ∃ result, Gives palletNames delegated target txHash update result ∧
      s.step palletNames delegated target txHash (.deliver update) =
        ⟨s.seen ++ [update], s.pending, s.settled.or (some (.callback s.seen.length result))⟩ := by
  have sync : ∃ result, Gives palletNames delegated target txHash update result ∧
      s.step palletNames delegated target txHash (.deliver update) =
        Submission.settle ⟨s.seen ++ [update], s.pending, s.settled⟩
          (.callback s.seen.length result) := by
    unfold Gives Submission.step onUpdate
    simp only [settles.1, settles.2, Bool.not_true, Bool.false_eq_true, if_false]
    cases delegated with
    | false => exact ⟨_, rfl, rfl⟩
    | true =>
      cases wrappedFailure update.events with
      | none => exact ⟨_, rfl, rfl⟩
      | some failure => exact ⟨_, rfl, rfl⟩
  obtain ⟨result, gives, stepped⟩ := sync
  refine ⟨result, gives, stepped.trans ?_⟩
  exact Submission.settle_eq _ _

theorem step_classified (s : Submission) (i : ℕ) (gone : Bool) :
    s.step palletNames delegated target txHash (.classified i gone) = s ∨
      ∃ detail, (i, detail) ∈ s.pending ∧
        s.step palletNames delegated target txHash (.classified i gone) =
          ⟨s.seen, s.pending.filter (·.1 ≠ i), s.settled.or (some (.callback i
            (.error (classifyDispatchFailure delegated target detail gone))))⟩ := by
  simp only [Submission.step]
  cases found : s.pending.lookup i with
  | none => exact .inl rfl
  | some detail =>
    obtain ⟨before, after, split, -⟩ := List.lookup_eq_some_iff.mp found
    exact .inr ⟨detail, by simp [split], Submission.settle_eq _ _⟩

theorem step_sendFailed (s : Submission) (error : ClientError) :
    s.step palletNames delegated target txHash (.sendFailed error) =
      ⟨s.seen, s.pending, s.settled.or (some (.send error))⟩ :=
  Submission.settle_eq _ _

end

/-! ## Whole runs -/

section

variable (palletNames : ℕ → Option String) (delegated : Bool) (target txHash : String)

/-- What holds in every run: errors that are being classified were reported, the promise is settled
with what its callback gives and by no callback after one that settles there and then. -/
structure Tracks (s : Submission) : Prop where
  pending : ∀ i detail, (i, detail) ∈ s.pending →
    ∃ update, s.seen[i]? = some update ∧ update.dispatchError = some detail
  settled : ∀ i result, s.settled = some (.callback i result) →
    (∃ update, s.seen[i]? = some update ∧ Gives palletNames delegated target txHash update result) ∧
      ∀ j < i, ∀ earlier : SubmittableResult, s.seen[j]? = some earlier → ¬ earlier.Settles
  settles : ∀ (i : ℕ) (update : SubmittableResult), s.seen[i]? = some update → update.Settles →
    s.settled ≠ none

end

section

variable {palletNames : ℕ → Option String} {delegated : Bool} {target txHash : String}

theorem Tracks.init : Tracks palletNames delegated target txHash ⟨[], [], none⟩ :=
  ⟨by simp, by simp, by simp⟩

theorem getElem?_snoc {seen : List SubmittableResult} {update found : SubmittableResult} {i : ℕ} :
    (seen ++ [update])[i]? = some found ↔
      seen[i]? = some found ∨ i = seen.length ∧ found = update := by
  rw [List.getElem?_append]
  by_cases inside : i < seen.length
  · simp [inside, inside.ne]
  · have none_ : seen[i]? = none := by simpa using inside
    rw [if_neg inside, none_, List.getElem?_singleton]
    by_cases last : i = seen.length
    · simp [last, eq_comm]
    · simp [last]
      omega

/-- One more callback, which settles nothing. -/
theorem Tracks.deliver {s : Submission} (tracks : Tracks palletNames delegated target txHash s)
    {update : SubmittableResult} (unsettling : ¬ update.Settles) {pending : List (ℕ × String)}
    (new : ∀ i detail, (i, detail) ∈ pending →
      (i, detail) ∈ s.pending ∨ i = s.seen.length ∧ update.dispatchError = some detail) :
    Tracks palletNames delegated target txHash ⟨s.seen ++ [update], pending, s.settled⟩ where
  pending i detail listed := by
    rcases new i detail listed with listed | ⟨last, failed⟩
    · obtain ⟨found, seen, failed⟩ := tracks.pending i detail listed
      exact ⟨found, getElem?_snoc.mpr (.inl seen), failed⟩
    · exact ⟨update, getElem?_snoc.mpr (.inr ⟨last, rfl⟩), failed⟩
  settled i result settled := by
    obtain ⟨⟨found, seen, gives⟩, first⟩ := tracks.settled i result settled
    refine ⟨⟨found, getElem?_snoc.mpr (.inl seen), gives⟩, fun j earlier_ earlier at_ => ?_⟩
    rcases getElem?_snoc.mp at_ with at_ | ⟨-, rfl⟩
    · exact first j earlier_ earlier at_
    · exact unsettling
  settles i found at_ settles := by
    rcases getElem?_snoc.mp at_ with at_ | ⟨-, rfl⟩
    · exact tracks.settles i found at_ settles
    · exact absurd settles unsettling

/-- One more callback, which settles the promise. -/
theorem Tracks.deliver_settling {s : Submission}
    (tracks : Tracks palletNames delegated target txHash s) {update : SubmittableResult}
    {result : Except ClientError TxReceipt}
    (gives : Gives palletNames delegated target txHash update result) :
    Tracks palletNames delegated target txHash ⟨s.seen ++ [update], s.pending,
      s.settled.or (some (.callback s.seen.length result))⟩ where
  pending i detail listed := by
    obtain ⟨found, seen, failed⟩ := tracks.pending i detail listed
    exact ⟨found, getElem?_snoc.mpr (.inl seen), failed⟩
  settled i result' settled := by
    cases before : s.settled with
    | some how =>
      rw [before] at settled
      obtain ⟨⟨found, seen, gives⟩, first⟩ := tracks.settled i result' (before.trans settled)
      have inside : i < s.seen.length := (List.getElem?_eq_some_iff.mp seen).1
      refine ⟨⟨found, getElem?_snoc.mpr (.inl seen), gives⟩, fun j earlier_ earlier at_ => ?_⟩
      rcases getElem?_snoc.mp at_ with at_ | ⟨last, -⟩
      · exact first j earlier_ earlier at_
      · omega
    | none =>
      rw [before] at settled
      cases settled
      refine ⟨⟨update, getElem?_snoc.mpr (.inr ⟨rfl, rfl⟩), gives⟩, fun j inside earlier at_ => ?_⟩
      rcases getElem?_snoc.mp at_ with at_ | ⟨last, -⟩
      · exact fun settles => tracks.settles j earlier at_ settles before
      · omega
  settles i found _ _ := by cases s.settled <;> simp

/-- The promise settles, unless it has. -/
theorem Tracks.settle {s : Submission} (tracks : Tracks palletNames delegated target txHash s)
    {pending : List (ℕ × String)} (fewer : pending ⊆ s.pending) {how : Settlement}
    (reported : ∀ i result, how = .callback i result → ∃ update, s.seen[i]? = some update ∧
      Gives palletNames delegated target txHash update result) :
    Tracks palletNames delegated target txHash ⟨s.seen, pending, s.settled.or (some how)⟩ where
  pending i detail listed := tracks.pending i detail (fewer listed)
  settled i result settled := by
    cases before : s.settled with
    | some earlier =>
      rw [before] at settled
      exact tracks.settled i result (before.trans settled)
    | none =>
      rw [before] at settled
      have same : how = .callback i result := Option.some.inj settled
      refine ⟨reported i result same, fun j _ earlier at_ settles => ?_⟩
      exact tracks.settles j earlier at_ settles before
  settles i update _ _ := by cases s.settled <;> simp

theorem Tracks.step {s : Submission} (tracks : Tracks palletNames delegated target txHash s)
    (turn : Step) :
    Tracks palletNames delegated target txHash
      (s.step palletNames delegated target txHash turn) := by
  cases turn with
  | deliver update =>
    cases failed : update.dispatchError with
    | some detail =>
      rw [step_failing s failed]
      refine tracks.deliver (by simp [SubmittableResult.Settles, failed]) fun i detail' listed => ?_
      rcases List.mem_append.mp listed with listed | listed
      · exact .inl listed
      · simp only [List.mem_singleton, Prod.mk.injEq] at listed
        exact .inr ⟨listed.1, by rw [failed, listed.2]⟩
    | none =>
      cases final : update.isFinalized with
      | false =>
        rw [step_waiting s failed final]
        exact tracks.deliver (by simp [SubmittableResult.Settles, final]) fun _ _ => .inl
      | true =>
        obtain ⟨result, gives, stepped⟩ := step_settling s ⟨final, failed⟩
        rw [stepped]
        exact tracks.deliver_settling gives
  | classified i gone =>
    rcases @step_classified palletNames delegated target txHash s i gone with
      same | ⟨detail, listed, stepped⟩
    · rw [same]
      exact tracks
    · rw [stepped]
      refine tracks.settle (List.filter_subset_self _) fun j result same => ?_
      obtain ⟨update, seen, failed⟩ := tracks.pending i detail listed
      cases same
      exact ⟨update, seen, by simp only [Gives, failed]; exact ⟨gone, rfl⟩⟩
  | sendFailed error =>
    rw [step_sendFailed]
    exact tracks.settle (List.Subset.refl _) (by simp)

theorem run_snoc (steps : List Step) (turn : Step) :
    Submission.run palletNames delegated target txHash (steps ++ [turn]) =
      (Submission.run palletNames delegated target txHash steps).step palletNames delegated target
        txHash turn := by
  simp [Submission.run]

theorem Tracks.run (steps : List Step) :
    Tracks palletNames delegated target txHash
      (Submission.run palletNames delegated target txHash steps) := by
  induction steps using List.reverseRecOn with
  | nil => exact Tracks.init
  | append_singleton steps turn ih =>
    rw [run_snoc]
    exact ih.step turn

theorem step_seen (s : Submission) (turn : Step) :
    (s.step palletNames delegated target txHash turn).seen = s.seen ++ delivered [turn] := by
  cases turn with
  | deliver update =>
    simp only [Submission.step, delivered]
    split <;> simp [Submission.settle_eq]
  | classified i gone =>
    rcases @step_classified palletNames delegated target txHash s i gone with same | ⟨_, -, stepped⟩
    · simp [same, delivered]
    · simp [stepped, delivered]
  | sendFailed error => simp [step_sendFailed, delivered]

theorem run_seen (steps : List Step) :
    (Submission.run palletNames delegated target txHash steps).seen = delivered steps := by
  induction steps using List.reverseRecOn with
  | nil => rfl
  | append_singleton steps turn ih =>
    rw [run_snoc, step_seen, ih]
    simp [delivered]

/-- What a callback gives that is not final is the error it reports. -/
theorem Gives.failed_of_unfinal {update : SubmittableResult} {result : Except ClientError TxReceipt}
    (gives : Gives palletNames delegated target txHash update result)
    (unfinal : update.isFinalized = false) : update.dispatchError ≠ none := by
  intro unfailed
  simp [Gives, onUpdate, unfailed, unfinal] at gives

theorem Tracks.final {s : Submission} (tracks : Tracks palletNames delegated target txHash s)
    {updates : List SubmittableResult} (seen : s.seen <+: updates) (fails : FailsFinally updates)
    {i : ℕ} {result : Except ClientError TxReceipt}
    (settled : s.settled = some (.callback i result)) :
    ∃ update, s.seen[i]? = some update ∧ update.isFinalized = true ∧
      Gives palletNames delegated target txHash update result := by
  obtain ⟨⟨update, at_, gives⟩, first⟩ := tracks.settled i result settled
  refine ⟨update, at_, ?_, gives⟩
  by_contra unfinal
  have unfinal : update.isFinalized = false := by simpa using unfinal
  have inside : i < s.seen.length := (List.getElem?_eq_some_iff.mp at_).1
  have same : ∀ j ≤ i, updates[j]? = s.seen[j]? := by
    intro j below
    obtain ⟨rest, rfl⟩ := seen
    exact List.getElem?_append_left (by omega)
  obtain ⟨j, earlier_, earlier, seen_earlier, settles⟩ :=
    fails i update (by rw [same i le_rfl, at_]) unfinal (gives.failed_of_unfinal unfinal)
  rw [same j earlier_.le] at seen_earlier
  exact first j earlier_ earlier seen_earlier settles

theorem SettlesOnFinality.of_tracks {s : Submission}
    (tracks : Tracks palletNames delegated target txHash s) {updates : List SubmittableResult}
    (seen : s.seen <+: updates) (fails : FailsFinally updates) :
    SettlesOnFinality palletNames delegated target txHash s where
  final i result settled := tracks.final seen fails settled
  success i update at_ settles first unsent := by
    have some_ := tracks.settles i update at_ settles
    cases settled : s.settled with
    | none => exact absurd settled some_
    | some how =>
      cases how with
      | send error => exact absurd settled (unsent error)
      | callback j result =>
        obtain ⟨found, found_at, final, -⟩ := tracks.final seen fails settled
        have notBefore : ¬ j < i := fun before => by simp [first j before found found_at] at final
        have notAfter : ¬ i < j := fun after =>
          (tracks.settled j result settled).2 i after update at_ settles
        have same : j = i := by omega
        exact ⟨result, by rw [same]⟩

/-! ## A failure that is not final -/

/-- Callbacks none of which settles the promise. -/
theorem run_unsettled {updates : List SubmittableResult}
    (unsettling : ∀ update ∈ updates, ¬ update.Settles) :
    let s := Submission.run palletNames delegated target txHash (updates.map .deliver)
    s.seen = updates ∧ s.settled = none ∧ ∀ entry ∈ s.pending, entry.1 < updates.length := by
  induction updates using List.reverseRecOn with
  | nil => exact ⟨rfl, rfl, by simp [Submission.run]⟩
  | append_singleton updates update ih =>
    obtain ⟨seen, unsettled, below⟩ := ih fun u listed => unsettling u (by simp [listed])
    have last := unsettling update (by simp)
    simp only [List.map_append, List.map_cons, List.map_nil, run_snoc, List.length_append,
      List.length_singleton]
    cases failed : update.dispatchError with
    | some detail =>
      rw [step_failing _ failed]
      refine ⟨by rw [seen], unsettled, fun entry listed => ?_⟩
      rcases List.mem_append.mp listed with listed | listed
      · have := below entry listed
        omega
      · rw [List.mem_singleton.mp listed, seen]
        exact Nat.lt_succ_self _
    | none =>
      have unfinal : update.isFinalized = false := by
        simpa [SubmittableResult.Settles, failed] using last
      rw [step_waiting _ failed unfinal]
      refine ⟨by rw [seen], unsettled, fun entry listed => ?_⟩
      have := below entry listed
      omega

/-- An error that is classified before the next callback settles the promise. -/
theorem run_classified {updates : List SubmittableResult} {update : SubmittableResult}
    {detail : String} (unsettling : ∀ earlier ∈ updates, ¬ earlier.Settles)
    (failed : update.dispatchError = some detail) (gone : Bool) :
    let s := Submission.run palletNames delegated target txHash
      ((updates ++ [update]).map .deliver ++ [.classified updates.length gone])
    s.seen = updates ++ [update] ∧ s.settled = some (.callback updates.length
      (.error (classifyDispatchFailure delegated target detail gone))) := by
  obtain ⟨seen, unsettled, below⟩ :=
    @run_unsettled palletNames delegated target txHash updates unsettling
  simp only [List.map_append, List.map_cons, List.map_nil, run_snoc]
  rw [step_failing _ failed, seen]
  have found : List.lookup updates.length
      ((Submission.run palletNames delegated target txHash (updates.map .deliver)).pending ++
        [(updates.length, detail)]) = some detail := by
    have absent : List.lookup updates.length
        (Submission.run palletNames delegated target txHash (updates.map .deliver)).pending =
          none := by
      rw [List.lookup_eq_none_iff]
      intro entry listed
      have := below entry listed
      simp
      omega
    simp [List.lookup_append, absent]
  simp only [Submission.step, found, Submission.settle_eq, unsettled, Option.none_or]
  trivial

end

/-- The promise settles on finality in every run over some callbacks iff no callback before finality
carries a dispatch error. -/
theorem settlesOnFinality_iff (palletNames : ℕ → Option String) (delegated : Bool)
    (target txHash : String) (updates : List SubmittableResult) :
    (∀ steps, delivered steps <+: updates → SettlesOnFinality palletNames delegated target txHash
        (Submission.run palletNames delegated target txHash steps)) ↔
      FailsFinally updates := by
  constructor
  · intro settles j update at_ unfinal failed
    by_contra! unsettling
    obtain ⟨detail, failed⟩ := Option.ne_none_iff_exists'.mp failed
    have inside : j < updates.length := (List.getElem?_eq_some_iff.mp at_).1
    have taken : updates.take (j + 1) = updates.take j ++ [update] := by
      rw [List.take_add_one, at_]
      rfl
    have length : (updates.take j).length = j := by simp [inside.le]
    have before : ∀ earlier ∈ updates.take j, ¬ earlier.Settles := by
      intro earlier listed
      obtain ⟨i, below, rfl⟩ := List.mem_iff_getElem.mp listed
      have early : i < j := by omega
      exact unsettling i early _ ((List.getElem?_take_of_lt early).symm.trans
        (List.getElem?_eq_getElem below))
    obtain ⟨seen, settled⟩ :=
      @run_classified palletNames delegated target txHash _ _ _ before failed false
    have begins : delivered ((updates.take j ++ [update]).map Step.deliver ++
        [.classified (updates.take j).length false]) <+: updates := by
      rw [← @run_seen palletNames delegated target txHash, seen, ← taken]
      exact List.take_prefix _ _
    obtain ⟨found, found_at, final, -⟩ := (settles _ begins).final _ _ settled
    rw [seen, length, ← taken, List.getElem?_take_of_lt (by omega), at_] at found_at
    cases found_at
    simp [unfinal] at final
  · intro fails steps seen
    exact .of_tracks (Tracks.run steps) (by rwa [run_seen]) fails

/-- A failure in a block that is retracted rejects the promise of a write that lands. -/
theorem rejected_before_success :
    ¬ ∀ (palletNames : ℕ → Option String) (delegated : Bool) (target txHash : String)
        (updates : List SubmittableResult) (steps : List Step), delivered steps <+: updates →
      SettlesOnFinality palletNames delegated target txHash
        (Submission.run palletNames delegated target txHash steps) := by
  intro claim
  let failed : SubmittableResult := ⟨some "balances.InsufficientBalance", false, "0x01", []⟩
  let success : SubmittableResult := ⟨none, true, "0x02", []⟩
  obtain ⟨update, seen, final, -⟩ := (claim (fun _ => none) false "Balances.transfer" "0x"
    [failed, success] [.deliver failed, .classified 0 false, .deliver success]
    (List.prefix_rfl)).final 0 _ rfl
  cases seen
  simp [failed] at final

end MatterSdk.TypeScript
