import MatterSdk.Chain.Receipts
import MatterSdk.Lib.Loop

/-!
# Waiting for finality

`SubmitAndWatch` of the Go client, which polls the finalized head and looks for the submitted bytes
in the head's block.
-/

namespace MatterSdk.Go

/-! ## The chain and the polls -/

/-- The finalized chain, as `chain_getBlock` shows its blocks. -/
structure Chain where
  hash : ℕ → Bytes
  extrinsics : ℕ → List String
  /-- An extrinsic's index is a `u32`. -/
  bounded : ∀ b, (extrinsics b).length ≤ 2 ^ 32

/-- What one poll is answered: the finalized head, the failure to read its block, and the events of
the blocks. -/
structure Poll where
  head : Except Error ℕ
  block : Option Error
  events : ℕ → Except Error Bytes

/-- The poll is answered, and `head` is the finalized head it sees. -/
def Poll.Sees (poll : Poll) (head : ℕ) : Prop := poll.head = .ok head ∧ poll.block = none

/-- `storeFinalityAttempts`. -/
def storeFinalityAttempts : ℕ := 40

/-- `storeFinalityInterval`, in nanoseconds. -/
def storeFinalityInterval : ℕ := 3000000000

/-- A submission's surroundings: the chain, the finalized head at the submission, the time since then
at each check of the deadline and at the poll after it, with a sleep between, and the answers to the
polls. -/
structure World extends Chain where
  start : ℕ
  now : ℕ → ℕ
  polled : ℕ → ℕ
  slept : ∀ i, now i + storeFinalityInterval ≤ polled i
  answered : ∀ i, polled i ≤ now (i + 1)
  polls : ℕ → Poll
  later : ∀ i head, (polls i).head = .ok head → start ≤ head
  grows : ∀ i j head head', i ≤ j → (polls i).head = .ok head → (polls j).head = .ok head' →
    head ≤ head'

theorem World.now_lt (w : World) (i : ℕ) : w.now i < w.now (i + 1) := by
  have slept := w.slept i
  have answered := w.answered i
  simp only [storeFinalityInterval] at slept
  omega

theorem World.now_mono (w : World) : Monotone w.now :=
  monotone_nat_of_le_succ fun i => (w.now_lt i).le

/-! ## The client -/

/-- `strings.EqualFold`, for texts whose letters are those of hex. -/
def equalFold (a b : String) : Bool := a.toList.map Char.toLower = b.toList.map Char.toLower

/-- `findExtrinsic`, at a poll whose head is `head`. -/
def findExtrinsic (c : Chain) (block : Option Error) (head : ℕ) (encoded : String) :
    Except Error (Option ℕ) :=
  match block with
  | some e =>
    .error (wrapChainError .chain "" e ("read block " ++ to0x (c.hash head) ++ ": " ++ e.text))
  | none => .ok (((c.extrinsics head).findIdx? (equalFold · encoded)).map (· % 2 ^ 32))

section

variable {δ φ : Type}

-- `registry` is the event registry, or the failure to build it; `duration` prints a duration.
variable (registry : Except Error (Decoder δ φ)) (duration : ℤ → String)

/-- `outcomeAt`. -/
def outcomeAt (blockHash : Bytes) (events : Except Error Bytes) (index : ℕ) :
    Except Error (ExtrinsicOutcome δ φ) :=
  match registry with
  | .error e => .error (wrapChainError .chain "System.Events" e
      ("build the event registry: " ++ e.text))
  | .ok codec =>
    match events with
    | .error e => .error (wrapChainError .chain "System.Events" e
        ("read events at " ++ to0x blockHash ++ ": " ++ e.text))
    | .ok raw => parseOutcome codec raw index

/-- The receipt for an extrinsic at `index` of a block. -/
def receiptAt (txHash : String) (blockHash : Bytes) (index : ℕ) (outcome : ExtrinsicOutcome δ φ) :
    TxReceipt φ :=
  { txHash, blockHash, extrinsicIndex := index, events := outcome.events }

/-- What is returned for an extrinsic found at `index` of a block. -/
def finish (txHash : String) (blockHash : Bytes) (events : Except Error Bytes) (index : ℕ) :
    Except Error (TxReceipt φ × ExtrinsicOutcome δ φ) :=
  match outcomeAt registry blockHash events index with
  | .error e => .error e
  | .ok outcome => .ok (receiptAt txHash blockHash index outcome, outcome)

/-- The error of a watch whose deadline has passed. -/
def finalityTimeout (timeout : ℤ) : Error :=
  chainErrorf .finalityTimeout ""
    ("not finalized within " ++ duration timeout ++ "; the extrinsic may still land, so check the " ++
      "chain before resubmitting")

/-- One round of the loop: the check of the deadline and the poll after it. -/
def watchBody (w : World) (timeout : ℤ) (encoded txHash : String) (i : ℕ) :
    Loop.Flow (Except Error (TxReceipt φ × ExtrinsicOutcome δ φ)) ℕ :=
  if ¬ (w.now i : ℤ) < timeout then .done (.error (finalityTimeout duration timeout))
  else
    match (w.polls i).head with
    | .error _ => .next (i + 1)
    | .ok head =>
      match findExtrinsic w.toChain (w.polls i).block head encoded with
      | .error _ => .next (i + 1)
      | .ok none => .next (i + 1)
      | .ok (some index) =>
        .done (finish registry txHash (w.hash head) ((w.polls i).events head) index)

theorem watchBody_next {w : World} {timeout : ℤ} {encoded txHash : String} {i j : ℕ}
    (h : watchBody registry duration w timeout encoded txHash i = .next j) :
    j = i + 1 ∧ (w.now i : ℤ) < timeout := by
  unfold watchBody at h
  by_cases late : ¬ (w.now i : ℤ) < timeout
  · simp [late] at h
  · rw [if_neg late] at h
    refine ⟨?_, not_not.1 late⟩
    split at h
    · exact (Loop.Flow.next.inj h).symm
    · split at h
      · exact (Loop.Flow.next.inj h).symm
      · exact (Loop.Flow.next.inj h).symm
      · cases h

/-- Every round sleeps, so the deadline comes. -/
def watchVariant (w : World) (timeout : ℤ) (encoded txHash : String) :
    Loop.Variant (watchBody registry duration w timeout encoded txHash) where
  measure i := (timeout - w.now i).toNat
  decreases i j h := by
    obtain ⟨rfl, early⟩ := watchBody_next registry duration h
    have tick := w.now_lt i
    omega

/-- The timeout in force: two minutes for one that is not positive. -/
def effectiveTimeout (timeout : ℤ) : ℤ :=
  if timeout ≤ 0 then storeFinalityAttempts * storeFinalityInterval else timeout

/-- `SubmitAndWatch`: `assembled` is the outcome of `assemble`, `author` answers
`author_submitExtrinsic`. -/
def submitAndWatch (w : World) (assembled : Except Error String)
    (author : String → Except Error String) (timeout : ℤ) :
    Except Error (TxReceipt φ × ExtrinsicOutcome δ φ) :=
  match assembled with
  | .error e => .error e
  | .ok encoded =>
    match author encoded with
    | .error e => .error (wrapChainError .chain "" e ("submit extrinsic: " ++ e.text))
    | .ok txHash =>
      Loop.run (watchVariant registry duration w (effectiveTimeout timeout) encoded txHash) 0

end

/-! ## What the polls can see -/

/-- The block holds the bytes at an index. -/
def Chain.LocatedAt (c : Chain) (encoded : String) (b k : ℕ) : Prop :=
  ∃ xt, (c.extrinsics b)[k]? = some xt ∧ equalFold xt encoded = true

/-- The block holds the bytes. -/
def Chain.Holds (c : Chain) (encoded : String) (b : ℕ) : Prop := ∃ k, c.LocatedAt encoded b k

/-- The head that a poll sees holds the bytes. -/
def World.Hits (w : World) (encoded : String) (i : ℕ) : Prop :=
  ∃ head, (w.polls i).Sees head ∧ w.Holds encoded head

/-- The check before the poll comes before the deadline, and no earlier poll has ended the watch. -/
def World.Made (w : World) (timeout : ℤ) (encoded : String) (i : ℕ) : Prop :=
  (w.now i : ℤ) < timeout ∧ ∀ j < i, ¬ w.Hits encoded j

/-- The block was finalized after the submission, by the time of some poll. -/
def World.InWindow (w : World) (timeout : ℤ) (encoded : String) (b : ℕ) : Prop :=
  ∃ i head, w.Made timeout encoded i ∧ (w.polls i).Sees head ∧ w.start < b ∧ b ≤ head

/-- The same by the time of a poll that is itself before the deadline. -/
def World.InTime (w : World) (timeout : ℤ) (encoded : String) (b : ℕ) : Prop :=
  ∃ i head, w.Made timeout encoded i ∧ (w.polled i : ℤ) < timeout ∧ (w.polls i).Sees head ∧
    w.start < b ∧ b ≤ head

section

variable {δ φ : Type} (registry : Except Error (Decoder δ φ)) (duration : ℤ → String)

/-- The outcome at a place of the window that holds the bytes is returned. -/
def World.Returns (w : World) (timeout : ℤ) (encoded txHash : String)
    (result : Except Error (TxReceipt φ × ExtrinsicOutcome δ φ)) : Prop :=
  ∃ i b k outcome, w.Made timeout encoded i ∧ w.InWindow timeout encoded b ∧
    w.LocatedAt encoded b k ∧
    outcomeAt registry (w.hash b) ((w.polls i).events b) k = .ok outcome ∧
    result = .ok (receiptAt txHash (w.hash b) k outcome, outcome)

/-- If a block of the window holds the bytes, the outcome at such a place is returned. -/
def World.Delivers (w : World) (timeout : ℤ) (encoded txHash : String)
    (result : Except Error (TxReceipt φ × ExtrinsicOutcome δ φ)) : Prop :=
  (∃ b, w.InWindow timeout encoded b ∧ w.Holds encoded b) →
    w.Returns registry timeout encoded txHash result

/-- If a block that was finalized in time holds the bytes, the outcome at such a place is returned. -/
def World.DeliversInTime (w : World) (timeout : ℤ) (encoded txHash : String)
    (result : Except Error (TxReceipt φ × ExtrinsicOutcome δ φ)) : Prop :=
  (∃ b, w.InTime timeout encoded b ∧ w.Holds encoded b) →
    w.Returns registry timeout encoded txHash result

/-- Some poll sees a block that holds the bytes as the head itself, and its events can be read. -/
def World.HeadHolds (w : World) (timeout : ℤ) (encoded : String) : Prop :=
  ∃ i head k outcome, w.Made timeout encoded i ∧ (w.polls i).Sees head ∧ w.start < head ∧
    findExtrinsic w.toChain none head encoded = .ok (some k) ∧
    outcomeAt registry (w.hash head) ((w.polls i).events head) k = .ok outcome

/-! ## The watch -/

variable {w : World} {timeout : ℤ} {encoded txHash : String} {i : ℕ}

theorem World.Made.earlier (h : w.Made timeout encoded i) {j : ℕ} (le : j ≤ i) :
    w.Made timeout encoded j := by
  have early := w.now_mono le
  exact ⟨lt_of_le_of_lt (by exact_mod_cast early) h.1, fun k hk => h.2 k (by omega)⟩

theorem findExtrinsic_none_iff {c : Chain} {head : ℕ} :
    findExtrinsic c none head encoded = .ok none ↔ ¬ c.Holds encoded head := by
  simp only [findExtrinsic, Except.ok.injEq, Option.map_eq_none_iff, List.findIdx?_eq_none_iff,
    Chain.Holds, Chain.LocatedAt, not_exists, not_and]
  constructor
  · intro none k xt hk
    simp [none xt (List.mem_of_getElem? hk)]
  · intro none xt hx
    obtain ⟨k, hk⟩ := List.mem_iff_getElem?.1 hx
    simpa using none k xt hk

theorem locatedAt_of_findExtrinsic {c : Chain} {head k : ℕ}
    (h : findExtrinsic c none head encoded = .ok (some k)) : c.LocatedAt encoded head k := by
  simp only [findExtrinsic, Except.ok.injEq, Option.map_eq_some_iff] at h
  obtain ⟨k, found, rfl⟩ := h
  obtain ⟨short, fits, -⟩ := List.findIdx?_eq_some_iff_getElem.1 found
  have small := c.bounded head
  rw [Nat.mod_eq_of_lt (by omega)]
  exact ⟨_, List.getElem?_eq_getElem short, fits⟩

theorem exists_findExtrinsic {c : Chain} {head : ℕ} (holds : c.Holds encoded head) :
    ∃ k, findExtrinsic c none head encoded = .ok (some k) := by
  cases found : findExtrinsic c none head encoded with
  | error e => simp [findExtrinsic] at found
  | ok index =>
    cases index with
    | none => exact absurd holds (findExtrinsic_none_iff.1 found)
    | some k => exact ⟨k, rfl⟩

/-- A poll whose check is early enough, and whose head holds the bytes, ends the watch there. -/
theorem watchBody_hit {head k : ℕ} (early : (w.now i : ℤ) < timeout) (sees : (w.polls i).Sees head)
    (found : findExtrinsic w.toChain none head encoded = .ok (some k)) :
    watchBody registry duration w timeout encoded txHash i =
      .done (finish registry txHash (w.hash head) ((w.polls i).events head) k) := by
  simp [watchBody, early, sees.1, sees.2, found]

/-- Any other such poll goes on. -/
theorem watchBody_miss (early : (w.now i : ℤ) < timeout) (misses : ¬ w.Hits encoded i) :
    watchBody registry duration w timeout encoded txHash i = .next (i + 1) := by
  unfold watchBody
  rw [if_neg (not_not.2 early)]
  cases polled : (w.polls i).head with
  | error e => rfl
  | ok head =>
    cases block : (w.polls i).block with
    | some e => rfl
    | none =>
      have absent : ¬ w.Holds encoded head := fun holds => misses ⟨head, ⟨polled, block⟩, holds⟩
      simp [findExtrinsic_none_iff.2 absent]

/-- The first poll whose head holds the bytes decides. -/
theorem watch_hit {head k : ℕ} (made : w.Made timeout encoded i) (sees : (w.polls i).Sees head)
    (found : findExtrinsic w.toChain none head encoded = .ok (some k)) :
    Loop.run (watchVariant registry duration w timeout encoded txHash) 0 =
      finish registry txHash (w.hash head) ((w.polls i).events head) k := by
  refine Loop.run_rule _ (Q := (· = _)) (I := (· ≤ i)) (fun j le => ?_) 0 (Nat.zero_le i)
  rcases Nat.eq_or_lt_of_le le with rfl | before
  · rw [watchBody_hit registry duration made.1 sees found]
    rfl
  · rw [watchBody_miss registry duration (made.earlier le).1 (made.2 j before)]
    exact before

/-- Without such a poll the deadline passes. -/
theorem watch_timeout (misses : ∀ i, w.Made timeout encoded i → ¬ w.Hits encoded i) :
    Loop.run (watchVariant registry duration w timeout encoded txHash) 0 =
      .error (finalityTimeout duration timeout) := by
  refine Loop.run_rule _ (Q := (· = _)) (I := fun i => ∀ j < i, ¬ w.Hits encoded j)
    (fun i missed => ?_) 0 (fun j hj => absurd hj (Nat.not_lt_zero j))
  by_cases early : (w.now i : ℤ) < timeout
  · have missed' := misses i ⟨early, missed⟩
    rw [watchBody_miss registry duration early missed']
    intro j hj
    rcases Nat.lt_succ_iff_lt_or_eq.1 hj with before | rfl
    · exact missed j before
    · exact missed'
  · simp [watchBody, early]

theorem World.InTime.inWindow {b : ℕ} (h : w.InTime timeout encoded b) :
    w.InWindow timeout encoded b := by
  obtain ⟨i, head, made, -, seen⟩ := h
  exact ⟨i, head, made, seen⟩

/-- A watch in whose window some block holds the bytes returns the outcome of such a place just when
a poll saw the very block as the head. -/
theorem returns_iff {b : ℕ} (inWindow : w.InWindow timeout encoded b) :
    w.Returns registry timeout encoded txHash
        (Loop.run (watchVariant registry duration w timeout encoded txHash) 0) ↔
      w.HeadHolds registry timeout encoded := by
  constructor
  · rintro ⟨_, _, _, _, _, _, _, _, delivered⟩
    obtain ⟨i, made, head, sees, headHolds⟩ :
        ∃ i, w.Made timeout encoded i ∧ w.Hits encoded i := by
      by_contra none
      rw [watch_timeout registry duration fun i made hits => none ⟨i, made, hits⟩] at delivered
      cases delivered
    obtain ⟨j, seen, made', sees', after, upTo⟩ := inWindow
    -- The watch ends at poll `i`, so the window is no larger than what that poll saw.
    have order : j ≤ i := not_lt.1 fun before => made'.2 i before ⟨head, sees, headHolds⟩
    have grown := w.grows j i seen head order sees'.1 sees.1
    obtain ⟨k, found⟩ := exists_findExtrinsic headHolds
    rw [watch_hit registry duration made sees found] at delivered
    cases read : outcomeAt registry (w.hash head) ((w.polls i).events head) k with
    | error e => simp [finish, read] at delivered
    | ok outcome => exact ⟨i, head, k, outcome, made, sees, by omega, found, read⟩
  · rintro ⟨i, head, k, outcome, made, sees, after, found, read⟩
    refine ⟨i, head, k, outcome, made, ⟨i, head, made, sees, after, le_rfl⟩,
      locatedAt_of_findExtrinsic found, read, ?_⟩
    rw [watch_hit registry duration made sees found, finish, read]

/-- `SubmitAndWatch` delivers what was finalized in its window just when nothing was, or when a poll
saw the very block as the head; and likewise what was finalized in time. -/
theorem submitAndWatch_delivers_iff (author : String → Except Error String)
    (assembled : Except Error String) (submitted : assembled = .ok encoded)
    (accepted : author encoded = .ok txHash) :
    (w.Delivers registry (effectiveTimeout timeout) encoded txHash
        (submitAndWatch registry duration w assembled author timeout) ↔
      (∀ b, w.InWindow (effectiveTimeout timeout) encoded b → ¬ w.Holds encoded b) ∨
        w.HeadHolds registry (effectiveTimeout timeout) encoded) ∧
    (w.DeliversInTime registry (effectiveTimeout timeout) encoded txHash
        (submitAndWatch registry duration w assembled author timeout) ↔
      (∀ b, w.InTime (effectiveTimeout timeout) encoded b → ¬ w.Holds encoded b) ∨
        w.HeadHolds registry (effectiveTimeout timeout) encoded) := by
  subst submitted
  simp only [submitAndWatch, accepted]
  -- Both windows only ask that some block of the larger one holds the bytes.
  have of_window {Window : ℕ → Prop}
      (inside : ∀ b, Window b → w.InWindow (effectiveTimeout timeout) encoded b) :
      ((∃ b, Window b ∧ w.Holds encoded b) →
        w.Returns registry (effectiveTimeout timeout) encoded txHash
          (Loop.run (watchVariant registry duration w (effectiveTimeout timeout) encoded txHash) 0)) ↔
      (∀ b, Window b → ¬ w.Holds encoded b) ∨
        w.HeadHolds registry (effectiveTimeout timeout) encoded := by
    by_cases window : ∃ b, Window b ∧ w.Holds encoded b
    · obtain ⟨b, listed, holds⟩ := window
      have some_ : ¬ ∀ b, Window b → ¬ w.Holds encoded b := fun none => none b listed holds
      rw [returns_iff registry duration (inside b listed), or_iff_right some_]
      exact ⟨fun delivers => delivers ⟨b, listed, holds⟩, fun read _ => read⟩
    · exact iff_of_true (fun some_ => absurd some_ window)
        (.inl fun b listed holds => window ⟨b, listed, holds⟩)
  exact ⟨of_window fun b => id, of_window fun b => World.InTime.inWindow⟩

end

/-! ## A head that passes the block -/

/-- Block 1 holds the bytes, and every poll sees `seen` as the finalized head. -/
def steadyWorld (seen : ℕ) : World where
  hash b := [UInt8.ofNat b]
  extrinsics b := if b = 1 then ["0xab"] else []
  bounded b := by split <;> simp
  start := 0
  now i := i * storeFinalityInterval
  polled i := (i + 1) * storeFinalityInterval
  slept i := by rw [Nat.add_mul, Nat.one_mul]
  answered i := le_rfl
  polls _ := { head := .ok seen, block := none, events := fun _ => .ok [] }
  later i head _ := Nat.zero_le head
  grows i j a b _ ha hb := by
    obtain rfl := Except.ok.inj ha
    obtain rfl := Except.ok.inj hb
    exact le_rfl

/-- A codec of blocks without events. -/
def silentCodec : Decoder Unit Unit where
  count bytes := .ok (0, bytes)
  phase _ := .error "EOF"
  id _ := .error "EOF"
  dispatchError _ := .error "EOF"
  topics _ := .error "EOF"
  registry _ := none
  proxyExecutedID := none
  extrinsicFailedID := none

theorem submitAndWatch_delivers_iff_steady :
    (steadyWorld 1).DeliversInTime (.ok silentCodec) (effectiveTimeout 0) "0xab" "0xcd"
      (submitAndWatch (.ok silentCodec) (fun _ => "2m0s") (steadyWorld 1) (.ok "0xab")
        (fun _ => .ok "0xcd") 0) :=
  (submitAndWatch_delivers_iff (.ok silentCodec) (fun _ => "2m0s") (fun _ => .ok "0xcd")
    (.ok "0xab") rfl rfl).2.2 (.inr ⟨0, 1, 0, .empty, ⟨by decide, fun j hj => by omega⟩, ⟨rfl, rfl⟩,
      by decide, by decide, rfl⟩)

/-- The head is past block 1 at every poll, so the watch times out. -/
theorem steadyWorld_missed :
    ¬ (steadyWorld 2).DeliversInTime (.ok silentCodec) (effectiveTimeout 0) "0xab" "0xcd"
      (submitAndWatch (.ok silentCodec) (fun _ => "2m0s") (steadyWorld 2) (.ok "0xab")
        (fun _ => .ok "0xcd") 0) := by
  have misses (i : ℕ) : ¬ (steadyWorld 2).Hits "0xab" i := by
    rintro ⟨head, sees, k, xt, there, -⟩
    obtain rfl : 2 = head := Except.ok.inj sees.1
    simp [steadyWorld] at there
  intro delivers
  obtain ⟨_, _, _, _, _, _, _, _, delivered⟩ := delivers ⟨1,
    ⟨0, 2, ⟨by decide, fun j hj => by omega⟩, by decide, ⟨rfl, rfl⟩, by decide, by decide⟩,
    0, "0xab", rfl, by decide⟩
  exact nomatch delivered.symm.trans
    (watch_timeout (.ok silentCodec) (fun _ => "2m0s") fun i _ => misses i)

end MatterSdk.Go
