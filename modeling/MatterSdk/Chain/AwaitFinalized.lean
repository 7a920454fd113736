import MatterSdk.Lib.Loop
import MatterSdk.Scopes.Parse
import MatterSdk.Wire

/-!
# Waiting for finality in Python

`_await_finalized` of the Python chain client, which scans every block that a poll finds newly
finalized for the submitted bytes.
-/

namespace MatterSdk.Python

/-! ## The node and the clock -/

/-- What `_await_finalized` raises: its own timeout, or what a read of the node has raised. -/
inductive WaitError (ε : Type) where
  | finalityTimeout (message pallet call : String)
  | raised (e : ε)
deriving DecidableEq, Repr

/-- The node and its finalized chain.  A read may raise. -/
structure Substrate (ε : Type) where
  /-- The number of the finalized head, at each poll. -/
  finalisedHead : ℕ → Except ε ℕ
  getBlockHash : ℕ → Except ε String
  /-- The extrinsics of the block of a hash, as `chain_getBlock` shows them. -/
  getBlock : String → Except ε (List String)
  grows : ∀ i j head head', i ≤ j → finalisedHead i = .ok head → finalisedHead j = .ok head' →
    head ≤ head'

/-- The monotonic clock: the time at which the deadline is set, that of each poll, and the reading
after the poll's scan.  Times are floats, whose differences have the right sign. -/
structure Clock (τ : Type) [LinearOrder τ] [Zero τ] [Sub τ] where
  begun : τ
  polled : ℕ → τ
  checked : ℕ → τ
  polled_le : ∀ i, polled i ≤ checked i
  checked_le : ∀ i, checked i ≤ polled (i + 1)
  sub_nonpos : ∀ deadline i, deadline - checked i ≤ 0 ↔ deadline ≤ checked i

theorem Clock.checked_le_polled {τ : Type} [LinearOrder τ] [Zero τ] [Sub τ] (clock : Clock τ)
    {i j : ℕ} (before : i < j) : clock.checked i ≤ clock.polled j := by
  induction before with
  | refl => exact clock.checked_le i
  | step _ ih => exact ih.trans ((clock.polled_le _).trans (clock.checked_le _))

/-- What the watch does, in order. -/
inductive WatchEvent (τ : Type) where
  | polled (head : ℕ)
  | inspected (number : ℕ)
  | slept (seconds : τ)
deriving DecidableEq, Repr

/-- The state of a watch, with the record of what it has done. -/
structure Watch (τ : Type) where
  polls : ℕ
  nextNumber : ℕ
  log : List (WatchEvent τ)

def WatchEvent.inspected? {τ : Type} : WatchEvent τ → Option ℕ
  | .inspected number => some number
  | _ => none

def WatchEvent.polled? {τ : Type} : WatchEvent τ → Option ℕ
  | .polled head => some head
  | _ => none

/-- The blocks inspected so far. -/
def Watch.inspected {τ : Type} (s : Watch τ) : List ℕ := s.log.filterMap (·.inspected?)

/-- The last head that a poll has seen. -/
def Watch.lastHead {τ : Type} (s : Watch τ) : ℕ := ((s.log.filterMap (·.polled?)).getLast?).getD 0

def Watch.record {τ : Type} (s : Watch τ) (event : WatchEvent τ) : Watch τ :=
  { s with log := s.log ++ [event] }

section

variable {τ : Type} (s : Watch τ)

@[simp] theorem Watch.inspected_record (event : WatchEvent τ) :
    (s.record event).inspected = s.inspected ++ event.inspected?.toList := by
  cases event <;> simp [record, inspected, WatchEvent.inspected?]

@[simp] theorem Watch.lastHead_polled (head : ℕ) : (s.record (.polled head)).lastHead = head := by
  simp [record, lastHead, WatchEvent.polled?]

@[simp] theorem Watch.lastHead_inspected (number : ℕ) :
    (s.record (.inspected number)).lastHead = s.lastHead := by
  simp [record, lastHead, WatchEvent.polled?]

@[simp] theorem Watch.lastHead_slept (seconds : τ) :
    (s.record (.slept seconds)).lastHead = s.lastHead := by
  simp [record, lastHead, WatchEvent.polled?]

end

/-! ## The client -/

/-- `target.partition(".")`, without the separator. -/
def partition (target : String) : String × String :=
  (String.ofList (target.toList.takeWhile (· ≠ '.')),
    String.ofList ((target.toList.dropWhile (· ≠ '.')).drop 1))

section

-- `lower` is `str.lower`, `general` formats a number of seconds with `:g`.
variable {ε τ : Type} (node : Substrate ε) (lower : Casing.Lowering ['k'] dottedPair)
  (general : τ → String)

/-- `FinalityTimeoutError`, as the watch raises it. -/
def finalityTimeoutError (target : String) (timeout : τ) : WaitError ε :=
  .finalityTimeout (target ++ " did not finalize within " ++ general timeout ++
    "s; it may still land, so check the chain before resubmitting")
    (partition target).1 (partition target).2

/-- The place of the wanted extrinsic in a block. -/
def findWanted (wanted : List Char) (number : ℕ) : Except ε (Option (String × ℕ)) :=
  match node.getBlockHash number with
  | .error e => .error e
  | .ok blockHash =>
    match node.getBlock blockHash with
    | .error e => .error e
    | .ok extrinsics =>
      .ok ((extrinsics.findIdx? fun extrinsic => lower.lower extrinsic.toList = wanted).map
        (blockHash, ·))

/-- One round of the inner loop; it leaves with the outcome of the call, or without one. -/
def scanBody (wanted : List Char) (head : ℕ) (s : Watch τ) :
    Loop.Flow (Option (Except (WaitError ε) (String × ℕ)) × Watch τ) (Watch τ) :=
  if s.nextNumber ≤ head then
    match findWanted node lower wanted s.nextNumber with
    | .error e => .done (some (.error (.raised e)), s)
    | .ok (some found) =>
      .done (some (.ok found), s.record (.inspected s.nextNumber))
    | .ok none =>
      .next { s.record (.inspected s.nextNumber) with nextNumber := s.nextNumber + 1 }
  else .done (none, s)

theorem scanBody_next {wanted : List Char} {head : ℕ} {s s' : Watch τ}
    (h : scanBody node lower wanted head s = .next s') :
    s.nextNumber ≤ head ∧ s'.nextNumber = s.nextNumber + 1 := by
  unfold scanBody at h
  by_cases more : s.nextNumber ≤ head
  · rw [if_pos more] at h
    refine ⟨more, ?_⟩
    split at h
    · cases h
    · cases h
    · obtain rfl := Loop.Flow.next.inj h
      rfl
  · rw [if_neg more] at h
    cases h

/-- The inner loop ends at the head. -/
def scanVariant (wanted : List Char) (head : ℕ) :
    Loop.Variant (scanBody (τ := τ) node lower wanted head) where
  measure s := head + 1 - s.nextNumber
  decreases s s' h := by
    obtain ⟨more, next⟩ := scanBody_next node lower h
    omega

variable [LinearOrder τ] [Zero τ] [One τ] [Add τ] [Sub τ] (clock : Clock τ)

/-- One round of the outer loop: a poll, the scan of the blocks it has finalized, and the check of the
deadline. -/
def pollBody (wanted : List Char) (deadline : τ) (timedOut : WaitError ε) (s : Watch τ) :
    Loop.Flow (Except (WaitError ε) (String × ℕ) × Watch τ) (Watch τ) :=
  match node.finalisedHead s.polls with
  | .error e => .done (.error (.raised e), s)
  | .ok head =>
    match Loop.run (scanVariant node lower wanted head) (s.record (.polled head)) with
    | (some result, s) => .done (result, s)
    | (none, s) =>
      let remaining := deadline - clock.checked s.polls
      if remaining ≤ 0 then .done (.error timedOut, s)
      else .next { s.record (.slept (min 1 remaining)) with polls := s.polls + 1 }

/-- `_await_finalized`, for `n` rounds. -/
def awaitFinalized (dataHex : String) (finalizedBefore : ℕ) (target : String) (timeout : τ) (n : ℕ) :
    Loop.Flow (Except (WaitError ε) (String × ℕ) × Watch τ) (Watch τ) :=
  Loop.rounds (pollBody node lower clock (lower.lower dataHex.toList) (clock.begun + timeout)
      (finalityTimeoutError general target timeout)) n
    { polls := 0, nextNumber := finalizedBefore + 1, log := [] }

end

/-! ## The blocks that hold the bytes -/

/-- The bytes that a text of hex digits after `0x` spells, in either case. -/
def hexBytes (text : String) : Option Bytes :=
  match text.toList with
  | '0' :: x :: digits => if x.toLower = 'x' then Hex.decode (digits.map Char.toNat) else none
  | _ => none

/-- The extrinsic at `index` of the block is exactly the bytes. -/
def Substrate.HoldsAt {ε : Type} (node : Substrate ε) (data : Bytes) (number : ℕ)
    (blockHash : String) (index : ℕ) : Prop :=
  ∃ extrinsics extrinsic, node.getBlockHash number = .ok blockHash ∧
    node.getBlock blockHash = .ok extrinsics ∧ extrinsics[index]? = some extrinsic ∧
    hexBytes extrinsic = some data

def Substrate.Holds {ε : Type} (node : Substrate ε) (data : Bytes) (number : ℕ) : Prop :=
  ∃ blockHash index, node.HoldsAt data number blockHash index

/-- `index` is the first place of the bytes in the block. -/
def Substrate.FirstAt {ε : Type} (node : Substrate ε) (data : Bytes) (number : ℕ)
    (blockHash : String) (index : ℕ) : Prop :=
  node.HoldsAt data number blockHash index ∧ ∀ j < index, ¬ node.HoldsAt data number blockHash j

/-- What a search of the block should find: its first place of the bytes. -/
def Substrate.Finds {ε : Type} (node : Substrate ε) (data : Bytes) (number : ℕ) :
    Option (String × ℕ) → Prop
  | none => ¬ node.Holds data number
  | some (blockHash, index) => node.FirstAt data number blockHash index

/-- A read of the node raises `e`. -/
def Substrate.Raises {ε : Type} (node : Substrate ε) (e : ε) : Prop :=
  (∃ i, node.finalisedHead i = .error e) ∨ (∃ number, node.getBlockHash number = .error e) ∨
    ∃ blockHash, node.getBlock blockHash = .error e

/-- The blocks inspected are those above `before` up to `upTo`, each once, in order. -/
def Watch.Inspected {τ : Type} (s : Watch τ) (before upTo : ℕ) : Prop :=
  s.inspected = List.range' (before + 1) (upTo - before)

theorem hexBytes_eq_some_iff {text : String} {data : Bytes} :
    hexBytes text = some data ↔ text.toList.map Char.toLower = '0' :: 'x' :: Hex.encode data := by
  have zero (c : Char) : c.toLower = '0' ↔ c = '0' := by
    have digit : c.toLower.toNat = 48 ↔ c.toNat = 48 := by
      rw [Hex.toNat_toLower]
      split <;> omega
    rw [← Char.toNat_inj, ← Char.toNat_inj]
    exact digit
  unfold hexBytes
  match text.toList with
  | [] => simp
  | [c] => simp
  | c :: x :: digits =>
    rw [List.map_cons, List.map_cons, List.cons.injEq, List.cons.injEq, zero,
      ← Hex.decode_map_toNat_iff]
    by_cases is_zero : c = '0'
    · subst is_zero
      by_cases is_x : x.toLower = 'x'
      · simp [is_x]
      · simp [is_x]
    · simp [is_zero]

/-- The texts that spell the bytes are those of one lower case. -/
theorem lower_eq_lower_iff (lower : Casing.Lowering ['k'] dottedPair) {dataHex : String}
    {data : Bytes} (spells : hexBytes dataHex = some data) (text : String) :
    lower.lower text.toList = lower.lower dataHex.toList ↔ hexBytes text = some data := by
  have digits : ∀ d < 16, (Hex.digitChar d).toNat < 128 ∧ Hex.digitChar d ≠ 'k' ∧
      Hex.digitChar d ≠ 'i' := by decide
  have letters : ∀ c ∈ '0' :: 'x' :: Hex.encode data, c.toNat < 128 ∧ c ≠ 'k' ∧ c ≠ 'i' := by
    intro c hc
    rcases List.mem_cons.mp hc with rfl | hc
    · decide
    rcases List.mem_cons.mp hc with rfl | hc
    · decide
    obtain ⟨d, small, rfl⟩ := Hex.exists_of_mem_encode hc
    exact digits d small
  have lowered (text : String) :
      lower.lower text.toList = '0' :: 'x' :: Hex.encode data ↔ hexBytes text = some data := by
    rw [hexBytes_eq_some_iff]
    exact Casing.lower_eq_iff_toLower (Casing.definite_self _) definite_dottedPair lower
      (fun c hc => (letters c hc).1) (fun hk => (letters _ hk).2.1 rfl)
      (fun hi => (letters _ hi).2.2 rfl)
  rw [(lowered dataHex).mpr spells, lowered]

section

variable {ε τ : Type} {node : Substrate ε} {lower : Casing.Lowering ['k'] dottedPair}
  {dataHex : String} {data : Bytes} (spells : hexBytes dataHex = some data)

theorem findWanted_raises {wanted : List Char} {number : ℕ} {e : ε}
    (h : findWanted node lower wanted number = .error e) : node.Raises e := by
  unfold findWanted at h
  cases named : node.getBlockHash number with
  | error e' =>
    rw [named] at h
    obtain rfl := Except.error.inj h
    exact .inr (.inl ⟨number, named⟩)
  | ok blockHash =>
    cases read : node.getBlock blockHash with
    | error e' =>
      simp only [named, read] at h
      obtain rfl := Except.error.inj h
      exact .inr (.inr ⟨blockHash, read⟩)
    | ok extrinsics => simp [named, read] at h

include spells

theorem findWanted_ok {number : ℕ} {found : Option (String × ℕ)}
    (h : findWanted node lower (lower.lower dataHex.toList) number = .ok found) :
    node.Finds data number found := by
  unfold findWanted at h
  cases named : node.getBlockHash number with
  | error e => simp [named] at h
  | ok blockHash =>
  cases read : node.getBlock blockHash with
  | error e => simp [named, read] at h
  | ok extrinsics =>
  simp only [named, read, Except.ok.injEq] at h
  -- The block has one hash and one list of extrinsics.
  have at_iff (h' : String) (index : ℕ) : node.HoldsAt data number h' index ↔ h' = blockHash ∧
      ∃ extrinsic, extrinsics[index]? = some extrinsic ∧ hexBytes extrinsic = some data := by
    constructor
    · rintro ⟨xs, extrinsic, named', read', there, same⟩
      obtain rfl := Except.ok.inj (named.symm.trans named')
      obtain rfl := Except.ok.inj (read.symm.trans read')
      exact ⟨rfl, extrinsic, there, same⟩
    · rintro ⟨rfl, extrinsic, there, same⟩
      exact ⟨extrinsics, extrinsic, named, read, there, same⟩
  subst h
  cases sought : extrinsics.findIdx? fun extrinsic =>
      decide (lower.lower extrinsic.toList = lower.lower dataHex.toList) with
  | none =>
    rintro ⟨h', index, held⟩
    obtain ⟨-, extrinsic, there, same⟩ := (at_iff h' index).mp held
    have differs := List.findIdx?_eq_none_iff.mp sought extrinsic (List.mem_of_getElem? there)
    rw [decide_eq_false_iff_not, lower_eq_lower_iff lower spells] at differs
    exact differs same
  | some index =>
    obtain ⟨short, fits, before⟩ := List.findIdx?_eq_some_iff_getElem.mp sought
    rw [decide_eq_true_iff, lower_eq_lower_iff lower spells] at fits
    refine ⟨(at_iff blockHash index).mpr ⟨rfl, _, List.getElem?_eq_getElem short, fits⟩, ?_⟩
    intro j less held
    obtain ⟨-, extrinsic, there, same⟩ := (at_iff blockHash j).mp held
    obtain ⟨_, rfl⟩ := List.getElem?_eq_some_iff.mp there
    have differs := before j less
    rw [decide_eq_true_iff, lower_eq_lower_iff lower spells] at differs
    exact differs same

/-! ## The scan -/

omit spells

theorem Watch.Inspected.mem_iff {s : Watch τ} {before upTo : ℕ} (h : s.Inspected before upTo)
    {b : ℕ} : b ∈ s.inspected ↔ before < b ∧ b ≤ upTo := by
  rw [h, List.mem_range'_1]
  omega

/-- Before the next block: the blocks up to there have been inspected, and none holds the bytes. -/
structure Watch.Good (s : Watch τ) (node : Substrate ε) (data : Bytes) (before : ℕ) : Prop where
  after : before < s.nextNumber
  inspected : s.Inspected before (s.nextNumber - 1)
  clear : ∀ b ∈ s.inspected, ¬ node.Holds data b

/-- Inspecting the next block moves the watch on by it. -/
theorem Watch.Good.record {s : Watch τ} {before : ℕ} (good : s.Good node data before) :
    (s.record (.inspected s.nextNumber)).Inspected before s.nextNumber := by
  have after := good.after
  unfold Watch.Inspected
  rw [Watch.inspected_record, good.inspected,
    show s.nextNumber - before = s.nextNumber - 1 - before + 1 by omega, List.range'_concat,
    show before + 1 + 1 * (s.nextNumber - 1 - before) = s.nextNumber by omega]
  rfl

variable [LinearOrder τ] [Zero τ] [Sub τ] {clock : Clock τ} {before : ℕ} {deadline : τ}

/-- What is true of the outcome of a watch and of what it has done. -/
def Awaited (node : Substrate ε) (clock : Clock τ) (data : Bytes) (before : ℕ) (deadline : τ)
    (s : Watch τ) : Except (WaitError ε) (String × ℕ) → Prop
  | .ok (blockHash, index) => ∃ b, before < b ∧ b ≤ s.lastHead ∧ s.Inspected before b ∧
      node.FirstAt data b blockHash index ∧ ∀ c ∈ s.inspected, c < b → ¬ node.Holds data c
  | .error (.finalityTimeout ..) => s.Inspected before s.lastHead ∧
      (∀ b ∈ s.inspected, ¬ node.Holds data b) ∧ node.finalisedHead s.polls = .ok s.lastHead ∧
      deadline ≤ clock.checked s.polls
  | .error (.raised e) => node.Raises e ∧ (∃ b ≤ s.lastHead, s.Inspected before b) ∧
      ∀ b ∈ s.inspected, ¬ node.Holds data b

/-- The state in the scan of a poll that sees `head`. -/
structure Watch.Scanning (s : Watch τ) (node : Substrate ε) (data : Bytes) (before head polls : ℕ) :
    Prop extends s.Good node data before where
  le : s.nextNumber ≤ max before head + 1
  lastHead : s.lastHead = head
  polls : s.polls = polls

/-- What a scan leaves: the outcome, or the state in which all blocks up to the head are inspected. -/
def Scanned (node : Substrate ε) (clock : Clock τ) (data : Bytes) (before : ℕ) (deadline : τ)
    (head polls : ℕ) : Option (Except (WaitError ε) (String × ℕ)) × Watch τ → Prop
  | (none, s) => s.Scanning node data before head polls ∧ s.nextNumber = max before head + 1
  | (some result, s) => Awaited node clock data before deadline s result

include spells

theorem scanBody_spec {head polls : ℕ} (s : Watch τ) (h : s.Scanning node data before head polls) :
    (scanBody node lower (lower.lower dataHex.toList) head s).Meets
      (Scanned node clock data before deadline head polls)
      (·.Scanning node data before head polls) := by
  have after := h.after
  have upTo := h.le
  unfold scanBody
  by_cases more : s.nextNumber ≤ head
  · rw [if_pos more]
    have within := h.toGood.record
    have earlier (b : ℕ) (hb : b ∈ (s.record (.inspected s.nextNumber)).inspected)
        (less : b < s.nextNumber) : ¬ node.Holds data b := by
      have range := within.mem_iff.mp hb
      exact h.clear b (h.inspected.mem_iff.mpr ⟨range.1, by omega⟩)
    cases searched : findWanted node lower (lower.lower dataHex.toList) s.nextNumber with
    | error e =>
      refine ⟨findWanted_raises searched, ⟨_, ?_, h.inspected⟩, h.clear⟩
      rw [h.lastHead]
      omega
    | ok found =>
      have finds := findWanted_ok spells searched
      cases found with
      | some place =>
        refine ⟨s.nextNumber, after, ?_, within, finds, earlier⟩
        rw [Watch.lastHead_inspected, h.lastHead]
        exact more
      | none =>
        refine ⟨⟨Nat.lt_succ_of_lt after, within, fun b hb => ?_⟩, ?_, ?_, h.polls⟩
        · have range := within.mem_iff.mp hb
          rcases Nat.lt_or_eq_of_le range.2 with less | rfl
          · exact earlier b hb less
          · exact finds
        · show s.nextNumber + 1 ≤ _
          omega
        · exact (Watch.lastHead_inspected s _).trans h.lastHead
  · rw [if_neg more]
    exact ⟨h, by omega⟩

/-! ## The watch -/

omit spells [LinearOrder τ] [Zero τ] [Sub τ]

/-- The state before a poll: all blocks up to the last head have been inspected, and none holds the
bytes. -/
structure Watch.Between (s : Watch τ) (node : Substrate ε) (data : Bytes) (before made : ℕ) :
    Prop extends s.Good node data before where
  polls : s.polls = made
  next : s.nextNumber = max before s.lastHead + 1
  seen : ∀ i head, i < made → node.finalisedHead i = .ok head → head ≤ s.lastHead
  ahead : ∀ i head, made ≤ i → node.finalisedHead i = .ok head → s.lastHead ≤ head

theorem Watch.Inspected.of_max {s : Watch τ} {upTo : ℕ} (h : s.Inspected before (max before upTo)) :
    s.Inspected before upTo := by
  rw [Watch.Inspected, h, show max before upTo - before = upTo - before by omega]

theorem Watch.Between.inspected_lastHead {s : Watch τ} {polls : ℕ}
    (h : s.Between node data before polls) : s.Inspected before s.lastHead := by
  have upTo := h.inspected
  rw [h.next] at upTo
  exact upTo.of_max

/-- A poll starts a scan. -/
theorem Watch.Between.scanning {s : Watch τ} {head polls : ℕ} (h : s.Between node data before polls)
    (seen : node.finalisedHead s.polls = .ok head) :
    (s.record (.polled head)).Scanning node data before head polls := by
  have same : (s.record (.polled head)).inspected = s.inspected := by simp [WatchEvent.inspected?]
  have grown := h.ahead s.polls head h.polls.ge seen
  have next := h.next
  refine ⟨⟨h.after, ?_, ?_⟩, ?_, Watch.lastHead_polled s head, h.polls⟩
  · rw [Watch.Inspected, same]
    exact h.inspected
  · rw [same]
    exact h.clear
  · show s.nextNumber ≤ _
    omega

/-- After a scan that found nothing, the watch waits for the next poll. -/
theorem Watch.Scanning.between {s : Watch τ} {head polls : ℕ} (seconds : τ)
    (h : s.Scanning node data before head polls) (next : s.nextNumber = max before head + 1)
    (seen : node.finalisedHead polls = .ok head) :
    Watch.Between { s.record (.slept seconds) with polls := s.polls + 1 } node data before
      (polls + 1) := by
  have same : (s.record (.slept seconds)).inspected = s.inspected := by simp [WatchEvent.inspected?]
  have last : (s.record (.slept seconds)).lastHead = head :=
    (Watch.lastHead_slept s seconds).trans h.lastHead
  refine ⟨⟨h.after, ?_, ?_⟩, congrArg (· + 1) h.polls, ?_, ?_, ?_⟩
  · show (s.record (.slept seconds)).inspected = _
    rw [same]
    exact h.inspected
  · show ∀ b ∈ (s.record (.slept seconds)).inspected, _
    rw [same]
    exact h.clear
  · show s.nextNumber = max before (s.record (.slept seconds)).lastHead + 1
    rw [last, next]
  · intro i head' before seen'
    show head' ≤ (s.record (.slept seconds)).lastHead
    rw [last]
    exact node.grows i polls _ _ (Nat.lt_succ_iff.mp before) seen' seen
  · intro i head' later seen'
    show (s.record (.slept seconds)).lastHead ≤ head'
    rw [last]
    exact node.grows polls i _ _ (Nat.le_of_succ_le later) seen seen'

variable [LinearOrder τ] [Zero τ] [One τ] [Sub τ] {clock : Clock τ} {deadline : τ}

include spells

theorem pollBody_spec {message pallet call : String} (polls : ℕ) (s : Watch τ)
    (h : s.Between node data before polls) :
    (pollBody node lower clock (lower.lower dataHex.toList) deadline
        (.finalityTimeout message pallet call) s).Meets
      (fun r => Awaited node clock data before deadline r.2 r.1)
      (·.Between node data before (polls + 1)) := by
  unfold pollBody
  cases seen : node.finalisedHead s.polls with
  | error e => exact ⟨.inl ⟨_, seen⟩, ⟨_, le_rfl, h.inspected_lastHead⟩, h.clear⟩
  | ok head =>
    have scanned : Scanned node clock data before deadline head polls
        (Loop.run (scanVariant node lower (lower.lower dataHex.toList) head)
          (s.record (.polled head))) :=
      Loop.run_rule _ (scanBody_spec spells) _ (h.scanning seen)
    dsimp only
    match Loop.run (scanVariant node lower (lower.lower dataHex.toList) head)
      (s.record (.polled head)), scanned with
    | (some result, s'), outcome => exact outcome
    | (none, s'), ⟨scanning, next⟩ =>
      have polled : node.finalisedHead s'.polls = .ok head := by
        rw [scanning.polls, ← h.polls]
        exact seen
      dsimp only
      by_cases late : deadline - clock.checked s'.polls ≤ 0
      · rw [if_pos late]
        have upTo := scanning.inspected
        rw [next, Nat.add_sub_cancel, ← scanning.lastHead] at upTo
        refine ⟨upTo.of_max, scanning.clear, ?_, (clock.sub_nonpos _ _).mp late⟩
        rw [scanning.lastHead]
        exact polled
      · rw [if_neg late]
        exact scanning.between _ next (scanning.polls ▸ polled)

variable [Add τ]

/-- After any number of rounds. -/
theorem awaitFinalized_run (node : Substrate ε) (lower : Casing.Lowering ['k'] dottedPair)
    (general : τ → String) (clock : Clock τ) (before : ℕ) (target : String) (timeout : τ) (n : ℕ) :
    (awaitFinalized node lower general clock dataHex before target timeout n).Meets
      (fun r => Awaited node clock data before (clock.begun + timeout) r.2 r.1)
      (·.Between node data before n) := by
  unfold awaitFinalized finalityTimeoutError
  refine Loop.rounds_rule (fun n s h => pollBody_spec spells n s h) ?_ n
  have start : Watch.Inspected (τ := τ) { polls := 0, nextNumber := before + 1, log := [] } before
      before := by
    rw [Watch.Inspected, Nat.sub_self]
    rfl
  refine ⟨⟨Nat.lt_succ_self _, start, ?_⟩, rfl, ?_, ?_, ?_⟩
  · intro b none
    exact absurd none List.not_mem_nil
  · show before + 1 = max before 0 + 1
    rw [Nat.max_zero]
  · exact fun i head before => absurd before (Nat.not_lt_zero i)
  · exact fun i head _ _ => Nat.zero_le head

omit spells

/-- `_await_finalized` inspects the blocks above `before` up to the last head, each once and in order,
and its outcome is that of the first one that holds the bytes; where such a block is finalized at a
poll before the deadline, it does not time out. -/
theorem awaitFinalized_scans (node : Substrate ε) (lower : Casing.Lowering ['k'] dottedPair)
    (general : τ → String) (clock : Clock τ) (dataHex : String) (data : Bytes) (before : ℕ)
    (target : String) (timeout : τ) (spells : hexBytes dataHex = some data) :
    (∀ n, (awaitFinalized node lower general clock dataHex before target timeout n).Meets
      (fun r => Awaited node clock data before (clock.begun + timeout) r.2 r.1)
      (fun s => s.Inspected before s.lastHead ∧ ∀ b ∈ s.inspected, ¬ node.Holds data b)) ∧
    ∀ i head b, clock.polled i < clock.begun + timeout → node.finalisedHead i = .ok head →
      before < b → b ≤ head → node.Holds data b →
        ∃ n s, (∃ place, awaitFinalized node lower general clock dataHex before target timeout n =
            .done (.ok place, s)) ∨
          ∃ e, awaitFinalized node lower general clock dataHex before target timeout n =
            .done (.error (.raised e), s) := by
  refine ⟨fun n => ?_, fun i head b early seen above upTo held => ?_⟩
  · have ran := awaitFinalized_run spells node lower general clock before target timeout n
    exact ran.imp (fun _ h => h) fun s h => ⟨h.inspected_lastHead, h.clear⟩
  have ran := awaitFinalized_run spells node lower general clock before target timeout (i + 1)
  cases outcome : awaitFinalized node lower general clock dataHex before target timeout (i + 1) with
  | next s =>
    rw [outcome] at ran
    have reached := ran.seen i head (Nat.lt_succ_self i) seen
    exact absurd held (ran.clear b (ran.inspected_lastHead.mem_iff.mpr ⟨above, by omega⟩))
  | done r =>
    obtain ⟨result, s⟩ := r
    rw [outcome] at ran
    match result, ran with
    | .ok place, _ => exact ⟨i + 1, s, .inl ⟨place, outcome⟩⟩
    | .error (.raised e), _ => exact ⟨i + 1, s, .inr ⟨e, outcome⟩⟩
    | .error (.finalityTimeout ..), ⟨inspected, clear, last, late⟩ =>
      -- The timeout comes after poll `i`, which has seen the block.
      have order : i ≤ s.polls := by
        by_contra earlier
        exact absurd (late.trans (clock.checked_le_polled (Nat.lt_of_not_le earlier)))
          (not_le.mpr early)
      have reached := node.grows i s.polls _ _ order seen last
      exact absurd held (clear b (inspected.mem_iff.mpr ⟨above, upTo.trans reached⟩))

end

/-- Every poll sees one block more, and block 2 holds the bytes. -/
def growingNode : Substrate String where
  finalisedHead i := .ok (i + 1)
  getBlockHash number := .ok (if number = 2 then "0x02" else "0x01")
  getBlock blockHash := .ok (if blockHash = "0x02" then ["0x00", "0xABCD"] else ["0x00"])
  grows i j a b le ha hb := by
    obtain rfl := Except.ok.inj ha
    obtain rfl := Except.ok.inj hb
    exact Nat.succ_le_succ le

/-- Each poll comes a second after the last. -/
def tickingClock : Clock ℤ where
  begun := 0
  polled i := i
  checked i := i
  polled_le i := le_rfl
  checked_le i := by omega
  sub_nonpos deadline i := sub_nonpos

theorem awaitFinalized_scans_growing : hexBytes "0xabcd" = some [0xAB, 0xCD] ∧
    ∃ n s, (∃ place, awaitFinalized growingNode (Casing.charwise _ _) toString tickingClock "0xabcd" 0
        "Jobs.cancel_deployment" 120 n = .done (.ok place, s)) ∨
      ∃ e, awaitFinalized growingNode (Casing.charwise _ _) toString tickingClock "0xabcd" 0
        "Jobs.cancel_deployment" 120 n = .done (.error (.raised e), s) :=
  have spells : hexBytes "0xabcd" = some [0xAB, 0xCD] := by decide
  ⟨spells, (awaitFinalized_scans growingNode (Casing.charwise _ _) toString tickingClock "0xabcd"
    [0xAB, 0xCD] 0 "Jobs.cancel_deployment" 120 spells).2 1 2 2 (by decide) rfl (by decide)
    (by decide) ⟨"0x02", 1, _, _, rfl, rfl, rfl, by decide⟩⟩

end MatterSdk.Python
