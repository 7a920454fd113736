import MatterSdk.Chain.Recover

/-!
# One version of a secret

What `recover` reads and hands on belongs to one block, unless a block that arrives between its three
reads changes what is still to be read.
-/

namespace MatterSdk.Rust.Recover

def aadOf (record : Option StoredSecret) : Bytes := (record.map StoredSecret.aad).getD []

namespace World

/-- What was read is the record of some block, and the request made of it carries that record. -/
def Consistent (secretId : BitVec 128) (aad : Bytes) (answers : BitVec 32 → ChainAnswers)
    (finalizedHead : Except String Bytes) (w : World) : Prop :=
  ∀ stored, w.read = .done (.ok stored) → some stored ∈ w.blocks ∧
    ∀ request, recoverRead secretId aad answers finalizedHead stored = .ok request →
      Carries request stored

/-- A block that arrives between two reads leaves what is still to be read: the epoch and the AAD, or
the AAD. -/
def Keeps (w : World) : Act → Prop
  | .block record =>
    match w.read with
    | .epoch _ => record.map (fun s => (s.epoch, s.aad)) = w.head.map fun s => (s.epoch, s.aad)
    | .aad .. => aadOf record = aadOf w.head
    | _ => True
  | _ => True

def Settled (secretId : BitVec 128) : World → List Act → Prop
  | _, [] => True
  | w, act :: acts => w.Keeps act ∧ Settled secretId (w.step secretId act) acts

/-- Some block has what was read so far, and the latest one what is still to be read. -/
def Underway (w : World) : Prop :=
  match w.read with
  | .payload => True
  | .epoch envelope => ∃ s h, some s ∈ w.blocks ∧ s.envelope = envelope ∧ w.head = some h ∧
      h.epoch = s.epoch ∧ h.aad = s.aad
  | .aad envelope epoch => ∃ s, some s ∈ w.blocks ∧ s.envelope = envelope ∧ s.epoch = epoch ∧
      aadOf w.head = s.aad
  | .done (.ok stored) => some stored ∈ w.blocks
  | .done (.error _) => True

theorem block_underway {secretId : BitVec 128} {w : World} {record : Option StoredSecret}
    (underway : w.Underway) (keeps : w.Keeps (.block record)) :
    (w.step secretId (.block record)).Underway := by
  obtain ⟨head, past, read⟩ := w
  cases read with
  | payload => trivial
  | epoch envelope =>
    obtain ⟨s, h, seen, same, rfl, epoch, aad⟩ := underway
    have keeps : record.map (fun s => (s.epoch, s.aad)) = some (h.epoch, h.aad) := keeps
    obtain ⟨h', rfl, version⟩ := Option.map_eq_some_iff.mp keeps
    obtain ⟨epoch', aad'⟩ := Prod.mk.inj version
    exact ⟨s, h', List.mem_cons_of_mem _ seen, same, rfl, epoch'.trans epoch, aad'.trans aad⟩
  | aad envelope epoch =>
    obtain ⟨s, seen, same, rfl, aad⟩ := underway
    have keeps : aadOf record = aadOf head := keeps
    exact ⟨s, List.mem_cons_of_mem _ seen, same, rfl, keeps.trans aad⟩
  | done result =>
    cases result with
    | error e => trivial
    | ok stored => exact List.mem_cons_of_mem _ underway

theorem served_underway {secretId : BitVec 128} {w : World} (underway : w.Underway) :
    (w.step secretId .served).Underway := by
  obtain ⟨head, past, read⟩ := w
  cases read with
  | payload =>
    cases head with
    | none => trivial
    | some s => exact ⟨s, s, List.mem_cons_self .., rfl, rfl, rfl, rfl⟩
  | epoch envelope =>
    obtain ⟨s, h, seen, same, rfl, epoch, aad⟩ := underway
    exact ⟨s, seen, same, epoch.symm, aad⟩
  | aad envelope epoch =>
    obtain ⟨s, seen, rfl, rfl, aad⟩ := underway
    show some (StoredSecret.mk s.envelope s.epoch (aadOf head)) ∈ head :: past
    rw [aad]
    exact seen
  | done result => exact underway

theorem failed_underway {secretId : BitVec 128} {w : World} {detail : String}
    (underway : w.Underway) : (w.step secretId (.failed detail)).Underway := by
  obtain ⟨head, past, read⟩ := w
  cases read with
  | done result => exact underway
  | _ => trivial

theorem step_underway {secretId : BitVec 128} {w : World} {act : Act} (underway : w.Underway)
    (keeps : w.Keeps act) : (w.step secretId act).Underway := by
  cases act with
  | block record => exact block_underway underway keeps
  | served => exact served_underway underway
  | failed detail => exact failed_underway underway

theorem run_underway {secretId : BitVec 128} {w : World} {acts : List Act}
    (underway : w.Underway) (settled : Settled secretId w acts) :
    (w.run secretId acts).Underway := by
  induction acts generalizing w with
  | nil => exact underway
  | cons act acts ih => exact ih (step_underway underway settled.1) settled.2

theorem consistent_iff {secretId : BitVec 128} {aad : Bytes} {answers : BitVec 32 → ChainAnswers}
    {finalizedHead : Except String Bytes} {w : World} :
    w.Consistent secretId aad answers finalizedHead ↔
      ∀ stored, w.read = .done (.ok stored) → some stored ∈ w.blocks :=
  forall₂_congr fun _ _ => and_iff_left fun _ made => carries_of_recoverRead made

theorem consistent_done_iff {secretId : BitVec 128} {aad : Bytes}
    {answers : BitVec 32 → ChainAnswers} {finalizedHead : Except String Bytes} {w : World}
    {stored : StoredSecret} (read : w.read = .done (.ok stored)) :
    w.Consistent secretId aad answers finalizedHead ↔ some stored ∈ w.blocks := by
  rw [consistent_iff, read]
  constructor
  · intro seen
    exact seen stored rfl
  · rintro seen _ ⟨⟩
    exact seen

/-- The run of a reader whose calls are all served and that one block overtakes. -/
def overlap (secretId : BitVec 128) (old new : StoredSecret) (past : List (Option StoredSecret))
    (before after : ℕ) : World :=
  run secretId ⟨some old, past, .payload⟩
    (List.replicate before .served ++ .block (some new) :: List.replicate after .served)

/-- The acts of `overlap` keep what is still to be read. -/
def Harmless (secretId : BitVec 128) (old new : StoredSecret) (past : List (Option StoredSecret))
    (before after : ℕ) : Prop :=
  Settled secretId ⟨some old, past, .payload⟩
    (List.replicate before .served ++ .block (some new) :: List.replicate after .served)

theorem mem_blocks_iff {old new : StoredSecret} {past : List (Option StoredSecret)}
    (differ : old.envelope ≠ new.envelope)
    (alone : ∀ s, some s ∈ past → s.envelope = old.envelope → s = old) {s : StoredSecret}
    (mixed : s.envelope = old.envelope) : some s ∈ some new :: some old :: past ↔ s = old := by
  constructor
  · intro seen
    rcases List.mem_cons.mp seen with same | seen
    · obtain rfl := Option.some.inj same
      exact absurd mixed.symm differ
    rcases List.mem_cons.mp seen with same | seen
    · exact Option.some.inj same
    · exact alone s seen mixed
  · rintro rfl
    exact List.mem_cons_of_mem _ (List.mem_cons_self ..)

/-- A rotation to a new envelope is harmless just where `recover` stays consistent. -/
theorem overlap_consistent_iff {secretId : BitVec 128} {aad : Bytes}
    {answers : BitVec 32 → ChainAnswers} {finalizedHead : Except String Bytes}
    {old new : StoredSecret} {past : List (Option StoredSecret)}
    (differ : old.envelope ≠ new.envelope)
    (alone : ∀ s, some s ∈ past → s.envelope = old.envelope → s = old) {before after : ℕ}
    (reads : before + after = 3) :
    (overlap secretId old new past before after).Consistent secretId aad answers finalizedHead ↔
      Harmless secretId old new past before after := by
  obtain ⟨rfl, rfl⟩ | ⟨rfl, rfl⟩ | ⟨rfl, rfl⟩ | ⟨rfl, rfl⟩ : before = 0 ∧ after = 3 ∨
      before = 1 ∧ after = 2 ∨ before = 2 ∧ after = 1 ∨ before = 3 ∧ after = 0 := by omega
  · have read : (overlap secretId old new past 0 3).read = .done (.ok new) := rfl
    rw [consistent_done_iff read]
    exact iff_of_true (List.mem_cons_self ..) (by simp [Harmless, Settled, Keeps])
  · have read : (overlap secretId old new past 1 2).read =
        .done (.ok ⟨old.envelope, new.epoch, new.aad⟩) := rfl
    have harmless : Harmless secretId old new past 1 2 ↔
        new.epoch = old.epoch ∧ new.aad = old.aad := by
      simp [Harmless, Settled, Keeps, step, ReadSecret.answered]
    rw [consistent_done_iff read, harmless]
    refine (mem_blocks_iff (s := ⟨old.envelope, new.epoch, new.aad⟩) differ alone rfl).trans ?_
    simp [StoredSecret.ext_iff]
  · have read : (overlap secretId old new past 2 1).read =
        .done (.ok ⟨old.envelope, old.epoch, new.aad⟩) := rfl
    have harmless : Harmless secretId old new past 2 1 ↔ new.aad = old.aad := by
      simp [Harmless, Settled, Keeps, step, ReadSecret.answered, aadOf]
    rw [consistent_done_iff read, harmless]
    refine (mem_blocks_iff (s := ⟨old.envelope, old.epoch, new.aad⟩) differ alone rfl).trans ?_
    simp [StoredSecret.ext_iff]
  · have read : (overlap secretId old new past 3 0).read = .done (.ok old) := rfl
    rw [consistent_done_iff read]
    exact iff_of_true (List.mem_cons_of_mem _ (List.mem_cons_self ..))
      (by simp [Harmless, Settled, Keeps, step, ReadSecret.answered])

/-- In every run whose blocks keep what is still to be read, what `recover` reads and hands on is one
version of the secret; and a rotation that overtakes a reader does no harm only so. -/
theorem recover_consistent (secretId : BitVec 128) (aad : Bytes)
    (answers : BitVec 32 → ChainAnswers) (finalizedHead : Except String Bytes) :
    (∀ w acts, w.read = .payload → Settled secretId w acts →
      (w.run secretId acts).Consistent secretId aad answers finalizedHead) ∧
    ∀ old new past, old.envelope ≠ new.envelope →
      (∀ s, some s ∈ past → s.envelope = old.envelope → s = old) →
      ∀ before after, before + after = 3 →
        ((overlap secretId old new past before after).Consistent secretId aad answers finalizedHead ↔
          Harmless secretId old new past before after) := by
  refine ⟨fun w acts start settled => ?_, fun old new past differ alone before after reads =>
    overlap_consistent_iff differ alone reads⟩
  rw [consistent_iff]
  intro stored read
  have underway : w.Underway := by
    unfold Underway
    rw [start]
    trivial
  have reached := run_underway underway settled
  unfold Underway at reached
  rwa [read] at reached

/-- A secret, the same sealed again, and again under another epoch. -/
def original : StoredSecret := ⟨⟨[1], [1], [1], [1]⟩, 1, [1]⟩

def resealed : StoredSecret := ⟨⟨[2], [2], [2], [2]⟩, 1, [1]⟩

def moved : StoredSecret := ⟨⟨[3], [3], [3], [3]⟩, 2, [1]⟩

/-- A committee of one node. -/
def oneNode (_ : BitVec 32) : ChainAnswers where
  dkgOutput := some ([], [9])
  threshold := 1
  committee := [([1], 1)]
  registry := [([1], utf8 "http://n".toList)]
  shareCommitment _ := some [7]

/-- A block between the first two reads that seals the secret again, and one between the last two that
moves it to another epoch. -/
def overtakenReads : List Act :=
  [.served, .block (some resealed), .served, .block (some moved), .served]

theorem recoverRead_original : ∃ request, recoverRead 7 [1] oneNode (.ok [8]) original = .ok request := by
  have seated : (committeeInfo (oneNode 1) original.epoch).toOption.isSome := by decide +kernel
  have allowed : checkAad 7 original.aad [1] = .ok () := by simp [checkAad, original]
  cases found : committeeInfo (oneNode 1) original.epoch with
  | error e =>
    rw [found] at seated
    cases seated
  | ok committee =>
    have located : committeeInfo (oneNode original.epoch) original.epoch = .ok committee := found
    simp only [recoverRead, allowed, committeeInfoAt, located]
    exact ⟨_, rfl⟩

/-- What is read and asked for belongs to the first version.  Moved between the first two reads, the
secret is not read as one version. -/
theorem recover_consistent_overtaken :
    ((World.mk (some original) [none] .payload).run 7 overtakenReads).read = .done (.ok original) ∧
    (∃ request, recoverRead 7 [1] oneNode (.ok [8]) original = .ok request ∧ Carries request original) ∧
    (overlap 7 original resealed [none] 1 2).Consistent 7 [1] oneNode (.ok [8]) ∧
    ¬ (overlap 7 original moved [none] 1 2).Consistent 7 [1] oneNode (.ok [8]) := by
  obtain ⟨settled, exact_⟩ := recover_consistent 7 [1] oneNode (.ok [8])
  have consistent := settled ⟨some original, [none], .payload⟩ overtakenReads rfl
    ⟨trivial, rfl, trivial, rfl, trivial, trivial⟩
  have fresh : ∀ s, some s ∈ [none] → s.envelope = original.envelope → s = original := nofun
  obtain ⟨request, made⟩ := recoverRead_original
  refine ⟨rfl, ⟨request, made, (consistent original rfl).2 request made⟩, ?_, ?_⟩
  · exact (exact_ original resealed [none] (by decide) fresh 1 2 rfl).mpr
      ⟨trivial, rfl, trivial, trivial, trivial⟩
  · intro mixed
    have harmless := (exact_ original moved [none] (by decide) fresh 1 2 rfl).mp mixed
    have epochs : (2, [1]) = ((1 : BitVec 32), ([1] : Bytes)) := Option.some.inj harmless.2.1
    exact absurd epochs (by decide)

/-- The owner seals the secret again, under another epoch and tag, after the payload was read. -/
theorem rotated_mixes : ¬ ∀ (secretId : BitVec 128) (aad : Bytes)
    (answers : BitVec 32 → ChainAnswers) (finalizedHead : Except String Bytes) (w : World)
    (acts : List Act), w.read = .payload →
      (w.run secretId acts).Consistent secretId aad answers finalizedHead := by
  intro consistent
  have mixed := consistent 7 [2] (fun _ => ⟨none, 0, [], [], fun _ => none⟩) (.ok [])
    ⟨some ⟨⟨[1], [1], [1], [1]⟩, 1, [1]⟩, [], .payload⟩
    [.served, .block (some ⟨⟨[2], [2], [2], [2]⟩, 2, [2]⟩), .served, .served] rfl
  rw [consistent_iff] at mixed
  exact absurd (mixed _ rfl) (by decide)

end World

end MatterSdk.Rust.Recover
