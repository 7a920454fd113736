import Mathlib.Data.List.Forall2
import MatterSdk.Core

/-!
# What opening a secret returns

For a well-formed stored secret the outcome of `openSecret` is decided by the partials: the first
one whose fields do not decode ends it, else the genuineness of all of them does.
-/

namespace MatterSdk

/-- Evaluation points that a coefficient is defined for: some, none of them zero, no two the same. -/
structure ValidSubset (points : List ℕ) : Prop where
  nonempty : points ≠ []
  nonzero : 0 ∉ points
  distinct : points.Nodup

theorem ValidSubset.perm {points points' : List ℕ} (valid : ValidSubset points)
    (same : points.Perm points') : ValidSubset points' where
  nonempty := fun empty => valid.nonempty (empty ▸ same : points.Perm []).eq_nil
  nonzero := fun zero => valid.nonzero (same.mem_iff.mpr zero)
  distinct := same.nodup_iff.mp valid.distinct

/-- A stored secret whose own parts decode, with what the cryptography promises of it.  `commitment`
is the committee's at each point and `genuine` what it makes of a point and a coefficient: entries
that verify and are genuine open the secret, and one that does not verify has the aggregate rejected.
Of entries that verify and are not genuine nothing is promised. -/
structure Sealed (crypto : Crypto) (limits : Limits) (input : OpenInput) (threshold : ℕ) where
  sharedA : crypto.SharedA
  capsule : crypto.Capsule
  plaintext : Plaintext
  commitment : ℕ → crypto.Commitment
  genuine : ℕ → crypto.Lambda → crypto.Share → Prop
  verifies : PartialEntry crypto.Share crypto.Proof crypto.Commitment crypto.Lambda → Prop
  sharedA_eq : de crypto.decodeSharedA "shared_a" input.sharedA maxDecodeBytes = .ok sharedA
  capsule_eq : de crypto.decodeCapsule "capsule" input.capsule limits.capsule = .ok capsule
  bindingId_le : input.bindingId.length ≤ limits.bindingId
  nonce_le : 12 ≤ input.ct.length
  ct_le : input.ct.length ≤ limits.ciphertext
  opens : ∀ (points : List ℕ) entries, ValidSubset points → points.length = threshold →
    List.Forall₂ (fun point e => e.lambda = crypto.lagrangeCoefficient point points ∧
      e.commitment = commitment point ∧ genuine point e.lambda e.share ∧ verifies e) points entries →
    crypto.verifyAggregateOpen entries capsule sharedA (beBytes input.secretId) input.epoch
      input.bindingId input.aad { ciphertext := input.ct.drop 12, nonce := input.ct.take 12 } =
      .ok plaintext
  rejects : ∀ entries, (∃ e ∈ entries, ¬ verifies e) → ∃ detail,
    crypto.verifyAggregateOpen entries capsule sharedA (beBytes input.secretId) input.epoch
      input.bindingId input.aad { ciphertext := input.ct.drop 12, nonce := input.ct.take 12 } =
      .error (.aggregate detail)

section Fields

variable (crypto : Crypto)

/-- Both fields decode, within the size bound. -/
def FieldsDecode (p : PartialInput) : Prop :=
  (∃ share, de crypto.decodeShare "partial" p.share maxDecodeBytes = .ok share) ∧
    ∃ proof, de crypto.decodeProof "partial proof" p.proof maxDecodeBytes = .ok proof

/-- The first field that is refused is refused for its size. -/
def Oversized (p : PartialInput) : Prop :=
  maxDecodeBytes < p.share.length ∨
    (∃ share, de crypto.decodeShare "partial" p.share maxDecodeBytes = .ok share) ∧
      maxDecodeBytes < p.proof.length

/-- No partial is oversized, up to the first that does not decode. -/
def SizesPass : List PartialInput → Prop
  | [] => True
  | p :: rest => ¬ Oversized crypto p ∧ (FieldsDecode crypto p → SizesPass rest)

/-- The commitment on record for the partial decodes. -/
def CommitmentDecodes (commitment : Bytes) : Prop :=
  ∃ c, de crypto.decodeCommitment "commitment" commitment maxDecodeBytes = .ok c

end Fields

variable {crypto : Crypto}

theorem de_eq {α : Type} (decode : Bytes → Except String α) (field : String) (bytes : Bytes)
    (max : ℕ) : de decode field bytes max =
      if max < bytes.length then .error (.tooLarge field max bytes.length)
      else (decode bytes).mapError (CoreError.decode field) := by
  unfold de bound
  split_ifs <;> rfl

/-- What `de` returns: a refused size, a refused content, or a value. -/
theorem de_cases {α : Type} (decode : Bytes → Except String α) (field : String) (bytes : Bytes)
    (max : ℕ) :
    (max < bytes.length ∧ de decode field bytes max = .error (.tooLarge field max bytes.length)) ∨
      (¬ max < bytes.length ∧ ∃ detail, de decode field bytes max = .error (.decode field detail)) ∨
      (¬ max < bytes.length ∧ ∃ a, de decode field bytes max = .ok a) := by
  rw [de_eq]
  by_cases large : max < bytes.length
  · exact Or.inl ⟨large, if_pos large⟩
  · rw [if_neg large]
    cases decode bytes with
    | error detail => exact Or.inr (Or.inl ⟨large, detail, rfl⟩)
    | ok a => exact Or.inr (Or.inr ⟨large, a, rfl⟩)

/-- The outcome of decoding one partial. -/
inductive PartialDecoded (crypto : Crypto) (points : List ℕ) (p : PartialInput) :
    Except CoreError (PartialEntry crypto.Share crypto.Proof crypto.Commitment crypto.Lambda) →
      Prop where
  | tooLarge (oversized : Oversized crypto p) (field : String) (max actual : ℕ) :
      PartialDecoded crypto points p (.error (.tooLarge field max actual))
  | refused (sized : ¬ Oversized crypto p) (undecoded : ¬ FieldsDecode crypto p)
      (field detail : String) : PartialDecoded crypto points p (.error (.decode field detail))
  | decoded (sized : ¬ Oversized crypto p) (fields : FieldsDecode crypto p)
      (entry : PartialEntry crypto.Share crypto.Proof crypto.Commitment crypto.Lambda)
      (lambda : entry.lambda = crypto.lagrangeCoefficient p.point points) :
      PartialDecoded crypto points p (.ok entry)

theorem decodePartial_cases (points : List ℕ) (p : PartialInput)
    (commitment : CommitmentDecodes crypto p.commitment) :
    PartialDecoded crypto points p (decodePartial crypto points p) := by
  obtain ⟨c, hc⟩ := commitment
  unfold decodePartial
  rcases de_cases crypto.decodeShare "partial" p.share maxDecodeBytes with
    ⟨large, hs⟩ | ⟨sized, detail, hs⟩ | ⟨sized, share, hs⟩
  · rw [hs]
    exact .tooLarge (Or.inl large) _ _ _
  · rw [hs]
    refine .refused ?_ (fun ⟨⟨s, h⟩, _⟩ => by simp [hs] at h) _ _
    rintro (large | ⟨⟨s, h⟩, -⟩)
    · exact sized large
    · simp [hs] at h
  · rcases de_cases crypto.decodeProof "partial proof" p.proof maxDecodeBytes with
      ⟨large, hp⟩ | ⟨sized', detail, hp⟩ | ⟨sized', proof, hp⟩
    · rw [hs, hp]
      exact .tooLarge (Or.inr ⟨⟨share, hs⟩, large⟩) _ _ _
    · rw [hs, hp]
      refine .refused ?_ (fun ⟨_, ⟨s, h⟩⟩ => by simp [hp] at h) _ _
      rintro (large | ⟨-, large⟩)
      · exact sized large
      · exact sized' large
    · rw [hs, hp, hc]
      refine .decoded ?_ ⟨⟨share, hs⟩, proof, hp⟩ ⟨share, proof, c, _⟩ rfl
      rintro (large | ⟨-, large⟩)
      · exact sized large
      · exact sized' large

section Sealed

variable {limits : Limits} {input : OpenInput} {threshold : ℕ}
  (secret : Sealed crypto limits input threshold)

/-- The entry is the committee's at the point. -/
def Sealed.Dealt (point : ℕ)
    (e : PartialEntry crypto.Share crypto.Proof crypto.Commitment crypto.Lambda) : Prop :=
  e.commitment = secret.commitment point ∧ secret.genuine point e.lambda e.share

/-- The partial decodes to an entry that verifies and is the committee's. -/
def Genuine (points : List ℕ) (p : PartialInput) : Prop :=
  ∃ entry, decodePartial crypto points p = .ok entry ∧ secret.verifies entry ∧
    secret.Dealt p.point entry

/-- Whatever verifies is genuine: no proof is forged, nor checked against a commitment that is not the
committee's. -/
def Unforged (points : List ℕ) (partials : List PartialInput) : Prop :=
  ∀ p ∈ partials, ∀ entry, decodePartial crypto points p = .ok entry → secret.verifies entry →
    secret.Dealt p.point entry

end Sealed

/-- The outcome of decoding all partials. -/
inductive AllDecoded (crypto : Crypto) (points : List ℕ) (partials : List PartialInput) :
    Except CoreError
        (List (PartialEntry crypto.Share crypto.Proof crypto.Commitment crypto.Lambda)) →
      Prop where
  | tooLarge (oversized : ¬ SizesPass crypto partials) (field : String) (max actual : ℕ) :
      AllDecoded crypto points partials (.error (.tooLarge field max actual))
  | refused (sized : SizesPass crypto partials) (p : PartialInput) (mem : p ∈ partials)
      (undecoded : ¬ FieldsDecode crypto p) (field detail : String) :
      AllDecoded crypto points partials (.error (.decode field detail))
  | decoded (sized : SizesPass crypto partials)
      (entries : List (PartialEntry crypto.Share crypto.Proof crypto.Commitment crypto.Lambda))
      (each : List.Forall₂ (fun p entry => decodePartial crypto points p = .ok entry ∧
        entry.lambda = crypto.lagrangeCoefficient p.point points) partials entries) :
      AllDecoded crypto points partials (.ok entries)

theorem decodeAll_cases (points : List ℕ) :
    ∀ partials : List PartialInput, (∀ p ∈ partials, CommitmentDecodes crypto p.commitment) →
      AllDecoded crypto points partials (partials.mapM (decodePartial crypto points))
  | [], _ => .decoded (by trivial) [] .nil
  | p :: rest, commitments => by
    have tail := decodeAll_cases points rest fun q hq => commitments q (List.mem_cons_of_mem _ hq)
    have head := decodePartial_cases points p (commitments p (by simp))
    rw [List.mapM_cons]
    generalize hd : decodePartial crypto points p = outcome at head
    cases head with
    | tooLarge oversized =>
      refine .tooLarge ?_ _ _ _
      exact fun sized => sized.1 oversized
    | refused sized undecoded =>
      refine .refused ?_ p (by simp) undecoded _ _
      exact ⟨sized, fun fields => absurd fields undecoded⟩
    | decoded sized fields entry lambda =>
      generalize List.mapM (decodePartial crypto points) rest = outcome at tail
      cases tail with
      | tooLarge oversized =>
        refine .tooLarge ?_ _ _ _
        exact fun sized => oversized (sized.2 fields)
      | refused sized' q mem undecoded =>
        refine .refused ?_ q (List.mem_cons_of_mem _ mem) undecoded _ _
        exact ⟨sized, fun _ => sized'⟩
      | decoded sized' entries each =>
        refine .decoded ?_ _ (.cons ⟨hd, lambda⟩ each)
        exact ⟨sized, fun _ => sized'⟩

/-- A subset without zero or repetition is accepted. -/
theorem subsetPoints_ok {partials : List PartialInput} (nonempty : partials ≠ [])
    (nonzero : ∀ p ∈ partials, p.point ≠ 0) (distinct : (partials.map (·.point)).Nodup) :
    subsetPoints partials = .ok (partials.map (·.point)) := by
  have norepeat (seen points : List ℕ) (apart : seen.Disjoint points) (nodup : points.Nodup) :
      firstRepeat seen points = none := by
    induction points generalizing seen with
    | nil => rfl
    | cons i rest ih =>
      rw [List.disjoint_cons_right] at apart
      rw [List.nodup_cons] at nodup
      rw [firstRepeat, if_neg apart.1]
      refine ih (i :: seen) ?_ nodup.2
      rw [List.disjoint_cons_left]
      exact ⟨nodup.1, apart.2⟩
  have positive : 0 ∉ partials.map (·.point) := by
    intro h
    obtain ⟨p, hp, zero⟩ := List.mem_map.1 h
    exact nonzero p hp zero
  simp only [subsetPoints, if_neg nonempty, if_neg positive,
    norepeat [] _ (List.disjoint_nil_left _) distinct]

/-- The outcome of opening a secret with `threshold` partials. -/
inductive Opened {limits : Limits} {input : OpenInput} {threshold : ℕ}
    (secret : Sealed crypto limits input threshold) (partials : List PartialInput) :
    Except CoreError Plaintext → Prop where
  | tooLarge (oversized : ¬ SizesPass crypto partials) (field : String) (max actual : ℕ) :
      Opened secret partials (.error (.tooLarge field max actual))
  | refused (sized : SizesPass crypto partials) (p : PartialInput) (mem : p ∈ partials)
      (bad : ¬ Genuine secret (partials.map (·.point)) p) (field detail : String) :
      Opened secret partials (.error (.decode field detail))
  | rejected (sized : SizesPass crypto partials) (p : PartialInput) (mem : p ∈ partials)
      (bad : ¬ Genuine secret (partials.map (·.point)) p) (detail : String) :
      Opened secret partials (.error (.aggregate detail))
  | opened (sized : SizesPass crypto partials) : Opened secret partials (.ok secret.plaintext)

theorem not_genuine_of_undecoded {limits : Limits} {input : OpenInput} {threshold : ℕ}
    {secret : Sealed crypto limits input threshold} {points : List ℕ} {p : PartialInput}
    (commitment : CommitmentDecodes crypto p.commitment) (undecoded : ¬ FieldsDecode crypto p) :
    ¬ Genuine secret points p := by
  rintro ⟨entry, decoded, -⟩
  have outcome := decodePartial_cases points p commitment
  rw [decoded] at outcome
  cases outcome with
  | decoded _ fields => exact undecoded fields

theorem openSecret_cases {limits : Limits} {input : OpenInput} {threshold : ℕ}
    (secret : Sealed crypto limits input threshold) {partials : List PartialInput}
    (positive : 1 ≤ threshold) (length : partials.length = threshold)
    (nonzero : ∀ p ∈ partials, p.point ≠ 0) (distinct : (partials.map (·.point)).Nodup)
    (commitments : ∀ p ∈ partials, CommitmentDecodes crypto p.commitment)
    (unforged : Unforged secret (partials.map (·.point)) partials) :
    Opened secret partials (openSecret crypto limits input partials) := by
  have nonempty : partials ≠ [] := by
    rintro rfl
    exact absurd length (by simpa using (Nat.ne_of_gt positive).symm)
  have points := subsetPoints_ok nonempty nonzero distinct
  have all := decodeAll_cases (partials.map (·.point)) partials commitments
  unfold openSecret
  rw [points]
  simp only [bind, Except.bind, bound, Nat.not_lt.2 secret.bindingId_le, Nat.not_lt.2 secret.ct_le,
    if_false, secret.sharedA_eq, secret.capsule_eq, Nat.not_lt.2 secret.nonce_le]
  generalize List.mapM (decodePartial crypto (partials.map (·.point))) partials = outcome at all
  cases all with
  | tooLarge oversized => exact .tooLarge oversized _ _ _
  | refused sized p mem undecoded =>
    exact .refused sized p mem (not_genuine_of_undecoded (commitments p mem) undecoded) _ _
  | decoded sized entries each =>
    dsimp only
    by_cases verified : ∀ e ∈ entries, secret.verifies e
    · have valid : ValidSubset (partials.map (·.point)) := by
        refine ⟨by simpa using nonempty, fun zero => ?_, distinct⟩
        obtain ⟨p, mem, point⟩ := List.mem_map.mp zero
        exact nonzero p mem point
      have dealt : List.Forall₂ (fun p e => e.lambda = crypto.lagrangeCoefficient p.point
          (partials.map (·.point)) ∧ e.commitment = secret.commitment p.point ∧
            secret.genuine p.point e.lambda e.share ∧ secret.verifies e) partials entries := by
        refine List.forall₂_iff_get.2 ⟨each.length_eq, fun i hi hi' => ?_⟩
        obtain ⟨decoded, lambda⟩ := (List.forall₂_iff_get.1 each).2 i hi hi'
        have good := verified _ (List.get_mem entries ⟨i, hi'⟩)
        obtain ⟨commitment, genuine⟩ := unforged _ (List.get_mem partials ⟨i, hi⟩) _ decoded good
        exact ⟨lambda, commitment, genuine, good⟩
      rw [secret.opens _ entries valid (by rw [List.length_map, length])
        (List.forall₂_map_left_iff.mpr dealt)]
      exact .opened sized
    · obtain ⟨e, mem, bad⟩ : ∃ e ∈ entries, ¬ secret.verifies e := by simpa using verified
      obtain ⟨detail, rejected⟩ := secret.rejects entries ⟨e, mem, bad⟩
      obtain ⟨i, hi, rfl⟩ := List.getElem_of_mem mem
      have hi' : i < partials.length := each.length_eq ▸ hi
      have decoded := ((List.forall₂_iff_get.1 each).2 i hi' hi).1
      rw [rejected]
      refine .rejected sized partials[i] (List.getElem_mem hi') ?_ _
      rintro ⟨e', decoded', good, -⟩
      obtain rfl := Except.ok.inj (decoded.symm.trans decoded')
      exact bad good

end MatterSdk
