import Mathlib.Data.Rat.Defs
import Mathlib.Algebra.BigOperators.Group.List.Basic
import Mathlib.Tactic.Ring
import MatterSdk.Lib.Checks
import MatterSdk.Opening

/-!
# The checks of opening a secret

`openSecret` refuses a bad subset before it reads anything else, then makes its checks in a fixed
order, and passes every coefficient over the whole subset.  The order of the partials does not
matter to whether it opens, nor to what it opens to.
-/

namespace MatterSdk

open Checks

theorem firstRepeat_eq_none_iff {seen points : List ℕ} :
    firstRepeat seen points = none ↔ points.Nodup ∧ ∀ p ∈ points, p ∉ seen := by
  induction points generalizing seen with
  | nil => simp [firstRepeat]
  | cons p rest ih =>
    rw [firstRepeat]
    by_cases again : p ∈ seen
    · rw [if_pos again]
      exact iff_of_false (by simp) fun fresh => fresh.2 p (List.mem_cons_self ..) again
    · rw [if_neg again, ih, List.nodup_cons, List.forall_mem_cons]
      constructor
      · rintro ⟨distinct, fresh⟩
        refine ⟨⟨fun inside => fresh p inside (List.mem_cons_self ..), distinct⟩, again, ?_⟩
        exact fun q listed inside => fresh q listed (List.mem_cons_of_mem _ inside)
      · rintro ⟨⟨apart, distinct⟩, -, fresh⟩
        refine ⟨distinct, fun q listed inside => ?_⟩
        rcases List.mem_cons.mp inside with rfl | inside
        · exact apart listed
        · exact fresh q listed inside

/-- The gate: the points themselves, or an error that they alone decide. -/
theorem subsetPoints_cases (partials : List PartialInput) :
    (ValidSubset (partials.map (·.point)) ∧
        subsetPoints partials = .ok (partials.map (·.point))) ∨
      (¬ ValidSubset (partials.map (·.point)) ∧
        ∃ detail, ∀ partials' : List PartialInput,
          partials'.map (·.point) = partials.map (·.point) →
            subsetPoints partials' = .error (.invalidSubset detail)) := by
  have empty_iff : ∀ l : List PartialInput, l = [] ↔ l.map (·.point) = [] := fun l =>
    List.map_eq_nil_iff.symm
  by_cases empty : partials = []
  · refine .inr ⟨fun valid => valid.nonempty ((empty_iff _).mp empty), "no partials supplied",
      fun partials' same => ?_⟩
    rw [subsetPoints, if_pos ((empty_iff _).mpr (same.trans ((empty_iff _).mp empty)))]
  have others : ∀ partials' : List PartialInput,
      partials'.map (·.point) = partials.map (·.point) → partials' ≠ [] := fun partials' same nothing =>
    empty ((empty_iff _).mpr (same.symm.trans ((empty_iff _).mp nothing)))
  by_cases zero : 0 ∈ partials.map (·.point)
  · refine .inr ⟨fun valid => valid.nonzero zero, "point 0 is not an evaluation point",
      fun partials' same => ?_⟩
    rw [subsetPoints, if_neg (others partials' same), same]
    exact if_pos zero
  cases repeated : firstRepeat [] (partials.map (·.point)) with
  | none =>
    obtain ⟨distinct, -⟩ := firstRepeat_eq_none_iff.mp repeated
    refine .inl ⟨⟨(empty_iff _).not.mp empty, zero, distinct⟩, ?_⟩
    rw [subsetPoints, if_neg empty]
    simp only [if_neg zero, repeated]
  | some dup =>
    refine .inr ⟨fun valid => ?_, "point " ++ toString dup ++ " appears twice",
      fun partials' same => ?_⟩
    · rw [firstRepeat_eq_none_iff.mpr ⟨valid.distinct, by simp⟩] at repeated
      cases repeated
    · rw [subsetPoints, if_neg (others partials' same), same]
      simp only [if_neg zero, repeated]

/-! ## The checks behind the gate -/

section

variable (crypto : Crypto) (limits : Limits) (input : OpenInput)

/-- The checks of the stored secret, in the order of the source. -/
def storedChecks : List (Except CoreError Unit) :=
  [bound "binding_id" input.bindingId.length limits.bindingId,
    bound "ct" input.ct.length limits.ciphertext,
    check (de crypto.decodeSharedA "shared_a" input.sharedA maxDecodeBytes),
    check (de crypto.decodeCapsule "capsule" input.capsule limits.capsule),
    if input.ct.length < 12 then .error (.invalidLength "ct (nonce prefix)" 12 input.ct.length)
      else .ok ()]

/-- The checks of one partial. -/
def partialChecks (p : PartialInput) : List (Except CoreError Unit) :=
  [check (de crypto.decodeShare "partial" p.share maxDecodeBytes),
    check (de crypto.decodeProof "partial proof" p.proof maxDecodeBytes),
    check (de crypto.decodeCommitment "commitment" p.commitment maxDecodeBytes)]

/-- All checks between the gate and the aggregate. -/
def openChecks (partials : List PartialInput) : List (Except CoreError Unit) :=
  storedChecks crypto limits input ++ partials.flatMap (partialChecks crypto)

/-- The entry is what the partial's own fields decode to, under the coefficient of its own point. -/
structure EntryOf (points : List ℕ) (p : PartialInput)
    (entry : PartialEntry crypto.Share crypto.Proof crypto.Commitment crypto.Lambda) : Prop where
  share : de crypto.decodeShare "partial" p.share maxDecodeBytes = .ok entry.share
  proof : de crypto.decodeProof "partial proof" p.proof maxDecodeBytes = .ok entry.proof
  commitment : de crypto.decodeCommitment "commitment" p.commitment maxDecodeBytes =
    .ok entry.commitment
  lambda : entry.lambda = crypto.lagrangeCoefficient p.point points

/-- What is aggregated of decoded entries. -/
def aggregate (sharedA : crypto.SharedA) (capsule : crypto.Capsule)
    (entries : List (PartialEntry crypto.Share crypto.Proof crypto.Commitment crypto.Lambda)) :
    Except OpenError Plaintext :=
  crypto.verifyAggregateOpen entries capsule sharedA (beBytes input.secretId) input.epoch
    input.bindingId input.aad { ciphertext := input.ct.drop 12, nonce := input.ct.take 12 }

/-- The error of the aggregate as the core's own. -/
def concluded : Except OpenError Plaintext → Except CoreError Plaintext
  | .ok plaintext => .ok plaintext
  | .error (.aggregate detail) => .error (.aggregate detail)
  | .error .aead => .error .aead

variable {crypto limits input}

theorem decodePartial_eq_ok_iff {points : List ℕ} {p : PartialInput}
    {entry : PartialEntry crypto.Share crypto.Proof crypto.Commitment crypto.Lambda} :
    decodePartial crypto points p = .ok entry ↔ EntryOf crypto points p entry := by
  constructor
  · intro decoded
    unfold decodePartial at decoded
    cases share : de crypto.decodeShare "partial" p.share maxDecodeBytes with
    | error e => rw [share] at decoded; cases decoded
    | ok s =>
      cases proof : de crypto.decodeProof "partial proof" p.proof maxDecodeBytes with
      | error e => rw [share, proof] at decoded; cases decoded
      | ok q =>
        cases commitment : de crypto.decodeCommitment "commitment" p.commitment maxDecodeBytes with
        | error e => rw [share, proof, commitment] at decoded; cases decoded
        | ok c =>
          rw [share, proof, commitment] at decoded
          cases decoded
          exact ⟨share, proof, commitment, rfl⟩
  · rintro ⟨share, proof, commitment, lambda⟩
    unfold decodePartial
    rw [share, proof, commitment]
    show Except.ok _ = Except.ok entry
    rw [← lambda]

theorem check_decodePartial (points : List ℕ) (p : PartialInput) :
    check (decodePartial crypto points p) = all (partialChecks crypto p) := by
  unfold decodePartial partialChecks
  cases de crypto.decodeShare "partial" p.share maxDecodeBytes with
  | error e => rfl
  | ok share =>
    cases de crypto.decodeProof "partial proof" p.proof maxDecodeBytes with
    | error e => rfl
    | ok proof => cases de crypto.decodeCommitment "commitment" p.commitment maxDecodeBytes <;> rfl

theorem check_decodeAll (points : List ℕ) (partials : List PartialInput) :
    check (partials.mapM (decodePartial crypto points)) =
      all (partials.flatMap (partialChecks crypto)) := by
  rw [check_mapM, all_flatMap]
  exact congrArg all (List.map_congr_left fun p _ => check_decodePartial points p)

/-- Behind the gate, the first check that fails decides the error. -/
theorem openSecret_of_failed {partials : List PartialInput}
    (valid : ValidSubset (partials.map (·.point))) {e : CoreError}
    (failed : all (openChecks crypto limits input partials) = .error e) :
    openSecret crypto limits input partials = .error e := by
  obtain ⟨-, points⟩ | ⟨invalid, -⟩ := subsetPoints_cases partials
  swap
  · exact absurd valid invalid
  unfold openSecret
  rw [points]
  show (bound "binding_id" _ _ >>= _) = Except.error e
  refine bind_of_failed (check_unit _) failed fun _ _ failed => ?_
  refine bind_of_failed (check_unit _) failed fun _ _ failed => ?_
  refine bind_of_failed rfl failed fun sharedA _ failed => ?_
  refine bind_of_failed rfl failed fun capsule _ failed => ?_
  change all (_ :: partials.flatMap (partialChecks crypto)) = .error e at failed
  by_cases short : input.ct.length < 12
  · rw [if_pos short] at failed ⊢
    exact congrArg Except.error (Except.error.inj failed)
  · rw [if_neg short, all_cons_ok, ← check_decodeAll (partials.map (·.point))] at failed
    rw [if_neg short]
    cases decoded : partials.mapM (decodePartial crypto (partials.map (·.point))) with
    | error e' =>
      rw [decoded] at failed
      exact congrArg Except.error (Except.error.inj failed)
    | ok entries =>
      rw [decoded] at failed
      cases failed

/-- What the checks leave when all pass. -/
structure Decoded (crypto : Crypto) (limits : Limits) (input : OpenInput)
    (partials : List PartialInput) (sharedA : crypto.SharedA) (capsule : crypto.Capsule)
    (entries : List (PartialEntry crypto.Share crypto.Proof crypto.Commitment crypto.Lambda)) :
    Prop where
  bindingId_le : input.bindingId.length ≤ limits.bindingId
  ct_le : input.ct.length ≤ limits.ciphertext
  sharedA_eq : de crypto.decodeSharedA "shared_a" input.sharedA maxDecodeBytes = .ok sharedA
  capsule_eq : de crypto.decodeCapsule "capsule" input.capsule limits.capsule = .ok capsule
  nonce_le : 12 ≤ input.ct.length
  each : List.Forall₂ (EntryOf crypto (partials.map (·.point))) partials entries

theorem bound_eq_ok_iff {field : String} {actual max : ℕ} :
    bound field actual max = .ok () ↔ actual ≤ max := by
  unfold bound
  by_cases large : actual > max
  · rw [if_pos large]
    exact iff_of_false (by simp) (Nat.not_le.mpr large)
  · rw [if_neg large]
    exact iff_of_true rfl (Nat.not_lt.mp large)

theorem exists_decoded {partials : List PartialInput}
    (passed : all (openChecks crypto limits input partials) = .ok ()) :
    ∃ sharedA capsule entries, Decoded crypto limits input partials sharedA capsule entries := by
  have entries : check (partials.mapM (decodePartial crypto (partials.map (·.point)))) =
      all (partials.flatMap (partialChecks crypto)) := check_decodeAll _ partials
  unfold openChecks at passed
  rw [all_append, ← entries] at passed
  cases stored : all (storedChecks crypto limits input) with
  | error e => rw [stored] at passed; cases passed
  | ok =>
    rw [stored] at passed
    have checked := all_eq_ok_iff.mp stored
    simp only [storedChecks, List.forall_mem_cons, bound_eq_ok_iff, check_eq_ok_iff] at checked
    obtain ⟨binding, ct, ⟨a, sharedA⟩, ⟨c, capsule⟩, nonce, -⟩ := checked
    have nonce_le : 12 ≤ input.ct.length := by
      by_contra short
      rw [if_pos (Nat.not_le.mp short)] at nonce
      cases nonce
    obtain ⟨entries, decoded⟩ := check_eq_ok_iff.mp passed
    refine ⟨a, c, entries, binding, ct, sharedA, capsule, nonce_le, ?_⟩
    exact (mapM_eq_ok_iff.mp decoded).imp fun _ _ => decodePartial_eq_ok_iff.mp

/-- Behind the gate and the checks, the aggregate decides. -/
theorem openSecret_of_decoded {partials : List PartialInput}
    (valid : ValidSubset (partials.map (·.point))) {sharedA : crypto.SharedA}
    {capsule : crypto.Capsule}
    {entries : List (PartialEntry crypto.Share crypto.Proof crypto.Commitment crypto.Lambda)}
    (decoded : Decoded crypto limits input partials sharedA capsule entries) :
    openSecret crypto limits input partials =
      concluded (aggregate crypto input sharedA capsule entries) := by
  obtain ⟨-, points⟩ | ⟨invalid, -⟩ := subsetPoints_cases partials
  swap
  · exact absurd valid invalid
  have read : partials.mapM (decodePartial crypto (partials.map (·.point))) = .ok entries :=
    mapM_eq_ok_iff.mpr (decoded.each.imp fun _ _ => decodePartial_eq_ok_iff.mpr)
  unfold openSecret
  rw [points]
  simp only [bind, Except.bind, bound_eq_ok_iff.mpr decoded.bindingId_le,
    bound_eq_ok_iff.mpr decoded.ct_le, decoded.sharedA_eq, decoded.capsule_eq,
    if_neg (Nat.not_lt.mpr decoded.nonce_le), read]
  rfl

/-- A decoded secret passed the checks. -/
theorem Decoded.passed {partials : List PartialInput} {sharedA : crypto.SharedA}
    {capsule : crypto.Capsule}
    {entries : List (PartialEntry crypto.Share crypto.Proof crypto.Commitment crypto.Lambda)}
    (decoded : Decoded crypto limits input partials sharedA capsule entries) :
    all (openChecks crypto limits input partials) = .ok () := by
  have read : partials.mapM (decodePartial crypto (partials.map (·.point))) = .ok entries :=
    mapM_eq_ok_iff.mpr (decoded.each.imp fun _ _ => decodePartial_eq_ok_iff.mpr)
  have stored : all (storedChecks crypto limits input) = .ok () := by
    rw [all_eq_ok_iff]
    simp only [storedChecks, List.forall_mem_cons, bound_eq_ok_iff, check_eq_ok_iff]
    exact ⟨decoded.bindingId_le, decoded.ct_le, ⟨_, decoded.sharedA_eq⟩, ⟨_, decoded.capsule_eq⟩,
      if_neg (Nat.not_lt.mpr decoded.nonce_le), by simp⟩
  unfold openChecks
  rw [all_append, stored, ← check_decodeAll (partials.map (·.point)), read]
  rfl

theorem concluded_eq_ok_iff {result : Except OpenError Plaintext} {plaintext : Plaintext} :
    concluded result = .ok plaintext ↔ result = .ok plaintext := by
  rcases result with (_ | _) | _ <;> simp [concluded]

/-- A secret opens if and only if the subset is valid, all parts decode, and the aggregate opens. -/
theorem openSecret_eq_ok_iff {partials : List PartialInput} {plaintext : Plaintext} :
    openSecret crypto limits input partials = .ok plaintext ↔
      ValidSubset (partials.map (·.point)) ∧ ∃ sharedA capsule entries,
        Decoded crypto limits input partials sharedA capsule entries ∧
          aggregate crypto input sharedA capsule entries = .ok plaintext := by
  constructor
  · intro opened
    obtain ⟨valid, -⟩ | ⟨-, detail, refused⟩ := subsetPoints_cases partials
    · refine ⟨valid, ?_⟩
      cases checks : all (openChecks crypto limits input partials) with
      | error e =>
        rw [openSecret_of_failed valid checks] at opened
        cases opened
      | ok =>
        obtain ⟨sharedA, capsule, entries, decoded⟩ := exists_decoded checks
        rw [openSecret_of_decoded valid decoded, concluded_eq_ok_iff] at opened
        exact ⟨sharedA, capsule, entries, decoded, opened⟩
    · unfold openSecret at opened
      rw [refused partials rfl] at opened
      cases opened
  · rintro ⟨valid, sharedA, capsule, entries, decoded, opened⟩
    rw [openSecret_of_decoded valid decoded, opened]
    rfl

end

/-! ## The order of the partials -/

/-- A coefficient depends on the subset's points, not on their order. -/
def LagrangeOfSet (crypto : Crypto) : Prop :=
  ∀ (point : ℕ) (points points' : List ℕ), points.Perm points' →
    crypto.lagrangeCoefficient point points = crypto.lagrangeCoefficient point points'

/-- What an aggregate opens to depends on its entries, not on their order. -/
def AggregateOfMultiset (crypto : Crypto) : Prop :=
  ∀ entries entries' capsule sharedA secretId epoch bindingId aad stored,
    entries.Perm entries' →
      (crypto.verifyAggregateOpen entries capsule sharedA secretId epoch bindingId aad
        stored).toOption =
      (crypto.verifyAggregateOpen entries' capsule sharedA secretId epoch bindingId aad
        stored).toOption

section

variable {crypto : Crypto} {limits : Limits} {input : OpenInput} {partials partials' : List PartialInput}

theorem Decoded.perm (lagrange : LagrangeOfSet crypto) (same : partials'.Perm partials)
    {sharedA : crypto.SharedA} {capsule : crypto.Capsule}
    {entries : List (PartialEntry crypto.Share crypto.Proof crypto.Commitment crypto.Lambda)}
    (decoded : Decoded crypto limits input partials sharedA capsule entries) :
    ∃ entries', entries'.Perm entries ∧
      Decoded crypto limits input partials' sharedA capsule entries' := by
  obtain ⟨entries', each, reordered⟩ := List.perm_comp_forall₂ same decoded.each
  refine ⟨entries', reordered, { decoded with each := each.imp fun p entry of => ?_ }⟩
  have points := lagrange p.point _ _ (same.map (·.point)).symm
  exact { of with lambda := of.lambda.trans points }

theorem openSecret_perm (lagrange : LagrangeOfSet crypto) (multiset : AggregateOfMultiset crypto)
    (same : partials'.Perm partials) {plaintext : Plaintext}
    (opened : openSecret crypto limits input partials = .ok plaintext) :
    openSecret crypto limits input partials' = .ok plaintext := by
  obtain ⟨valid, sharedA, capsule, entries, decoded, opens⟩ := openSecret_eq_ok_iff.mp opened
  obtain ⟨entries', reordered, decoded'⟩ := decoded.perm lagrange same
  refine openSecret_eq_ok_iff.mpr ⟨valid.perm (same.map (·.point)).symm, sharedA, capsule, entries',
    decoded', ?_⟩
  have alike := multiset entries' entries capsule sharedA (beBytes input.secretId) input.epoch
    input.bindingId input.aad { ciphertext := input.ct.drop 12, nonce := input.ct.take 12 } reordered
  change (aggregate crypto input sharedA capsule entries').toOption =
    (aggregate crypto input sharedA capsule entries).toOption at alike
  rw [opens] at alike
  cases outcome : aggregate crypto input sharedA capsule entries' with
  | error e => rw [outcome] at alike; cases alike
  | ok plaintext' =>
    rw [outcome] at alike
    cases alike
    rfl

end

/-- What is promised of opening `partials`. -/
structure OpensInOrder (crypto : Crypto) (limits : Limits) (input : OpenInput)
    (partials : List PartialInput) : Prop where
  gate : (∃ detail, openSecret crypto limits input partials = .error (.invalidSubset detail)) ↔
    ¬ ValidSubset (partials.map (·.point))
  /-- The refusal is the same whatever the other bytes are and however they would be decoded. -/
  undecoded : ¬ ValidSubset (partials.map (·.point)) → ∃ detail,
    ∀ (crypto' : Crypto) (limits' : Limits) (input' : OpenInput) (partials' : List PartialInput),
      partials'.map (·.point) = partials.map (·.point) →
        openSecret crypto' limits' input' partials' = .error (.invalidSubset detail)
  ordered : ValidSubset (partials.map (·.point)) → ∀ e,
    all (openChecks crypto limits input partials) = .error e →
      openSecret crypto limits input partials = .error e
  passed : ValidSubset (partials.map (·.point)) →
    all (openChecks crypto limits input partials) = .ok () → ∃ sharedA capsule entries,
      Decoded crypto limits input partials sharedA capsule entries ∧
        openSecret crypto limits input partials =
          concluded (aggregate crypto input sharedA capsule entries)
  permuted : ∀ partials' : List PartialInput, partials'.Perm partials → ∀ plaintext,
    openSecret crypto limits input partials' = .ok plaintext ↔
      openSecret crypto limits input partials = .ok plaintext

/-- No check and no aggregate refuses a subset. -/
theorem not_invalidSubset_of_valid {crypto : Crypto} {limits : Limits} {input : OpenInput}
    {partials : List PartialInput} (valid : ValidSubset (partials.map (·.point))) (detail : String) :
    openSecret crypto limits input partials ≠ .error (.invalidSubset detail) := by
  have other : ∀ {α : Type} {decode : Bytes → Except String α} {field : String} {bytes : Bytes}
      {max : ℕ}, check (de decode field bytes max) ≠ .error (.invalidSubset detail) := by
    intro α decode field bytes max refused
    rcases de_cases decode field bytes max with ⟨-, h⟩ | ⟨-, _, h⟩ | ⟨-, _, h⟩ <;>
      rw [h] at refused <;> cases refused
  have sized : ∀ {field : String} {actual max : ℕ},
      bound field actual max ≠ .error (.invalidSubset detail) := by
    intro field actual max refused
    unfold bound at refused
    split at refused <;> cases refused
  intro refused
  cases checks : all (openChecks crypto limits input partials) with
  | error e =>
    rw [openSecret_of_failed valid checks] at refused
    cases refused
    obtain ⟨c, listed, failed⟩ := exists_of_all_error checks
    simp only [openChecks, storedChecks, partialChecks, List.mem_append, List.mem_flatMap,
      List.mem_cons, List.not_mem_nil, or_false] at listed
    rcases listed with (rfl | rfl | rfl | rfl | rfl) | ⟨p, -, rfl | rfl | rfl⟩
    · exact sized failed
    · exact sized failed
    · exact other failed
    · exact other failed
    · split at failed <;> cases failed
    · exact other failed
    · exact other failed
    · exact other failed
  | ok =>
    obtain ⟨sharedA, capsule, entries, decoded⟩ := exists_decoded checks
    rw [openSecret_of_decoded valid decoded] at refused
    generalize aggregate crypto input sharedA capsule entries = outcome at refused
    rcases outcome with (_ | _) | _ <;> cases refused

/-- Opening refuses a bad subset undecoded, makes its checks in order, takes every coefficient over
the whole subset, and does not depend on the order of the partials. -/
theorem openSecret_opensInOrder (crypto : Crypto) (limits : Limits) (input : OpenInput)
    (partials : List PartialInput) (lagrange : LagrangeOfSet crypto)
    (multiset : AggregateOfMultiset crypto) : OpensInOrder crypto limits input partials := by
  have undecoded : ¬ ValidSubset (partials.map (·.point)) → ∃ detail,
      ∀ (crypto' : Crypto) (limits' : Limits) (input' : OpenInput) (partials' : List PartialInput),
        partials'.map (·.point) = partials.map (·.point) →
          openSecret crypto' limits' input' partials' = .error (.invalidSubset detail) := by
    intro invalid
    obtain ⟨valid, -⟩ | ⟨-, detail, refused⟩ := subsetPoints_cases partials
    · exact absurd valid invalid
    · refine ⟨detail, fun crypto' limits' input' partials' same => ?_⟩
      unfold openSecret
      rw [refused partials' same]
      rfl
  refine ⟨⟨?_, fun invalid => ?_⟩, undecoded, fun valid e => openSecret_of_failed valid,
    fun valid passed => ?_, fun partials' same plaintext => ?_⟩
  · rintro ⟨detail, refused⟩ valid
    exact not_invalidSubset_of_valid valid detail refused
  · obtain ⟨detail, refused⟩ := undecoded invalid
    exact ⟨detail, refused crypto limits input partials rfl⟩
  · obtain ⟨sharedA, capsule, entries, decoded⟩ := exists_decoded passed
    exact ⟨sharedA, capsule, entries, decoded, openSecret_of_decoded valid decoded⟩
  · exact ⟨openSecret_perm lagrange multiset same.symm, openSecret_perm lagrange multiset same⟩

/-! ## Shares on a line -/

/-- The Lagrange coefficient at zero, over the rationals. -/
def interpolate (point : ℕ) (points : List ℕ) : ℚ :=
  ((points.filter (· ≠ point)).map fun j : ℕ => (j : ℚ) / ((j : ℚ) - point)).prod

/-- Every share is the value that its commitment stands for, times its coefficient. -/
def Weighted (entries : List (PartialEntry ℚ Bytes ℚ ℚ)) : Prop :=
  ∀ e ∈ entries, e.share = e.lambda * e.commitment

instance (entries : List (PartialEntry ℚ Bytes ℚ ℚ)) : Decidable (Weighted entries) :=
  inferInstanceAs (Decidable (∀ e ∈ entries, e.share = e.lambda * e.commitment))

/-- Check the shares, add them up, and take the key off the ciphertext if its first byte is the
key. -/
def interpolateOpen (entries : List (PartialEntry ℚ Bytes ℚ ℚ)) (stored : SealedSecrets) :
    Except OpenError Plaintext :=
  if Weighted entries then
    match stored.ciphertext with
    | tag :: body =>
      if (entries.map (·.share)).sum = (tag.toNat : ℚ) then .ok (body.map (· - tag)) else .error .aead
    | [] => .error .aead
  else .error (.aggregate "a share is not of its commitment")

/-- A cryptography whose key is the value at zero of the polynomial through the committed values.  A
share is a sign, a numerator and a denominator, of one byte each. -/
def interpolation : Crypto where
  Share := ℚ
  Proof := Bytes
  Commitment := ℚ
  Lambda := ℚ
  Capsule := Bytes
  SharedA := Bytes
  decodeShare
    | [0, numerator, denominator] => .ok ((numerator.toNat : ℚ) / denominator.toNat)
    | [1, numerator, denominator] => .ok (-(numerator.toNat : ℚ) / denominator.toNat)
    | _ => .error "a share is a sign, a numerator and a denominator"
  decodeProof := .ok
  decodeCommitment
    | [value] => .ok value.toNat
    | _ => .error "a commitment is one byte"
  decodeCapsule := .ok
  decodeSharedA := .ok
  lagrangeCoefficient := interpolate
  serializeLambda lambda := .ok (utf8 (toString lambda).toList)
  verifyAggregateOpen entries _ _ _ _ _ _ stored := interpolateOpen entries stored

theorem interpolate_perm (point : ℕ) {points points' : List ℕ} (same : points.Perm points') :
    interpolate point points = interpolate point points' :=
  List.Perm.prod_eq ((same.filter _).map _)

theorem interpolateOpen_perm {entries entries' : List (PartialEntry ℚ Bytes ℚ ℚ)}
    (same : entries.Perm entries') (stored : SealedSecrets) :
    interpolateOpen entries stored = interpolateOpen entries' stored := by
  have keys : (entries.map (·.share)).sum = (entries'.map (·.share)).sum :=
    List.Perm.sum_eq (same.map _)
  have checked : Weighted entries ↔ Weighted entries' :=
    ⟨fun all e mem => all e (same.mem_iff.mpr mem), fun all e mem => all e (same.mem_iff.mp mem)⟩
  unfold interpolateOpen
  simp only [keys, checked]

theorem interpolation_lagrange : LagrangeOfSet interpolation :=
  fun point _ _ same => interpolate_perm point same

theorem interpolation_aggregate : AggregateOfMultiset interpolation :=
  fun _ _ _ _ _ _ _ _ stored same => congrArg _ (interpolateOpen_perm same stored)

/-- Two values of a line give its value at zero. -/
theorem interpolate_line {x y : ℕ} (apart : x ≠ y) (value slope : ℚ) :
    interpolate x [x, y] * (value + slope * x) + interpolate y [x, y] * (value + slope * y) =
      value := by
  have first : interpolate x [x, y] = y / (y - x) := by
    simp [interpolate, apart.symm]
  have second : interpolate y [x, y] = x / (x - y) := by
    simp [interpolate, apart]
  have nonzero : (y : ℚ) - x ≠ 0 := sub_ne_zero.mpr (Nat.cast_injective.ne apart.symm)
  rw [first, second, ← neg_sub (y : ℚ) x, div_neg, neg_mul, ← sub_eq_add_neg, div_mul_eq_mul_div,
    div_mul_eq_mul_div, ← sub_div, div_eq_iff nonzero]
  ring

/-- What a member of a committee on a line makes of its coefficient. -/
structure OnLine (value slope point : ℕ) (lambda share commitment : ℚ) : Prop where
  committed : commitment = ((value + slope * point : ℕ) : ℚ)
  weighted : share = lambda * commitment

/-- Two members of a committee on a line open what was sealed under its value at zero. -/
theorem interpolateOpen_line (value : UInt8) (slope : ℕ)
    {entries : List (PartialEntry ℚ Bytes ℚ ℚ)} {points : List ℕ} (valid : ValidSubset points)
    (length : points.length = 2)
    (each : List.Forall₂ (fun point e => e.lambda = interpolate point points ∧
      OnLine value.toNat slope point e.lambda e.share e.commitment) points entries)
    (plaintext nonce : Bytes) :
    interpolateOpen entries ⟨value :: plaintext.map (· + value), nonce⟩ = .ok plaintext := by
  obtain ⟨x, y, rfl⟩ := List.length_eq_two.mp length
  have apart : x ≠ y := by simpa using valid.distinct
  cases each with
  | @cons _ e _ _ first each =>
    cases each with
    | @cons _ e' _ _ second each =>
      cases each
      have weighted : Weighted [e, e'] := by
        intro e'' mem
        rcases List.mem_pair.mp mem with rfl | rfl
        · exact first.2.weighted
        · exact second.2.weighted
      have key : ([e, e'].map (·.share)).sum = (value.toNat : ℚ) := by
        rw [List.map_cons, List.map_cons, List.map_nil, List.sum_cons, List.sum_cons, List.sum_nil,
          first.2.weighted, first.2.committed, first.1, second.2.weighted, second.2.committed,
          second.1, add_zero]
        push_cast
        exact interpolate_line apart value.toNat slope
      have again : ∀ b : UInt8, b + value - value = b := fun b => UInt8.add_sub_cancel b value
      unfold interpolateOpen
      rw [if_pos weighted]
      simp only [key, if_true, List.map_map, Function.comp_def, again, List.map_id']

/-- A ciphertext under key 1, and two points of the line `1 + 2 x`. -/
def lineInput : OpenInput :=
  ⟨[], [], 7, 5, [], [], List.replicate 12 0 ++ [1, 8]⟩

def linePartials : List PartialInput := [⟨1, [0, 6, 1], [], [3]⟩, ⟨2, [1, 5, 1], [], [5]⟩]

theorem openSecret_opensInOrder_line :
    LagrangeOfSet interpolation ∧ AggregateOfMultiset interpolation ∧
      OpensInOrder interpolation ⟨64, 1024, 4096⟩ lineInput linePartials :=
  ⟨interpolation_lagrange, interpolation_aggregate,
    openSecret_opensInOrder interpolation ⟨64, 1024, 4096⟩ lineInput linePartials
      interpolation_lagrange interpolation_aggregate⟩

/-- The two open it, one of them twice its share does not, nor do two under a wrong commitment. -/
example :
    openSecret interpolation ⟨64, 1024, 4096⟩ lineInput linePartials = .ok [7] ∧
      openSecret interpolation ⟨64, 1024, 4096⟩ lineInput
        [⟨1, [0, 12, 1], [], [3]⟩, ⟨2, [1, 5, 1], [], [5]⟩] =
          .error (.aggregate "a share is not of its commitment") ∧
      openSecret interpolation ⟨64, 1024, 4096⟩ lineInput
        [⟨1, [0, 12, 1], [], [6]⟩, ⟨2, [1, 5, 1], [], [5]⟩] = .error .aead := by
  decide +kernel

end MatterSdk
