import Mathlib.Data.List.Count
import Mathlib.Data.List.Induction
import Mathlib.Data.List.Nodup
import Mathlib.Order.Basic
import Mathlib.Order.Nat

/-!
# Tallies of ballots

A tally maps each key to its number of ballots, in the order in which the keys first appeared.
`pick` selects an entry by a comparison of each newcomer with the best so far; a comparison that
never prefers fewer ballots (`Prefers`) selects an entry with the most.
-/

namespace Tally

variable {κ κ' α : Type*}

/-- Count one more ballot for `k`. -/
def bump (same : κ → κ → Bool) (k : κ) : List (κ × ℕ) → List (κ × ℕ)
  | [] => [(k, 1)]
  | (k', n) :: rest => if same k' k then (k', n + 1) :: rest else (k', n) :: bump same k rest

/-- The ballots counted for `k`. -/
def votes (same : κ → κ → Bool) (t : List (κ × ℕ)) (k : κ) : ℕ :=
  match t with
  | [] => 0
  | (k', n) :: rest => if same k' k then n else votes same rest k

/-- The tally of a list of ballots. -/
def tally (same : κ → κ → Bool) (ballots : List κ) : List (κ × ℕ) :=
  ballots.foldl (fun t k => bump same k t) []

theorem tally_concat (same : κ → κ → Bool) (ballots : List κ) (k : κ) :
    tally same (ballots ++ [k]) = bump same k (tally same ballots) := by
  simp [tally, List.foldl_append]

theorem bump_map {same : κ → κ → Bool} {same' : κ' → κ' → Bool} {f : κ → κ'}
    (h : ∀ a b, same' (f a) (f b) = same a b) (k : κ) (t : List (κ × ℕ)) :
    bump same' (f k) (t.map (Prod.map f id)) = (bump same k t).map (Prod.map f id) := by
  induction t with
  | nil => rfl
  | cons entry rest ih =>
    obtain ⟨k', n⟩ := entry
    simp only [List.map_cons, Prod.map_apply, id_eq, bump, h]
    split_ifs <;> simp [ih]

theorem votes_map {same : κ → κ → Bool} {same' : κ' → κ' → Bool} {f : κ → κ'}
    (h : ∀ a b, same' (f a) (f b) = same a b) (k : κ) (t : List (κ × ℕ)) :
    votes same' (t.map (Prod.map f id)) (f k) = votes same t k := by
  induction t with
  | nil => rfl
  | cons entry rest ih =>
    obtain ⟨k', n⟩ := entry
    simp only [List.map_cons, Prod.map_apply, id_eq, votes, h, ih]

theorem mem_keys_bump {same : κ → κ → Bool} {k j : κ} {t : List (κ × ℕ)}
    (h : j ∈ (bump same k t).map Prod.fst) : j = k ∨ j ∈ t.map Prod.fst := by
  induction t with
  | nil => simpa [bump] using h
  | cons entry rest ih =>
    obtain ⟨k', n⟩ := entry
    rw [bump] at h
    split_ifs at h
    · exact Or.inr (by simpa using h)
    · rw [List.map_cons, List.mem_cons] at h
      rcases h with rfl | h
      · exact Or.inr (by simp)
      · exact (ih h).imp_right (List.mem_cons_of_mem _)

/-- Every key of a tally has a ballot. -/
theorem mem_ballots_of_mem_tally {same : κ → κ → Bool} (ballots : List κ) :
    ∀ {j : κ}, j ∈ (tally same ballots).map Prod.fst → j ∈ ballots := by
  induction ballots using List.reverseRecOn with
  | nil => simp [tally]
  | append_singleton ballots k ih =>
    intro j hj
    rw [tally_concat] at hj
    rcases mem_keys_bump hj with rfl | hj
    · simp
    · exact List.mem_append_left _ (ih hj)

section Decidable

variable [DecidableEq κ]

/-- Equality as a comparison of keys. -/
abbrev eqKey (a b : κ) : Bool := decide (a = b)

theorem votes_bump (k j : κ) (t : List (κ × ℕ)) :
    votes eqKey (bump eqKey k t) j = votes eqKey t j + if k = j then 1 else 0 := by
  induction t with
  | nil => by_cases h : k = j <;> simp [bump, votes, h]
  | cons entry rest ih =>
    obtain ⟨k', n⟩ := entry
    by_cases hk : k' = k
    · subst hk
      by_cases hj : k' = j <;> simp [bump, votes, hj]
    · by_cases hj : k' = j
      · subst hj
        simp [bump, votes, hk, Ne.symm hk]
      · simp [bump, votes, hk, hj, ih]

/-- A tally counts. -/
theorem votes_tally (ballots : List κ) (k : κ) :
    votes eqKey (tally eqKey ballots) k = ballots.count k := by
  induction ballots using List.reverseRecOn with
  | nil => rfl
  | append_singleton ballots j ih =>
    rw [tally_concat, votes_bump, ih, List.count_append, List.count_singleton]
    by_cases h : j = k <;> simp [h]

theorem keys_bump (k : κ) (t : List (κ × ℕ)) (nodup : (t.map Prod.fst).Nodup) :
    ((bump eqKey k t).map Prod.fst).Nodup := by
  induction t with
  | nil => simp [bump]
  | cons entry rest ih =>
    obtain ⟨k', n⟩ := entry
    rw [List.map_cons, List.nodup_cons] at nodup
    rw [bump]
    split_ifs with h
    · simpa using nodup
    · rw [List.map_cons, List.nodup_cons]
      refine ⟨fun hk => ?_, ih nodup.2⟩
      rcases mem_keys_bump hk with rfl | hk
      · simp at h
      · exact nodup.1 hk

theorem keys_tally (ballots : List κ) : ((tally eqKey ballots).map Prod.fst).Nodup := by
  induction ballots using List.reverseRecOn with
  | nil => simp [tally]
  | append_singleton ballots k ih => rw [tally_concat]; exact keys_bump k _ ih

theorem votes_of_mem {t : List (κ × ℕ)} (nodup : (t.map Prod.fst).Nodup) {k : κ} {n : ℕ}
    (h : (k, n) ∈ t) : votes eqKey t k = n := by
  induction t with
  | nil => simp at h
  | cons entry rest ih =>
    obtain ⟨k', m⟩ := entry
    rw [List.map_cons, List.nodup_cons] at nodup
    rcases List.mem_cons.1 h with heq | h
    · simp_all [votes]
    · have other : k' ≠ k := by
        rintro rfl
        exact nodup.1 (List.mem_map.2 ⟨_, h, rfl⟩)
      simp [votes, other, ih nodup.2 h]

/-- The entries of a tally are the keys with a ballot, each with its count. -/
theorem mem_tally_iff {ballots : List κ} {k : κ} {n : ℕ} :
    (k, n) ∈ tally eqKey ballots ↔ 0 < n ∧ ballots.count k = n := by
  have count (m : ℕ) (h : (k, m) ∈ tally eqKey ballots) : ballots.count k = m := by
    rw [← votes_tally, votes_of_mem (keys_tally ballots) h]
  have pos (m : ℕ) (h : (k, m) ∈ tally eqKey ballots) : 0 < m := by
    rw [← count m h]
    exact List.count_pos_iff.2 (mem_ballots_of_mem_tally ballots (List.mem_map_of_mem h))
  refine ⟨fun h => ⟨pos n h, count n h⟩, fun ⟨hn, hc⟩ => ?_⟩
  by_contra absent
  have unlisted : k ∉ (tally eqKey ballots).map Prod.fst := by
    intro hk
    obtain ⟨⟨k', m⟩, hm, rfl⟩ := List.mem_map.1 hk
    obtain rfl : m = n := by rw [← hc, count m hm]
    exact absent hm
  have none (t : List (κ × ℕ)) (h : k ∉ t.map Prod.fst) : votes eqKey t k = 0 := by
    induction t with
    | nil => rfl
    | cons entry rest ih =>
      obtain ⟨k', m⟩ := entry
      simp only [List.map_cons, List.mem_cons, not_or] at h
      simp [votes, Ne.symm h.1, ih h.2]
  have := none _ unlisted
  rw [votes_tally] at this
  omega

theorem tally_ne_nil {ballots : List κ} (h : ballots ≠ []) : tally eqKey ballots ≠ [] := by
  obtain ⟨k, rest, rfl⟩ := List.exists_cons_of_ne_nil h
  have counted : (k, (k :: rest).count k) ∈ tally eqKey (k :: rest) :=
    mem_tally_iff.2 ⟨List.count_pos_iff.2 List.mem_cons_self, rfl⟩
  exact List.ne_nil_of_mem counted

end Decidable

/-! ## Selection -/

/-- Go through a list, keeping the newcomer whenever `better newcomer best`. -/
def pick (better : α → α → Bool) : List α → Option α
  | [] => none
  | a :: rest => some (rest.foldl (fun best b => if better b best then b else best) a)

theorem pick_eq_none_iff {better : α → α → Bool} {l : List α} : pick better l = none ↔ l = [] := by
  cases l <;> simp [pick]

/-- Of two elements, `better` keeps one of the larger weight. -/
def Prefers {β : Type*} [Preorder β] (weight : α → β) (better : α → α → Bool) (earlier later : α) :
    Prop :=
  (better later earlier = true → weight earlier ≤ weight later) ∧
    (better later earlier = false → weight later ≤ weight earlier)

/-- What `pick` selects is an element of the list, of maximal weight. -/
theorem pick_spec {β : Type*} [Preorder β] {weight : α → β} {better : α → α → Bool} {l : List α}
    {a : α} (prefers : l.Pairwise (Prefers weight better)) (h : pick better l = some a) :
    a ∈ l ∧ ∀ b ∈ l, weight b ≤ weight a := by
  cases l with
  | nil => simp [pick] at h
  | cons first rest =>
    simp only [pick, Option.some.injEq] at h
    subst h
    induction rest generalizing first with
    | nil => simp
    | cons b rest ih =>
      simp only [List.foldl_cons]
      obtain ⟨ahead, after⟩ := List.pairwise_cons.1 prefers
      obtain ⟨behind, tail⟩ := List.pairwise_cons.1 after
      by_cases hb : better b first = true
      · rw [if_pos hb]
        obtain ⟨mem, top⟩ := ih b after
        refine ⟨List.mem_cons_of_mem _ mem, fun c hc => ?_⟩
        rcases List.mem_cons.1 hc with rfl | hc
        · exact ((ahead b (by simp)).1 hb).trans (top b (by simp))
        · exact top c hc
      · rw [if_neg hb]
        have without : (first :: rest).Pairwise (Prefers weight better) :=
          List.pairwise_cons.2 ⟨fun c hc => ahead c (List.mem_cons_of_mem _ hc), tail⟩
        obtain ⟨mem, top⟩ := ih first without
        refine ⟨?_, fun c hc => ?_⟩
        · rcases List.mem_cons.1 mem with heq | mem
          · rw [heq]
            exact List.mem_cons_self
          · exact List.mem_cons_of_mem _ (List.mem_cons_of_mem _ mem)
        · rcases List.mem_cons.1 hc with rfl | hc
          · exact top _ (by simp)
          · rcases List.mem_cons.1 hc with rfl | hc
            · exact ((ahead _ (by simp)).2 (by simpa using hb)).trans (top first (by simp))
            · exact top c (List.mem_cons_of_mem _ hc)

theorem pick_map {β : Type*} (better : β → β → Bool) (f : α → β) (l : List α) :
    pick better (l.map f) = (pick (fun a b => better (f a) (f b)) l).map f := by
  cases l with
  | nil => rfl
  | cons first rest =>
    simp only [List.map_cons, pick, Option.map_some, Option.some.injEq]
    induction rest generalizing first with
    | nil => rfl
    | cons a rest ih =>
      simp only [List.map_cons, List.foldl_cons, ← ih]
      congr 1
      split_ifs <;> rfl

/-! ## Leaders -/

/-- No key has more ballots. -/
def Leads (t : List (κ × ℕ)) (k : κ) : Prop := ∃ n, (k, n) ∈ t ∧ ∀ entry ∈ t, entry.2 ≤ n

/-- A comparison that keeps one of more ballots picks a leader. -/
theorem leads_of_pick {better : κ × ℕ → κ × ℕ → Bool} {t : List (κ × ℕ)} {best : κ × ℕ}
    (prefers : t.Pairwise (Prefers Prod.snd better)) (h : pick better t = some best) :
    Leads t best.1 := by
  obtain ⟨mem, top⟩ := pick_spec prefers h
  exact ⟨best.2, mem, top⟩

/-- Whatever name the keys go by, a leader is picked from a tally that is not empty. -/
theorem exists_leads_of_pick_map {better : κ' × ℕ → κ' × ℕ → Bool}
    (prefers : ∀ a b, Prefers Prod.snd better a b) (f : κ → κ') {t : List (κ × ℕ)} (h : t ≠ []) :
    ∃ k, Leads t k ∧ (pick better (t.map (Prod.map f id))).map Prod.fst = some (f k) := by
  rw [pick_map]
  have prefers' (a b : κ × ℕ) :
      Prefers Prod.snd (fun a b => better (Prod.map f id a) (Prod.map f id b)) a b :=
    prefers (Prod.map f id a) (Prod.map f id b)
  cases hp : pick (fun a b => better (Prod.map f id a) (Prod.map f id b)) t with
  | none => exact absurd (pick_eq_none_iff.1 hp) h
  | some best =>
    exact ⟨best.1, leads_of_pick (List.pairwise_of_forall prefers') hp, rfl⟩

theorem Leads.of_perm {t t' : List (κ × ℕ)} {k : κ} (perm : t.Perm t') (h : Leads t k) :
    Leads t' k := by
  obtain ⟨n, mem, top⟩ := h
  exact ⟨n, perm.mem_iff.1 mem, fun entry he => top entry (perm.mem_iff.2 he)⟩

theorem leads_tally_iff [DecidableEq κ] {ballots : List κ} {k : κ} :
    Leads (tally eqKey ballots) k ↔
      k ∈ ballots ∧ ∀ other, ballots.count other ≤ ballots.count k := by
  constructor
  · rintro ⟨n, mem, top⟩
    obtain ⟨pos, rfl⟩ := mem_tally_iff.1 mem
    refine ⟨List.count_pos_iff.1 pos, fun other => ?_⟩
    by_cases absent : ballots.count other = 0
    · omega
    · exact top (other, _) (mem_tally_iff.2 ⟨Nat.pos_of_ne_zero absent, rfl⟩)
  · rintro ⟨mem, top⟩
    refine ⟨_, mem_tally_iff.2 ⟨List.count_pos_iff.2 mem, rfl⟩, fun ⟨other, n⟩ he => ?_⟩
    obtain ⟨-, rfl⟩ := mem_tally_iff.1 he
    exact top other

end Tally
