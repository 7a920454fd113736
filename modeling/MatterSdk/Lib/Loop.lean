import Mathlib.Data.Nat.Notation
import Mathlib.Tactic.TypeStar

/-!
# Loops with an early exit

A loop body either leaves the loop with a value or goes on with a new state (`Flow`).  `forEach`
runs a body over a list, `run` runs one for as long as it asks to go on, given a `Variant` that
makes it end, and `rounds` runs one for a number of rounds, where nothing makes it end.  Each has a
rule with an invariant for one loop; the first two also have one with a relation for two loops in
step.
-/

namespace Loop

variable {α β γ σ τ : Type*}

/-- What a loop body decides: leave with `b`, or go on in state `s`. -/
inductive Flow (β σ : Type*) where
  | done (b : β)
  | next (s : σ)

/-- `Post` of the value a body leaves with, `Inv` of the state it goes on with. -/
def Flow.Meets (Post : β → Prop) (Inv : σ → Prop) : Flow β σ → Prop
  | .done b => Post b
  | .next s => Inv s

@[simp] theorem Flow.meets_done (Post : β → Prop) (Inv : σ → Prop) (b : β) :
    (Flow.done b : Flow β σ).Meets Post Inv ↔ Post b := Iff.rfl

@[simp] theorem Flow.meets_next (Post : β → Prop) (Inv : σ → Prop) (s : σ) :
    (Flow.next s : Flow β σ).Meets Post Inv ↔ Inv s := Iff.rfl

theorem Flow.Meets.imp {Post Post' : β → Prop} {Inv Inv' : σ → Prop}
    (post : ∀ b, Post b → Post' b) (inv : ∀ s, Inv s → Inv' s) :
    ∀ {flow : Flow β σ}, flow.Meets Post Inv → flow.Meets Post' Inv'
  | .done b, h => post b h
  | .next s, h => inv s h

/-- Two bodies that leave together, or go on together. -/
def Flow.Related (Q : β → γ → Prop) (R : σ → τ → Prop) : Flow β σ → Flow γ τ → Prop
  | .done b, .done c => Q b c
  | .next s, .next t => R s t
  | _, _ => False

/-! ## Over a list -/

/-- Run `body` on the elements of a list in order, until one leaves the loop. -/
def forEach (body : α → σ → Flow β σ) : List α → σ → Flow β σ
  | [], s => .next s
  | a :: l, s =>
    match body a s with
    | .done b => .done b
    | .next s' => forEach body l s'

/-- The invariant may speak of the elements still to come. -/
theorem forEach_rule {f : α → σ → Flow β σ} {Q : β → Prop} {I : List α → σ → Prop}
    (step : ∀ a l s, I (a :: l) s → (f a s).Meets Q (I l)) :
    ∀ l s, I l s → (forEach f l s).Meets Q (I [])
  | [], _, h => h
  | a :: l, s, h => by
    have ha := step a l s h
    unfold forEach
    cases hb : f a s with
    | done b => simpa [hb] using ha
    | next s' => exact forEach_rule step l s' (by simpa [hb] using ha)

theorem forEach_related {body : α → σ → Flow β σ} {body' : α → τ → Flow γ τ}
    {Q : β → γ → Prop} {R : σ → τ → Prop}
    (step : ∀ a s t, R s t → (body a s).Related Q R (body' a t)) :
    ∀ l s t, R s t → (forEach body l s).Related Q R (forEach body' l t)
  | [], _, _, h => h
  | a :: l, s, t, h => by
    have ha := step a s t h
    unfold forEach
    cases hb : body a s with
    | done b =>
      cases hc : body' a t with
      | done c => simpa [hb, hc] using ha
      | next t' => simp [hb, hc, Flow.Related] at ha
    | next s' =>
      cases hc : body' a t with
      | done c => simp [hb, hc, Flow.Related] at ha
      | next t' => exact forEach_related step l s' t' (by simpa [hb, hc, Flow.Related] using ha)

/-! ## While the body goes on -/

/-- A measure that every round of `body` decreases. -/
structure Variant (body : σ → Flow β σ) where
  measure : σ → ℕ
  decreases : ∀ s s', body s = .next s' → measure s' < measure s

/-- `n` bounds the rounds left. -/
def exec {body : σ → Flow β σ} (v : Variant body) : (n : ℕ) → (s : σ) → v.measure s < n → β
  | n + 1, s, h =>
    match hb : body s with
    | .done b => b
    | .next s' => exec v n s' (by have := v.decreases s s' hb; omega)

/-- Run `body` until it leaves the loop. -/
def run {body : σ → Flow β σ} (v : Variant body) (s : σ) : β :=
  exec v (v.measure s + 1) s (Nat.lt_succ_self _)

/-- The bound does not matter as long as it is large enough. -/
theorem exec_eq {body : σ → Flow β σ} (v : Variant body) :
    ∀ n m s (hn : v.measure s < n) (hm : v.measure s < m), exec v n s hn = exec v m s hm
  | n + 1, m + 1, s, hn, hm => by
    unfold exec
    split
    · rfl
    · exact exec_eq v n m _ _ _

/-- One round of the loop. -/
theorem run_unfold {body : σ → Flow β σ} (v : Variant body) (s : σ) :
    run v s = match body s with
      | .done b => b
      | .next s' => run v s' := by
  unfold run
  rw [exec]
  split
  · rename_i hb
    simp [hb]
  · rename_i s' hb
    simp only [hb]
    exact exec_eq v _ _ _ _ _

/-- What holds at the start and is kept by every round holds at the round that leaves. -/
theorem run_rule {body : σ → Flow β σ} (v : Variant body) {Q : β → Prop} {I : σ → Prop}
    (step : ∀ s, I s → (body s).Meets Q I) (s : σ) (hs : I s) : Q (run v s) := by
  induction hm : v.measure s using Nat.strongRecOn generalizing s with
  | ind m ih =>
    rw [run_unfold]
    have h := step s hs
    cases hb : body s with
    | done b => simpa [hb] using h
    | next s' =>
      have smaller := v.decreases s s' hb
      exact ih (v.measure s') (by omega) s' (by simpa [hb] using h) rfl

/-- Two loops whose rounds correspond leave with corresponding values. -/
theorem run_related {body : σ → Flow β σ} {body' : τ → Flow γ τ} (v : Variant body)
    (v' : Variant body') {Q : β → γ → Prop} {R : σ → τ → Prop}
    (step : ∀ s t, R s t → (body s).Related Q R (body' t)) (s : σ) (t : τ) (hst : R s t) :
    Q (run v s) (run v' t) := by
  induction hm : v.measure s using Nat.strongRecOn generalizing s t with
  | ind m ih =>
    rw [run_unfold v, run_unfold v']
    have h := step s t hst
    cases hb : body s with
    | done b =>
      cases hc : body' t with
      | done c => simpa [hb, hc, Flow.Related] using h
      | next t' => simp [hb, hc, Flow.Related] at h
    | next s' =>
      cases hc : body' t with
      | done c => simp [hb, hc, Flow.Related] at h
      | next t' =>
        have smaller := v.decreases s s' hb
        exact ih (v.measure s') (by omega) s' t' (by simpa [hb, hc, Flow.Related] using h) rfl

/-! ## For a number of rounds -/

/-- Run `n` rounds of `body`, fewer if it leaves the loop. -/
def rounds (body : σ → Flow β σ) : ℕ → σ → Flow β σ
  | 0, s => .next s
  | n + 1, s =>
    match rounds body n s with
    | .done b => .done b
    | .next s' => body s'

/-- The invariant may speak of the number of rounds. -/
theorem rounds_rule {body : σ → Flow β σ} {Q : β → Prop} {I : ℕ → σ → Prop}
    (step : ∀ n s, I n s → (body s).Meets Q (I (n + 1))) {s : σ} (start : I 0 s) :
    ∀ n, (rounds body n s).Meets Q (I n)
  | 0 => start
  | n + 1 => by
    have before := rounds_rule step start n
    unfold rounds
    cases ran : rounds body n s with
    | done b => simpa [ran] using before
    | next s' => exact step n s' (by simpa [ran] using before)

end Loop
