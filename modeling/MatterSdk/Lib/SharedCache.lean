import Mathlib.Logic.Function.Basic
import Mathlib.Data.Nat.Notation
import Mathlib.Tactic.TypeStar

/-!
# A cache that many sessions refresh

A session reads the cached value, looks up a fresh answer and then writes, or does not, by comparing
the answer to the value that it read.  Sessions overlap in any way.  `Fresh` is the condition on a
finishing session under which the cache keeps up with the most recent answer, and `Tracks` is what
it keeps.
-/

namespace SharedCache

variable {κ α : Type*}

/-- Where a session stands: not running, with the value it read, or with its answer as well. -/
inductive Phase (κ α : Type*) where
  | idle
  | reading (previous : κ)
  | answered (previous : κ) (answer : α)

/-- The cache, the sessions, and the most recent answer with the session that got it. -/
structure Shared (κ α : Type*) where
  cache : κ
  phase : ℕ → Phase κ α
  latest : Option (ℕ × α)

inductive Act (α : Type*) where
  | read (i : ℕ)
  | lookUp (i : ℕ) (answer : α)
  | fail (i : ℕ)
  | finish (i : ℕ)

/-- The session that acts. -/
def Act.session : Act α → ℕ
  | .read i => i
  | .lookUp i _ => i
  | .fail i => i
  | .finish i => i

def Shared.init (cache : κ) : Shared κ α := ⟨cache, fun _ => .idle, none⟩

/-- No session is running. -/
def Shared.Quiet (s : Shared κ α) : Prop := ∀ i, s.phase i = .idle

section

-- `store` is what a session writes, if it writes, by the value it read and its answer.
variable (store : κ → α → Option κ)

def step (s : Shared κ α) : Act α → Shared κ α
  | .read i =>
    match s.phase i with
    | .idle => { s with phase := Function.update s.phase i (.reading s.cache) }
    | _ => s
  | .lookUp i answer =>
    match s.phase i with
    | .reading previous =>
      { s with
        phase := Function.update s.phase i (.answered previous answer)
        latest := some (i, answer) }
    | _ => s
  | .fail i =>
    match s.phase i with
    | .reading _ => { s with phase := Function.update s.phase i .idle }
    | _ => s
  | .finish i =>
    match s.phase i with
    | .answered previous answer =>
      { s with
        cache := (store previous answer).getD s.cache
        phase := Function.update s.phase i .idle }
    | _ => s

def run (s : Shared κ α) (acts : List (Act α)) : Shared κ α := acts.foldl (step store) s

/-- Each act of the run meets a condition on the state before it. -/
def Steps (Meets : Shared κ α → Act α → Prop) (s : Shared κ α) : List (Act α) → Prop
  | [] => True
  | act :: acts => Meets s act ∧ Steps Meets (step store s act) acts

variable {store}

theorem run_inv {Inv : Shared κ α → Prop} {Meets : Shared κ α → Act α → Prop}
    (kept : ∀ s act, Inv s → Meets s act → Inv (step store s act)) {s : Shared κ α}
    {acts : List (Act α)} (inv : Inv s) (meets : Steps store Meets s acts) :
    Inv (run store s acts) := by
  induction acts generalizing s with
  | nil => exact inv
  | cons act acts ih => exact ih (kept s act inv meets.1) meets.2

/-- Two conditions that an invariant makes the same. -/
theorem steps_congr {Inv : Shared κ α → Prop} {Meets Meets' : Shared κ α → Act α → Prop}
    (kept : ∀ s act, Inv s → Inv (step store s act))
    (same : ∀ s act, Inv s → (Meets s act ↔ Meets' s act)) {s : Shared κ α} (inv : Inv s)
    (acts : List (Act α)) : Steps store Meets s acts ↔ Steps store Meets' s acts := by
  induction acts generalizing s with
  | nil => exact Iff.rfl
  | cons act acts ih => exact and_congr (same s act inv) (ih (kept s act inv))

/-- A condition that follows from another by an invariant that the other keeps. -/
theorem Steps.imp {Inv : Shared κ α → Prop} {Meets Meets' : Shared κ α → Act α → Prop}
    (kept : ∀ s act, Inv s → Meets s act → Inv (step store s act))
    (follows : ∀ s act, Inv s → Meets s act → Meets' s act) {s : Shared κ α} (inv : Inv s)
    {acts : List (Act α)} (meets : Steps store Meets s acts) : Steps store Meets' s acts := by
  induction acts generalizing s with
  | nil => trivial
  | cons act acts ih => exact ⟨follows s act inv meets.1, ih (kept s act inv meets.1) meets.2⟩

theorem steps_true {s : Shared κ α} {acts : List (Act α)} :
    Steps store (fun _ _ => True) s acts := by
  induction acts generalizing s with
  | nil => trivial
  | cons act acts ih => exact ⟨trivial, ih⟩

/-! ## What every value keeps -/

/-- The value that the session holds, if it holds one, satisfies `P`. -/
def Phase.Held (P : κ → Prop) : Phase κ α → Prop
  | .idle => True
  | .reading previous => P previous
  | .answered previous _ => P previous

@[simp] theorem held_reading (P : κ → Prop) (previous : κ) :
    (Phase.reading previous : Phase κ α).Held P ↔ P previous := Iff.rfl

@[simp] theorem held_answered (P : κ → Prop) (previous : κ) (answer : α) :
    (Phase.answered previous answer).Held P ↔ P previous := Iff.rfl

/-- The cache and every value that a running session holds satisfy `P`. -/
def Holds (P : κ → Prop) (s : Shared κ α) : Prop := P s.cache ∧ ∀ i, (s.phase i).Held P

theorem holds_init {P : κ → Prop} {cache : κ} (h : P cache) :
    Holds P (Shared.init cache : Shared κ α) :=
  ⟨h, fun _ => trivial⟩

theorem held_update {P : κ → Prop} {phase : ℕ → Phase κ α} {i : ℕ} {new : Phase κ α}
    (h : ∀ j, (phase j).Held P) (held : new.Held P) (j : ℕ) :
    (Function.update phase i new j).Held P := by
  by_cases same : j = i
  · subst same
    rwa [Function.update_self]
  · rw [Function.update_of_ne same]
    exact h j

/-- What a write keeps, a step keeps. -/
theorem holds_step {P : κ → Prop}
    (kept : ∀ previous answer value, P previous → store previous answer = some value → P value)
    (s : Shared κ α) (act : Act α) (h : Holds P s) : Holds P (step store s act) := by
  obtain ⟨cached, held⟩ := h
  cases act with
  | read i =>
    cases here : s.phase i <;> simp only [step, here]
    · exact ⟨cached, held_update held cached⟩
    all_goals exact ⟨cached, held⟩
  | lookUp i answer =>
    cases here : s.phase i <;> simp only [step, here]
    case reading previous =>
      have previously : P previous := by simpa [here] using held i
      exact ⟨cached, held_update held previously⟩
    all_goals exact ⟨cached, held⟩
  | fail i =>
    cases here : s.phase i <;> simp only [step, here]
    case reading => exact ⟨cached, held_update held trivial⟩
    all_goals exact ⟨cached, held⟩
  | finish i =>
    cases here : s.phase i <;> simp only [step, here]
    case answered previous answer =>
      refine ⟨?_, held_update held trivial⟩
      have previously : P previous := by simpa [here] using held i
      cases stored : store previous answer with
      | none => exact cached
      | some value => exact kept previous answer value previously stored
    all_goals exact ⟨cached, held⟩

theorem holds_run {P : κ → Prop}
    (kept : ∀ previous answer value, P previous → store previous answer = some value → P value)
    {cache : κ} (h : P cache) (acts : List (Act α)) :
    Holds P (run store (Shared.init cache) acts) :=
  run_inv (fun s act inv _ => holds_step kept s act inv) (holds_init h) steps_true

end

/-! ## Keeping up with the answers -/

/-- An answer wants at most one value, and a session writes it unless it is the value that it
read. -/
structure Compares (store : κ → α → Option κ) (want : α → Option κ) (P : κ → Prop) : Prop where
  wanted : ∀ answer value, want answer = some value → P value
  same : ∀ previous answer, P previous → want answer = some previous → store previous answer = none
  other : ∀ previous answer, P previous → want answer ≠ some previous →
    store previous answer = want answer

/-- The session has its answer and has not finished. -/
def Shared.Pending (s : Shared κ α) (i : ℕ) : Prop :=
  ∃ previous answer, s.phase i = .answered previous answer

section

variable (store : κ → α → Option κ) (want : α → Option κ)

/-- A session that finishes either got the most recent answer, and then finds the value that it read
if its answer wants that one; or it got an older one, and then writes nothing over what the most
recent answer wants once the session of that one has finished. -/
def Fresh (s : Shared κ α) : Act α → Prop
  | .finish i => ∀ previous answer, s.phase i = .answered previous answer →
      ∀ j newest, s.latest = some (j, newest) →
        (j = i → want answer = some previous → s.cache = previous) ∧
        (j ≠ i → ¬ s.Pending j → ∀ value newer, store previous answer = some value →
          want newest = some newer → value = newer)
  | _ => True

/-- Once the session of the most recent answer has finished, the cache is what the answer wants. -/
structure Tracks (s : Shared κ α) : Prop where
  latest : ∀ i previous answer newest, s.phase i = .answered previous answer →
    s.latest = some (i, newest) → answer = newest
  cache : ∀ j newest value, s.latest = some (j, newest) → ¬ s.Pending j →
    want newest = some value → s.cache = value

variable {store want}

theorem tracks_init (cache : κ) : Tracks want (Shared.init cache) :=
  ⟨by simp [Shared.init], by simp [Shared.init]⟩

theorem Tracks.quiet {s : Shared κ α} (tracks : Tracks want s) (quiet : s.Quiet) {j : ℕ}
    {newest : α} {value : κ} (latest : s.latest = some (j, newest))
    (wants : want newest = some value) : s.cache = value :=
  tracks.cache j newest value latest (by simp [Shared.Pending, quiet j]) wants

/-- A step that changes neither the cache nor which answers are pending. -/
theorem Tracks.congr {s s' : Shared κ α} (tracks : Tracks want s) (cache : s'.cache = s.cache)
    (latest : s'.latest = s.latest)
    (phase : ∀ i previous answer,
      s'.phase i = .answered previous answer ↔ s.phase i = .answered previous answer) :
    Tracks want s' := by
  refine ⟨fun i previous answer newest answered here => ?_,
    fun j newest value here done wants => ?_⟩
  · rw [phase] at answered
    exact tracks.latest i previous answer newest answered (latest ▸ here)
  · rw [cache]
    refine tracks.cache j newest value (latest ▸ here) ?_ wants
    simpa only [Shared.Pending, phase] using done

theorem answered_update_iff {phase : ℕ → Phase κ α} {i : ℕ} {new : Phase κ α}
    (before : ∀ previous answer, phase i ≠ .answered previous answer)
    (after : ∀ previous answer, new ≠ .answered previous answer) (j : ℕ) (previous : κ)
    (answer : α) :
    Function.update phase i new j = .answered previous answer ↔
      phase j = .answered previous answer := by
  by_cases same : j = i
  · subst same
    rw [Function.update_self]
    exact iff_of_false (after previous answer) (before previous answer)
  · rw [Function.update_of_ne same]

theorem Tracks.read {s : Shared κ α} (tracks : Tracks want s) (i : ℕ) :
    Tracks want (step store s (.read i)) := by
  cases here : s.phase i <;> simp only [step, here]
  · exact tracks.congr rfl rfl (answered_update_iff (by simp [here]) (by simp))
  all_goals exact tracks

theorem Tracks.fail {s : Shared κ α} (tracks : Tracks want s) (i : ℕ) :
    Tracks want (step store s (.fail i)) := by
  cases here : s.phase i <;> simp only [step, here]
  case reading => exact tracks.congr rfl rfl (answered_update_iff (by simp [here]) (by simp))
  all_goals exact tracks

/-- The session that looks up has the most recent answer, and has not finished. -/
theorem Tracks.lookUp {s : Shared κ α} (tracks : Tracks want s) (i : ℕ) (answer : α) :
    Tracks want (step store s (.lookUp i answer)) := by
  cases here : s.phase i <;> simp only [step, here]
  case reading previous =>
    refine ⟨fun j previous' answer' newest answered latest => ?_,
      fun j newest value latest done _ => ?_⟩
    · cases latest
      simp only [Function.update_self, Phase.answered.injEq] at answered
      exact answered.2.symm
    · cases latest
      exact absurd ⟨previous, answer, Function.update_self ..⟩ done
  all_goals exact tracks

theorem pending_update_idle_iff {s : Shared κ α} {i j : ℕ} {cache : κ} (other : j ≠ i) :
    (⟨cache, Function.update s.phase i .idle, s.latest⟩ : Shared κ α).Pending j ↔ s.Pending j := by
  simp only [Shared.Pending, Function.update_of_ne other]

/-- A finishing session keeps the cache up to date exactly if it is fresh. -/
theorem Tracks.finish_iff {P : κ → Prop} (compares : Compares store want P) {s : Shared κ α}
    (tracks : Tracks want s) (holds : Holds P s) (i : ℕ) :
    Tracks want (step store s (.finish i)) ↔ Fresh store want s (.finish i) := by
  by_cases answered : s.Pending i
  · obtain ⟨previous, answer, here⟩ := answered
    have previously : P previous := by simpa [here] using holds.2 i
    simp only [step, here, Fresh, Phase.answered.injEq]
    constructor
    · rintro after _ _ ⟨rfl, rfl⟩ j newest latest
      constructor
      · rintro rfl wants
        obtain rfl := tracks.latest j previous answer newest here latest
        have cached := after.cache j answer previous latest (by simp [Shared.Pending]) wants
        rwa [compares.same previous answer previously wants] at cached
      · intro other done value newer stored wants
        have cached := after.cache j newest newer latest
          (by rwa [pending_update_idle_iff other]) wants
        rwa [stored] at cached
    · intro fresh
      refine ⟨fun k previous' answer' newest answered latest => ?_,
        fun j newest value latest done wants => ?_⟩
      · have other : k ≠ i := by
          rintro rfl
          simp at answered
        simp only [Function.update_of_ne other] at answered
        exact tracks.latest k previous' answer' newest answered latest
      · obtain ⟨own, older⟩ := fresh previous answer ⟨rfl, rfl⟩ j newest latest
        by_cases same : j = i
        · subst same
          obtain rfl := tracks.latest j previous answer newest here latest
          by_cases back : want answer = some previous
          · have : previous = value := Option.some.inj (back.symm.trans wants)
            rw [compares.same previous answer previously back]
            exact (own rfl back).trans this
          · rw [compares.other previous answer previously back, wants]
            rfl
        · rw [pending_update_idle_iff same] at done
          cases stored : store previous answer with
          | none => exact tracks.cache j newest value latest done wants
          | some written => exact older same done written value stored wants
  · have running : ∀ previous answer, s.phase i ≠ .answered previous answer :=
      fun previous answer here => answered ⟨previous, answer, here⟩
    have same : step store s (.finish i) = s := by
      cases here : s.phase i with
      | answered previous answer => exact absurd here (running previous answer)
      | _ => simp only [step, here]
    rw [same]
    exact iff_of_true tracks fun previous answer here => absurd here (running previous answer)

theorem tracks_step_iff {P : κ → Prop} (compares : Compares store want P) {s : Shared κ α}
    (tracks : Tracks want s) (holds : Holds P s) (act : Act α) :
    Tracks want (step store s act) ↔ Fresh store want s act := by
  cases act with
  | read i => exact iff_of_true (tracks.read i) trivial
  | lookUp i answer => exact iff_of_true (tracks.lookUp i answer) trivial
  | fail i => exact iff_of_true (tracks.fail i) trivial
  | finish i => exact tracks.finish_iff compares holds i

theorem Compares.kept {P : κ → Prop} (compares : Compares store want P) (previous : κ) (answer : α)
    (value : κ) (previously : P previous) (stored : store previous answer = some value) :
    P value := by
  by_cases back : want answer = some previous
  · rw [compares.same previous answer previously back] at stored
    cases stored
  · rw [compares.other previous answer previously back] at stored
    exact compares.wanted answer value stored

/-- Whole runs: the cache is up to date after each step iff each step is fresh. -/
theorem steps_tracks_iff {P : κ → Prop} (compares : Compares store want P) {s : Shared κ α}
    (tracks : Tracks want s) (holds : Holds P s) (acts : List (Act α)) :
    Steps store (fun s act => Tracks want (step store s act)) s acts ↔
      Steps store (Fresh store want) s acts := by
  induction acts generalizing s with
  | nil => exact Iff.rfl
  | cons act acts ih =>
    have here := tracks_step_iff compares tracks holds act
    have kept := holds_step compares.kept s act holds
    constructor
    · rintro ⟨now, later⟩
      exact ⟨here.mp now, (ih now kept).mp later⟩
    · rintro ⟨now, later⟩
      exact ⟨here.mpr now, (ih (here.mpr now) kept).mpr later⟩

theorem tracks_run {P : κ → Prop} (compares : Compares store want P) {cache : κ} (h : P cache)
    {acts : List (Act α)} (fresh : Steps store (Fresh store want) (Shared.init cache) acts) :
    Tracks want (run store (Shared.init cache) acts) := by
  have kept : ∀ s act, Tracks want s ∧ Holds P s → Fresh store want s act →
      Tracks want (step store s act) ∧ Holds P (step store s act) := fun s act inv meets =>
    ⟨(tracks_step_iff compares inv.1 inv.2 act).mpr meets, holds_step compares.kept s act inv.2⟩
  exact (run_inv kept ⟨tracks_init cache, holds_init h⟩ fresh).1

end

end SharedCache
