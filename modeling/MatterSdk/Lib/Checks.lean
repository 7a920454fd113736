import Mathlib.Data.List.Forall2
import Mathlib.Tactic.TypeStar

/-!
# Checks in order

A procedure that can fail makes its checks in an order, and the first that fails decides the error.
`all` is that order for a list of checks; a traversal of a list makes the checks of its elements.
-/

namespace Checks

universe u

variable {ε : Type*} {α β : Type u}

/-- A result without its value. -/
def check : Except ε α → Except ε Unit
  | .error e => .error e
  | .ok _ => .ok ()

/-- Make the checks in order, up to the first that fails. -/
def all : List (Except ε Unit) → Except ε Unit
  | [] => .ok ()
  | .error e :: _ => .error e
  | .ok () :: rest => all rest

@[simp] theorem check_ok (a : α) : check (.ok a : Except ε α) = .ok () := rfl

@[simp] theorem check_error (e : ε) : check (.error e : Except ε α) = .error e := rfl

@[simp] theorem check_unit (r : Except ε Unit) : check r = r := by
  cases r <;> rfl

theorem check_eq_ok_iff {r : Except ε α} : check r = .ok () ↔ ∃ a, r = .ok a := by
  cases r <;> simp

@[simp] theorem all_nil : all ([] : List (Except ε Unit)) = .ok () := rfl

@[simp] theorem all_cons_ok (rest : List (Except ε Unit)) : all (.ok () :: rest) = all rest := rfl

@[simp] theorem all_cons_error (e : ε) (rest : List (Except ε Unit)) :
    all (.error e :: rest) = .error e := rfl

/-- One step after another succeeds exactly if the first does and then the second. -/
theorem bind_ok_iff {r : Except ε α} {f : α → Except ε β} {b : β} :
    (r >>= f) = .ok b ↔ ∃ a, r = .ok a ∧ f a = .ok b := by
  cases r with
  | error e => exact iff_of_false nofun (by rintro ⟨a, h, -⟩; cases h)
  | ok a => exact ⟨fun h => ⟨a, rfl, h⟩, by rintro ⟨_, h, same⟩; cases h; exact same⟩

theorem bind_error_iff {r : Except ε α} {f : α → Except ε β} {e : ε} :
    (r >>= f) = .error e ↔ r = .error e ∨ ∃ a, r = .ok a ∧ f a = .error e := by
  cases r with
  | error e' => simp [bind, Except.bind]
  | ok a => simp [bind, Except.bind]

/-- Two procedures that succeed together and fail together, their values and errors related. -/
inductive Sim {δ : Type*} (R : α → β → Prop) (E : ε → δ → Prop) : Except ε α → Except δ β → Prop where
  | ok {a : α} {b : β} (related : R a b) : Sim R E (.ok a) (.ok b)
  | error {e : ε} {d : δ} (related : E e d) : Sim R E (.error e) (.error d)

/-- What follows of related values is related. -/
theorem Sim.bind {δ : Type*} {γ γ' : Type u} {R : α → β → Prop} {S : γ → γ' → Prop} {E : ε → δ → Prop}
    {x : Except ε α} {y : Except δ β} {f : α → Except ε γ} {g : β → Except δ γ'} (first : Sim R E x y)
    (next : ∀ a b, R a b → Sim S E (f a) (g b)) : Sim S E (x >>= f) (y >>= g) := by
  cases first with
  | ok related => exact next _ _ related
  | error related => exact .error related

theorem all_append (l m : List (Except ε Unit)) :
    all (l ++ m) = match all l with
      | .error e => .error e
      | .ok () => all m := by
  induction l with
  | nil => rfl
  | cons c l ih =>
    cases c with
    | error e => rfl
    | ok => exact ih

theorem all_eq_ok_iff {l : List (Except ε Unit)} : all l = .ok () ↔ ∀ c ∈ l, c = .ok () := by
  induction l with
  | nil => simp
  | cons c l ih =>
    rw [List.forall_mem_cons, ← ih]
    cases c with
    | error e => simp
    | ok => exact (and_iff_right rfl).symm

theorem exists_of_all_error {l : List (Except ε Unit)} {e : ε} (failed : all l = .error e) :
    ∃ c ∈ l, c = .error e := by
  induction l with
  | nil => cases failed
  | cons c l ih =>
    cases c with
    | error e' => exact ⟨_, List.mem_cons_self .., congrArg _ (Except.error.inj failed)⟩
    | ok =>
      obtain ⟨c, listed, same⟩ := ih failed
      exact ⟨c, List.mem_cons_of_mem _ listed, same⟩

/-- The checks of a list, each of which is a list of checks. -/
theorem all_flatMap (g : α → List (Except ε Unit)) (l : List α) :
    all (l.flatMap g) = all (l.map fun a => all (g a)) := by
  induction l with
  | nil => rfl
  | cons a l ih =>
    rw [List.flatMap_cons, all_append, List.map_cons]
    cases all (g a) with
    | error e => rfl
    | ok => exact ih

/-- A procedure whose next step is the first of its checks fails as they do, if the rest of it fails
as the rest of them do. -/
theorem bind_of_failed {x : Except ε α} {f : α → Except ε β} {c : Except ε Unit}
    {rest : List (Except ε Unit)} {e : ε} (first : check x = c) (failed : all (c :: rest) = .error e)
    (later : ∀ a, x = .ok a → all rest = .error e → f a = .error e) : x >>= f = .error e := by
  subst first
  cases x with
  | error e' => exact congrArg Except.error (Except.error.inj failed)
  | ok a => exact later a rfl failed

variable {f : α → Except ε β}

/-- A traversal returns what each of its steps returns. -/
theorem mapM_eq_ok_iff {l : List α} {out : List β} :
    l.mapM f = .ok out ↔ List.Forall₂ (fun a b => f a = .ok b) l out := by
  induction l generalizing out with
  | nil =>
    rw [List.mapM_nil, List.forall₂_nil_left_iff]
    exact ⟨fun same => (Except.ok.inj same).symm, fun same => by rw [same]; rfl⟩
  | cons a l ih =>
    rw [List.mapM_cons, List.forall₂_cons_left_iff]
    cases first : f a with
    | error e => exact iff_of_false (by simp [bind, Except.bind]) (by simp)
    | ok b =>
      show (l.mapM f >>= fun rest => pure (b :: rest)) = .ok out ↔ _
      cases later : l.mapM f with
      | error e =>
        refine iff_of_false (by simp [bind, Except.bind]) ?_
        rintro ⟨b', rest, -, each, -⟩
        rw [ih.mpr each] at later
        cases later
      | ok rest =>
        show Except.ok (b :: rest) = Except.ok out ↔ _
        constructor
        · rintro ⟨⟩
          exact ⟨b, rest, rfl, ih.mp later, rfl⟩
        · rintro ⟨b', rest', same, each, rfl⟩
          have rests := ih.mpr each
          rw [later] at rests
          cases same
          cases rests
          rfl

/-- A traversal fails as its first failing step does. -/
theorem check_mapM (l : List α) : check (l.mapM f) = all (l.map fun a => check (f a)) := by
  induction l with
  | nil => rfl
  | cons a l ih =>
    rw [List.mapM_cons, List.map_cons]
    cases f a with
    | error e => rfl
    | ok b =>
      show check (l.mapM f >>= fun rest => pure (b :: rest)) = all (l.map fun a => check (f a))
      rw [← ih]
      cases l.mapM f <;> rfl

end Checks
