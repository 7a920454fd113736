import Mathlib.Data.List.Forall2
import Mathlib.Tactic.TypeStar

/-!
# Readers

A reader takes a value off the front of a list and leaves the rest, or fails.  `Takes` names the word
that a reader takes for a value, whatever stands behind it; `Refuses` says that it fails on every
word cut short.  Both go along with sequencing.
-/

variable {ε β α γ κ : Type*}

abbrev Reader (ε β α : Type*) := List β → Except ε (α × List β)

namespace Reader

def pure (a : α) : Reader ε β α := fun s => .ok (a, s)

def fail (e : ε) : Reader ε β α := fun _ => .error e

def bind (r : Reader ε β α) (f : α → Reader ε β γ) : Reader ε β γ := fun s =>
  match r s with
  | .error e => .error e
  | .ok (a, rest) => f a rest

/-- One element. -/
def item (short : ε) : Reader ε β β
  | [] => .error short
  | b :: rest => .ok (b, rest)

/-- The next `n` elements. -/
def take (short : ε) (n : ℕ) : Reader ε β (List β) := fun s =>
  if s.length < n then .error short else .ok (s.take n, s.drop n)

/-- The values of the keys, one after the other. -/
def traverse (f : κ → Reader ε β α) : List κ → Reader ε β (List α)
  | [] => pure []
  | k :: keys => bind (f k) fun a => bind (traverse f keys) fun rest => pure (a :: rest)

/-- What is read, along with the value read from it. -/
def spanned (r : Reader ε β α) : Reader ε β (α × List β) := fun s =>
  match r s with
  | .error e => .error e
  | .ok (a, rest) => .ok ((a, s.take (s.length - rest.length)), rest)

def mapError {ε' : Type*} (g : ε → ε') (r : Reader ε β α) : Reader ε' β α := fun s =>
  (r s).mapError g

/-- The reader of what `skip` passes over. -/
def ofSkip (skip : List β → Except ε (List β)) : Reader ε β Unit := fun s =>
  match skip s with
  | .error e => .error e
  | .ok rest => .ok ((), rest)

theorem bind_eq_ok_iff {r : Reader ε β α} {f : α → Reader ε β γ} {s rest : List β} {c : γ} :
    r.bind f s = .ok (c, rest) ↔ ∃ a middle, r s = .ok (a, middle) ∧ f a middle = .ok (c, rest) := by
  unfold Reader.bind
  cases r s with
  | error e => simp
  | ok pair => simp [Prod.ext_iff]

/-- The reader takes the word for `a`, whatever follows. -/
def Takes (r : Reader ε β α) (word : List β) (a : α) : Prop := ∀ rest, r (word ++ rest) = .ok (a, rest)

theorem takes_pure (a : α) : Takes (pure a : Reader ε β α) [] a := fun _ => rfl

theorem takes_item (short : ε) (b : β) : Takes (item short) [b] b := fun _ => rfl

theorem takes_take (short : ε) {n : ℕ} {word : List β} (length : word.length = n) :
    Takes (take short n) word word := by
  intro rest
  subst length
  unfold take
  rw [if_neg (by simp), List.take_left, List.drop_left]

section

variable {r : Reader ε β α} {f : α → Reader ε β γ} {u v : List β} {a : α} {c : γ}

theorem Takes.bind (first : Takes r u a) (second : Takes (f a) v c) :
    Takes (r.bind f) (u ++ v) c := by
  intro rest
  unfold Reader.bind
  rw [List.append_assoc, first]
  exact second rest

/-- The last step reads nothing more. -/
theorem Takes.bind_last (first : Takes r u a) (last : Takes (f a) [] c) : Takes (r.bind f) u c := by
  have taken := first.bind last
  rwa [List.append_nil] at taken

theorem Takes.spanned (taken : Takes r u a) : Takes r.spanned u (a, u) := by
  intro rest
  unfold Reader.spanned
  rw [taken]
  simp

theorem takes_traverse {f : κ → Reader ε β α} {word : κ → List β} {value : κ → α} :
    ∀ keys : List κ, (∀ k ∈ keys, Takes (f k) (word k) (value k)) →
      Takes (traverse f keys) (keys.flatMap word) (keys.map value)
  | [], _ => takes_pure []
  | k :: keys, each => by
    have first := each k (List.mem_cons_self ..)
    have others := takes_traverse keys fun k' hk' => each k' (List.mem_cons_of_mem k hk')
    rw [List.flatMap_cons, List.map_cons]
    exact first.bind (others.bind_last (takes_pure _))

end

/-! ## Words that cannot be cut short -/

/-- The reader fails on every part of the word that is cut short. -/
def Refuses (r : Reader ε β α) (word : List β) : Prop :=
  ∀ cut rest, word = cut ++ rest → rest ≠ [] → ∃ e, r cut = .error e

/-- The reader takes exactly the word for `a`, and nothing less. -/
structure Decodes (r : Reader ε β α) (word : List β) (a : α) : Prop where
  takes : Takes r word a
  refuses : Refuses r word

section

variable {r : Reader ε β α} {f : α → Reader ε β γ} {u v : List β} {a : α} {c : γ}

theorem decodes_pure (a : α) : Decodes (pure a : Reader ε β α) [] a where
  takes := takes_pure a
  refuses _ _ whole more := absurd (List.append_eq_nil_iff.mp whole.symm).2 more

/-- A word of one element is only cut short to nothing. -/
theorem decodes_single {b : β} (takes : Takes r [b] a) (nothing : ∃ e, r [] = .error e) :
    Decodes r [b] a := by
  refine ⟨takes, fun cut rest whole more => ?_⟩
  cases cut with
  | nil => exact nothing
  | cons c cut =>
    obtain ⟨-, tail⟩ := List.cons.inj whole
    exact absurd (List.append_eq_nil_iff.mp tail.symm).2 more

theorem decodes_item (short : ε) (b : β) : Decodes (item short) [b] b :=
  decodes_single (takes_item short b) ⟨short, rfl⟩

theorem decodes_take (short : ε) {n : ℕ} {word : List β} (length : word.length = n) :
    Decodes (take short n) word word := by
  refine ⟨takes_take short length, fun cut rest whole more => ⟨short, if_pos ?_⟩⟩
  have both : cut.length + rest.length = n := by rw [← length, whole, List.length_append]
  have some_left : 0 < rest.length := List.length_pos_iff.mpr more
  omega

/-- A word cut short within a part or between two. -/
theorem Decodes.bind (first : Decodes r u a) (second : Decodes (f a) v c) :
    Decodes (r.bind f) (u ++ v) c := by
  refine ⟨first.takes.bind second.takes, fun cut rest whole more => ?_⟩
  unfold Reader.bind
  rcases List.append_eq_append_iff.mp whole with ⟨mid, rfl, split⟩ | ⟨mid, split, rfl⟩
  · rw [first.takes]
    exact second.refuses mid rest split more
  · cases mid with
    | nil =>
      rw [List.append_nil] at split
      rw [← split, ← List.append_nil u, first.takes]
      exact second.refuses [] v rfl more
    | cons b mid =>
      obtain ⟨e, failed⟩ := first.refuses cut (b :: mid) split (List.cons_ne_nil b mid)
      exact ⟨e, by rw [failed]⟩

theorem Decodes.bind_last (first : Decodes r u a) (last : Decodes (f a) [] c) :
    Decodes (r.bind f) u c := by
  have decoded := first.bind last
  rwa [List.append_nil] at decoded

theorem Decodes.mapError {ε' : Type*} (g : ε → ε') (decoded : Decodes r u a) :
    Decodes (r.mapError g) u a := by
  refine ⟨fun rest => ?_, fun cut rest whole more => ?_⟩
  · unfold Reader.mapError
    rw [decoded.takes]
    rfl
  · obtain ⟨e, failed⟩ := decoded.refuses cut rest whole more
    unfold Reader.mapError
    exact ⟨g e, by rw [failed]; rfl⟩

theorem mapError_ofSkip {ε' : Type*} (g : ε → ε') (skip : List β → Except ε (List β)) :
    mapError g (ofSkip skip) = ofSkip fun s => (skip s).mapError g := by
  funext s
  unfold mapError ofSkip
  dsimp only
  cases skip s <;> rfl

/-- A loop over the items, each of which is skipped. -/
theorem decodes_skips {ι : Type*} {skip : List β → ι → Except ε (List β)} {items : List ι}
    {words : List (List β)}
    (each : List.Forall₂ (fun x word => Decodes (ofSkip (skip · x)) word ()) items words) :
    Decodes (ofSkip fun s => items.foldlM skip s) words.flatten () := by
  induction each with
  | nil => exact decodes_pure ()
  | @cons x word items words head _ ih =>
    have same : ofSkip (fun s => (x :: items).foldlM skip s) =
        Reader.bind (ofSkip (skip · x)) fun _ => ofSkip fun s => items.foldlM skip s := by
      funext s
      unfold Reader.bind ofSkip
      dsimp only
      rw [List.foldlM_cons]
      cases skip s x <;> rfl
    rw [same]
    exact head.bind ih

/-- A loop over the items, whose state each word moves on. -/
theorem decodes_foldlM {ι : Type*} (step : α × List β → κ → Except ε (α × List β)) (key : ι → κ)
    (word : ι → List β) (next : α → ι → α) : ∀ (items : List ι) (a : α),
      (∀ x ∈ items, ∀ a, Decodes (fun s => step (a, s) (key x)) (word x) (next a x)) →
        Decodes (fun s => (items.map key).foldlM step (a, s)) (items.flatMap word)
          (items.foldl next a)
  | [], a, _ => decodes_pure a
  | x :: items, a, each => by
    have first := each x (List.mem_cons_self ..) a
    have others := decodes_foldlM step key word next items (next a x) fun y mem =>
      each y (List.mem_cons_of_mem x mem)
    have both := first.bind (f := fun a s => (items.map key).foldlM step (a, s)) others
    have same : (fun s => ((x :: items).map key).foldlM step (a, s)) =
        Reader.bind (fun s => step (a, s) (key x)) fun a s => (items.map key).foldlM step (a, s) := by
      funext s
      rw [List.map_cons, List.foldlM_cons, Reader.bind]
      cases step (a, s) (key x) <;> rfl
    rw [List.flatMap_cons, List.foldl_cons, same]
    exact both

end

end Reader
