import Mathlib.Data.List.TakeWhile

/-!
# Regular expressions with captures

`Matches` says which words an expression matches, and with which captures.  `run` is a backtracking
matcher: it gives the ways to match the front of a text in the order in which they are tried, the
first alternative before the second and one more round of a star before none.  On top of it stand the
match of a whole text and the matches found along a text, one after the other.
-/

/-- Expressions over characters `α`; a class is a predicate. -/
inductive Regex (α : Type) where
  | one (p : α → Bool)
  | empty
  | seq (a b : Regex α)
  | alt (a b : Regex α)
  | star (a : Regex α)
  | group (name : String) (a : Regex α)

namespace Regex

variable {α : Type}

/-- The texts of the groups, in the order in which they were closed. -/
abbrev Captures (α : Type) := List (String × List α)

def opt (a : Regex α) : Regex α := .alt a .empty

def plus (a : Regex α) : Regex α := .seq a (.star a)

/-- The expression matches the word with these captures. -/
inductive Matches : Regex α → List α → Captures α → Prop
  | one {p : α → Bool} {x : α} : p x = true → Matches (.one p) [x] []
  | empty : Matches .empty [] []
  | seq {a b u v c d} : Matches a u c → Matches b v d → Matches (.seq a b) (u ++ v) (c ++ d)
  | left {a b u c} : Matches a u c → Matches (.alt a b) u c
  | right {a b u c} : Matches b u c → Matches (.alt a b) u c
  | stop {a} : Matches (.star a) [] []
  | again {a u v c d} : u ≠ [] → Matches a u c → Matches (.star a) v d →
      Matches (.star a) (u ++ v) (c ++ d)
  | group {name a u c} : Matches a u c → Matches (.group name a) u (c ++ [(name, u)])

/-- Rounds of a star, each of which takes something. -/
def rounds (step : List α → List (Captures α × List α)) :
    ℕ → List α → List (Captures α × List α)
  | 0, s => [([], s)]
  | n + 1, s =>
    ((step s).flatMap fun (c, rest) =>
      if rest.length < s.length then (rounds step n rest).map fun (d, rest') => (c ++ d, rest')
      else []) ++ [([], s)]

/-- The ways to match the front of a text, with what each leaves. -/
def run : Regex α → List α → List (Captures α × List α)
  | .one p, s =>
    match s with
    | [] => []
    | x :: rest => if p x then [([], rest)] else []
  | .empty, s => [([], s)]
  | .seq a b, s => (run a s).flatMap fun (c, rest) =>
      (run b rest).map fun (d, rest') => (c ++ d, rest')
  | .alt a b, s => run a s ++ run b s
  | .star a, s => rounds (run a) s.length s
  | .group name a, s => (run a s).map fun (c, rest) =>
      (c ++ [(name, s.take (s.length - rest.length))], rest)

/-- The captures of the first way to match the whole text. -/
def fullMatch (r : Regex α) (s : List α) : Option (Captures α) :=
  ((run r s).find? (·.2.isEmpty)).map Prod.fst

/-- The matches found from left to right, in at most `n` steps; an empty one moves on by a
character. -/
def findFrom (r : Regex α) : ℕ → List α → List (Captures α)
  | 0, _ => []
  | n + 1, s =>
    match (run r s).head? with
    | none => findFrom r n s.tail
    | some (c, rest) => c :: findFrom r n (if rest.length < s.length then rest else s.tail)

def findAll (r : Regex α) (s : List α) : List (Captures α) := findFrom r (s.length + 1) s

/-! ## What the matcher finds -/

theorem rounds_sound {a : Regex α} {step : List α → List (Captures α × List α)}
    (sound : ∀ s c rest, (c, rest) ∈ step s → ∃ u, s = u ++ rest ∧ Matches a u c) :
    ∀ n s c rest, (c, rest) ∈ rounds step n s → ∃ u, s = u ++ rest ∧ Matches (.star a) u c
  | 0, s, c, rest, mem => by
    obtain ⟨rfl, rfl⟩ := Prod.mk.inj (List.mem_singleton.mp mem)
    exact ⟨[], rfl, .stop⟩
  | n + 1, s, c, rest, mem => by
    rcases List.mem_append.mp mem with mem | mem
    · obtain ⟨⟨d, mid⟩, first, mem⟩ := List.mem_flatMap.mp mem
      dsimp only at mem
      split at mem
      · rename_i shorter
        obtain ⟨⟨e, rest'⟩, others, same⟩ := List.mem_map.mp mem
        obtain ⟨rfl, rfl⟩ := Prod.mk.inj same
        obtain ⟨u, rfl, matched⟩ := sound s d mid first
        obtain ⟨v, rfl, rest_matched⟩ := rounds_sound sound n mid e rest' others
        have some_taken : u ≠ [] := by
          rintro rfl
          exact absurd shorter (Nat.lt_irrefl _)
        exact ⟨u ++ v, (List.append_assoc ..).symm, .again some_taken matched rest_matched⟩
      · cases mem
    · obtain ⟨rfl, rfl⟩ := Prod.mk.inj (List.mem_singleton.mp mem)
      exact ⟨[], rfl, .stop⟩

/-- Every way to match the front matches what it takes. -/
theorem run_sound (r : Regex α) : ∀ s c rest, (c, rest) ∈ run r s →
    ∃ u, s = u ++ rest ∧ Matches r u c := by
  induction r with
  | one p =>
    intro s c rest mem
    cases s with
    | nil => cases mem
    | cons x s =>
      unfold run at mem
      dsimp only at mem
      split at mem
      · rename_i fits
        obtain ⟨rfl, rfl⟩ := Prod.mk.inj (List.mem_singleton.mp mem)
        exact ⟨[x], rfl, .one fits⟩
      · cases mem
  | empty =>
    intro s c rest mem
    obtain ⟨rfl, rfl⟩ := Prod.mk.inj (List.mem_singleton.mp mem)
    exact ⟨[], rfl, .empty⟩
  | seq a b iha ihb =>
    intro s c rest mem
    obtain ⟨⟨d, mid⟩, first, mem⟩ := List.mem_flatMap.mp mem
    obtain ⟨⟨e, rest'⟩, second, same⟩ := List.mem_map.mp mem
    obtain ⟨rfl, rfl⟩ := Prod.mk.inj same
    obtain ⟨u, rfl, left⟩ := iha s d mid first
    obtain ⟨v, rfl, right⟩ := ihb mid e rest' second
    exact ⟨u ++ v, (List.append_assoc ..).symm, .seq left right⟩
  | alt a b iha ihb =>
    intro s c rest mem
    rcases List.mem_append.mp mem with mem | mem
    · obtain ⟨u, rfl, matched⟩ := iha s c rest mem
      exact ⟨u, rfl, .left matched⟩
    · obtain ⟨u, rfl, matched⟩ := ihb s c rest mem
      exact ⟨u, rfl, .right matched⟩
  | star a ih => exact fun s => rounds_sound ih s.length s
  | group name a ih =>
    intro s c rest mem
    obtain ⟨⟨d, rest'⟩, inner, same⟩ := List.mem_map.mp mem
    obtain ⟨rfl, rfl⟩ := Prod.mk.inj same
    obtain ⟨u, rfl, matched⟩ := ih s d rest' inner
    refine ⟨u, rfl, ?_⟩
    rw [List.length_append, Nat.add_sub_cancel, List.take_left]
    exact .group matched

/-- Every match is one of the ways, whatever follows. -/
theorem run_complete {r : Regex α} {u : List α} {c : Captures α} (matched : Matches r u c) :
    ∀ rest, (c, rest) ∈ run r (u ++ rest) ∧
      ∀ a, r = .star a → ∀ n, u.length ≤ n → (c, rest) ∈ rounds (run a) n (u ++ rest) := by
  induction matched with
  | @one p x fits =>
    refine fun rest => ⟨?_, nofun⟩
    show _ ∈ (if p x then _ else _)
    rw [if_pos fits]
    exact List.mem_singleton_self _
  | empty => exact fun rest => ⟨List.mem_singleton_self _, nofun⟩
  | @seq a b u v c d _ _ iha ihb =>
    refine fun rest => ⟨?_, nofun⟩
    rw [List.append_assoc]
    refine List.mem_flatMap.mpr ⟨(c, v ++ rest), (iha (v ++ rest)).1, ?_⟩
    exact List.mem_map.mpr ⟨(d, rest), (ihb rest).1, rfl⟩
  | left _ ih => exact fun rest => ⟨List.mem_append_left _ (ih rest).1, nofun⟩
  | right _ ih => exact fun rest => ⟨List.mem_append_right _ (ih rest).1, nofun⟩
  | @stop a =>
    intro rest
    have last (n : ℕ) : ([], rest) ∈ rounds (run a) n ([] ++ rest) := by
      cases n with
      | zero => exact List.mem_singleton_self _
      | succ n => exact List.mem_append_right _ (List.mem_singleton_self _)
    refine ⟨last _, fun a' same n _ => ?_⟩
    cases same
    exact last n
  | @again a u v c d some_taken _ _ iha ihb =>
    intro rest
    have more (n : ℕ) (enough : (u ++ v).length ≤ n) :
        (c ++ d, rest) ∈ rounds (run a) n (u ++ v ++ rest) := by
      have length : 0 < u.length := List.length_pos_iff.mpr some_taken
      rw [List.length_append] at enough
      cases n with
      | zero => omega
      | succ n =>
        rw [List.append_assoc]
        refine List.mem_append_left _ (List.mem_flatMap.mpr ⟨(c, v ++ rest), (iha _).1, ?_⟩)
        have shorter : (v ++ rest).length < (u ++ (v ++ rest)).length := by
          simp only [List.length_append]
          omega
        dsimp only
        rw [if_pos shorter]
        exact List.mem_map.mpr ⟨(d, rest), (ihb rest).2 a rfl n (by omega), rfl⟩
    refine ⟨more _ ?_, fun a' same n enough => ?_⟩
    · simp only [List.length_append]
      omega
    · cases same
      exact more n enough
  | @group name a u c _ ih =>
    refine fun rest => ⟨List.mem_map.mpr ⟨(c, rest), (ih rest).1, ?_⟩, nofun⟩
    dsimp only
    rw [List.length_append, Nat.add_sub_cancel, List.take_left]

theorem fullMatch_sound {r : Regex α} {s : List α} {c : Captures α} (h : fullMatch r s = some c) :
    Matches r s c := by
  obtain ⟨⟨c, rest⟩, found, rfl⟩ := Option.map_eq_some_iff.mp h
  obtain ⟨u, rfl, matched⟩ := run_sound r s c rest (List.mem_of_find?_eq_some found)
  have last := List.find?_some found
  obtain rfl : rest = [] := List.isEmpty_iff.mp last
  rw [List.append_nil]
  exact matched

theorem fullMatch_complete {r : Regex α} {s : List α} {c : Captures α} (h : Matches r s c) :
    ∃ c', fullMatch r s = some c' := by
  have mem := (run_complete h []).1
  rw [List.append_nil] at mem
  cases found : (run r s).find? (·.2.isEmpty) with
  | none => exact absurd (List.find?_eq_none.mp found _ mem) (by simp)
  | some way => exact ⟨way.1, by rw [fullMatch, found]; rfl⟩

/-- Where a text is matched in one way only, that is the match found. -/
theorem fullMatch_eq_some_iff {r : Regex α} {s : List α} {c : Captures α}
    (unique : ∀ c c', Matches r s c → Matches r s c' → c = c') :
    fullMatch r s = some c ↔ Matches r s c := by
  refine ⟨fullMatch_sound, fun matched => ?_⟩
  obtain ⟨c', found⟩ := fullMatch_complete matched
  rw [found, unique c' c (fullMatch_sound found) matched]

/-! ## What the forms match -/

section

variable {a b : Regex α} {p : α → Bool} {w : List α} {c : Captures α}

theorem matches_one_iff : Matches (.one p) w c ↔ ∃ x, w = [x] ∧ c = [] ∧ p x = true := by
  constructor
  · rintro ⟨fits⟩
    exact ⟨_, rfl, rfl, fits⟩
  · rintro ⟨x, rfl, rfl, fits⟩
    exact .one fits

theorem matches_seq_iff : Matches (.seq a b) w c ↔
    ∃ u v d e, w = u ++ v ∧ c = d ++ e ∧ Matches a u d ∧ Matches b v e := by
  constructor
  · rintro ⟨⟩
    rename_i first second
    exact ⟨_, _, _, _, rfl, rfl, first, second⟩
  · rintro ⟨u, v, d, e, rfl, rfl, first, second⟩
    exact .seq first second

theorem matches_opt_iff : Matches (opt a) w c ↔ Matches a w c ∨ w = [] ∧ c = [] := by
  constructor
  · intro matched
    cases matched with
    | left first => exact .inl first
    | right second =>
      cases second
      exact .inr ⟨rfl, rfl⟩
  · rintro (first | ⟨rfl, rfl⟩)
    · exact .left first
    · exact .right .empty

theorem matches_group_iff {name : String} : Matches (.group name a) w c ↔
    ∃ d, c = d ++ [(name, w)] ∧ Matches a w d := by
  constructor
  · rintro ⟨⟩
    rename_i inner
    exact ⟨_, rfl, inner⟩
  · rintro ⟨d, rfl, inner⟩
    exact .group inner

/-- A star is the empty word, or a word of its body before a word of the star. -/
theorem matches_star_iff : Matches (.star a) w c ↔ w = [] ∧ c = [] ∨
    ∃ u v d e, w = u ++ v ∧ c = d ++ e ∧ u ≠ [] ∧ Matches a u d ∧ Matches (.star a) v e := by
  constructor
  · rintro ⟨⟩
    · exact .inl ⟨rfl, rfl⟩
    · rename_i some_taken first others
      exact .inr ⟨_, _, _, _, rfl, rfl, some_taken, first, others⟩
  · rintro (⟨rfl, rfl⟩ | ⟨u, v, d, e, rfl, rfl, some_taken, first, others⟩)
    · exact .stop
    · exact .again some_taken first others

theorem matches_star_one_iff : ∀ {w : List α} {c : Captures α},
    Matches (.star (.one p)) w c ↔ c = [] ∧ ∀ x ∈ w, p x = true
  | [], c => by
    rw [matches_star_iff]
    constructor
    · rintro (⟨-, rfl⟩ | ⟨u, v, d, e, split, -, some_taken, -, -⟩)
      · exact ⟨rfl, nofun⟩
      · exact absurd (List.append_eq_nil_iff.mp split.symm).1 some_taken
    · rintro ⟨rfl, -⟩
      exact .inl ⟨rfl, rfl⟩
  | x :: w, c => by
    rw [matches_star_iff]
    constructor
    · rintro (⟨nothing, -⟩ | ⟨u, v, d, e, split, rfl, -, first, others⟩)
      · cases nothing
      · obtain ⟨y, rfl, rfl, fits⟩ := matches_one_iff.mp first
        obtain ⟨rfl, rfl⟩ := List.cons.inj split
        obtain ⟨rfl, all⟩ := matches_star_one_iff.mp others
        exact ⟨rfl, List.forall_mem_cons.mpr ⟨fits, all⟩⟩
    · rintro ⟨rfl, all⟩
      obtain ⟨fits, all⟩ := List.forall_mem_cons.mp all
      exact .inr ⟨[x], w, [], [], rfl, rfl, List.cons_ne_nil x [], .one fits,
        matches_star_one_iff.mpr ⟨rfl, all⟩⟩

theorem matches_plus_one_iff : Matches (plus (.one p)) w c ↔
    c = [] ∧ w ≠ [] ∧ ∀ x ∈ w, p x = true := by
  unfold plus
  rw [matches_seq_iff]
  constructor
  · rintro ⟨u, v, d, e, rfl, rfl, first, others⟩
    obtain ⟨x, rfl, rfl, fits⟩ := matches_one_iff.mp first
    obtain ⟨rfl, all⟩ := matches_star_one_iff.mp others
    exact ⟨rfl, List.cons_ne_nil x v, List.forall_mem_cons.mpr ⟨fits, all⟩⟩
  · rintro ⟨rfl, some_taken, all⟩
    obtain ⟨x, w, rfl⟩ := List.exists_cons_of_ne_nil some_taken
    obtain ⟨fits, all⟩ := List.forall_mem_cons.mp all
    exact ⟨[x], w, [], [], rfl, rfl, .one fits, matches_star_one_iff.mpr ⟨rfl, all⟩⟩

/-- A star matches what its body matches, word by word. -/
theorem matches_star_iff_flatten : Matches (.star a) w c ↔ ∃ words : List (List α × Captures α),
    w = (words.map Prod.fst).flatten ∧ c = (words.map Prod.snd).flatten ∧
      ∀ word ∈ words, word.1 ≠ [] ∧ Matches a word.1 word.2 := by
  constructor
  · intro matched
    generalize same : Regex.star a = r at matched
    induction matched with
    | stop => exact ⟨[], rfl, rfl, nofun⟩
    | @again a' u v d e some_taken first _ _ ih =>
      obtain rfl := Regex.star.inj same
      obtain ⟨words, rfl, rfl, each⟩ := ih rfl
      exact ⟨(u, d) :: words, rfl, rfl, List.forall_mem_cons.mpr ⟨⟨some_taken, first⟩, each⟩⟩
    | one => cases same
    | empty => cases same
    | seq => cases same
    | left => cases same
    | right => cases same
    | group => cases same
  · rintro ⟨words, rfl, rfl, each⟩
    induction words with
    | nil => exact .stop
    | cons word words ih =>
      obtain ⟨⟨some_taken, first⟩, each⟩ := List.forall_mem_cons.mp each
      exact .again some_taken first (ih each)

/-- Where the body matches the words of a family, a star matches their concatenations. -/
theorem matches_star_iff_flatMap {β : Type} {f : β → List α} (some_taken : ∀ x, f x ≠ [])
    (body : ∀ w c, Matches a w c ↔ c = [] ∧ ∃ x, w = f x) :
    Matches (.star a) w c ↔ c = [] ∧ ∃ xs : List β, w = xs.flatMap f := by
  rw [matches_star_iff_flatten]
  constructor
  · rintro ⟨words, rfl, rfl, each⟩
    induction words with
    | nil => exact ⟨rfl, [], rfl⟩
    | cons word words ih =>
      obtain ⟨⟨-, first⟩, each⟩ := List.forall_mem_cons.mp each
      obtain ⟨no_captures, x, text⟩ := (body ..).mp first
      obtain ⟨none_later, xs, later⟩ := ih each
      refine ⟨?_, x :: xs, ?_⟩
      · rw [List.map_cons, List.flatten_cons, no_captures, none_later]
        rfl
      · rw [List.map_cons, List.flatten_cons, List.flatMap_cons, text, later]
  · rintro ⟨rfl, xs, rfl⟩
    refine ⟨xs.map fun x => (f x, []), ?_, ?_, ?_⟩
    · rw [List.map_map]
      rfl
    · rw [List.map_map]
      exact (List.flatten_eq_nil_iff.mpr (by simp)).symm
    · intro word mem
      obtain ⟨x, -, rfl⟩ := List.mem_map.mp mem
      exact ⟨some_taken x, (body ..).mpr ⟨rfl, x, rfl⟩⟩

/-! ## The first way -/

variable {s mid rest : List α} {d : Captures α}

theorem first_seq (first : (run a s).head? = some (c, mid))
    (second : (run b mid).head? = some (d, rest)) :
    (run (.seq a b) s).head? = some (c ++ d, rest) := by
  obtain ⟨ways, found⟩ := List.head?_eq_some_iff.mp first
  obtain ⟨others, next⟩ := List.head?_eq_some_iff.mp second
  unfold run
  rw [found, List.flatMap_cons]
  dsimp only
  rw [next]
  rfl

theorem first_opt (first : (run a s).head? = some (c, rest)) :
    (run (opt a) s).head? = some (c, rest) := by
  obtain ⟨ways, found⟩ := List.head?_eq_some_iff.mp first
  unfold opt run
  rw [found]
  rfl

theorem first_opt_none (none : run a s = []) : (run (opt a) s).head? = some ([], s) := by
  unfold opt run
  rw [none]
  rfl

theorem first_group {name : String} (first : (run a (w ++ rest)).head? = some (c, rest)) :
    (run (.group name a) (w ++ rest)).head? = some (c ++ [(name, w)], rest) := by
  obtain ⟨ways, found⟩ := List.head?_eq_some_iff.mp first
  unfold run
  rw [found, List.map_cons, List.head?_cons, List.length_append]
  dsimp only
  rw [Nat.add_sub_cancel, List.take_left]

/-- A star of a class takes as much as it can. -/
theorem first_star_one : ∀ s : List α,
    (run (.star (.one p)) s).head? = some ([], s.dropWhile p) := by
  have taken : ∀ (n : ℕ) (s : List α), s.length ≤ n →
      (rounds (run (.one p)) n s).head? = some ([], s.dropWhile p) := by
    intro n
    induction n with
    | zero =>
      intro s short
      obtain rfl := List.length_eq_zero_iff.mp (Nat.le_zero.mp short)
      rfl
    | succ n ih =>
      intro s short
      cases s with
      | nil => rfl
      | cons x s =>
        by_cases fits : p x = true
        · obtain ⟨ways, found⟩ := List.head?_eq_some_iff.mp (ih s (Nat.le_of_succ_le_succ short))
          have one : run (.one p) (x :: s) = [([], s)] := if_pos fits
          have shorter : s.length < (x :: s).length := Nat.lt_succ_self _
          rw [List.dropWhile_cons_of_pos fits]
          unfold rounds
          rw [one, List.flatMap_cons]
          dsimp only
          rw [if_pos shorter, found]
          rfl
        · have one : run (.one p) (x :: s) = [] := if_neg fits
          rw [List.dropWhile_cons_of_neg fits]
          unfold rounds
          rw [one]
          rfl
  exact fun s => taken s.length s le_rfl

theorem first_plus_one (some_taken : w ≠ []) (all : ∀ x ∈ w, p x = true)
    (stop : ∀ x ∈ rest.head?, p x = false) :
    (run (plus (.one p)) (w ++ rest)).head? = some ([], rest) := by
  obtain ⟨x, w, rfl⟩ := List.exists_cons_of_ne_nil some_taken
  obtain ⟨fits, all⟩ := List.forall_mem_cons.mp all
  have one : (run (.one p) (x :: w ++ rest)).head? = some ([], w ++ rest) := by
    show (if p x then _ else _ : List _).head? = _
    rw [if_pos fits]
    rfl
  have left : (w ++ rest).dropWhile p = rest := by
    rw [List.dropWhile_append_of_pos all]
    cases rest with
    | nil => rfl
    | cons y rest => exact List.dropWhile_cons_of_neg (by simpa using stop y rfl)
  have more := first_star_one (p := p) (w ++ rest)
  rw [left] at more
  exact first_seq one more

/-- Nothing is found in an empty text that is not matched. -/
theorem findFrom_nil {r : Regex α} (none : run r [] = []) : ∀ n : ℕ, findFrom r n [] = []
  | 0 => rfl
  | n + 1 => by
    unfold findFrom
    rw [none]
    exact findFrom_nil none n

end

end Regex
