import MatterSdk.Lib.Hex
import MatterSdk.Scopes.ParseAgreement

/-!
# The text form of scope sets

A text stands for the union of what its entries grant, so that reading one undoes writing it, and
joined texts stand for the union of their sets.
-/

namespace MatterSdk

open Casing

theorem ScopeSet.eq_iff {s s' : ScopeSet} :
    s = s' ↔ ∀ i, s.bits.getLsbD i = true ↔ s'.bits.getLsbD i = true := by
  constructor
  · rintro rfl i
    rfl
  · intro same
    cases s
    cases s'
    rw [ScopeSet.mk.injEq]
    exact BitVec.eq_of_getLsbD_eq fun i _ => Bool.eq_iff_iff.mpr (same i)

theorem ScopeSet.getLsbD_union (s other : ScopeSet) (i : ℕ) :
    (s.union other).bits.getLsbD i = true ↔
      s.bits.getLsbD i = true ∨ other.bits.getLsbD i = true := by
  rw [union, BitVec.getLsbD_or, Bool.or_eq_true]

/-! ## What entries grant -/

theorem getLsbD_grant (set : ScopeSet) (scope : Scope) (read write : Bool) (i : ℕ) :
    (grant set scope read write).bits.getLsbD i = true ↔
      set.bits.getLsbD i = true ∨ (read = true ∧ i = ScopeSet.place scope .read) ∨
        (write = true ∧ i = ScopeSet.place scope .write) := by
  cases read <;> cases write <;>
    simp [grant, ScopeSet.with_, ScopeSet.getLsbD_bit, or_assoc]

namespace ScopeParser

variable (p : ScopeParser)

/-- The entry is valid and grants the bit. -/
def Grants (entry : List Char) (i : ℕ) : Prop :=
  ∃ scope read write, p.parseEntry entry = .ok (scope, read, write) ∧
    ((read = true ∧ i = ScopeSet.place scope .read) ∨
      (write = true ∧ i = ScopeSet.place scope .write))

/-- The entry is a valid one. -/
def Valid (entry : List Char) : Prop := ∃ parsed, p.parseEntry entry = .ok parsed

/-- Valid entries, and no others, are read; the set is what it was and what they grant. -/
theorem parseEntries_eq_ok_iff (entries : List (List Char)) (set s : ScopeSet) :
    p.parseEntries entries set = .ok s ↔
      (∀ entry ∈ entries, p.Valid entry) ∧
        ∀ i, s.bits.getLsbD i = true ↔
          set.bits.getLsbD i = true ∨ ∃ entry ∈ entries, p.Grants entry i := by
  induction entries generalizing set with
  | nil =>
    simp only [parseEntries, Except.ok.injEq, List.not_mem_nil, false_imp_iff, implies_true,
      true_and, false_and, exists_false, or_false]
    exact eq_comm.trans ScopeSet.eq_iff
  | cons entry rest ih =>
    rw [List.forall_mem_cons, parseEntries]
    cases parsed : p.parseEntry entry with
    | error e => simp [Valid, parsed]
    | ok letters =>
      obtain ⟨scope, read, write⟩ := letters
      have valid : p.Valid entry := ⟨_, parsed⟩
      have grants (i : ℕ) : p.Grants entry i ↔
          (read = true ∧ i = ScopeSet.place scope .read) ∨
            (write = true ∧ i = ScopeSet.place scope .write) := by
        constructor
        · rintro ⟨scope', read', write', parsed', granted⟩
          rw [parsed, Except.ok.injEq, Prod.mk.injEq, Prod.mk.injEq] at parsed'
          obtain ⟨rfl, rfl, rfl⟩ := parsed'
          exact granted
        · exact fun granted => ⟨scope, read, write, parsed, granted⟩
      show p.parseEntries rest (grant set scope read write) = .ok s ↔ _
      rw [ih]
      simp only [valid, true_and, List.exists_mem_cons_iff, getLsbD_grant, grants, or_assoc]

theorem exists_error_iff (entries : List (List Char)) (set : ScopeSet) :
    (∃ e, p.parseEntries entries set = .error e) ↔ ∃ entry ∈ entries, ¬ p.Valid entry := by
  induction entries generalizing set with
  | nil => simp [parseEntries]
  | cons entry rest ih =>
    rw [List.exists_mem_cons_iff, parseEntries]
    cases parsed : p.parseEntry entry with
    | error e => simp [Valid, parsed]
    | ok letters =>
      have valid : p.Valid entry := ⟨_, parsed⟩
      show (∃ e, p.parseEntries rest _ = .error e) ↔ _
      rw [ih]
      simp only [valid, not_true_eq_false, false_or]

/-- Valid entries set defined bits only. -/
theorem isValid_of_parseEntries {entries : List (List Char)} {s : ScopeSet}
    (parsed : p.parseEntries entries .empty = .ok s) : s.isValid = true := by
  rw [ScopeSet.isValid_iff]
  intro i held
  rcases (((p.parseEntries_eq_ok_iff _ _ _).mp parsed).2 i).mp held with held | ⟨entry, -, granted⟩
  · simp [ScopeSet.empty] at held
  · obtain ⟨scope, read, write, -, ⟨-, rfl⟩ | ⟨-, rfl⟩⟩ := granted
    · exact ScopeSet.place_lt scope .read
    · exact ScopeSet.place_lt scope .write

end ScopeParser

/-! ## Entries in any letter case -/

theorem toLower_eq_colon {c : Char} (same : c.toLower = ':') : c = ':' := by
  have code := congrArg Char.toNat same
  rw [Hex.toNat_toLower, show ':'.toNat = 58 from rfl] at code
  apply Char.toNat_inj.mp
  show c.toNat = 58
  split at code <;> omega

theorem toLower_toLower (c : Char) : c.toLower.toLower = c.toLower := by
  apply Char.toNat_inj.mp
  rw [Hex.toNat_toLower c.toLower]
  refine if_neg fun capital => ?_
  rw [Hex.toNat_toLower] at capital
  split at capital <;> omega

/-- The spellings of access, in lower case. -/
def accessTexts : List (List Char) := [['r'], ['w'], ['r', 'w'], ['w', 'r']]

/-- Once both letters are read, nothing may follow. -/
theorem readAccess_both (access : List Char) :
    readAccess access true true = if access = [] then some (true, true) else none := by
  cases access with
  | nil => rfl
  | cons c rest => simp [readAccess]

theorem readAccess_read (access : List Char) :
    readAccess access true false =
      if access = [] then some (true, false)
      else if access = ['w'] then some (true, true) else none := by
  cases access with
  | nil => rfl
  | cons c rest =>
    rw [readAccess]
    by_cases write : c = 'w' <;> simp [write, readAccess_both]

theorem readAccess_write (access : List Char) :
    readAccess access false true =
      if access = [] then some (false, true)
      else if access = ['r'] then some (true, true) else none := by
  cases access with
  | nil => rfl
  | cons c rest =>
    rw [readAccess]
    by_cases read : c = 'r' <;> simp [read, readAccess_both]

theorem exists_readAccess_iff (access : List Char) :
    (∃ letters, readAccess access false false = some letters) ↔ access ∈ accessTexts := by
  have apart : 'r' ≠ 'w' := by decide
  cases access with
  | nil => simp [readAccess, accessTexts]
  | cons c rest =>
    rw [readAccess, accessTexts]
    by_cases read : c = 'r'
    · subst read
      by_cases alone : rest = []
      · simp [alone, readAccess_read]
      · by_cases write : rest = ['w'] <;> simp [alone, write, readAccess_read]
    · by_cases write : c = 'w'
      · subst write
        by_cases alone : rest = []
        · simp [alone, readAccess_write, apart.symm]
        · by_cases read' : rest = ['r'] <;> simp [alone, read', readAccess_write, apart.symm]
      · simp [read, write]

namespace Rust

/-- A valid entry is a name, a colon and access letters, in any letter case. -/
theorem parseEntry_eq_ok_iff_lower (entry : List Char) (scope : Scope) (read write : Bool) :
    scopeParser.parseEntry entry = .ok (scope, read, write) ↔
      ∃ access, entry.map Char.toLower = scope.name.toList ++ ':' :: access ∧
        readAccess access false false = some (read, write) := by
  rw [parseEntry_eq_ok_iff]
  constructor
  · rintro ⟨name, access, rfl, plain, named, letters⟩
    rw [scopeOf_eq, scopeNamed_eq_some_iff, ascii_lower] at named
    refine ⟨access.map Char.toLower, ?_, letters⟩
    rw [List.map_append, List.map_cons, named]
    rfl
  · rintro ⟨access, lowered, letters⟩
    obtain ⟨name, rest, rfl, named, rest_eq⟩ := List.map_eq_append_iff.mp lowered
    obtain ⟨c, access', rfl, colon, access_eq⟩ := List.map_eq_cons_iff.mp rest_eq
    rw [toLower_eq_colon colon]
    refine ⟨name, access', rfl, ?_, ?_, ?_⟩
    · intro inside
      have listed : ':' ∈ scope.name.toList := by
        rw [← named]
        exact List.mem_map_of_mem inside
      have letter := letter_of_name listed
      exact absurd letter (by unfold Letter; decide)
    · rw [scopeOf_eq, scopeNamed_eq_some_iff, ascii_lower, named]
    · show readAccess (access'.map Char.toLower) false false = _
      rw [access_eq, letters]

/-- Letter case does not matter to a valid entry. -/
theorem parseEntry_lower_iff (entry : List Char) (parsed : Scope × Bool × Bool) :
    scopeParser.parseEntry (entry.map Char.toLower) = .ok parsed ↔
      scopeParser.parseEntry entry = .ok parsed := by
  obtain ⟨scope, read, write⟩ := parsed
  rw [parseEntry_eq_ok_iff_lower, parseEntry_eq_ok_iff_lower, List.map_map]
  have twice : Char.toLower ∘ Char.toLower = Char.toLower := funext toLower_toLower
  rw [twice]

/-- The entry lacks a colon, names no scope or has other access than the four spellings. -/
def Invalid (entry : List Char) : Prop :=
  ':' ∉ entry ∨ ∃ name access, entry = name ++ ':' :: access ∧ ':' ∉ name ∧
    ((∀ scope : Scope, name.map Char.toLower ≠ scope.name.toList) ∨
      access.map Char.toLower ∉ accessTexts)

theorem not_valid_iff (entry : List Char) : ¬ scopeParser.Valid entry ↔ Invalid entry := by
  constructor
  · intro refused
    by_cases colon : ':' ∈ entry
    · right
      obtain ⟨name, access, rfl, plain⟩ := List.eq_append_cons_of_mem colon
      refine ⟨name, access, rfl, plain, ?_⟩
      by_contra fine
      push Not at fine
      obtain ⟨⟨scope, named⟩, spelt⟩ := fine
      obtain ⟨⟨read, write⟩, letters⟩ := (exists_readAccess_iff _).mpr spelt
      refine refused ⟨(scope, read, write), ?_⟩
      rw [parseEntry_eq_ok_iff]
      refine ⟨name, access, rfl, plain, ?_, letters⟩
      rw [scopeOf_eq, scopeNamed_eq_some_iff, ascii_lower, named]
    · exact .inl colon
  · rintro flaw ⟨⟨scope, read, write⟩, parsed⟩
    obtain ⟨name, access, rfl, plain, named, letters⟩ :=
      (parseEntry_eq_ok_iff scopeParser entry scope read write).mp parsed
    rcases flaw with absent | ⟨name', access', same, plain', flaw⟩
    · exact absent (List.mem_append_right _ (List.mem_cons_self ..))
    · have name_eq : name' = name := by
        rw [← @takeWhile_name name access plain, same, takeWhile_name plain']
      subst name_eq
      obtain rfl : access = access' := (List.cons.inj (List.append_cancel_left same)).2
      rw [scopeOf_eq, scopeNamed_eq_some_iff, ascii_lower] at named
      rcases flaw with unnamed | unspelt
      · exact unnamed scope named
      · exact unspelt ((exists_readAccess_iff _).mp ⟨_, letters⟩)

/-! ## Texts by their entries -/

/-- The text says `(none)`. -/
def ReadsNone (text : List Char) : Prop :=
  eqIgnoreAsciiCase (Text.trim Text.isWhiteSpace text) emptyText = true

/-- What stands between commas and white space. -/
def entriesOf (text : List Char) : List (List Char) := Text.fields scopeParser.isSeparator text

theorem entriesOf_trim (text : List Char) :
    entriesOf (Text.trim Text.isWhiteSpace text) = entriesOf text :=
  Text.fields_trim (fun _ space => Bool.or_eq_true_iff.mpr (.inr space)) text

theorem fromStr_eq_parseEntries {text : List Char} (some_ : ¬ ReadsNone text) :
    fromStr text = scopeParser.parseEntries (entriesOf text) .empty := by
  rw [← entriesOf_trim]
  show (if (Text.trim Text.isWhiteSpace text).isEmpty ||
      eqIgnoreAsciiCase (Text.trim Text.isWhiteSpace text) emptyText then _ else _) = _
  by_cases empty : Text.trim Text.isWhiteSpace text = []
  · rw [empty]
    rfl
  · have goes : ((Text.trim Text.isWhiteSpace text).isEmpty ||
        eqIgnoreAsciiCase (Text.trim Text.isWhiteSpace text) emptyText) = false := by
      rw [Bool.or_eq_false_iff]
      exact ⟨by simpa using empty, Bool.eq_false_iff.mpr some_⟩
    rw [goes]
    rfl

theorem fromStr_none {text : List Char} (none_ : ReadsNone text) : fromStr text = .ok .empty := by
  show (if (Text.trim Text.isWhiteSpace text).isEmpty ||
      eqIgnoreAsciiCase (Text.trim Text.isWhiteSpace text) emptyText then _ else _) = _
  exact if_pos (Bool.or_eq_true_iff.mpr (.inr none_))

theorem not_separator_of_wide {c : Char} (plain : isWideSeparator c = false) :
    scopeParser.isSeparator c = false := by
  rw [Bool.eq_false_iff] at plain ⊢
  exact fun separator => plain (scopeParser_narrower.separator c separator)

/-- A text that says `(none)` has an entry, and it lacks a colon. -/
theorem exists_not_valid {text : List Char} (none_ : ReadsNone text) :
    ∃ entry ∈ entriesOf text, ¬ scopeParser.Valid entry := by
  have spelt := (scopeParser_narrower.emptyText _).mp none_
  have lowered : (Text.trim Text.isWhiteSpace text).map Char.toLower = emptyText :=
    (of_decide_eq_true none_).trans (by decide)
  have some_ : Text.trim Text.isWhiteSpace text ≠ [] := fun empty => by
    rw [empty] at lowered
    cases lowered
  obtain ⟨c, inside⟩ := List.exists_mem_of_ne_nil _ some_
  have plain := not_separator_of_wide (emptyText_letters spelt c inside).1
  obtain ⟨entry, listed, -⟩ := Text.exists_field inside plain
  refine ⟨entry, entriesOf_trim text ▸ listed, ?_⟩
  rintro ⟨⟨scope, read, write⟩, parsed⟩
  obtain ⟨access, entry_eq, -⟩ := (parseEntry_eq_ok_iff_lower entry scope read write).mp parsed
  have colon : ':' ∈ entry.map Char.toLower := by
    rw [entry_eq]
    exact List.mem_append_right _ (List.mem_cons_self ..)
  obtain ⟨d, within, same⟩ := List.mem_map.mp colon
  have shown : ':' ∈ emptyText := by
    rw [← lowered]
    exact List.mem_map.mpr ⟨d, Text.mem_of_mem_fields listed within, same⟩
  exact absurd shown (by decide)

/-! ## Reading what was written -/

/-- The access letters of a grant. -/
def lettersOf (read write : Bool) : List Char :=
  (if read then ['r'] else []) ++ (if write then ['w'] else [])

theorem readAccess_lettersOf {read write : Bool} (some_ : (read || write) = true) :
    readAccess (lettersOf read write) false false = some (read, write) := by
  cases read <;> cases write <;> first | rfl | cases some_

/-- The entry that a set writes for a scope. -/
def entryOf (s : ScopeSet) (scope : Scope) : List Char :=
  scope.name.toList ++ ':' :: lettersOf (s.contains scope .read) (s.contains scope .write)

def Granted (s : ScopeSet) (scope : Scope) : Bool :=
  s.contains scope .read || s.contains scope .write

theorem text_toList {s : ScopeSet} (some_ : s.bits ≠ 0) :
    s.text.toList =
      [',', ' '].intercalate ((Scope.all.filter (Granted s)).map (entryOf s)) := by
  rw [ScopeSet.text, if_neg some_, String.toList_intercalate, List.map_filterMap]
  congr 1
  induction Scope.all with
  | nil => rfl
  | cons scope rest ih =>
    rw [List.filterMap_cons, ih, List.filter_cons, Granted]
    cases read : s.contains scope .read <;> cases write : s.contains scope .write <;>
      simp [entryOf, lettersOf, read, write]

theorem parseEntry_entryOf {s : ScopeSet} {scope : Scope} (granted : Granted s scope = true) :
    scopeParser.parseEntry (entryOf s scope) =
      .ok (scope, s.contains scope .read, s.contains scope .write) := by
  have name_lower : scope.name.toList.map Char.toLower = scope.name.toList := by
    cases scope <;> decide
  have letters_lower (read write : Bool) :
      (lettersOf read write).map Char.toLower = lettersOf read write := by
    cases read <;> cases write <;> decide
  rw [parseEntry_eq_ok_iff_lower]
  refine ⟨lettersOf (s.contains scope .read) (s.contains scope .write), ?_,
    readAccess_lettersOf granted⟩
  rw [entryOf, List.map_append, List.map_cons, name_lower, letters_lower]
  rfl

theorem plain_of_valid {entry : List Char} (valid : scopeParser.Valid entry) :
    entry ≠ [] ∧ ∀ c ∈ entry, scopeParser.isSeparator c = false := by
  obtain ⟨parsed, ok⟩ := valid
  refine ⟨?_, fun c inside => not_separator_of_wide ?_⟩
  · rintro rfl
    cases ok
  · exact not_separator_of_parseEntry ((parseEntry_iff scopeParser_narrower _ _).mp ok).1 c inside

theorem entriesOf_text {s : ScopeSet} (some_ : s.bits ≠ 0) :
    entriesOf s.text.toList = (Scope.all.filter (Granted s)).map (entryOf s) := by
  rw [text_toList some_]
  have separators : ∀ c ∈ [',', ' '], scopeParser.isSeparator c = true := by
    rw [List.forall_mem_cons, List.forall_mem_singleton]
    exact ⟨rfl, rfl⟩
  refine Text.fields_intercalate separators (List.cons_ne_nil _ _) ?_
  rintro entry listed
  obtain ⟨scope, kept, rfl⟩ := List.mem_map.mp listed
  exact plain_of_valid ⟨_, parseEntry_entryOf (List.mem_filter.mp kept).2⟩

theorem mem_all (scope : Scope) : scope ∈ Scope.all := by
  cases scope <;> decide

/-- The entries that a valid set writes grant its bits. -/
theorem exists_grants_iff {s : ScopeSet} (valid : s.isValid = true) (i : ℕ) :
    (∃ entry ∈ (Scope.all.filter (Granted s)).map (entryOf s), scopeParser.Grants entry i) ↔
      s.bits.getLsbD i = true := by
  constructor
  · rintro ⟨entry, listed, scope, read, write, parsed, granted⟩
    obtain ⟨scope', kept, rfl⟩ := List.mem_map.mp listed
    rw [parseEntry_entryOf (List.mem_filter.mp kept).2, Except.ok.injEq, Prod.mk.injEq,
      Prod.mk.injEq] at parsed
    obtain ⟨rfl, rfl, rfl⟩ := parsed
    rcases granted with ⟨held, rfl⟩ | ⟨held, rfl⟩
    · exact (ScopeSet.contains_iff s scope' .read).mp held
    · exact (ScopeSet.contains_iff s scope' .write).mp held
  · intro held
    obtain ⟨scope, access, rfl⟩ := ScopeSet.exists_place ((ScopeSet.isValid_iff s).mp valid i held)
    have contained := (ScopeSet.contains_iff s scope access).mpr held
    have granted : Granted s scope = true := by
      rw [Granted, Bool.or_eq_true]
      cases access with
      | read => exact .inl contained
      | write => exact .inr contained
    refine ⟨entryOf s scope, List.mem_map_of_mem (List.mem_filter.mpr ⟨mem_all scope, granted⟩),
      scope, _, _, parseEntry_entryOf granted, ?_⟩
    cases access with
    | read => exact .inl ⟨contained, rfl⟩
    | write => exact .inr ⟨contained, rfl⟩

theorem fromStr_text {s : ScopeSet} (valid : s.isValid = true) : fromStr s.text.toList = .ok s := by
  by_cases none_ : s.bits = 0
  · obtain rfl : s = .empty := ScopeSet.eq_iff.mpr fun i => by rw [none_]; rfl
    exact fromStr_none (by unfold ReadsNone; decide)
  have grants := exists_grants_iff valid
  have all_valid : ∀ entry ∈ entriesOf s.text.toList, scopeParser.Valid entry := by
    intro entry listed
    rw [entriesOf_text none_] at listed
    obtain ⟨scope, kept, rfl⟩ := List.mem_map.mp listed
    exact ⟨_, parseEntry_entryOf (List.mem_filter.mp kept).2⟩
  have some_ : ¬ ReadsNone s.text.toList := fun reads => by
    obtain ⟨entry, listed, refused⟩ := exists_not_valid reads
    exact refused (all_valid entry listed)
  rw [fromStr_eq_parseEntries some_, ScopeParser.parseEntries_eq_ok_iff]
  refine ⟨all_valid, fun i => ?_⟩
  rw [entriesOf_text none_, grants]
  simp [ScopeSet.empty]

/-! ## Joined texts -/

/-- An accepted text is one that says `(none)` or has valid entries only. -/
theorem fromStr_eq_ok_iff {text : List Char} (some_ : ¬ ReadsNone text) (s : ScopeSet) :
    fromStr text = .ok s ↔ (∀ entry ∈ entriesOf text, scopeParser.Valid entry) ∧
      ∀ i, s.bits.getLsbD i = true ↔ ∃ entry ∈ entriesOf text, scopeParser.Grants entry i := by
  rw [fromStr_eq_parseEntries some_, ScopeParser.parseEntries_eq_ok_iff]
  have none_ (i : ℕ) : ScopeSet.empty.bits.getLsbD i = false := BitVec.getLsbD_zero
  simp only [none_, Bool.false_eq_true, false_or]

theorem isValid_of_fromStr {text : List Char} {s : ScopeSet} (parsed : fromStr text = .ok s) :
    s.isValid = true := by
  by_cases none_ : ReadsNone text
  · rw [fromStr_none none_, Except.ok.injEq] at parsed
    rw [← parsed]
    decide
  · rw [fromStr_eq_parseEntries none_] at parsed
    exact ScopeParser.isValid_of_parseEntries _ parsed

theorem fromStr_join {a b seps : List Char} {s t : ScopeSet} (some_a : ¬ ReadsNone a)
    (some_b : ¬ ReadsNone b) (read_a : fromStr a = .ok s) (read_b : fromStr b = .ok t)
    (separators : ∀ c ∈ seps, c = ',' ∨ Text.isWhiteSpace c = true) (apart : seps ≠ []) :
    fromStr (a ++ (seps ++ b)) = .ok (s.union t) := by
  obtain ⟨valid_a, grants_a⟩ := (fromStr_eq_ok_iff some_a s).mp read_a
  obtain ⟨valid_b, grants_b⟩ := (fromStr_eq_ok_iff some_b t).mp read_b
  have entries : entriesOf (a ++ (seps ++ b)) = entriesOf a ++ entriesOf b :=
    Text.fields_join a (fun c inside => by simpa [scopeParser] using separators c inside) apart b
  have valid : ∀ entry ∈ entriesOf (a ++ (seps ++ b)), scopeParser.Valid entry := by
    rw [entries, List.forall_mem_append]
    exact ⟨valid_a, valid_b⟩
  have some_ : ¬ ReadsNone (a ++ (seps ++ b)) := fun reads => by
    obtain ⟨entry, listed, refused⟩ := exists_not_valid reads
    exact refused (valid entry listed)
  refine (fromStr_eq_ok_iff some_ _).mpr ⟨valid, fun i => ?_⟩
  rw [ScopeSet.getLsbD_union, grants_a, grants_b, entries]
  simp only [List.mem_append, or_and_right, exists_or]

/-- The order of entries, their repetition and their letter case do not matter. -/
theorem fromStr_entries {a b : List Char} {s : ScopeSet} (some_a : ¬ ReadsNone a)
    (some_b : ¬ ReadsNone b) (read_a : fromStr a = .ok s)
    (same : ∀ entry, entry ∈ (entriesOf a).map (·.map Char.toLower) ↔
      entry ∈ (entriesOf b).map (·.map Char.toLower)) : fromStr b = .ok s := by
  have valid_lower (entry : List Char) :
      scopeParser.Valid (entry.map Char.toLower) ↔ scopeParser.Valid entry :=
    exists_congr fun parsed => parseEntry_lower_iff entry parsed
  have grants_lower (entry : List Char) (i : ℕ) :
      scopeParser.Grants (entry.map Char.toLower) i ↔ scopeParser.Grants entry i := by
    simp only [ScopeParser.Grants, parseEntry_lower_iff]
  have all_lower (text : List Char) : (∀ entry ∈ entriesOf text, scopeParser.Valid entry) ↔
      ∀ entry ∈ (entriesOf text).map (·.map Char.toLower), scopeParser.Valid entry := by
    rw [List.forall_mem_map]
    simp only [valid_lower]
  have some_lower (text : List Char) (i : ℕ) :
      (∃ entry ∈ entriesOf text, scopeParser.Grants entry i) ↔
        ∃ entry ∈ (entriesOf text).map (·.map Char.toLower), scopeParser.Grants entry i := by
    simp only [List.mem_map, exists_exists_and_eq_and, grants_lower]
  rw [fromStr_eq_ok_iff some_a, all_lower] at read_a
  rw [fromStr_eq_ok_iff some_b, all_lower]
  refine ⟨fun entry listed => read_a.1 entry ((same entry).mpr listed), fun i => ?_⟩
  rw [read_a.2 i, some_lower, some_lower]
  simp only [same]

theorem fromStr_eq_error_iff {text : List Char} (some_ : ¬ ReadsNone text) :
    (∃ e, fromStr text = .error e) ↔ ∃ entry ∈ entriesOf text, Invalid entry := by
  rw [fromStr_eq_parseEntries some_, ScopeParser.exists_error_iff]
  simp only [not_valid_iff]

/-- Reading undoes writing, and joins of texts are read as unions; a text that does not say `(none)`
is refused iff an entry is invalid. -/
theorem scopeText_homomorphism :
    (∀ s : ScopeSet, s.isValid = true → fromStr s.text.toList = .ok s) ∧
    (∀ text s, fromStr text = .ok s → s.isValid = true ∧ fromStr s.text.toList = .ok s) ∧
    (∀ a b s t, ¬ ReadsNone a → ¬ ReadsNone b → fromStr a = .ok s → fromStr b = .ok t →
      ∀ seps, seps ≠ [] → (∀ c ∈ seps, c = ',' ∨ Text.isWhiteSpace c = true) →
        fromStr (a ++ (seps ++ b)) = .ok (s.union t)) ∧
    (∀ a b s, ¬ ReadsNone a → ¬ ReadsNone b → fromStr a = .ok s →
      (∀ entry, entry ∈ (entriesOf a).map (·.map Char.toLower) ↔
        entry ∈ (entriesOf b).map (·.map Char.toLower)) → fromStr b = .ok s) ∧
    (∀ text, ¬ ReadsNone text →
      ((∃ e, fromStr text = .error e) ↔ ∃ entry ∈ entriesOf text, Invalid entry)) := by
  refine ⟨fun s => fromStr_text, fun text s parsed => ?_, ?_, ?_, fun text => fromStr_eq_error_iff⟩
  · have valid := isValid_of_fromStr parsed
    exact ⟨valid, fromStr_text valid⟩
  · intro a b s t some_a some_b read_a read_b seps apart separators
    exact fromStr_join some_a some_b read_a read_b separators apart
  · intro a b s some_a some_b read_a same
    exact fromStr_entries some_a some_b read_a same

end Rust

end MatterSdk
