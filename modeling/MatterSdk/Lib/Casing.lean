import Mathlib.Data.List.Forall2
import Mathlib.Data.Nat.Notation

/-!
# Lower case

Lower-casing of texts, as far as ASCII goes.  Two characters outside ASCII matter, the Kelvin sign and
the capital I with a dot, which some mappings take to ASCII; all others stay outside it.
-/

namespace Casing

def kelvinSign : Char := Char.ofNat 0x212A

def dottedI : Char := Char.ofNat 0x130

/-- All characters are of ASCII. -/
def Plain (text : List Char) : Prop := ∀ c ∈ text, c.toNat < 128

/-- The lower case of a character, where the mapping gives `kelvin` and `dotted` for the two. -/
def Image (kelvin dotted : List Char) (c : Char) (image : List Char) : Prop :=
  if c.toNat < 128 then image = [c.toLower]
  else if c = kelvinSign then image = kelvin
  else if c = dottedI then image = dotted
  else image ≠ [] ∧ ∀ d ∈ image, 128 ≤ d.toNat

/-- A lower-casing of texts, which may look at a character's context. -/
structure Lowering (kelvin dotted : List Char) where
  images : List Char → List (List Char)
  spec : ∀ text, List.Forall₂ (Image kelvin dotted) text (images text)

def Lowering.lower {kelvin dotted : List Char} (l : Lowering kelvin dotted) (text : List Char) :
    List Char := (l.images text).flatten

theorem toLower_eq_self {c : Char} (foreign : 128 ≤ c.toNat) : c.toLower = c := by
  unfold Char.toLower
  refine dif_neg fun h => ?_
  have small : c.toNat ≤ 90 := UInt32.le_iff_toNat_le.mp h.2
  omega

def charImage (kelvin dotted : List Char) (c : Char) : List Char :=
  if c = kelvinSign then kelvin else if c = dottedI then dotted else [c.toLower]

/-- The mapping that changes no other character outside ASCII. -/
def charwise (kelvin dotted : List Char) : Lowering kelvin dotted where
  images text := text.map (charImage kelvin dotted)
  spec text := by
    rw [List.forall₂_map_right_iff]
    refine List.forall₂_same.mpr fun c _ => ?_
    unfold Image charImage
    by_cases plain : c.toNat < 128
    · have no_kelvin : c ≠ kelvinSign := by rintro rfl; exact absurd plain (by decide)
      have no_dotted : c ≠ dottedI := by rintro rfl; exact absurd plain (by decide)
      rw [if_pos plain, if_neg no_kelvin, if_neg no_dotted]
    · have foreign : 128 ≤ c.toNat := Nat.not_lt.mp plain
      rw [if_neg plain]
      by_cases is_kelvin : c = kelvinSign
      · rw [if_pos is_kelvin, if_pos is_kelvin]
      rw [if_neg is_kelvin, if_neg is_kelvin]
      by_cases is_dotted : c = dottedI
      · rw [if_pos is_dotted, if_pos is_dotted]
      · rw [if_neg is_dotted, if_neg is_dotted, toLower_eq_self foreign]
        exact ⟨List.cons_ne_nil _ _, by simpa using foreign⟩

/-- The ASCII mapping. -/
def ascii : Lowering [kelvinSign] [dottedI] := charwise [kelvinSign] [dottedI]

theorem ascii_lower (text : List Char) : ascii.lower text = text.map Char.toLower := by
  have image (c : Char) : charImage [kelvinSign] [dottedI] c = [c.toLower] := by
    unfold charImage
    by_cases kelvin : c = kelvinSign
    · rw [if_pos kelvin, kelvin]
      rfl
    · rw [if_neg kelvin]
      by_cases dotted : c = dottedI
      · rw [if_pos dotted, dotted]
        rfl
      · rw [if_neg dotted]
  show (text.map (charImage [kelvinSign] [dottedI])).flatten = _
  induction text with
  | nil => rfl
  | cons c text ih =>
    rw [List.map_cons, List.flatten_cons, ih, image]
    rfl

/-- The mapping that takes both to ASCII, character by character. -/
def wideLower (c : Char) : Char :=
  if c = kelvinSign then 'k' else if c = dottedI then 'i' else c.toLower

/-- A mapping takes a character to an ASCII letter or outside ASCII. -/
def Definite (letter : Char) (image : List Char) : Prop := image = [letter] ∨ ¬ Plain image

theorem definite_self (letter : Char) : Definite letter [letter] := .inl rfl

/-- The characters of the text that only some mappings take to ASCII are ones that this does. -/
def Known (kelvin dotted text : List Char) : Prop :=
  ∀ c ∈ text, (c = kelvinSign → kelvin = ['k']) ∧ (c = dottedI → dotted = ['i'])

theorem known_cons {kelvin dotted : List Char} {c : Char} {text : List Char} :
    Known kelvin dotted (c :: text) ↔ Known kelvin dotted [c] ∧ Known kelvin dotted text := by
  simp [Known]

theorem plain_append {text text' : List Char} : Plain (text ++ text') ↔ Plain text ∧ Plain text' := by
  simp [Plain, or_imp, forall_and]

theorem plain_cons {c : Char} {text : List Char} : Plain (c :: text) ↔ Plain [c] ∧ Plain text :=
  @plain_append [c] text

section

variable {kelvin dotted : List Char} (kelvin_definite : Definite 'k' kelvin)
  (dotted_definite : Definite 'i' dotted)

include kelvin_definite dotted_definite

theorem image_plain {c : Char} {image : List Char} (spec : Image kelvin dotted c image) :
    (Plain image ↔ Plain [wideLower c] ∧ Known kelvin dotted [c]) ∧
      (Plain image → image = [wideLower c]) := by
  have apart : dottedI ≠ kelvinSign := by decide
  unfold Image at spec
  by_cases plain : c.toNat < 128
  · have no_kelvin : c ≠ kelvinSign := by rintro rfl; exact absurd plain (by decide)
    have no_dotted : c ≠ dottedI := by rintro rfl; exact absurd plain (by decide)
    rw [if_pos plain] at spec
    have lowered : wideLower c = c.toLower := by rw [wideLower, if_neg no_kelvin, if_neg no_dotted]
    rw [spec, lowered]
    simp [Known, no_kelvin, no_dotted]
  rw [if_neg plain] at spec
  by_cases is_kelvin : c = kelvinSign
  · subst is_kelvin
    obtain rfl : image = kelvin := by simpa using spec
    have lowered : wideLower kelvinSign = 'k' := by rw [wideLower, if_pos rfl]
    rw [lowered]
    rcases kelvin_definite with rfl | foreign
    · simp [Known, apart.symm]
    · have unknown : image ≠ ['k'] := by rintro rfl; exact foreign (by simp [Plain])
      simp [foreign, Known, unknown]
  rw [if_neg is_kelvin] at spec
  by_cases is_dotted : c = dottedI
  · subst is_dotted
    obtain rfl : image = dotted := by simpa using spec
    have lowered : wideLower dottedI = 'i' := by rw [wideLower, if_neg apart, if_pos rfl]
    rw [lowered]
    rcases dotted_definite with rfl | foreign
    · simp [Known, apart]
    · have unknown : image ≠ ['i'] := by rintro rfl; exact foreign (by simp [Plain])
      simp [foreign, Known, unknown]
  · rw [if_neg is_dotted] at spec
    obtain ⟨d, rest, rfl⟩ := List.exists_cons_of_ne_nil spec.1
    have foreign : ¬ Plain (d :: rest) := fun h =>
      absurd (h d (List.mem_cons_self ..)) (Nat.not_lt.mpr (spec.2 d (List.mem_cons_self ..)))
    have lowered : wideLower c = c := by
      rw [wideLower, if_neg is_kelvin, if_neg is_dotted, toLower_eq_self (Nat.not_lt.mp plain)]
    have outside : ¬ Plain [wideLower c] := by
      rw [lowered]
      exact fun h => plain (h c (List.mem_cons_self ..))
    exact ⟨iff_of_false foreign fun h => outside h.1, fun h => absurd h foreign⟩

theorem flatten_plain {text : List Char} {images : List (List Char)}
    (spec : List.Forall₂ (Image kelvin dotted) text images) :
    (Plain images.flatten ↔ Plain (text.map wideLower) ∧ Known kelvin dotted text) ∧
      (Plain images.flatten → images.flatten = text.map wideLower) := by
  induction spec with
  | nil => simp [Plain, Known]
  | @cons c image text images head tail ih =>
    have first := image_plain kelvin_definite dotted_definite head
    rw [List.flatten_cons, plain_append, List.map_cons, plain_cons, known_cons, first.1, ih.1]
    refine ⟨by tauto, fun h => ?_⟩
    rw [first.2 (first.1.mpr h.1), ih.2 (ih.1.mpr h.2)]
    rfl

/-- A text lower-cases to one of ASCII iff the wide mapping takes it there and the mapping knows its
characters. -/
theorem lower_eq_iff (l : Lowering kelvin dotted) {text target : List Char} (plain : Plain target) :
    l.lower text = target ↔ text.map wideLower = target ∧ Known kelvin dotted text := by
  have all := flatten_plain kelvin_definite dotted_definite (l.spec text)
  constructor
  · intro same
    have lowered : Plain (l.images text).flatten := by
      rw [show (l.images text).flatten = target from same]
      exact plain
    exact ⟨(all.2 lowered).symm.trans same, (all.1.mp lowered).2⟩
  · rintro ⟨rfl, known⟩
    exact all.2 (all.1.mpr ⟨plain, known⟩)

/-- Where no `k` or `i` is wanted, every mapping lowers as the ASCII one. -/
theorem lower_eq_iff_toLower (l : Lowering kelvin dotted) {text target : List Char}
    (plain : Plain target) (no_k : 'k' ∉ target) (no_i : 'i' ∉ target) :
    l.lower text = target ↔ text.map Char.toLower = target := by
  rw [lower_eq_iff kelvin_definite dotted_definite l plain]
  have known (ordinary : ∀ c ∈ text, c ≠ kelvinSign ∧ c ≠ dottedI) :
      text.map wideLower = text.map Char.toLower ∧ Known kelvin dotted text :=
    ⟨List.map_congr_left fun c hc => by
        rw [wideLower, if_neg (ordinary c hc).1, if_neg (ordinary c hc).2],
      fun c hc => ⟨fun h => absurd h (ordinary c hc).1, fun h => absurd h (ordinary c hc).2⟩⟩
  constructor
  · rintro ⟨rfl, -⟩
    refine (known fun c hc => ⟨?_, ?_⟩).1.symm
    · rintro rfl
      exact no_k (List.mem_map.mpr ⟨_, hc, rfl⟩)
    · rintro rfl
      exact no_i (List.mem_map.mpr ⟨_, hc, rfl⟩)
  · rintro rfl
    refine known fun c hc => ⟨?_, ?_⟩
    · rintro rfl
      exact absurd (plain _ (List.mem_map.mpr ⟨_, hc, rfl⟩)) (by decide)
    · rintro rfl
      exact absurd (plain _ (List.mem_map.mpr ⟨_, hc, rfl⟩)) (by decide)

end

end Casing
