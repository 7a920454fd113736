import MatterSdk.Chain.CommitteeViews

/-!
# The rows that the readers read apart

An endpoint is a text in UTF-8 with an absolute URL between white space.  Go also takes bytes that are
no text, and Python reads a text of hex as other bytes and takes more for white space; on all other
bytes the three read the same endpoint, if any.
-/

namespace MatterSdk

/-! ## URLs between margins -/

section

variable {space : Char → Bool}

/-- The absolute URL that a text in UTF-8 has between its margins, without the slashes at its end. -/
def urlIn (space : Char → Bool) (raw : Bytes) : Option Bytes :=
  (Utf8.decode raw).bind fun text => (absoluteUrl (Text.trim space text)).map utf8

theorem urlIn_utf8 (space : Char → Bool) (text : List Char) :
    urlIn space (utf8 text) = (absoluteUrl (Text.trim space text)).map utf8 := by
  rw [urlIn, utf8_eq_encode, Utf8.decode_encode, Option.bind_some]

theorem urlIn_of_noText (space : Char → Bool) {raw : Bytes} (noText : ∀ text, raw ≠ utf8 text) :
    urlIn space raw = none := by
  have unread : Utf8.decode raw = none := by
    apply Option.eq_none_iff_forall_ne_some.mpr
    exact fun text read => noText text (Utf8.decode_eq_some_iff.mp read).symm
  rw [urlIn, unread, Option.bind_none]

theorem text_of_urlIn {raw url : Bytes} (read : urlIn space raw = some url) :
    ∃ text, url = utf8 text := by
  obtain ⟨text, -, read⟩ := Option.bind_eq_some_iff.mp read
  obtain ⟨url, -, rfl⟩ := Option.map_eq_some_iff.mp read
  exact ⟨url, rfl⟩

/-- What an absolute URL starts with. -/
def schemes : List (List Char) := ["https://".toList, "http://".toList]

theorem ne_nil_of_scheme {scheme : List Char} (listed : scheme ∈ schemes) : scheme ≠ [] := by
  revert scheme
  decide

theorem head_of_scheme {scheme : List Char} (listed : scheme ∈ schemes) :
    scheme.head? = some 'h' := by
  revert scheme
  decide

theorem mem_of_scheme {scheme : List Char} (listed : scheme ∈ schemes) :
    ∀ c ∈ scheme, c ∈ "https://".toList := by
  have inside : (schemes.all fun scheme => scheme.all fun c => c ∈ "https://".toList) = true := by
    decide
  intro c mem
  exact of_decide_eq_true (List.all_eq_true.mp (List.all_eq_true.mp inside scheme listed) c mem)

/-- A text that starts as a URL is taken for one. -/
theorem absoluteUrl_of_scheme {scheme : List Char} (listed : scheme ∈ schemes) (tail : List Char) :
    absoluteUrl (scheme ++ tail) = some ((scheme ++ tail).rdropWhile (· = '/')) := by
  have front : scheme.isPrefixOf (scheme ++ tail) = true :=
    List.isPrefixOf_iff_prefix.mpr (List.prefix_append scheme tail)
  apply if_pos
  rcases List.mem_cons.mp listed with rfl | listed
  · rw [front, Bool.true_or]
  · obtain rfl := List.mem_singleton.mp listed
    rw [front, Bool.or_true]

/-- Nothing else is. -/
theorem exists_scheme {text : List Char} (url : absoluteUrl text ≠ none) :
    ∃ scheme ∈ schemes, ∃ tail, scheme ++ tail = text := by
  unfold absoluteUrl at url
  split at url
  case isTrue front =>
    rcases Bool.or_eq_true_iff.mp front with front | front
    · exact ⟨_, List.mem_cons_self .., List.isPrefixOf_iff_prefix.mp front⟩
    · exact ⟨_, List.mem_cons_of_mem _ (List.mem_cons_self ..), List.isPrefixOf_iff_prefix.mp front⟩
  case isFalse other => exact absurd rfl url

variable (plain : ∀ c ∈ "https://".toList, space c = false)

include plain

/-- A text that starts as a URL does so when it is trimmed. -/
theorem trim_scheme {scheme : List Char} (listed : scheme ∈ schemes) (tail : List Char) :
    Text.trim space (scheme ++ tail) = scheme ++ tail.rdropWhile space := by
  have inside c (inside : c ∈ scheme) : space c = false := plain c (mem_of_scheme listed c inside)
  exact Text.trim_append_of_ends (ne_nil_of_scheme listed)
    (fun c first => inside c (List.mem_of_mem_head? first))
    (fun c last => inside c (List.mem_of_mem_getLast? last)) tail

theorem absoluteUrl_trim {text : List Char} (url : absoluteUrl text ≠ none) :
    absoluteUrl (Text.trim space text) ≠ none := by
  obtain ⟨scheme, listed, tail, rfl⟩ := exists_scheme url
  rw [trim_scheme plain listed, absoluteUrl_of_scheme listed]
  exact Option.some_ne_none _

/-- A URL in front of a margin is no URL together with it, or another one. -/
theorem absoluteUrl_margin {text : List Char} (url : absoluteUrl (Text.trim space text) ≠ none)
    (margin : Text.trim space text ≠ text) :
    absoluteUrl text ≠ absoluteUrl (Text.trim space text) := by
  intro same
  obtain ⟨scheme, listed, tail, rfl⟩ := exists_scheme (same ▸ url)
  rw [trim_scheme plain listed, absoluteUrl_of_scheme listed, absoluteUrl_of_scheme listed,
    Option.some.injEq] at same
  rw [trim_scheme plain listed] at margin
  have split : tail.rdropWhile space ++ tail.rtakeWhile space = tail :=
    List.rdropWhile_append_rtakeWhile
  have after : tail.rtakeWhile space ≠ [] := by
    intro none_
    rw [none_, List.append_nil] at split
    rw [split] at margin
    exact margin rfl
  have lengths := congrArg List.length split
  rw [List.length_append] at lengths
  have some_ := List.length_pos_iff.mpr after
  -- The whole text ends in the margin, so no slash is at its end.
  have last : ∀ c ∈ (scheme ++ tail).getLast?, decide (c = '/') = false := by
    intro c last
    rw [← split, ← List.append_assoc, List.getLast?_append_of_ne_nil _ after] at last
    have margin : space c = true := List.mem_rtakeWhile_imp (List.mem_of_mem_getLast? last)
    apply decide_eq_false
    rintro rfl
    rw [plain '/' (by decide)] at margin
    cases margin
  have kept := Text.rdropWhile_append last []
  rw [List.rdropWhile_nil, List.append_nil] at kept
  have short := (List.rdropWhile_prefix (· = '/') (scheme ++ tail.rdropWhile space)).length_le
  rw [← same, kept, List.length_append, List.length_append] at short
  omega

end

/-- The URL in the first row of an account. -/
def ChainAnswers.urlOf (a : ChainAnswers) (id : AccountId) : Option Bytes :=
  (a.registry.find? (·.1 = id)).bind fun row => urlIn Text.isWhiteSpace row.2

theorem ChainAnswers.text_of_urlOf (a : ChainAnswers) (id : AccountId) :
    ∀ e ∈ a.urlOf id, ∃ text, e = utf8 text := by
  intro e read
  obtain ⟨row, -, read⟩ := Option.bind_eq_some_iff.mp read
  exact text_of_urlIn read

theorem ChainAnswers.urlOf_of_noRow {a : ChainAnswers} {id : AccountId}
    (noRow : a.registry.reverse.find? (·.1 = id) = none) : a.urlOf id = none := by
  have noRow : a.registry.find? (·.1 = id) = none := by
    rw [List.find?_eq_none] at noRow ⊢
    exact fun row listed => noRow row (List.mem_reverse.mpr listed)
  rw [ChainAnswers.urlOf, noRow, Option.bind_none]

/-! ## The row in each reader -/

namespace Rust

theorem parseEndpoint_eq (raw : Bytes) : parseEndpoint raw = urlIn Text.isWhiteSpace raw := by
  unfold parseEndpoint urlIn
  cases Utf8.decode raw <;> rfl

theorem endpoint_eq (a : ChainAnswers) (id : AccountId) : (view a).endpoint id = a.urlOf id := by
  simp only [view, lookupIn, ChainAnswers.urlOf]
  cases a.registry.find? (·.1 = id) with
  | none => rfl
  | some row => exact parseEndpoint_eq row.2

end Rust

namespace Go

/-- Bytes that are no text, with the start of a URL behind white space. -/
structure RawUrl (raw : Bytes) : Prop where
  noText : ∀ text, raw ≠ utf8 text
  front : ∃ left, (∀ c ∈ left, Text.isWhiteSpace c = true) ∧
    ∃ scheme ∈ schemes, utf8 (left ++ scheme) <+: raw

theorem absoluteHTTPEndpoint_utf8 (text : List Char) :
    absoluteHTTPEndpoint (utf8 text) = urlIn Text.isWhiteSpace (utf8 text) := by
  have starts (front : String) (plain : ∀ c ∈ front.toList, c.toNat < 128) :
      (utf8 front.toList).isPrefixOf (utf8 (Text.trim Text.isWhiteSpace text)) =
        front.toList.isPrefixOf (Text.trim Text.isWhiteSpace text) :=
    Utf8.encode_isPrefixOf plain _
  have trimmed : Utf8.trimSpace (utf8 text) = utf8 (Text.trim Text.isWhiteSpace text) :=
    Utf8.trimSpace_encode text
  rw [urlIn_utf8]
  unfold absoluteHTTPEndpoint absoluteUrl
  simp only [trimmed, starts "https://" (by simp), starts "http://" (by simp)]
  split
  · exact congrArg some (Utf8.encode_rdropWhile (by decide) _)
  · rfl

theorem endpoint_of_scheme {raw : Bytes} {scheme : List Char} (listed : scheme ∈ schemes)
    (front : utf8 scheme <+: Utf8.trimSpace raw) : absoluteHTTPEndpoint raw =
      some ((Utf8.trimSpace raw).rdropWhile (· = '/'.toNat.toUInt8)) := by
  have front := List.isPrefixOf_iff_prefix.mpr front
  apply if_pos
  rcases List.mem_cons.mp listed with rfl | listed
  · rw [front, Bool.true_or]
  · obtain rfl := List.mem_singleton.mp listed
    rw [front, Bool.or_true]

theorem exists_front {raw : Bytes} (read : absoluteHTTPEndpoint raw ≠ none) :
    ∃ scheme ∈ schemes, utf8 scheme <+: Utf8.trimSpace raw := by
  by_contra absent
  refine read (if_neg fun front => absent ?_)
  rcases Bool.or_eq_true_iff.mp front with front | front
  · exact ⟨_, List.mem_cons_self .., List.isPrefixOf_iff_prefix.mp front⟩
  · exact ⟨_, List.mem_cons_of_mem _ (List.mem_cons_self ..), List.isPrefixOf_iff_prefix.mp front⟩

/-- Go takes a URL behind white space, in whatever bytes. -/
theorem endpoint_ne_none_iff (raw : Bytes) : absoluteHTTPEndpoint raw ≠ none ↔
    ∃ left, (∀ c ∈ left, Text.isWhiteSpace c = true) ∧
      ∃ scheme ∈ schemes, utf8 (left ++ scheme) <+: raw := by
  constructor
  · intro read
    obtain ⟨scheme, listed, tail, trimmed⟩ := exists_front read
    obtain ⟨left, right, split, white⟩ := Utf8.exists_trimSpace raw
    refine ⟨left, white, scheme, listed, tail ++ utf8 right, ?_⟩
    rw [split, ← trimmed]
    simp only [utf8_eq_encode, Utf8.encode_append, List.append_assoc]
  · rintro ⟨left, white, scheme, listed, rest, rfl⟩
    have plain : ∀ c ∈ scheme, Text.isWhiteSpace c = false := by
      have plain : ("https://".toList.all fun c => Text.isWhiteSpace c = false) = true := by decide
      intro c inside
      exact of_decide_eq_true (List.all_eq_true.mp plain c (mem_of_scheme listed c inside))
    have front := Utf8.trimSpace_front white (ne_nil_of_scheme listed) plain rest
    exact (endpoint_of_scheme listed front).trans_ne (Option.some_ne_none _)

/-- What Go makes of bytes that are no text is none either. -/
theorem noText_of_endpoint {raw endpoint : Bytes} (noText : ∀ text, raw ≠ utf8 text)
    (read : absoluteHTTPEndpoint raw = some endpoint) (text : List Char) : endpoint ≠ utf8 text := by
  rintro rfl
  obtain ⟨scheme, listed, front⟩ := exists_front (by rw [read]; exact Option.some_ne_none _)
  rw [endpoint_of_scheme listed front, Option.some.injEq] at read
  obtain ⟨left, right, split, -⟩ := Utf8.exists_trimSpace raw
  have slash : '/'.toNat < 128 := by decide
  obtain ⟨slashes, trimmed⟩ := Utf8.exists_rdropWhile slash (Utf8.trimSpace raw)
  have trimmed : Utf8.trimSpace raw = utf8 text ++ Utf8.encode slashes := by
    rw [← read]
    exact trimmed
  apply noText (left ++ (text ++ slashes ++ right))
  rw [split, trimmed]
  simp only [utf8_eq_encode, Utf8.encode_append]

/-- Go finds the URL of a text in a row just when Rust does and the row is no raw URL. -/
theorem absoluteHTTPEndpoint_eq_iff (raw : Bytes) {url : Option Bytes}
    (text : ∀ e ∈ url, ∃ text, e = utf8 text) :
    absoluteHTTPEndpoint raw = url ↔ ¬ RawUrl raw ∧ urlIn Text.isWhiteSpace raw = url := by
  by_cases known : ∃ text, raw = utf8 text
  · obtain ⟨text, rfl⟩ := known
    have known : ¬ RawUrl (utf8 text) := fun rawUrl => rawUrl.noText text rfl
    rw [absoluteHTTPEndpoint_utf8]
    exact (and_iff_right known).symm
  · have noText : ∀ text, raw ≠ utf8 text := fun t same => known ⟨t, same⟩
    rw [urlIn_of_noText _ noText]
    cases read : absoluteHTTPEndpoint raw with
    | none =>
      have known : ¬ RawUrl raw := fun rawUrl => (endpoint_ne_none_iff raw).mpr rawUrl.front read
      exact (and_iff_right known).symm
    | some endpoint =>
      have rawUrl : RawUrl raw := ⟨noText, (endpoint_ne_none_iff raw).mp (by simp [read])⟩
      refine iff_of_false (fun same => ?_) fun both => both.1 rawUrl
      obtain ⟨text, rfl⟩ := text endpoint same.symm
      exact noText_of_endpoint noText read text rfl

/-- Go asks an account at the URL of its first row just when the last one has it as a text. -/
theorem endpoint_eq_iff (keepsEmpty : Bool) (a : ChainAnswers) (id : AccountId) :
    (view keepsEmpty a).endpoint id = a.urlOf id ↔
      ∀ row ∈ a.registry.reverse.find? (·.1 = id),
        ¬ RawUrl row.2 ∧ urlIn Text.isWhiteSpace row.2 = a.urlOf id := by
  simp only [view, endpointIn]
  cases last : a.registry.reverse.find? (·.1 = id) with
  | none =>
    rw [ChainAnswers.urlOf_of_noRow last]
    exact iff_of_true rfl fun row found => by cases found
  | some row =>
    simp only [Option.mem_some_iff, forall_eq']
    exact absoluteHTTPEndpoint_eq_iff row.2 (a.text_of_urlOf id)

theorem commitment_eq_some (keepsEmpty : Bool) {a : ChainAnswers} {id : AccountId} {b : Bytes}
    (stored : a.shareCommitment id = some b) (some_ : b ≠ []) :
    (view keepsEmpty a).commitment id = some b := by
  simp only [view, stored]
  cases b with
  | nil => exact absurd rfl some_
  | cons byte rest => rfl

end Go

namespace Python

/-- A text of hex whose bytes have a URL. -/
def Unhexed (raw : Bytes) : Prop := ∃ digits bytes, raw = utf8 ('0' :: 'x' :: digits) ∧
  hexPairs (digits.map Char.toNat) = some bytes ∧ urlIn Text.isPythonSpace bytes ≠ none

/-- A text of hex that cannot be read. -/
def Unreadable (raw : Bytes) : Prop := ∃ digits, raw = utf8 ('0' :: 'x' :: digits) ∧
  hexPairs (digits.map Char.toNat) = none

/-- A text with a URL next to a separator U+001C to U+001F, which only Python takes for white
space. -/
def Separated (raw : Bytes) : Prop := ∃ text, raw = utf8 text ∧
  absoluteUrl (Text.trim Text.isPythonSpace text) ≠ none ∧
    Text.trim Text.isPythonSpace text ≠ Text.trim Text.isWhiteSpace text

theorem hex_injective {digits digits' : List Char}
    (same : utf8 ('0' :: 'x' :: digits) = utf8 ('0' :: 'x' :: digits')) : digits = digits' :=
  List.tail_eq_of_cons_eq (List.tail_eq_of_cons_eq (Utf8.encode_injective same))

theorem bytesField_hex (digits : List Char) :
    bytesField (renderedBytes (utf8 ('0' :: 'x' :: digits))) =
      hexPairs (digits.map Char.toNat) := by
  rw [renderedBytes, utf8_eq_encode, Utf8.decode_encode, bytesField, String.toList_ofList]
  rfl

theorem legible_iff (raw : Bytes) : bytesField (renderedBytes raw) ≠ none ↔ ¬ Unreadable raw := by
  by_cases looks : LooksHex raw
  · obtain ⟨digits, rfl⟩ := looks
    rw [bytesField_hex]
    refine not_congr ⟨fun unread => ⟨digits, rfl, unread⟩, ?_⟩
    rintro ⟨digits', same, unread⟩
    obtain rfl := hex_injective same
    exact unread
  · rw [(bytesField_renderedBytes_iff raw).mpr looks]
    refine iff_of_true (Option.some_ne_none _) ?_
    rintro ⟨digits, rfl, -⟩
    exact looks ⟨digits, rfl⟩

theorem reading_eq {raw bytes : Bytes} (field : bytesField (renderedBytes raw) = some bytes) :
    reading raw = urlIn Text.isPythonSpace bytes := by
  simp only [reading, absoluteHttpEndpoint, field, urlIn]
  cases Utf8.decode bytes <;> rfl

/-- A text of hex has no URL, whatever it is trimmed of. -/
theorem absoluteUrl_hex {space : Char → Bool} (plain : space '0' = false) (digits : List Char) :
    absoluteUrl (Text.trim space ('0' :: 'x' :: digits)) = none := by
  have kept : Text.trim space (['0'] ++ 'x' :: digits) = ['0'] ++ ('x' :: digits).rdropWhile space :=
    Text.trim_append_of_ends (List.cons_ne_nil _ _) (by simpa using plain) (by simpa using plain) _
  by_contra url
  obtain ⟨scheme, listed, tail, same⟩ := exists_scheme url
  have heads := congrArg List.head? (same.trans kept)
  rw [List.head?_append_of_ne_nil _ (ne_nil_of_scheme listed), head_of_scheme listed] at heads
  cases heads

theorem urlIn_eq_iff_separated (text : List Char) :
    urlIn Text.isPythonSpace (utf8 text) = urlIn Text.isWhiteSpace (utf8 text) ↔
      ¬ Separated (utf8 text) := by
  have solid : ("https://".toList.all fun c => Text.isPythonSpace c = false) = true := by decide
  have plain c (inside : c ∈ "https://".toList) : Text.isPythonSpace c = false :=
    of_decide_eq_true (List.all_eq_true.mp solid c inside)
  have wider : ∀ c, Text.isWhiteSpace c = true → Text.isPythonSpace c = true := fun c white => by
    rw [Text.isPythonSpace, white, Bool.true_or]
  have again := Text.trim_trim wider text
  have injective : Function.Injective utf8 := fun _ _ => Utf8.encode_injective
  rw [urlIn_utf8, urlIn_utf8, (Option.map_injective injective).eq_iff]
  constructor
  · rintro same ⟨text', text_eq, url, margin⟩
    obtain rfl := Utf8.encode_injective text_eq
    rw [← again] at url margin same
    exact absoluteUrl_margin plain url margin same.symm
  · intro whole
    by_cases same : Text.trim Text.isPythonSpace text = Text.trim Text.isWhiteSpace text
    · rw [same]
    · have narrow : absoluteUrl (Text.trim Text.isPythonSpace text) = none := by
        by_contra url
        exact whole ⟨text, rfl, url, same⟩
      rw [narrow]
      by_contra url
      have url := absoluteUrl_trim plain (Ne.symm url)
      rw [again] at url
      exact url narrow

/-- Python reads a row as Rust does just when it is neither hex of a URL nor next to a separator. -/
theorem reading_eq_iff (raw : Bytes) :
    reading raw = urlIn Text.isWhiteSpace raw ↔ ¬ Unhexed raw ∧ ¬ Separated raw := by
  by_cases looks : LooksHex raw
  · obtain ⟨digits, rfl⟩ := looks
    have whole : ¬ Separated (utf8 ('0' :: 'x' :: digits)) := by
      rintro ⟨text, same, url, -⟩
      obtain rfl := Utf8.encode_injective same
      exact url (absoluteUrl_hex (by decide) digits)
    rw [urlIn_utf8, absoluteUrl_hex (by decide), Option.map_none, and_iff_left whole]
    cases read : hexPairs (digits.map Char.toNat) with
    | none =>
      have field := (bytesField_hex digits).trans read
      refine iff_of_true (by simp only [reading, absoluteHttpEndpoint, field]; rfl) ?_
      rintro ⟨digits', bytes, same, read', -⟩
      obtain rfl := hex_injective same
      rw [read] at read'
      cases read'
    | some bytes =>
      rw [reading_eq ((bytesField_hex digits).trans read)]
      constructor
      · rintro none_ ⟨digits', bytes', same, read', url⟩
        obtain rfl := hex_injective same
        obtain rfl := Option.some.inj (read.symm.trans read')
        exact url none_
      · intro plain
        by_contra url
        exact plain ⟨digits, bytes, rfl, read, url⟩
  · have field := (bytesField_renderedBytes_iff raw).mpr looks
    have plain : ¬ Unhexed raw := by
      rintro ⟨digits, bytes, rfl, -⟩
      exact looks ⟨digits, rfl⟩
    rw [reading_eq field, and_iff_right plain]
    by_cases text : ∃ text, raw = utf8 text
    · obtain ⟨text, rfl⟩ := text
      exact urlIn_eq_iff_separated text
    · have noText : ∀ text, raw ≠ utf8 text := fun t same => text ⟨t, same⟩
      rw [urlIn_of_noText _ noText, urlIn_of_noText _ noText]
      refine iff_of_true rfl ?_
      rintro ⟨text, same, -⟩
      exact noText text same

theorem endpoint_eq_iff (a : ChainAnswers) (id : AccountId) :
    (view a).endpoint id = a.urlOf id ↔
      ∀ row ∈ a.registry.reverse.find? (·.1 = id), reading row.2 = a.urlOf id := by
  simp only [view]
  cases last : a.registry.reverse.find? (·.1 = id) with
  | none =>
    rw [ChainAnswers.urlOf_of_noRow last]
    exact iff_of_true rfl fun row found => by cases found
  | some row => simp only [Option.mem_some_iff, forall_eq', Option.bind_some]

/-- The commitment is read as its bytes just when there are some that do not look like hex. -/
theorem commitment_eq_some_iff {a : ChainAnswers} {id : AccountId} {b : Bytes}
    (stored : a.shareCommitment id = some b) :
    (view a).commitment id = some b ↔ b ≠ [] ∧ ¬ LooksHex b := by
  simp only [view, stored, Option.bind_some]
  by_cases empty : b = []
  · simp [empty]
  · rw [if_neg empty, bytesField_renderedBytes_iff, and_iff_right empty]

end Python

end MatterSdk
