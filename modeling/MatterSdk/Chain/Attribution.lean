import MatterSdk.Chain.Receipts
import MatterSdk.Lib.Compact
import MatterSdk.Lib.Text

/-!
# Attribution of events

What `parseOutcome` of the Go client makes of a well formed vector of events: which records it reports
for an extrinsic, what it says of the extrinsic's fate, and that a damaged vector is refused.
-/

namespace MatterSdk.Go

/-! ## Well formed vectors -/

/-- One record of a `System.Events` vector, with the bytes of its parts; `dispatchError` is the error
that a `ProxyExecuted` or an `ExtrinsicFailed` carries. -/
structure Record (δ φ : Type) where
  phase : Option ℕ
  id : EventID
  pallet : String
  event : String
  fields : φ
  dispatchError : Option δ
  phaseBytes : Bytes
  idBytes : Bytes
  fieldBytes : Bytes
  topicBytes : Bytes

section

variable {δ φ : Type}

def Record.wire (r : Record δ φ) : Bytes :=
  r.phaseBytes ++ (r.idBytes ++ (r.fieldBytes ++ r.topicBytes))

def Record.IsProxyExecuted (r : Record δ φ) : Prop := r.pallet = "Proxy" ∧ r.event = "ProxyExecuted"

def Record.IsExtrinsicFailed (r : Record δ φ) : Prop :=
  r.pallet = "System" ∧ r.event = "ExtrinsicFailed"

/-- The registry has decoders for the record that consume exactly its fields, together and one by
one, and knows it by its name. -/
structure Record.Registered (codec : Decoder δ φ) (r : Record δ φ) (decoder : EventDecoder φ)
    (words : List Bytes) : Prop where
  found : codec.registry r.id = some decoder
  name : decoder.name = r.pallet ++ "." ++ r.event
  undotted : '.' ∉ r.pallet.toList
  decode : Reader.Decodes decoder.decode r.fieldBytes r.fields
  split : r.fieldBytes = words.flatten
  each : List.Forall₂ (fun field word => Reader.Decodes (Reader.ofSkip field) word ())
    decoder.fields words

/-- The record's bytes are those of its parts. -/
structure Record.WellFormed (codec : Decoder δ φ) (r : Record δ φ) : Prop where
  phase : Reader.Decodes codec.phase r.phaseBytes r.phase
  id : Reader.Decodes codec.id r.idBytes r.id
  topics : Reader.Decodes (Reader.ofSkip codec.topics) r.topicBytes ()
  proxyExecutedID : codec.proxyExecutedID = some r.id ↔ r.IsProxyExecuted
  extrinsicFailedID : codec.extrinsicFailedID = some r.id ↔ r.IsExtrinsicFailed
  registered : ∃ decoder words, r.Registered codec decoder words ∧
    -- The first field of an `ExtrinsicFailed` is its error.
    (r.IsExtrinsicFailed → ∃ first others e, words = first :: others ∧ r.dispatchError = some e ∧
      Reader.Decodes codec.dispatchError first e)
  result : r.IsProxyExecuted → r.fieldBytes = [0] ∧ r.dispatchError = none ∨
    ∃ word e, r.fieldBytes = 1 :: word ∧ r.dispatchError = some e ∧
      Reader.Decodes codec.dispatchError word e

/-- A well formed `System.Events` vector. -/
structure EventVector (codec : Decoder δ φ) where
  countBytes : Bytes
  records : List (Record δ φ)
  counted : Reader.Decodes codec.count countBytes records.length
  /-- The length of a SCALE vector is a `u32`. -/
  bounded : records.length < 2 ^ 32
  wellFormed : ∀ r ∈ records, r.WellFormed codec

variable {codec : Decoder δ φ}

def EventVector.raw (v : EventVector codec) : Bytes :=
  v.countBytes ++ v.records.flatMap Record.wire

/-- The records of the extrinsic at `index`. -/
def EventVector.own (v : EventVector codec) (index : ℕ) : List (Record δ φ) :=
  v.records.filter fun r => r.phase = some index

/-- The outcome says of the extrinsic what its records say. -/
structure EventVector.Reported (v : EventVector codec) (index : ℕ) (outcome : ExtrinsicOutcome δ φ) :
    Prop where
  events : outcome.events.map (fun e => (e.pallet, e.name, e.extrinsicIndex)) =
    (v.own index).map fun r => (r.pallet, r.event, some index)
  failed : outcome.failed ≠ none ↔ ∃ r ∈ v.own index, r.IsExtrinsicFailed
  sawProxy : outcome.sawProxy = true ↔ ∃ r ∈ v.own index, r.IsProxyExecuted
  proxied : outcome.proxied ≠ none ↔
    ∃ r ∈ v.own index, r.IsProxyExecuted ∧ r.dispatchError ≠ none

/-- The vector is read as what its records say of the extrinsic, those of others have no influence,
and the vector is refused when it is cut short or holds an unknown result of its own. -/
structure EventVector.Attributed (v : EventVector codec) (index : ℕ) : Prop where
  reported : ∃ outcome, parseOutcome codec v.raw index = .ok outcome ∧ v.Reported index outcome
  others : ∀ v' : EventVector codec, v'.own index = v.own index →
    parseOutcome codec v'.raw index = parseOutcome codec v.raw index
  cut : ∀ cut rest, v.raw = cut ++ rest → rest ≠ [] →
    ∃ e, parseOutcome codec cut index = .error e
  unknown : ∀ before r after, v.records = before ++ r :: after → r.phase = some index →
    r.IsProxyExecuted → ∀ (tag : UInt8) (tail : Bytes), 1 < tag.toNat →
      ∃ e, parseOutcome codec (v.countBytes ++ (before.flatMap Record.wire ++
        (r.phaseBytes ++ (r.idBytes ++ tag :: tail)))) index = .error e

/-! ## One record -/

instance (r : Record δ φ) : Decidable r.IsProxyExecuted := inferInstanceAs (Decidable (_ ∧ _))

instance (r : Record δ φ) : Decidable r.IsExtrinsicFailed := inferInstanceAs (Decidable (_ ∧ _))

theorem Record.IsProxyExecuted.not_failed {r : Record δ φ} (h : r.IsProxyExecuted) :
    ¬ r.IsExtrinsicFailed := by
  intro failed
  exact absurd (h.1.symm.trans failed.1) (by decide)

/-- The event that is returned for a record. -/
def Record.toEvent (r : Record δ φ) : Event φ :=
  if r.IsProxyExecuted ∨ r.IsExtrinsicFailed then ⟨r.pallet, r.event, none, none⟩
  else ⟨r.pallet, r.event, some r.fields, r.phase⟩

/-- What a record of the extrinsic adds to the outcome. -/
def ExtrinsicOutcome.absorb (o : ExtrinsicOutcome δ φ) (r : Record δ φ) : ExtrinsicOutcome δ φ where
  failed := if r.IsExtrinsicFailed then r.dispatchError else o.failed
  proxied := if r.IsProxyExecuted then r.dispatchError.or o.proxied else o.proxied
  sawProxy := o.sawProxy || r.IsProxyExecuted
  events := o.events ++ [r.toEvent]

/-- What any record adds. -/
def ExtrinsicOutcome.next (index : ℕ) (o : ExtrinsicOutcome δ φ) (r : Record δ φ) :
    ExtrinsicOutcome δ φ := if r.phase = some index then o.absorb r else o

theorem splitEventName_dotted {pallet event : String} (undotted : '.' ∉ pallet.toList) (fields : φ)
    (phase : Option ℕ) :
    splitEventName (pallet ++ "." ++ event) fields phase = ⟨pallet, event, some fields, phase⟩ := by
  have whole : (pallet ++ "." ++ event).toList = pallet.toList ++ '.' :: event.toList := by
    simp [String.toList_append]
  unfold splitEventName
  rw [whole, Text.dropWhile_ne_append undotted (by simp),
    Text.takeWhile_ne_append undotted (by simp)]
  simp

/-- The result as a reader of its tag and of what the tag announces. -/
theorem decodeDispatchResult_eq : decodeDispatchResult codec =
    (Reader.item "reading the DispatchResult tag: EOF").bind fun tag =>
      if tag = 0 then Reader.pure none
      else if tag = 1 then
        (Reader.mapError ("decoding the wrapped call's error: " ++ ·) codec.dispatchError).bind
          fun e => Reader.pure (some e)
      else Reader.fail ("unknown DispatchResult discriminant " ++ toString tag.toNat) := by
  funext bytes
  cases bytes with
  | nil => rfl
  | cons tag rest =>
    unfold decodeDispatchResult Reader.bind Reader.item
    dsimp only
    split
    · rfl
    · split
      · unfold Reader.mapError
        dsimp only
        cases codec.dispatchError rest <;> rfl
      · rfl

theorem decodes_decodeDispatchResult {r : Record δ φ}
    (result : r.fieldBytes = [0] ∧ r.dispatchError = none ∨
      ∃ word e, r.fieldBytes = 1 :: word ∧ r.dispatchError = some e ∧
        Reader.Decodes codec.dispatchError word e) :
    Reader.Decodes (decodeDispatchResult codec) r.fieldBytes r.dispatchError := by
  rw [decodeDispatchResult_eq]
  rcases result with ⟨fields, error⟩ | ⟨word, e, fields, error, decodes⟩
  · rw [fields, error]
    exact (Reader.decodes_item _ 0).bind_last (Reader.decodes_pure none)
  · rw [fields, error]
    exact (Reader.decodes_item _ 1).bind ((decodes.mapError _).bind_last (Reader.decodes_pure _))

theorem forall₂_zipIdx {ι κ : Type} {R : ι → κ → Prop} {items : List ι} {words : List κ}
    (each : List.Forall₂ R items words) :
    ∀ k, List.Forall₂ (fun item word => R item.1 word) (items.zipIdx k) words := by
  induction each with
  | nil => exact fun _ => .nil
  | cons head _ ih => exact fun k => .cons head (ih (k + 1))

/-- The fields after the error are skipped by their own decoders. -/
theorem decodes_skipRemainingFields {r : Record δ φ} {decoder : EventDecoder φ} {first : Bytes}
    {others : List Bytes} (registered : r.Registered codec decoder (first :: others)) :
    Reader.Decodes (Reader.ofSkip (skipRemainingFields codec r.id 1)) others.flatten () := by
  have each := registered.each
  cases fields : decoder.fields with
  | nil =>
    rw [fields] at each
    cases each
  | cons field remaining =>
    rw [fields] at each
    cases each with
    | cons head tail =>
      have skip : skipRemainingFields codec r.id 1 = fun bytes =>
          (remaining.zipIdx 1).foldlM (fun bytes item => (item.1 bytes).mapError fun e =>
            "skipping field " ++ toString item.2 ++ ": " ++ e) bytes := by
        funext bytes
        unfold skipRemainingFields
        rw [registered.found]
        dsimp only
        rw [fields]
        rfl
      rw [skip]
      refine Reader.decodes_skips ((forall₂_zipIdx tail 1).imp fun item word decodes => ?_)
      have renamed := decodes.mapError fun e =>
        "skipping field " ++ toString item.2 ++ ": " ++ e
      rwa [Reader.mapError_ofSkip] at renamed

/-- The fields of a record as a reader of one of three kinds. -/
theorem parseFields_eq {r : Record δ φ} (wellFormed : r.WellFormed codec) {decoder : EventDecoder φ}
    (found : codec.registry r.id = some decoder) (index i : ℕ) (o : ExtrinsicOutcome δ φ) :
    parseFields codec index i r.phase r.id o =
      if r.phase = some index ∧ r.IsProxyExecuted then
        (Reader.mapError (fun e => .wrapped ("event #" ++ toString i ++ ": " ++ e) (.plain e))
          (decodeDispatchResult codec)).bind fun dispatchErr => Reader.pure
            { o with
              sawProxy := true
              proxied := dispatchErr.or o.proxied
              events := o.events ++ [⟨"Proxy", "ProxyExecuted", none, none⟩] }
      else if r.phase = some index ∧ r.IsExtrinsicFailed then
        (Reader.mapError (eventError i "decoding ExtrinsicFailed") codec.dispatchError).bind
          fun dispatchErr => (Reader.mapError
            (fun e => .wrapped ("event #" ++ toString i ++ ": " ++ e) (.plain e))
            (Reader.ofSkip (skipRemainingFields codec r.id 1))).bind fun _ => Reader.pure
              { o with
                failed := some dispatchErr
                events := o.events ++ [⟨"System", "ExtrinsicFailed", none, none⟩] }
      else (Reader.mapError (eventError i "decoding fields") decoder.decode).bind fun fields =>
        Reader.pure (if r.phase = some index then
          { o with events := o.events ++ [splitEventName decoder.name fields r.phase] } else o) := by
  funext bytes
  unfold parseFields
  rw [found]
  simp only [wellFormed.proxyExecutedID, wellFormed.extrinsicFailedID]
  split
  · unfold Reader.bind Reader.mapError
    dsimp only
    cases decodeDispatchResult codec bytes <;> rfl
  split
  · unfold Reader.bind Reader.mapError Reader.ofSkip
    dsimp only
    cases codec.dispatchError bytes with
    | error e => rfl
    | ok read =>
      dsimp only [Except.mapError]
      cases skipRemainingFields codec r.id 1 read.2 <;> rfl
  · unfold Reader.bind Reader.mapError
    dsimp only
    cases decoder.decode bytes with
    | error e => rfl
    | ok read =>
      dsimp only [Except.mapError]
      split <;> rfl

theorem decodes_parseFields {r : Record δ φ} (wellFormed : r.WellFormed codec) (index i : ℕ)
    (o : ExtrinsicOutcome δ φ) :
    Reader.Decodes (parseFields codec index i r.phase r.id o) r.fieldBytes (o.next index r) := by
  obtain ⟨decoder, words, registered, first⟩ := wellFormed.registered
  rw [parseFields_eq wellFormed registered.found]
  unfold ExtrinsicOutcome.next
  by_cases proxy : r.phase = some index ∧ r.IsProxyExecuted
  · have outcome : o.absorb r =
        { o with
          sawProxy := true
          proxied := r.dispatchError.or o.proxied
          events := o.events ++ [⟨"Proxy", "ProxyExecuted", none, none⟩] } := by
      simp [ExtrinsicOutcome.absorb, Record.toEvent, proxy.2, proxy.2.not_failed, proxy.2.1,
        proxy.2.2]
    rw [if_pos proxy, if_pos proxy.1, outcome]
    have result := decodes_decodeDispatchResult (wellFormed.result proxy.2)
    exact (result.mapError _).bind_last (Reader.decodes_pure _)
  by_cases failed : r.phase = some index ∧ r.IsExtrinsicFailed
  · have no_proxy : ¬ r.IsProxyExecuted := fun h => h.not_failed failed.2
    obtain ⟨word, others, e, rfl, error, decodes⟩ := first failed.2
    have outcome : o.absorb r =
        { o with
          failed := some e
          events := o.events ++ [⟨"System", "ExtrinsicFailed", none, none⟩] } := by
      simp [ExtrinsicOutcome.absorb, Record.toEvent, failed.2, no_proxy, failed.2.1, failed.2.2,
        error]
    rw [if_neg proxy, if_pos failed, if_pos failed.1, outcome, registered.split]
    have skipped := decodes_skipRemainingFields registered
    exact (decodes.mapError _).bind ((skipped.mapError _).bind_last (Reader.decodes_pure _))
  · rw [if_neg proxy, if_neg failed]
    refine (registered.decode.mapError _).bind_last ?_
    by_cases mine : r.phase = some index
    · have no_proxy : ¬ r.IsProxyExecuted := fun h => proxy ⟨mine, h⟩
      have no_failed : ¬ r.IsExtrinsicFailed := fun h => failed ⟨mine, h⟩
      have outcome : o.absorb r =
          { o with events := o.events ++ [splitEventName decoder.name r.fields r.phase] } := by
        rw [registered.name, splitEventName_dotted registered.undotted]
        simp [ExtrinsicOutcome.absorb, Record.toEvent, no_proxy, no_failed]
      rw [if_pos mine, if_pos mine, outcome]
      exact Reader.decodes_pure _
    · rw [if_neg mine, if_neg mine]
      exact Reader.decodes_pure _

/-! ## A whole vector -/

/-- A record as a reader of its four parts. -/
theorem parseEvent_eq (index i : ℕ) (o : ExtrinsicOutcome δ φ) :
    (fun bytes => parseEvent codec index (o, bytes) i) =
      (Reader.mapError (eventError i "decoding the phase") codec.phase).bind fun phase =>
        (Reader.mapError (eventError i "decoding the id") codec.id).bind fun id =>
          Reader.bind (parseFields codec index i phase id o) fun o' =>
            (Reader.mapError (eventError i "decoding topics") (Reader.ofSkip codec.topics)).bind
              fun _ => Reader.pure o' := by
  funext bytes
  unfold parseEvent Reader.bind Reader.mapError Reader.ofSkip
  dsimp only
  cases codec.phase bytes with
  | error e => rfl
  | ok phase =>
    dsimp only [Except.mapError]
    cases codec.id phase.2 with
    | error e => rfl
    | ok id =>
      dsimp only
      cases parseFields codec index i phase.1 id.1 o id.2 with
      | error e => rfl
      | ok fields =>
        dsimp only
        cases codec.topics fields.2 <;> rfl

theorem decodes_parseEvent {r : Record δ φ} (wellFormed : r.WellFormed codec) (index i : ℕ)
    (o : ExtrinsicOutcome δ φ) :
    Reader.Decodes (fun bytes => parseEvent codec index (o, bytes) i) r.wire (o.next index r) := by
  rw [parseEvent_eq]
  refine (wellFormed.phase.mapError _).bind ((wellFormed.id.mapError _).bind ?_)
  refine (decodes_parseFields wellFormed index i o).bind ?_
  exact (wellFormed.topics.mapError _).bind_last (Reader.decodes_pure _)

/-- The loop over the records as a reader. -/
def readRecords (codec : Decoder δ φ) (index n : ℕ) :
    Reader Error UInt8 (ExtrinsicOutcome δ φ) := fun bytes =>
  (List.range n).foldlM (parseEvent codec index) (ExtrinsicOutcome.empty, bytes)

theorem decodes_readRecords (index : ℕ) (records : List (Record δ φ))
    (wellFormed : ∀ r ∈ records, r.WellFormed codec) :
    Reader.Decodes (readRecords codec index records.length) (records.flatMap Record.wire)
      (records.foldl (ExtrinsicOutcome.next index) ExtrinsicOutcome.empty) := by
  have loop := Reader.decodes_foldlM (parseEvent codec index) Prod.snd (fun x => x.1.wire)
    (fun o x => o.next index x.1) records.zipIdx ExtrinsicOutcome.empty fun x mem a =>
      decodes_parseEvent (wellFormed x.1 (List.fst_mem_of_mem_zipIdx mem)) index x.2 a
  have words : records.zipIdx.flatMap (fun x => x.1.wire) = records.flatMap Record.wire := by
    conv_rhs => rw [← List.zipIdx_map_fst 0 records, List.flatMap_map]
  have outcome : records.zipIdx.foldl (fun o x => o.next index x.1) ExtrinsicOutcome.empty =
      records.foldl (ExtrinsicOutcome.next index) ExtrinsicOutcome.empty := by
    conv_rhs => rw [← List.zipIdx_map_fst 0 records, List.foldl_map]
  rw [words, outcome, List.zipIdx_map_snd, ← List.range_eq_range'] at loop
  exact loop

/-- `parseOutcome` reads the count and the records, and drops what is left. -/
theorem parseOutcome_eq (codec : Decoder δ φ) (raw : Bytes) (index : ℕ) :
    parseOutcome codec raw index =
      (Reader.bind (Reader.mapError
          (fun e => Error.wrapped ("decoding the event count: " ++ e) (.plain e)) codec.count)
        (fun n => readRecords codec index (n % 2 ^ 64)) raw).map Prod.fst := by
  unfold parseOutcome Reader.bind Reader.mapError
  dsimp only
  cases codec.count raw <;> rfl

/-- What the records of the extrinsic come to. -/
def EventVector.outcome (v : EventVector codec) (index : ℕ) : ExtrinsicOutcome δ φ :=
  (v.own index).foldl ExtrinsicOutcome.absorb ExtrinsicOutcome.empty

theorem foldl_next (index : ℕ) (records : List (Record δ φ)) (o : ExtrinsicOutcome δ φ) :
    records.foldl (ExtrinsicOutcome.next index) o =
      (records.filter fun r => r.phase = some index).foldl ExtrinsicOutcome.absorb o := by
  rw [List.foldl_filter]
  simp only [decide_eq_true_iff]
  rfl

theorem EventVector.decodes (v : EventVector codec) (index : ℕ) :
    Reader.Decodes (Reader.bind (Reader.mapError
        (fun e => Error.wrapped ("decoding the event count: " ++ e) (.plain e)) codec.count)
      fun n => readRecords codec index (n % 2 ^ 64)) v.raw (v.outcome index) := by
  have small : v.records.length % 2 ^ 64 = v.records.length :=
    Nat.mod_eq_of_lt (lt_trans v.bounded (by decide))
  refine (v.counted.mapError _).bind ?_
  have read := decodes_readRecords index v.records v.wellFormed
  rw [foldl_next] at read
  rw [small]
  exact read

theorem EventVector.parseOutcome_raw (v : EventVector codec) (index : ℕ) :
    parseOutcome codec v.raw index = .ok (v.outcome index) := by
  have whole := (v.decodes index).takes []
  rw [List.append_nil] at whole
  rw [parseOutcome_eq, whole]
  rfl

theorem EventVector.parseOutcome_cut (v : EventVector codec) (index : ℕ) {cut rest : Bytes}
    (whole : v.raw = cut ++ rest) (more : rest ≠ []) :
    ∃ e, parseOutcome codec cut index = .error e := by
  obtain ⟨e, failed⟩ := (v.decodes index).refuses cut rest whole more
  rw [parseOutcome_eq, failed]
  exact ⟨e, rfl⟩

theorem parseEvent_unknown {r : Record δ φ} (wellFormed : r.WellFormed codec) {index : ℕ}
    (mine : r.phase = some index) (proxy : r.IsProxyExecuted) (o : ExtrinsicOutcome δ φ) (i : ℕ)
    {tag : UInt8} (tail : Bytes) (unknown : 1 < tag.toNat) :
    ∃ e, parseEvent codec index (o, r.phaseBytes ++ (r.idBytes ++ tag :: tail)) i = .error e := by
  have refused : decodeDispatchResult codec (tag :: tail) =
      .error ("unknown DispatchResult discriminant " ++ toString tag.toNat) := by
    have not_ok : tag ≠ 0 := by rintro rfl; exact absurd unknown (by decide)
    have not_err : tag ≠ 1 := by rintro rfl; exact absurd unknown (by decide)
    unfold decodeDispatchResult
    dsimp only
    rw [if_neg not_ok, if_neg not_err]
  unfold parseEvent
  dsimp only
  rw [wellFormed.phase.takes]
  dsimp only
  rw [wellFormed.id.takes]
  dsimp only
  unfold parseFields
  dsimp only
  rw [if_pos ⟨mine, wellFormed.proxyExecutedID.mpr proxy⟩, refused]
  exact ⟨_, rfl⟩

/-- A result of the extrinsic's own with an unknown tag ends the reading. -/
theorem EventVector.parseOutcome_unknown (v : EventVector codec) {index : ℕ}
    {before after : List (Record δ φ)} {r : Record δ φ} (split : v.records = before ++ r :: after)
    (mine : r.phase = some index) (proxy : r.IsProxyExecuted) {tag : UInt8} (tail : Bytes)
    (unknown : 1 < tag.toNat) :
    ∃ e, parseOutcome codec (v.countBytes ++ (before.flatMap Record.wire ++
      (r.phaseBytes ++ (r.idBytes ++ tag :: tail)))) index = .error e := by
  have wellFormed := v.wellFormed r (by rw [split]; simp)
  have earlier := (decodes_readRecords index before fun r' mem =>
    v.wellFormed r' (by rw [split]; exact List.mem_append_left _ mem)).takes
      (r.phaseBytes ++ (r.idBytes ++ tag :: tail))
  have small : v.records.length % 2 ^ 64 = v.records.length :=
    Nat.mod_eq_of_lt (lt_trans v.bounded (by decide))
  have count : List.range v.records.length = List.range before.length ++
      before.length :: List.range' (before.length + 1) after.length := by
    rw [split, List.length_append, List.length_cons, List.range_eq_range', List.range_eq_range',
      ← List.range'_succ, ← List.range'_append_1, Nat.zero_add]
  obtain ⟨e, failed⟩ := parseEvent_unknown wellFormed mine proxy
    (before.foldl (ExtrinsicOutcome.next index) ExtrinsicOutcome.empty) before.length tail unknown
  refine ⟨e, ?_⟩
  rw [parseOutcome_eq, Reader.bind, (v.counted.mapError _).takes]
  dsimp only
  unfold readRecords at earlier ⊢
  rw [small, count, List.foldlM_append, earlier]
  show Except.map Prod.fst (List.foldlM _ _ (before.length :: _)) = _
  rw [List.foldlM_cons, failed]
  rfl

/-! ## What is reported -/

theorem foldl_absorb_events : ∀ (own : List (Record δ φ)) (o : ExtrinsicOutcome δ φ),
    (own.foldl ExtrinsicOutcome.absorb o).events = o.events ++ own.map Record.toEvent
  | [], o => (List.append_nil _).symm
  | r :: own, o => by
    rw [List.foldl_cons, foldl_absorb_events own]
    simp [ExtrinsicOutcome.absorb]

theorem foldl_absorb_sawProxy : ∀ (own : List (Record δ φ)) (o : ExtrinsicOutcome δ φ),
    (own.foldl ExtrinsicOutcome.absorb o).sawProxy = true ↔
      o.sawProxy = true ∨ ∃ r ∈ own, r.IsProxyExecuted
  | [], o => by simp
  | r :: own, o => by
    rw [List.foldl_cons, foldl_absorb_sawProxy own]
    simp [ExtrinsicOutcome.absorb, or_assoc]

/-- A failure is kept, since each `ExtrinsicFailed` carries an error. -/
theorem foldl_absorb_failed : ∀ (own : List (Record δ φ)) (o : ExtrinsicOutcome δ φ),
    (∀ r ∈ own, r.IsExtrinsicFailed → r.dispatchError ≠ none) →
      ((own.foldl ExtrinsicOutcome.absorb o).failed ≠ none ↔
        o.failed ≠ none ∨ ∃ r ∈ own, r.IsExtrinsicFailed)
  | [], o, _ => by simp
  | r :: own, o, carried => by
    rw [List.foldl_cons, foldl_absorb_failed own _ fun r' mem =>
      carried r' (List.mem_cons_of_mem r mem)]
    by_cases failed : r.IsExtrinsicFailed
    · have error := carried r (List.mem_cons_self ..) failed
      simp [ExtrinsicOutcome.absorb, failed, error]
    · simp [ExtrinsicOutcome.absorb, failed]

/-- An error is never erased by a later success. -/
theorem foldl_absorb_proxied : ∀ (own : List (Record δ φ)) (o : ExtrinsicOutcome δ φ),
    (own.foldl ExtrinsicOutcome.absorb o).proxied ≠ none ↔
      o.proxied ≠ none ∨ ∃ r ∈ own, r.IsProxyExecuted ∧ r.dispatchError ≠ none
  | [], o => by simp
  | r :: own, o => by
    rw [List.foldl_cons, foldl_absorb_proxied own]
    by_cases proxy : r.IsProxyExecuted
    · cases error : r.dispatchError with
      | none => simp [ExtrinsicOutcome.absorb, proxy, error]
      | some e => simp [ExtrinsicOutcome.absorb, proxy, error]
    · simp [ExtrinsicOutcome.absorb, proxy]

theorem Record.WellFormed.carries {r : Record δ φ} (wellFormed : r.WellFormed codec)
    (failed : r.IsExtrinsicFailed) : r.dispatchError ≠ none := by
  obtain ⟨decoder, words, -, first⟩ := wellFormed.registered
  obtain ⟨word, others, e, -, error, -⟩ := first failed
  rw [error]
  exact Option.some_ne_none e

theorem EventVector.own_wellFormed (v : EventVector codec) {index : ℕ} {r : Record δ φ}
    (mem : r ∈ v.own index) : r.WellFormed codec ∧ r.phase = some index := by
  obtain ⟨mem, mine⟩ := List.mem_filter.mp mem
  exact ⟨v.wellFormed r mem, of_decide_eq_true mine⟩

/-- Of a record of the extrinsic, the event has the name always and the index if it was not decoded by
hand. -/
theorem Record.toEvent_indexed_iff {r : Record δ φ} {index : ℕ} (mine : r.phase = some index) :
    (r.toEvent.pallet, r.toEvent.name, r.toEvent.extrinsicIndex) = (r.pallet, r.event, some index) ↔
      ¬ r.IsProxyExecuted ∧ ¬ r.IsExtrinsicFailed := by
  unfold Record.toEvent
  rw [← not_or]
  by_cases hand : r.IsProxyExecuted ∨ r.IsExtrinsicFailed
  · simp [hand]
  · simp [hand, mine]

/-- The outcome says everything of the extrinsic's records, except for the index of those that are
decoded by hand. -/
theorem EventVector.reported_iff (v : EventVector codec) (index : ℕ) :
    v.Reported index (v.outcome index) ↔
      ∀ r ∈ v.own index, ¬ r.IsProxyExecuted ∧ ¬ r.IsExtrinsicFailed := by
  have listed : (v.outcome index).events.map (fun e => (e.pallet, e.name, e.extrinsicIndex)) =
      ((v.own index).map Record.toEvent).map fun e => (e.pallet, e.name, e.extrinsicIndex) := by
    rw [EventVector.outcome, foldl_absorb_events]
    rfl
  have each : (v.outcome index).events.map (fun e => (e.pallet, e.name, e.extrinsicIndex)) =
      (v.own index).map (fun r => (r.pallet, r.event, some index)) ↔
        ∀ r ∈ v.own index, ¬ r.IsProxyExecuted ∧ ¬ r.IsExtrinsicFailed := by
    rw [listed, List.map_map, List.map_inj_left]
    exact forall₂_congr fun r mem => Record.toEvent_indexed_iff (v.own_wellFormed mem).2
  refine ⟨fun reported => each.mp reported.events, fun decoded => ⟨each.mpr decoded, ?_, ?_, ?_⟩⟩
  · refine (foldl_absorb_failed _ _ fun r mem => (v.own_wellFormed mem).1.carries).trans ?_
    simp [ExtrinsicOutcome.empty]
  · refine (foldl_absorb_sawProxy _ _).trans ?_
    simp [ExtrinsicOutcome.empty]
  · refine (foldl_absorb_proxied _ _).trans ?_
    simp [ExtrinsicOutcome.empty]

/-- The records of the extrinsic are attributed to it exactly if none of them is decoded by hand. -/
theorem parseOutcome_attributed_iff (codec : Decoder δ φ) (v : EventVector codec) (index : ℕ) :
    v.Attributed index ↔ ∀ r ∈ v.own index, ¬ r.IsProxyExecuted ∧ ¬ r.IsExtrinsicFailed := by
  rw [← v.reported_iff index]
  constructor
  · intro attributed
    obtain ⟨outcome, parsed, reported⟩ := attributed.reported
    obtain rfl := Except.ok.inj ((v.parseOutcome_raw index).symm.trans parsed)
    exact reported
  · intro reported
    refine ⟨⟨_, v.parseOutcome_raw index, reported⟩, fun v' same => ?_, fun cut rest => ?_, ?_⟩
    · rw [v'.parseOutcome_raw, v.parseOutcome_raw, EventVector.outcome, same]
      rfl
    · exact v.parseOutcome_cut index
    · exact fun before r after split mine proxy tag tail =>
        v.parseOutcome_unknown split mine proxy tail

end

/-! ## A wrapped call -/

/-- The codec of a runtime whose only event is `Proxy.ProxyExecuted`, of successful calls. -/
def proxyCodec : Decoder Unit Unit where
  count := Compact.decode
  phase := (Reader.item "EOF").bind fun tag =>
    if tag = 0 then (Reader.take "EOF" 4).bind fun word => Reader.pure (some (Compact.ofLeBytes word))
    else Reader.pure none
  id := (Reader.item "EOF").bind fun pallet => (Reader.item "EOF").bind fun event =>
    Reader.pure (pallet, event)
  dispatchError := Reader.fail "EOF"
  topics bytes := (Compact.decode bytes).map Prod.snd
  registry id :=
    if id = (34, 0) then
      some
        { name := "Proxy.ProxyExecuted"
          decode := (Reader.item "EOF").bind fun _ => Reader.pure ()
          fields := [fun bytes => (Reader.item "EOF" bytes).map Prod.snd] }
    else none
  proxyExecutedID := some (34, 0)
  extrinsicFailedID := none

/-- The wrapped call of extrinsic 0 succeeded. -/
def proxyRecord : Record Unit Unit where
  phase := some 0
  id := (34, 0)
  pallet := "Proxy"
  event := "ProxyExecuted"
  fields := ()
  dispatchError := none
  phaseBytes := [0, 0, 0, 0, 0]
  idBytes := [34, 0]
  fieldBytes := [0]
  topicBytes := [0]

theorem proxyRecord_wellFormed : proxyRecord.WellFormed proxyCodec where
  phase := (Reader.decodes_item "EOF" 0).bind
    ((Reader.decodes_take "EOF" (n := 4) rfl).bind_last (Reader.decodes_pure _))
  id := (Reader.decodes_item "EOF" 34).bind
    ((Reader.decodes_item "EOF" 0).bind_last (Reader.decodes_pure _))
  topics := Reader.decodes_single (fun _ => rfl) ⟨"EOF", rfl⟩
  proxyExecutedID := by decide
  extrinsicFailedID := by decide
  registered := by
    refine ⟨_, [[0]], ⟨rfl, rfl, by decide, ?_, rfl, ?_⟩, fun failed => absurd failed (by decide)⟩
    · exact (Reader.decodes_item "EOF" 0).bind_last (Reader.decodes_pure _)
    · exact .cons (Reader.decodes_single (fun _ => rfl) ⟨"EOF", rfl⟩) .nil
  result _ := .inl ⟨rfl, rfl⟩

theorem proxyCodec_counted : Reader.Decodes proxyCodec.count [4] [proxyRecord].length :=
  Reader.decodes_single (fun _ => rfl) ⟨"EOF", rfl⟩

/-- The events of a block whose one extrinsic is a wrapped call. -/
def proxyVector : EventVector proxyCodec where
  countBytes := [4]
  records := [proxyRecord]
  counted := proxyCodec_counted
  bounded := by decide
  wellFormed r mem := List.mem_singleton.mp mem ▸ proxyRecord_wellFormed

/-- The event of the wrapped call comes back without the index of its extrinsic. -/
theorem proxyVector_unattributed : ¬ ∀ (codec : Decoder Unit Unit) (v : EventVector codec)
    (index : ℕ), v.Attributed index := by
  intro attributed
  obtain ⟨outcome, parsed, reported⟩ := (attributed proxyCodec proxyVector 0).reported
  obtain rfl := Except.ok.inj ((proxyVector.parseOutcome_raw 0).symm.trans parsed)
  have own : proxyRecord ∈ proxyVector.own 0 :=
    List.mem_filter.mpr ⟨List.mem_singleton_self _, decide_eq_true rfl⟩
  have decoded := (proxyVector.reported_iff 0).mp reported proxyRecord own
  exact decoded.1 ⟨rfl, rfl⟩

end MatterSdk.Go
