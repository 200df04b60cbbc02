import ResultCache.Persistent.Tier
import ResultCache.Proofs.Memory.Operation

/-!
Contract: the operations of a persistent tier as data, and what each does to it.

Owns:
- `PersistentTier.IsNew`, a tier as it is created, whatever block codecs it is given;
- `PersistentTier.Operation`, those of the companion included, and
  `PersistentTier.perform`;
- the two ways that a put goes, and what is behind a typed read that finds something;
- rows read back as they were written;
- the stored form of a payload: the content of the serializer in the storage class of the
  tier, with octets compressed and texts as they are;
- `PersistentTier.SameCodec`, which every operation keeps, and `PersistentTier.SameRow`,
  which a put keeps for every other key.

Does not own: what a row says of the puts before it.
-/

namespace ResultCache

theorem CacheError.exists_ok_of_bind {First Second : Type} {first : Except CacheError First}
    {next : First → Except CacheError Second} {result : Second}
    (done : (first >>= next) = .ok result) :
    ∃ value, first = .ok value ∧ next value = .ok result := by
  cases first with
  | error failure => cases done
  | ok value => exact ⟨value, rfl, done⟩

/-! ### Rows -/

/-- Content in the storage class of a tier: one that stores no text keeps the octets of it. -/
def StoredContent.inClass (textFormat : Bool) : StoredContent → StoredContent
  | text value => if textFormat then text value else binary (Text.toBytes value)
  | binary value => binary value

theorem StoredContent.bytes_inClass (textFormat : Bool) (content : StoredContent) :
    (content.inClass textFormat).bytes = content.bytes := by
  cases content with
  | binary octets => rfl
  | text text => cases textFormat <;> rfl

/-- Content that is read back from its own cell at all is the content. -/
theorem Cell.eq_of_content?_ofContent {content read : StoredContent} {expectText : Bool}
    (found : (Cell.ofContent content).content? expectText = some read) : read = content := by
  cases content with
  | text value =>
      cases expectText with
      | false => cases found
      | true =>
          have same : some (StoredContent.text value) = some read := by
            rw [← found]
            simp [Cell.ofContent, Cell.content?, Text.ofBytes?_toBytes]
          exact (Option.some.inj same).symm
  | binary octets =>
      cases expectText with
      | false => exact (Option.some.inj found).symm
      | true => cases found

theorem StoredRow.readQuery_ofContent (query : Option String) (content : StoredContent) :
    (StoredRow.ofContent query content).readQuery = .ok query := by
  cases query with
  | none => rfl
  | some text => simp [StoredRow.ofContent, StoredRow.readQuery, Text.ofBytes?_toBytes]

theorem Serializer.exists_text_of_serialize {format : Format} {payload : Payload}
    {content : StoredContent} (made : (ofFormat format).serialize payload true = .ok content) :
    ∃ text, content = .text text := by
  cases format with
  | json =>
      change writeJson payload true = .ok content at made
      obtain ⟨text, _, written⟩ := CacheError.exists_ok_of_bind made
      cases written
      exact ⟨text, rfl⟩
  | messagePack | bincode => cases made

namespace Database

theorem record_of_row {rows : KeyMap StoredRow} {key : Key} {query : Option String}
    {content : StoredContent} (row : rows.get? key = some (.ofContent query content))
    (expectText : Bool) :
    (table rows).record expectText key =
      match (Cell.ofContent content).content? expectText with
      | some read => .ok (some ⟨key, query, read⟩)
      | none => .error .database := by
  unfold record
  simp only [Database.rows, bind, Except.bind, row, StoredRow.readQuery_ofContent]
  rfl

/-- A row is read back with the query text and the content that it was written with. -/
theorem eq_of_record_eq_some {rows : KeyMap StoredRow} {key : Key} {query : Option String}
    {content : StoredContent} {expectText : Bool} {read : Record}
    (row : rows.get? key = some (.ofContent query content))
    (found : (table rows).record expectText key = .ok (some read)) :
    read = ⟨key, query, content⟩ := by
  rw [record_of_row row] at found
  cases fetched : (Cell.ofContent content).content? expectText with
  | none =>
      rw [fetched] at found
      cases found
  | some same =>
      rw [fetched] at found
      cases found
      rw [Cell.eq_of_content?_ofContent fetched]

end Database

namespace PersistentTier

/-- A tier as it is created, but that its block codecs may be any. -/
structure IsNew (tier : PersistentTier) (timeToLive : Duration) : Prop where
  valid : validate tier.settings tier.serializer = .ok ()
  compression : tier.compressor.settings = tier.settings.compression
  database : tier.database = .empty
  payloadTypes : tier.payloadTypes = .empty
  companion : tier.companion = .create timeToLive .stripPayload

theorem isNew_of_create {settings : Persistent.Settings} {serializer : Serializer}
    {timeToLive : Duration} {database : Database} {tier : PersistentTier}
    (created : create settings serializer timeToLive database = .ok tier) :
    tier.IsNew timeToLive := by
  obtain ⟨_, valid, opened⟩ := CacheError.exists_ok_of_bind created
  obtain ⟨recreated, made, done⟩ := CacheError.exists_ok_of_bind opened
  have emptied : recreated = .empty := by
    cases database with
    | locked => cases made
    | withoutTable | table rows => exact (Except.ok.inj made).symm
  cases done
  exact ⟨valid, rfl, emptied, rfl, rfl⟩

inductive Operation where
  | put (key : Key) (envelope : Envelope Payload)
  | getTyped (key : Key) (type : PayloadType)
  | getEnvelope (key : Key) (type : PayloadType)
  | getForRefresh (key : Key)
  | record (key : Key)
  | rowCount
  | canStream (key : Key)
  | stream (key : Key) (sink : Sink)
  | streamCancellable (key : Key) (sink : Sink) (cancellation : Cancellation)
  | invalidate (key : Key)
  | clear
  /-- An operation on the companion tier, behind the back of the persistent one. -/
  | onCompanion (operation : MemoryTier.Operation)

/-- The tier that an operation leaves. -/
def perform (tier : PersistentTier) (now : Instant) : Operation → PersistentTier
  | .put key envelope => (tier.put now key envelope).2
  | .getTyped key type => (tier.getTyped now key type).2
  | .getEnvelope key type => (tier.getEnvelope now key type).2
  | .getForRefresh _ | .record _ | .rowCount | .canStream _ | .stream _ _
  | .streamCancellable _ _ _ => tier
  | .invalidate key => (tier.invalidate now key).2
  | .clear => tier.clear.2
  | .onCompanion operation =>
    { tier with companion := tier.companion.perform now operation }

/-! ### Stored forms -/

/-- Content as it is stored: octets are compressed, and texts are not. -/
def compressOctets (tier : PersistentTier) : StoredContent → Except CacheError StoredContent
  | .text text => .ok (.text text)
  | .binary octets => (tier.compressor.encode octets).map .binary

theorem encode_eq_compressOctets (tier : PersistentTier) (payload : Payload) :
    tier.encode payload =
      tier.serializer.serialize payload tier.settings.textFormat >>= fun made =>
        tier.compressOctets (made.inClass tier.settings.textFormat) := by
  unfold encode
  congr 1
  funext made
  cases made with
  | binary octets => rfl
  | text text =>
      cases tier.settings.textFormat with
      | true => rfl
      | false => rfl

theorem exists_octets_of_encode {tier : PersistentTier}
    (storesOctets : tier.settings.textFormat = false) {payload : Payload}
    {content : StoredContent} (encoded : tier.encode payload = .ok content) :
    ∃ octets, content = .binary octets := by
  rw [encode_eq_compressOctets, storesOctets] at encoded
  obtain ⟨made, _, compressed⟩ := CacheError.exists_ok_of_bind encoded
  have classed : made.inClass false = .binary made.bytes := by
    cases made <;> rfl
  rw [classed, compressOctets] at compressed
  cases framed : tier.compressor.encode made.bytes with
  | error failure =>
      rw [framed] at compressed
      cases compressed
  | ok frame =>
      rw [framed] at compressed
      cases compressed
      exact ⟨frame, rfl⟩

/-- What a tier encodes by a format of the library is read back from its cell. -/
theorem content?_of_encode {tier : PersistentTier} {format : Format}
    (serializer : tier.serializer = .ofFormat format) {payload : Payload}
    {content : StoredContent} (encoded : tier.encode payload = .ok content) :
    (Cell.ofContent content).content? tier.settings.textFormat = some content := by
  cases storesText : tier.settings.textFormat with
  | false =>
      obtain ⟨octets, rfl⟩ := exists_octets_of_encode storesText encoded
      rfl
  | true =>
      rw [encode_eq_compressOctets, serializer, storesText] at encoded
      obtain ⟨made, serialized, kept⟩ := CacheError.exists_ok_of_bind encoded
      obtain ⟨text, rfl⟩ := Serializer.exists_text_of_serialize serialized
      cases kept
      simp [Cell.ofContent, Cell.content?, Text.ofBytes?_toBytes]

/-! ### Puts -/

/-- The tier after a put that succeeded. -/
def written (tier : PersistentTier) (now : Instant) (key : Key) (envelope : Envelope Payload)
    (rows : KeyMap StoredRow) (payload : Payload) (content : StoredContent) : PersistentTier :=
  { tier with
    database := .table (rows.insert key (.ofContent envelope.provenance.query content))
    payloadTypes := tier.payloadTypes.insert key payload.type
    companion := tier.companion.put now key envelope.metadataOnly }

theorem put_eq_written {tier : PersistentTier} {now : Instant} {key : Key}
    {envelope : Envelope Payload} {rows : KeyMap StoredRow} {payload : Payload}
    {content : StoredContent} (reachable : tier.database = .table rows)
    (held : envelope.payload = some payload) (encoded : tier.encode payload = .ok content) :
    tier.put now key envelope = (.ok (), tier.written now key envelope rows payload content) := by
  unfold put
  simp only [held, encoded, reachable]
  rfl

/-- A put fails and leaves the tier as it was, or it succeeds and writes the row, the
type and the companion. -/
theorem put_cases (tier : PersistentTier) (now : Instant) (key : Key)
    (envelope : Envelope Payload) :
    (∃ failure, tier.put now key envelope = (.error failure, tier)) ∨
      ∃ rows payload content, tier.database = .table rows ∧ envelope.payload = some payload ∧
        tier.encode payload = .ok content ∧
        tier.put now key envelope =
          (.ok (), tier.written now key envelope rows payload content) := by
  cases held : envelope.payload with
  | none =>
      left
      unfold put
      simp only [held]
      exact ⟨_, rfl⟩
  | some payload =>
      cases encoded : tier.encode payload with
      | error failure =>
          left
          unfold put
          simp only [held, encoded]
          exact ⟨_, rfl⟩
      | ok content =>
          cases reachable : tier.database with
          | locked | withoutTable =>
              left
              unfold put
              simp only [held, encoded, reachable]
              exact ⟨_, rfl⟩
          | table rows =>
              right
              exact ⟨rows, payload, content, rfl, rfl, encoded,
                put_eq_written reachable held encoded⟩

/-! ### Typed reads -/

/-- A typed read changes the counters of the companion only. -/
theorem getEnvelope_eq_count (tier : PersistentTier) (now : Instant) (key : Key)
    (type : PayloadType) :
    ∃ counters, (tier.getEnvelope now key type).2 =
      { tier with companion := { tier.companion with counters := counters } } := by
  unfold getEnvelope
  split
  · exact ⟨_, rfl⟩
  · split
    · split
      · exact ⟨_, rfl⟩
      · split
        · exact ⟨_, rfl⟩
        · exact ⟨_, rfl⟩
    · exact ⟨_, rfl⟩

/-- A row that decodes is read back as the envelope that was put. -/
theorem readRow_of_row {tier : PersistentTier} {key : Key} {rows : KeyMap StoredRow}
    {envelope : Envelope Payload} {payload : Payload} {content : StoredContent}
    (reachable : tier.database = .table rows)
    (row : rows.get? key = some (.ofContent envelope.provenance.query content))
    (fits : (Cell.ofContent content).content? tier.settings.textFormat = some content)
    (decoded : tier.decode payload.type content envelope.provenance.shape.isListShaped =
      .ok payload.value) :
    tier.readRow key payload.type envelope.metadataOnly =
      .ok (some (envelope.withPayload payload.value)) := by
  unfold readRow
  rw [reachable, Database.record_of_row row, fits]
  simp only [bind, Except.bind, Envelope.metadataOnly, decoded]
  rfl

theorem getEnvelope_of_stale {tier : PersistentTier} {key : Key} {now : Instant}
    (stale : ∀ remembered, tier.companion.entries.get? key = some remembered →
      remembered.isFreshAt now = false) (type : PayloadType) :
    tier.getEnvelope now key type = (.ok none, tier) := by
  unfold getEnvelope MemoryTier.getForRefresh
  cases entry : tier.companion.entries.get? key with
  | none => rfl
  | some remembered =>
      dsimp only
      rw [if_neg (Bool.eq_false_iff.1 (stale remembered entry))]

theorem getEnvelope_of_fresh {tier : PersistentTier} {key : Key} {now : Instant}
    {remembered : Envelope Payload} {recorded : PayloadType}
    (entry : tier.companion.entries.get? key = some remembered)
    (fresh : remembered.isFreshAt now = true)
    (present : tier.payloadTypes.get? key = some recorded) (type : PayloadType) :
    tier.getEnvelope now key type =
      if recorded = type then (tier.readRow key type remembered, tier)
      else (.ok none, { tier with companion := tier.companion.recordTypeMismatch }) := by
  unfold getEnvelope MemoryTier.getForRefresh
  rw [entry]
  dsimp only
  rw [if_pos fresh, present]

/-- Behind an envelope that a typed read finds there is a fresh entry of the companion,
a record of the type asked for, and a row. -/
theorem exists_row_of_getEnvelope {tier : PersistentTier} {now : Instant} {key : Key}
    {type : PayloadType} {found : Envelope type.Value}
    (read : (tier.getEnvelope now key type).1 = .ok (some found)) :
    ∃ remembered, tier.companion.entries.get? key = some remembered ∧
      remembered.isFreshAt now = true ∧ tier.payloadTypes.get? key = some type ∧
      tier.readRow key type remembered = .ok (some found) := by
  unfold getEnvelope MemoryTier.getForRefresh at read
  cases entry : tier.companion.entries.get? key with
  | none => simp [entry] at read
  | some remembered =>
      by_cases fresh : remembered.isFreshAt now = true
      · cases recorded : tier.payloadTypes.get? key with
        | none => simp [entry, fresh, recorded] at read
        | some present =>
            by_cases same : present = type
            · rw [same]
              simp only [entry, fresh, recorded, if_pos same, if_true] at read
              exact ⟨remembered, rfl, fresh, rfl, read⟩
            · simp [entry, fresh, recorded, same] at read
      · simp [entry, fresh] at read

theorem exists_envelope_of_getTyped {tier : PersistentTier} {now : Instant} {key : Key}
    {type : PayloadType} {value : type.Value}
    (found : (tier.getTyped now key type).1 = .ok (some value)) :
    ∃ envelope, (tier.getEnvelope now key type).1 = .ok (some envelope) ∧
      envelope.payload = some value := by
  change ((tier.getEnvelope now key type).1.map fun envelope => envelope.bind Envelope.payload) =
    .ok (some value) at found
  cases read : (tier.getEnvelope now key type).1 with
  | error failure =>
      rw [read] at found
      cases found
  | ok envelope =>
      rw [read] at found
      obtain ⟨envelope, same, held⟩ := Option.bind_eq_some_iff.1 (Except.ok.inj found)
      exact ⟨envelope, congrArg _ same, held⟩

/-- Behind a row that is read there is a record whose content decodes. -/
theorem exists_record_of_readRow {tier : PersistentTier} {key : Key} {type : PayloadType}
    {remembered : Envelope Payload} {found : Envelope type.Value}
    (read : tier.readRow key type remembered = .ok (some found)) :
    ∃ record value, tier.database.record tier.settings.textFormat key = .ok (some record) ∧
      tier.decode type record.content remembered.provenance.shape.isListShaped = .ok value ∧
      found = ⟨{ remembered.provenance with query := record.query }, some value,
        remembered.expires⟩ := by
  obtain ⟨row, fetched, rest⟩ := CacheError.exists_ok_of_bind read
  cases row with
  | none => cases rest
  | some record =>
      cases decoded : tier.decode type record.content remembered.provenance.shape.isListShaped with
      | error failure =>
          -- Failures to decode are misses, and all others are passed on.
          cases failure <;> simp [decoded] at rest <;> cases rest
      | ok value =>
          simp only [decoded] at rest
          cases rest
          exact ⟨record, value, fetched, decoded, rfl⟩

/-! ### Settings after each operation -/

/-- The encoding of a tier is settled by what no operation changes. -/
structure SameCodec (first second : PersistentTier) : Prop where
  settings : first.settings = second.settings
  serializer : first.serializer = second.serializer
  compressor : first.compressor = second.compressor

namespace SameCodec

variable {first second : PersistentTier}

theorem encode_eq (same : SameCodec first second) : first.encode = second.encode := by
  funext payload
  unfold encode
  rw [same.settings, same.serializer, same.compressor]

theorem decode_eq (same : SameCodec first second) : first.decode = second.decode := by
  funext type content asList
  unfold decode
  rw [same.serializer, same.compressor]

theorem withState (same : SameCodec first second) (database : Database)
    (payloadTypes : KeyMap PayloadType) (companion : MemoryTier) :
    SameCodec { first with database, payloadTypes, companion } second :=
  ⟨same.settings, same.serializer, same.compressor⟩

theorem perform (same : SameCodec first second) (now : Instant) (operation : Operation) :
    SameCodec (first.perform now operation) second := by
  cases operation with
  | put key envelope =>
      change SameCodec (first.put now key envelope).2 second
      rcases first.put_cases now key envelope with ⟨_, failed⟩ | ⟨_, _, _, _, _, _, succeeded⟩
      · rw [failed]
        exact same
      · rw [succeeded]
        exact same.withState _ _ _
  | getTyped key type | getEnvelope key type =>
      obtain ⟨counters, counted⟩ := first.getEnvelope_eq_count now key type
      change SameCodec (first.getEnvelope now key type).2 second
      rw [counted]
      exact same.withState _ _ _
  | getForRefresh | record | rowCount | canStream | stream | streamCancellable => exact same
  | invalidate key => exact same.withState _ _ _
  | clear =>
      change SameCodec first.clear.2 second
      unfold clear
      cases first.database.recreate with
      | error failure => exact same
      | ok database => exact same.withState _ _ _
  | onCompanion operation => exact same.withState _ _ _

theorem run (same : SameCodec first second) (history : History Operation) :
    SameCodec (history.run PersistentTier.perform first) second := by
  have step : ∀ tier now operation, SameCodec tier second →
      SameCodec (tier.perform now operation) second := by
    intro tier now operation kept
    exact kept.perform now operation
  exact History.run_preserves step history same

end SameCodec

/-! ### One key -/

/-- Two tiers keep the same row and the same type for a key. -/
structure SameRow (first second : PersistentTier) (key : Key) : Prop where
  codec : SameCodec first second
  type : first.payloadTypes.get? key = second.payloadTypes.get? key
  row : ∀ rows, second.database = .table rows →
    ∃ others, first.database = .table others ∧ others.get? key = rows.get? key

namespace SameRow

variable {tier : PersistentTier} {key : Key}

theorem withCompanion (companion : MemoryTier) :
    SameRow { tier with companion := companion } tier key where
  codec := ⟨rfl, rfl, rfl⟩
  type := rfl
  row rows table := ⟨rows, table, rfl⟩

/-- A put leaves what is kept for other keys. -/
theorem written {other : Key} (differs : other ≠ key) {rows : KeyMap StoredRow}
    (table : tier.database = .table rows) (now : Instant) (envelope : Envelope Payload)
    (payload : Payload) (content : StoredContent) :
    SameRow (tier.written now other envelope rows payload content) tier key where
  codec := ⟨rfl, rfl, rfl⟩
  type := by
    change (tier.payloadTypes.insert other payload.type).get? key = _
    rw [KeyMap.get?_insert, if_neg differs]
  row := by
    intro others there
    rw [table] at there
    cases there
    refine ⟨_, rfl, ?_⟩
    rw [KeyMap.get?_insert, if_neg differs]

end SameRow

end PersistentTier

end ResultCache
