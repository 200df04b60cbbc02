import ResultCache.Proofs.Cache.Streamability
import ResultCache.Proofs.Persistent.TypeIsolation
import ResultCache.Proofs.Stream.Parity

/-!
Contract: what a cache streams is what it put and what it reads.

Owns:
- `QueryCache.written?`, the envelope that an operation put, as its caller knows it, and
  `QueryCache.lastWritten`, the last one of a key in a history;
- `PersistentTier.Carries`: behind every entry of the companion there are the provenance,
  the row and the type of the last put of its key; and that every operation keeps it so;
- that both streams of a key deliver the text of its row, which is the serialization of the
  payload of the last put and is read back by a typed read.

Does not own: that what is read back is the payload. That is up to the serializer.
-/

namespace ResultCache

/-- A document that is no value of a type is the only thing that JSON refuses to read. -/
theorem Serializer.exists_fault_of_readJson {type : PayloadType} {content : StoredContent}
    {asList : Bool} {failure : CacheError}
    (refused : readJson type content asList = .error failure) :
    ∃ fault, failure = .serialization fault := by
  unfold readJson at refused
  split at refused
  · exact ⟨_, (Except.error.inj refused).symm⟩
  · split at refused
    · cases refused
    · exact ⟨_, (Except.error.inj refused).symm⟩

namespace PersistentTier

variable {tier initial : PersistentTier} {key : Key} {last : Option (Envelope Payload)}

/-! ### Text -/

/-- A tier that stores text in a format of the library stores JSON. -/
theorem IsNew.serializer_eq_json {timeToLive : Duration} (new : tier.IsNew timeToLive)
    {format : Format} (serializer : tier.serializer = .ofFormat format)
    (text : tier.settings.textFormat = true) : tier.serializer = .json := by
  cases format with
  | json => exact serializer
  | messagePack | bincode =>
      have valid := new.valid
      unfold validate at valid
      rw [serializer, text] at valid
      cases valid

theorem exists_text_of_encode (serializer : tier.serializer = .json)
    (text : tier.settings.textFormat = true) {payload : Payload} {content : StoredContent}
    (encoded : tier.encode payload = .ok content) :
    ∃ written, content = .text written ∧
      Serializer.json.serialize payload true = .ok (.text written) := by
  obtain ⟨made, serialized, kept⟩ := CacheError.exists_ok_of_bind encoded
  rw [serializer, text] at serialized
  have honoured : (Serializer.ofFormat .json).serialize payload true = .ok made := serialized
  obtain ⟨written, rfl⟩ := Serializer.exists_text_of_serialize honoured
  simp only [text] at kept
  cases kept
  exact ⟨written, rfl, serialized⟩

/-- A row of JSON text is read at the type it was written at, or is a miss. -/
theorem getTyped_of_text {now : Instant} {rows : KeyMap StoredRow} {remembered : Envelope Payload}
    {query : Option String} {written : String} {type : PayloadType}
    (serializer : tier.serializer = .json) (text : tier.settings.textFormat = true)
    (table : tier.database = .table rows)
    (entry : tier.companion.entries.get? key = some remembered)
    (fresh : remembered.isFreshAt now = true)
    (recorded : tier.payloadTypes.get? key = some type)
    (row : rows.get? key = some (.ofContent query (.text written))) :
    (tier.getTyped now key type).1 =
      .ok (Serializer.json.deserialize type (.text written)
        remembered.provenance.shape.isListShaped).toOption := by
  have fetched : tier.database.record tier.settings.textFormat key =
      .ok (some ⟨key, query, .text written⟩) := by
    rw [table, Database.record_of_row row, text]
    simp [Cell.ofContent, Cell.content?, Text.ofBytes?_toBytes]
  have decoded : tier.decode type (.text written) remembered.provenance.shape.isListShaped =
      Serializer.readJson type (.text written) remembered.provenance.shape.isListShaped := by
    unfold decode
    rw [serializer]
    rfl
  change (tier.getEnvelope now key type).1.map _ = .ok (Serializer.readJson _ _ _).toOption
  rw [getEnvelope_of_fresh entry fresh recorded, if_pos rfl]
  unfold readRow
  simp only [fetched, bind, Except.bind, decoded]
  cases read : Serializer.readJson type (.text written)
      remembered.provenance.shape.isListShaped with
  | ok value => rfl
  | error failure =>
      obtain ⟨fault, rfl⟩ := Serializer.exists_fault_of_readJson read
      rfl

/-! ### What an entry stands for -/

/-- Behind an entry of the companion there are the provenance, the row and the type of the
last put of its key. -/
structure Carries (tier : PersistentTier) (key : Key) (last : Option (Envelope Payload)) :
    Prop where
  reachable : ∃ rows, tier.database = .table rows
  entry : ∀ remembered, tier.companion.entries.get? key = some remembered →
    ∃ envelope, last = some envelope ∧ remembered.provenance = envelope.provenance ∧
      tier.Files key (some envelope)

namespace Carries

theorem ofNew {timeToLive : Duration} (new : tier.IsNew timeToLive) (key : Key) :
    tier.Carries key none := by
  refine ⟨⟨_, new.database⟩, ?_⟩
  intro remembered entry
  rw [new.companion] at entry
  cases entry

/-- The companion may forget entries, and change them in all but their provenance. -/
theorem withCompanion (carries : tier.Carries key last) {companion : MemoryTier}
    (known : ∀ remembered, companion.entries.get? key = some remembered →
      ∃ original, tier.companion.entries.get? key = some original ∧
        original.provenance = remembered.provenance) :
    Carries { tier with companion := companion } key last := by
  refine ⟨carries.reachable, ?_⟩
  intro remembered entry
  obtain ⟨original, before, same⟩ := known remembered entry
  obtain ⟨envelope, put, provenance, files⟩ := carries.entry original before
  exact ⟨envelope, put, same.symm.trans provenance, files.frame (.withCompanion companion)⟩

theorem written (carries : tier.Carries key last) {now : Instant} {other : Key}
    {envelope : Envelope Payload} {rows : KeyMap StoredRow} {payload : Payload}
    {content : StoredContent} (table : tier.database = .table rows)
    (held : envelope.payload = some payload) (encoded : tier.encode payload = .ok content) :
    (tier.written now other envelope rows payload content).Carries key
      (if other = key then some envelope else last) := by
  refine ⟨⟨_, rfl⟩, ?_⟩
  intro remembered entry
  change (tier.companion.put now other envelope.metadataOnly).entries.get? key = _ at entry
  rw [MemoryTier.get?_put, MemoryTier.stored_metadataOnly] at entry
  by_cases same : other = key
  · rw [if_pos same] at entry ⊢
    cases entry
    subst same
    exact ⟨envelope, rfl, rfl, .written held encoded⟩
  · rw [if_neg same] at entry ⊢
    obtain ⟨before, put, provenance, files⟩ := carries.entry remembered entry
    exact ⟨before, put, provenance, files.frame (.written same table now envelope payload content)⟩

theorem invalidate (carries : tier.Carries key last) (now : Instant) (other : Key) :
    (tier.invalidate now other).2.Carries key last := by
  change Carries { tier with companion := (tier.companion.expire now other).2 } key last
  apply carries.withCompanion
  intro remembered entry
  rw [MemoryTier.get?_expire] at entry
  by_cases same : other = key
  · rw [if_pos same] at entry
    obtain ⟨original, before, rfl⟩ := Option.map_eq_some_iff.1 entry
    exact ⟨original, same ▸ before, rfl⟩
  · rw [if_neg same] at entry
    exact ⟨remembered, entry, rfl⟩

theorem purgeExpired (carries : tier.Carries key last) (now : Instant) (grace : Duration) :
    Carries { tier with companion := (tier.companion.purgeExpired now grace).2 } key last := by
  apply carries.withCompanion
  intro remembered entry
  rw [MemoryTier.get?_purgeExpired] at entry
  exact ⟨remembered, (Option.filter_eq_some_iff.1 entry).1, rfl⟩

end Carries

end PersistentTier

namespace QueryCache

/-! ### The last put of a key -/

/-- The envelope that an operation put: its own; the template with what was fetched when a
fetch was run; the request with what it got when a fetch was issued again. -/
def written? : Operation → Answer → Option (Key × Envelope Payload)
  | .put key envelope, .put (.ok ()) => some (key, envelope)
  | .getOrFetch key _ template _, .fetched type ⟨.ok value, 1⟩ =>
    some (key, .ofPayload template ⟨type, value⟩)
  | .refresh key _ _, .refreshed type ⟨.ok (some value), [request]⟩ =>
    some (key, .ofPayload request ⟨type, value⟩)
  | _, _ => none

/-- The last put of a key, after one more put or none. -/
def lastOf (key : Key) (last : Option (Envelope Payload)) :
    Option (Key × Envelope Payload) → Option (Envelope Payload)
  | some (other, envelope) => if other = key then some envelope else last
  | none => last

def lastWrittenAfter (key : Key) (cache : QueryCache) (now : Instant)
    (last : Option (Envelope Payload)) (operation : Operation) : Option (Envelope Payload) :=
  lastOf key last (written? operation (cache.answer now operation))

/-- The last put of a key that succeeded in a history. -/
def lastWritten (key : Key) (cache : QueryCache) (history : History Operation) :
    Option (Envelope Payload) :=
  history.follow perform (lastWrittenAfter key) cache none

/-- A cache over a persistent tier, whose entry of the key carries the last put. -/
inductive Carries (initial : PersistentTier) (key : Key) :
    QueryCache → Option (Envelope Payload) → Prop
  | intro {tier : PersistentTier} {last : Option (Envelope Payload)}
      (codec : PersistentTier.SameCodec tier initial) (carries : tier.Carries key last)
      (signature : String) (keys : KeyDeriver) :
      Carries initial key ⟨signature, .persistent tier, keys⟩ last

namespace Carries

variable {initial : PersistentTier} {key : Key} {cache : QueryCache}
  {last : Option (Envelope Payload)}

theorem getEnvelope (carries : Carries initial key cache last) (now : Instant) (other : Key)
    (type : PayloadType) : Carries initial key (cache.getEnvelope now other type).2 last := by
  cases carries with
  | @intro tier last codec carries signature keys =>
      obtain ⟨counters, counted⟩ := tier.getEnvelope_eq_count now other type
      change Carries initial key
        ⟨signature, .persistent (tier.getEnvelope now other type).2, keys⟩ last
      rw [counted]
      refine .intro (codec.withState _ _ _) (carries.withCompanion ?_) signature keys
      intro remembered entry
      exact ⟨remembered, entry, rfl⟩

/-- A put carries what its answer tells, as it is or as part of an operation. -/
theorem put (carries : Carries initial key cache last) {now : Instant} {other : Key}
    {envelope : Envelope Payload} {made : Option (Key × Envelope Payload)}
    (told : made = (cache.put now other envelope).1.toOption.map fun _ => (other, envelope)) :
    Carries initial key (cache.put now other envelope).2 (lastOf key last made) := by
  cases carries with
  | @intro tier last codec carries signature keys =>
      change made = (tier.put now other envelope).1.toOption.map _ at told
      change Carries initial key
        ⟨signature, .persistent (tier.put now other envelope).2, keys⟩ (lastOf key last made)
      rcases tier.put_cases now other envelope with
        ⟨_, failed⟩ | ⟨rows, payload, content, table, held, encoded, succeeded⟩
      · rw [failed] at told ⊢
        rw [told]
        exact .intro codec carries signature keys
      · rw [succeeded] at told ⊢
        rw [told]
        exact .intro (codec.withState _ _ _) (carries.written table held encoded) signature keys

theorem clear (carries : Carries initial key cache last) :
    Carries initial key cache.clear.2 last := by
  cases carries with
  | @intro tier last codec carries signature keys =>
      obtain ⟨rows, table⟩ := carries.reachable
      unfold QueryCache.clear PersistentTier.clear
      simp only [table, Database.recreate]
      refine .intro (codec.withState _ _ _) ⟨⟨_, rfl⟩, ?_⟩ signature keys
      intro remembered entry
      cases entry

theorem perform (carries : Carries initial key cache last) (now : Instant)
    (operation : Operation) :
    Carries initial key (cache.perform now operation)
      (lastWrittenAfter key cache now last operation) := by
  cases operation with
  | put other envelope =>
      apply carries.put
      rw [answer]
      cases (cache.put now other envelope).1 <;> rfl
  | getTyped other type | getEnvelope other type => exact carries.getEnvelope now other type
  | getForRefresh | canStream | stream | streamCancellable => exact carries
  | invalidate other =>
      cases carries with
      | intro codec carries =>
          exact .intro (codec.withState _ _ _) (carries.invalidate now other) _ _
  | clear => exact carries.clear
  | purgeExpired grace =>
      cases carries with
      | intro codec carries =>
          exact .intro (codec.withState _ _ _) (carries.purgeExpired now grace) _ _
  | getOrFetch other type template fetch =>
      have read : Carries initial key (cache.getTyped now other type).2 last :=
        carries.getEnvelope now other type
      rw [lastWrittenAfter, answer, QueryCache.perform]
      rcases cache.getOrFetch_cases now other type template fetch with
        ⟨outcome, fetches, readOnly, nothing⟩ | ⟨value, _, wrote⟩
      · -- What has put nothing has run no fetch or failed, and its answer says so.
        have none : written? (.getOrFetch other type template fetch)
            (.fetched type ⟨outcome, fetches⟩) = none := by
          rcases nothing with rfl | ⟨failure, rfl⟩
          · cases outcome <;> rfl
          · rfl
        rw [readOnly, none]
        exact read
      · rw [wrote]
        apply put read
        dsimp only
        cases (QueryCache.put _ now other _).1 <;> rfl
  | refresh other type execute =>
      rw [lastWrittenAfter, answer, QueryCache.perform]
      rcases cache.refresh_cases now other type execute with
        ⟨outcome, requests, unchanged, nothing⟩ | ⟨remembered, value, _, _, wrote⟩
      · have none : written? (.refresh other type execute)
            (.refreshed type ⟨outcome, requests⟩) = none := by
          rcases outcome with _ | _ | value
          · rfl
          · rfl
          · exact absurd rfl (nothing value)
        rw [unchanged, none]
        exact carries
      · rw [wrote]
        apply carries.put
        dsimp only
        cases (QueryCache.put _ now other _).1 <;> rfl

theorem run {timeToLive : Duration} (new : initial.IsNew timeToLive) (signature : String)
    (keys : KeyDeriver) (history : History Operation) (key : Key) :
    Carries initial key (history.run QueryCache.perform ⟨signature, .persistent initial, keys⟩)
      (lastWritten key ⟨signature, .persistent initial, keys⟩ history) := by
  have step : ∀ cache now last operation, Carries initial key cache last →
      Carries initial key (cache.perform now operation)
        (lastWrittenAfter key cache now last operation) := by
    intro cache now last operation carries
    exact carries.perform now operation
  exact History.follow_preserves step history
    (.intro ⟨rfl, rfl, rfl⟩ (.ofNew new key) signature keys)

/-- Behind a key that can be streamed there are a fresh entry with the provenance of the
last put, and a row with its text. -/
theorem exists_text_of_canStream (carries : Carries initial key cache last)
    (serializer : initial.serializer = .json) (text : initial.settings.textFormat = true)
    {now : Instant} (told : cache.canStream now key = true) :
    ∃ tier rows envelope payload written, cache.stack = .persistent tier ∧
      PersistentTier.SameCodec tier initial ∧ tier.database = .table rows ∧
      last = some envelope ∧ envelope.payload = some payload ∧
      Serializer.json.serialize payload true = .ok (.text written) ∧
      rows.get? key = some (.ofContent envelope.provenance.query (.text written)) ∧
      tier.payloadTypes.get? key = some payload.type ∧
      ∃ remembered, tier.companion.entries.get? key = some remembered ∧
        remembered.isFreshAt now = true ∧ remembered.provenance = envelope.provenance := by
  cases carries with
  | @intro tier last codec carries signature keys =>
      obtain ⟨_, fresh⟩ := Bool.and_eq_true_iff.1 told
      obtain ⟨remembered, entry, fresh⟩ := (Option.any_eq_true _ _).1 fresh
      obtain ⟨envelope, put, provenance, files⟩ := carries.entry remembered entry
      obtain ⟨rows, table⟩ := carries.reachable
      obtain ⟨payload, content, held, encoded, row, type⟩ := files.of_put table
      obtain ⟨written, rfl, serialized⟩ := PersistentTier.exists_text_of_encode
        (codec.serializer.trans serializer) (codec.settings ▸ text) encoded
      exact ⟨tier, rows, envelope, payload, written, rfl, codec, table, put, held, serialized, row,
        type, remembered, entry, fresh, provenance⟩

end Carries

/-- After every run of a new cache that stores text, both streams of a key that can be
streamed deliver the same to sinks that never fail, however much each of them takes at a
time: the text in the row of the key, which is the serialization of the payload that was put
last. Read back under the list hint of the entry, it is what a typed read finds at the type
of that payload. -/
theorem streams_alike_run {timeToLive : Duration} {tier : PersistentTier}
    (new : tier.IsNew timeToLive) {format : Format}
    (serializer : tier.serializer = .ofFormat format)
    (text : tier.settings.textFormat = true) {cache : QueryCache}
    (stack : cache.stack = .persistent tier) (history : History Operation) {now : Instant}
    {key : Key} (told : (history.run perform cache).canStream now key = true)
    {first second : Sink} (reliable : first.NeverFails) (alike : second.NeverFails) :
    ∃ envelope payload written,
      lastWritten key cache history = some envelope ∧ envelope.payload = some payload ∧
      tier.serializer.serialize payload true = .ok (.text written) ∧
      (history.run perform cache).stream now key first =
        ⟨.ok (Text.toBytes written).length, Text.toBytes written, 1⟩ ∧
      (history.run perform cache).streamCancellable now key second .never =
        ⟨.ok (Text.toBytes written).length, Text.toBytes written, 1⟩ ∧
      (∃ reached record, (history.run perform cache).stack = .persistent reached ∧
        reached.record key = .ok (some record) ∧ record.content = .text written) ∧
      ∃ remembered, (history.run perform cache).getForRefresh key = .ok (some remembered) ∧
        remembered.provenance = envelope.provenance ∧
        ((history.run perform cache).getTyped now key payload.type).1 =
          .ok (tier.serializer.deserialize payload.type (.text written)
            remembered.provenance.shape.isListShaped).toOption := by
  obtain ⟨signature, stack', keys⟩ := cache
  cases stack
  have json := new.serializer_eq_json serializer text
  have carries := Carries.run new signature keys history key
  have grounded := (Grounded.ofNew (.persistent signature new keys)).run history
  obtain ⟨reached, rows, envelope, payload, written, there, codec, table, put, held, serialized,
    row, type, remembered, entry, fresh, provenance⟩ :=
    carries.exists_text_of_canStream json text told
  refine ⟨envelope, payload, written, put, held, json ▸ serialized, ?_, ?_, ?_, ?_⟩
  · unfold QueryCache.stream
    unfold QueryCache.canStream at told
    rw [there] at told ⊢
    exact (PersistentTier.stream_of_row told table row first).trans
      (Transfer.copy_eq_whole reliable _)
  · unfold QueryCache.streamCancellable
    unfold QueryCache.canStream at told
    rw [there] at told ⊢
    exact (PersistentTier.streamCancellable_of_row told table row second .never).trans
      (Transfer.copyCancellable_eq_whole alike _)
  · refine ⟨reached, ⟨key, envelope.provenance.query, .text written⟩, there, ?_, rfl⟩
    unfold PersistentTier.record
    rw [table, Database.record_of_row row, codec.settings, text]
    simp [Cell.ofContent, Cell.content?, Text.ofBytes?_toBytes]
  · refine ⟨remembered, ?_, provenance, ?_⟩
    · rw [grounded.getForRefresh_eq]
      unfold metadata
      rw [there]
      exact congrArg _ entry
    · unfold QueryCache.getTyped QueryCache.getEnvelope
      rw [there, json]
      exact PersistentTier.getTyped_of_text (codec.serializer.trans json) (codec.settings ▸ text)
        table entry fresh type row

/-- A truth value that is invalidated, and fetched again as a list of texts whose one
character has several octets. -/
def fetchedAgain : History Operation :=
  [(⟨0, 0⟩, .put 7 (.ofPayload (.ofQuery .listByQuery "SELECT 1") ⟨.single .bool, true⟩)),
    (⟨1, 0⟩, .invalidate 7),
    (⟨2, 0⟩, .refresh 7 (.single (.list .text)) fun _ => .ok ["é"])]

/-- One sink takes an octet at a time, and the other all that it is offered. -/
theorem streams_alike_fetchedAgain :
    ∃ tier : PersistentTier, emptyText.stack = .persistent tier ∧ tier.IsNew .day ∧
      tier.serializer = .ofFormat .json ∧ tier.settings.textFormat = true ∧
      (fetchedAgain.run perform emptyText).canStream ⟨3, 0⟩ 7 = true ∧
      ∃ first second : Sink, first.NeverFails ∧ second.NeverFails ∧
        ∃ written, Serializer.json.serialize ⟨.single (.list .text), ["é"]⟩ true =
            .ok (.text written) ∧
          (fetchedAgain.run perform emptyText).stream ⟨3, 0⟩ 7 first =
            (fetchedAgain.run perform emptyText).streamCancellable ⟨3, 0⟩ 7 second .never := by
  have reliable : octetByOctet.NeverFails := ⟨fun _ _ _ _ => ⟨1, by decide, rfl⟩, rfl, rfl⟩
  have greedy : Sink.NeverFails ⟨fun _ _ offered => .accepts offered, [], none⟩ :=
    ⟨fun _ _ offered some => ⟨offered, some, rfl⟩, rfl, rfl⟩
  have new : PersistentTier.jsonText.IsNew .day := ⟨rfl, rfl, rfl, rfl, rfl⟩
  have stack : emptyText.stack = .persistent PersistentTier.jsonText := rfl
  have serializer : PersistentTier.jsonText.serializer = .ofFormat .json := rfl
  have told : (fetchedAgain.run perform emptyText).canStream ⟨3, 0⟩ 7 = true := rfl
  obtain ⟨envelope, payload, written, put, held, serialized, blocking, cancellable, _⟩ :=
    streams_alike_run new serializer rfl stack fetchedAgain told reliable greedy
  cases put
  cases held
  exact ⟨_, stack, new, serializer, rfl, told, _, _, reliable, greedy, written, serialized,
    blocking.trans cancellable.symm⟩

end QueryCache

end ResultCache
