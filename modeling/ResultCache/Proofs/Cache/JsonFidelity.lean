import ResultCache.Proofs.Cache.StreamParity
import ResultCache.Proofs.Persistent.Framing
import ResultCache.Proofs.Serializer.Json

/-!
Contract: what a cache that stores JSON gives back for what was put.

Owns:
- that a persistent tier decodes the JSON of a payload from the document of it;
- that a typed read of the last put gives back its payload exactly when every double in it is
  settled, and otherwise nothing or another payload;
- that a row with an infinite score comes back without a score.

Does not own: which doubles are settled; whether a read finds anything.
-/

namespace ResultCache

namespace PersistentTier

variable {tier : PersistentTier}

/-- A value that a tier decodes from the JSON of a payload is read from its document. -/
theorem exists_document_of_decode (lawful : tier.compressor.Lawful)
    (serializer : tier.serializer = .json) {payload : Payload} {content : StoredContent}
    (encoded : tier.encode payload = .ok content) {asList : Bool} {value : payload.type.Value}
    (decoded : tier.decode payload.type content asList = .ok value) :
    ∃ document, Codec.Json.encodePayload? payload.type payload.value = some document ∧
      Codec.Json.decodePayload? payload.type document = some value := by
  obtain ⟨made, serialized, read⟩ := exists_serialized_of_encode lawful encoded
  rw [serializer] at serialized read
  obtain ⟨document, json, _⟩ := Serializer.exists_of_writeJson serialized
  have here : Serializer.IsJsonOf (made.inClass tier.settings.textFormat) payload document :=
    ⟨json.written, (made.bytes_inClass _).trans json.bytes⟩
  have found : (if asList && !document.isArray then none
      else Codec.Json.decodePayload? payload.type document) = some value :=
    (here.toOption_readJson asList).symm.trans
      (congrArg Except.toOption ((read _ _).symm.trans decoded))
  refine ⟨document, json.written, ?_⟩
  split at found
  · cases found
  · exact found

end PersistentTier

namespace QueryCache

/-- What a typed read finds in a cache that stores JSON is read from the document of the
payload that was put last. -/
theorem Carries.exists_document_of_getTyped {initial : PersistentTier} {key : Key}
    {cache : QueryCache} {last : Option (Envelope Payload)}
    (carries : Carries initial key cache last) (lawful : initial.compressor.Lawful)
    (serializer : initial.serializer = .json) {now : Instant} {type : PayloadType}
    {found : type.Value} (read : (cache.getTyped now key type).1 = .ok (some found)) :
    ∃ envelope value document, last = some envelope ∧ envelope.payload = some ⟨type, value⟩ ∧
      Codec.Json.encodePayload? type value = some document ∧
      Codec.Json.decodePayload? type document = some found := by
  cases carries with
  | @intro tier last codec carries signature keys =>
      have readTier : (tier.getTyped now key type).1 = .ok (some found) := read
      obtain ⟨_, readEnvelope, _⟩ := PersistentTier.exists_envelope_of_getTyped readTier
      obtain ⟨remembered, entry, _⟩ := PersistentTier.exists_row_of_getEnvelope readEnvelope
      obtain ⟨envelope, put, _, files⟩ := carries.entry remembered entry
      obtain ⟨_, value, content, asList, same, held, encoded, decoded⟩ :=
        files.exists_decoded_of_getTyped readTier
      cases same
      obtain ⟨document, written, back⟩ := PersistentTier.exists_document_of_decode
        (codec.compressor ▸ lawful) (codec.serializer.trans serializer) encoded decoded
      exact ⟨envelope, value, document, put, held, written, back⟩

/-- A fresh entry of a cache that stores JSON text is read from the document of the payload that
was put last. -/
theorem Carries.getTyped_of_canStream {initial : PersistentTier} {key : Key} {cache : QueryCache}
    {last : Option (Envelope Payload)} (carries : Carries initial key cache last)
    (serializer : initial.serializer = .json) (text : initial.settings.textFormat = true)
    {now : Instant} (told : cache.canStream now key = true) :
    ∃ envelope payload document, last = some envelope ∧ envelope.payload = some payload ∧
      Codec.Json.encodePayload? payload.type payload.value = some document ∧
      (cache.getTyped now key payload.type).1 =
        .ok (if envelope.provenance.shape.isListShaped && !document.isArray then none
          else Codec.Json.decodePayload? payload.type document) := by
  obtain ⟨reached, rows, envelope, payload, written, there, codec, table, put, held, serialized,
    row, type, remembered, entry, fresh, provenance⟩ :=
    carries.exists_text_of_canStream serializer text told
  obtain ⟨document, json, _⟩ := Serializer.exists_of_writeJson serialized
  refine ⟨envelope, payload, document, put, held, json.written, ?_⟩
  rw [← provenance, ← json.toOption_readJson]
  unfold QueryCache.getTyped QueryCache.getEnvelope
  rw [there]
  exact PersistentTier.getTyped_of_text (codec.serializer.trans serializer) (codec.settings ▸ text)
    table entry fresh type row

/-- A typed read that finds something under the last put of a key, in a cache that stores JSON
after any run, finds the payload of that put just when all doubles in it are settled. When
one is not, what is found differs in more than the payloads of NaNs. -/
theorem json_payload_alike_iff {timeToLive : Duration} {tier : PersistentTier}
    (new : tier.IsNew timeToLive) (serializer : tier.serializer = .ofFormat .json)
    (lawful : tier.compressor.Lawful) {cache : QueryCache} (stack : cache.stack = .persistent tier)
    (history : History Operation) {key : Key} {envelope : Envelope Payload} {type : PayloadType}
    {value : type.Value} (put : lastWritten key cache history = some envelope)
    (held : envelope.payload = some ⟨type, value⟩) (covered : type ∈ PayloadType.covered)
    (formed : type.WellFormed value) {now : Instant} {found : type.Value}
    (read : ((history.run perform cache).getTyped now key type).1 = .ok (some found)) :
    (type.Alike found value ↔ type.Settled value) ∧ (type.Settled value → found = value) := by
  obtain ⟨signature, stack', keys⟩ := cache
  cases stack
  have carries := Carries.run new signature keys history key
  obtain ⟨last, written, document, same, holds, encoded, decoded⟩ :=
    carries.exists_document_of_getTyped lawful serializer read
  cases put.symm.trans same
  cases held.symm.trans holds
  have faithful := Codec.Json.faithful_decodePayload? (PayloadType.tellsNull_of_covered type covered)
    formed encoded
  have back := faithful.eq_of_settled found decoded
  refine ⟨⟨faithful.settled_of_alike found decoded, fun settled => ?_⟩, back⟩
  rw [back settled]
  exact .refl value

/-- A tenth and a negative zero. -/
def tenths : List Binary64 := [⟨0x3fb999999999999a⟩, ⟨0x8000000000000000⟩]

def tenthsPut : History Operation :=
  [(⟨0, 0⟩, .put 7 (.ofPayload (.ofQuery .listByQuery "SELECT 1") ⟨.single (.list .double), tenths⟩))]

theorem json_payload_alike_tenths :
    ∃ tier : PersistentTier, emptyText.stack = .persistent tier ∧ tier.IsNew .day ∧
      tier.serializer = .ofFormat .json ∧ tier.compressor.Lawful ∧
      ∃ envelope, lastWritten 7 emptyText tenthsPut = some envelope ∧
        envelope.payload = some ⟨.single (.list .double), tenths⟩ ∧
        PayloadType.WellFormed (.single (.list .double)) tenths ∧
        ∃ found, ((tenthsPut.run perform emptyText).getTyped ⟨1, 0⟩ 7
            (.single (.list .double))).1 = .ok (some found) ∧
          (PayloadType.Alike (.single (.list .double)) found tenths ↔
            PayloadType.Settled (.single (.list .double)) tenths) := by
  have new : PersistentTier.jsonText.IsNew .day := ⟨rfl, rfl, rfl, rfl, rfl⟩
  have stack : emptyText.stack = .persistent PersistentTier.jsonText := rfl
  have lawful : PersistentTier.jsonText.compressor.Lawful :=
    Compression.Compressor.ofSettings_lawful _
  have covered : PayloadType.single (.list .double) ∈ PayloadType.covered := by decide
  have formed : PayloadType.WellFormed (.single (.list .double)) tenths := fun _ _ => trivial
  have told : (tenthsPut.run perform emptyText).canStream ⟨1, 0⟩ 7 = true := rfl
  obtain ⟨envelope, payload, document, put, held, written, read⟩ :=
    (Carries.run new "text" _ tenthsPut 7).getTyped_of_canStream rfl rfl told
  cases put
  cases held
  have settled : PayloadType.Settled (.single (.list .double)) tenths := by
    have each : ∀ number ∈ tenths, Json.Number.Settled number := by
      simp only [tenths, List.forall_mem_cons]
      exact ⟨⟨rfl, by decide +kernel⟩, ⟨rfl, by decide +kernel⟩, fun _ absent => by cases absent⟩
    exact each
  have back := (Codec.Json.faithful_decodePayload? (by decide) formed written).read_eq settled
    fun _ _ => trivial
  have array : document.isArray = true := by
    have list : (List.mapM (Codec.Json.encode? .double) tenths).map .array = some document :=
      written
    obtain ⟨items, _, rfl⟩ := Option.map_eq_some_iff.1 list
    rfl
  have found : ((tenthsPut.run perform emptyText).getTyped ⟨1, 0⟩ 7 (.single (.list .double))).1 =
      .ok (some tenths) := by
    refine read.trans ?_
    rw [array, back]
    rfl
  exact ⟨_, stack, new, rfl, lawful, _, rfl, rfl, formed, tenths, found,
    (json_payload_alike_iff new rfl lawful stack tenthsPut rfl rfl covered formed found).1⟩

/-- A row with an infinite score, put and read again. -/
def infiniteScore : Row := ⟨⟨1, by decide⟩, "a", some .infinity⟩

def infinitelyScored : History Operation :=
  [(⟨0, 0⟩, .put 7 (.ofPayload (.ofQuery .oneByQuery "SELECT 1") ⟨.single .row, infiniteScore⟩))]

theorem json_loses_infiniteScore :
    ∃ tier : PersistentTier, emptyText.stack = .persistent tier ∧
      tier.serializer = .ofFormat .json ∧ PayloadType.single .row ∈ PayloadType.covered ∧
      (∃ envelope, lastWritten 7 emptyText infinitelyScored = some envelope ∧
        envelope.payload = some ⟨.single .row, infiniteScore⟩) ∧
      ∃ found : Row,
        ((infinitelyScored.run perform emptyText).getTyped ⟨1, 0⟩ 7 (.single .row)).1 =
          .ok (some found) ∧
        found.score = none ∧ ¬ PayloadType.Alike (.single .row) found infiniteScore := by
  have new : PersistentTier.jsonText.IsNew .day := ⟨rfl, rfl, rfl, rfl, rfl⟩
  have told : (infinitelyScored.run perform emptyText).canStream ⟨1, 0⟩ 7 = true := rfl
  obtain ⟨envelope, payload, document, put, held, written, read⟩ :=
    (Carries.run new "text" _ infinitelyScored 7).getTyped_of_canStream rfl rfl told
  cases put
  cases held
  cases written
  have lost : Codec.Json.toRow? (Codec.Json.ofRow infiniteScore) =
      some { infiniteScore with score := none } :=
    Codec.Json.toRow?_ofRow_of_infinite rfl rfl
  refine ⟨_, rfl, rfl, by decide, ⟨_, rfl, rfl⟩, { infiniteScore with score := none }, ?_, rfl, ?_⟩
  · exact read.trans (congrArg Except.ok lost)
  · rintro ⟨_, _, same⟩
    cases same

end QueryCache

end ResultCache
