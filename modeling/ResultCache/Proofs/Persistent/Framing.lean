import ResultCache.Proofs.Compression
import ResultCache.Proofs.Persistent.Operation

/-!
Contract: what a persistent tier makes of the content of its serializer, and back.

Owns:
- that what is decoded is the content of the serializer in the storage class of the tier, so
  that compression is never seen from outside;
- which payloads are refused, and that tiers that store text compress nothing;
- the law of frames: they are read back across settings, by their tags alone.

Does not own: what a serializer reads from the content that it made.
-/

namespace ResultCache

namespace PersistentTier

variable {tier : PersistentTier}

theorem decode_binary (tier : PersistentTier) (type : PayloadType) (octets : Bytes)
    (asList : Bool) :
    tier.decode type (.binary octets) asList =
      tier.compressor.decode octets >>= fun bytes =>
        tier.serializer.deserialize type (.binary bytes) asList := by
  cases enabled : tier.compressor.isEnabled with
  | true => exact if_pos enabled
  | false =>
      rw [Compression.Compressor.decode_of_disabled enabled]
      exact if_neg (Bool.eq_false_iff.1 enabled)

/-- Stored content is decoded as the serializer reads the content itself. -/
theorem decode_of_compressOctets (lawful : tier.compressor.Lawful)
    {content stored : StoredContent} (compressed : tier.compressOctets content = .ok stored)
    (type : PayloadType) (asList : Bool) :
    tier.decode type stored asList = tier.serializer.deserialize type content asList := by
  cases content with
  | text text =>
      cases compressed
      rfl
  | binary octets =>
      cases encoded : tier.compressor.encode octets with
      | error failure =>
          rw [compressOctets, encoded] at compressed
          cases compressed
      | ok frame =>
          rw [compressOctets, encoded] at compressed
          cases compressed
          rw [decode_binary, Compression.Compressor.decode_of_encode lawful encoded]
          rfl

/-- What is decoded is what the serializer made, in the storage class of the tier. -/
theorem exists_serialized_of_encode (lawful : tier.compressor.Lawful) {payload : Payload}
    {stored : StoredContent} (encoded : tier.encode payload = .ok stored) :
    ∃ made, tier.serializer.serialize payload tier.settings.textFormat = .ok made ∧
      ∀ type asList, tier.decode type stored asList =
        tier.serializer.deserialize type (made.inClass tier.settings.textFormat) asList := by
  rw [encode_eq_compressOctets] at encoded
  obtain ⟨made, serialized, compressed⟩ := CacheError.exists_ok_of_bind encoded
  exact ⟨made, serialized, decode_of_compressOctets lawful compressed⟩

/-- A payload is refused by the serializer, or by the compressor when it comes to octets. -/
theorem encode_eq_error_iff {payload : Payload} {failure : CacheError} :
    tier.encode payload = .error failure ↔
      tier.serializer.serialize payload tier.settings.textFormat = .error failure ∨
        ∃ made octets, tier.serializer.serialize payload tier.settings.textFormat = .ok made ∧
          made.inClass tier.settings.textFormat = .binary octets ∧
          tier.compressor.encode octets = .error failure := by
  rw [encode_eq_compressOctets]
  cases serialized : tier.serializer.serialize payload tier.settings.textFormat with
  | error refused => simp [bind, Except.bind]
  | ok made =>
      change tier.compressOctets (made.inClass tier.settings.textFormat) = .error failure ↔ _
      cases classed : made.inClass tier.settings.textFormat with
      | text text => simp [compressOctets, classed]
      | binary octets =>
          cases compressed : tier.compressor.encode octets <;>
            simp [compressOctets, classed, compressed, Except.map]

theorem compressOctets_of_disabled (disabled : tier.compressor.isEnabled = false)
    (content : StoredContent) : tier.compressOctets content = .ok content := by
  cases content with
  | text text => rfl
  | binary octets =>
      rw [compressOctets, Compression.Compressor.encode_of_disabled disabled]
      rfl

/-- Accepted settings compress nothing in a tier that stores text. -/
theorem algorithm_eq_none_of_validate {settings : Persistent.Settings} {serializer : Serializer}
    (valid : validate settings serializer = .ok ()) (text : settings.textFormat = true) :
    settings.compression.algorithm = .none := by
  by_contra compresses
  unfold validate at valid
  split at valid
  · cases valid
  · simp [text, compresses] at valid

/-- A tier of accepted settings that stores text stores what its serializer made. -/
theorem encode_of_textFormat (valid : validate tier.settings tier.serializer = .ok ())
    (compression : tier.compressor.settings = tier.settings.compression)
    (text : tier.settings.textFormat = true) (payload : Payload) :
    tier.encode payload = tier.serializer.serialize payload true := by
  have disabled : tier.compressor.isEnabled = false := by
    rw [Compression.Compressor.isEnabled, compression, algorithm_eq_none_of_validate valid text]
    rfl
  rw [encode_eq_compressOctets, text]
  cases serialized : tier.serializer.serialize payload true with
  | error failure => rfl
  | ok made =>
      have kept : made.inClass true = made := by
        cases made <;> rfl
      exact (compressOctets_of_disabled disabled _).trans (congrArg Except.ok kept)

/-- The law of frames. Compressors with the same lawful codecs read the frames of each other,
whatever their settings, as long as both are enabled or neither is. So a tier with settings that
are accepted decodes what its serializer would read alone. -/
theorem frames_selfDescribing {lz4 zstd : Compression.BlockCodec} (lz4Lawful : lz4.Lawful)
    (zstdLawful : zstd.Lawful) :
    (∀ (writer reader : Compression.Settings) (bytes frame : Bytes),
      Compression.Compressor.isEnabled ⟨writer, lz4, zstd⟩ = true →
      Compression.Compressor.isEnabled ⟨reader, lz4, zstd⟩ = true →
      Compression.Compressor.encode ⟨writer, lz4, zstd⟩ bytes = .ok frame →
        frame ≠ [] ∧
        (frame = 0 :: bytes ↔ bytes.length < writer.leastSize) ∧
        (¬bytes.length < writer.leastSize → frame.head? = some writer.algorithm.tag) ∧
        Compression.Compressor.decode ⟨reader, lz4, zstd⟩ frame = .ok bytes) ∧
    (∀ (writer reader : Compression.Settings) (bytes : Bytes),
      Compression.Compressor.isEnabled ⟨writer, lz4, zstd⟩ = false →
      Compression.Compressor.isEnabled ⟨reader, lz4, zstd⟩ = false →
        Compression.Compressor.encode ⟨writer, lz4, zstd⟩ bytes = .ok bytes ∧
        Compression.Compressor.decode ⟨reader, lz4, zstd⟩ bytes = .ok bytes) ∧
    ∀ (tier : PersistentTier) (payload : Payload),
      validate tier.settings tier.serializer = .ok () →
      tier.compressor = ⟨tier.settings.compression, lz4, zstd⟩ →
        (∀ failure, tier.encode payload = .error failure ↔
          tier.serializer.serialize payload tier.settings.textFormat = .error failure ∨
            ∃ made octets,
              tier.serializer.serialize payload tier.settings.textFormat = .ok made ∧
              made.inClass tier.settings.textFormat = .binary octets ∧
              tier.compressor.encode octets = .error failure) ∧
        ∀ stored, tier.encode payload = .ok stored →
          ∃ made, tier.serializer.serialize payload tier.settings.textFormat = .ok made ∧
            (tier.settings.textFormat = true → stored = made) ∧
            ∀ type asList, tier.decode type stored asList =
              tier.serializer.deserialize type (made.inClass tier.settings.textFormat) asList := by
  have lawful (settings : Compression.Settings) :
      Compression.Compressor.Lawful ⟨settings, lz4, zstd⟩ := ⟨lz4Lawful, zstdLawful⟩
  refine ⟨?frames, ?passed, ?tiers⟩
  case frames =>
    intro writer reader bytes frame enabled enabledToo encoded
    obtain ⟨body, _, framed⟩ := Compression.Compressor.exists_body_of_encode enabled encoded
    refine ⟨?_, Compression.Compressor.frame_eq_zero_cons_iff enabled encoded, ?_,
      Compression.Compressor.decode_of_encode_of_enabled (lawful writer) enabled reader enabledToo
        encoded⟩
    · rw [framed]
      exact List.cons_ne_nil _ _
    · intro large
      rw [framed, Compression.Compressor.algorithmFor, if_neg large]
      rfl
  case passed =>
    intro writer reader bytes disabled disabledToo
    exact ⟨Compression.Compressor.encode_of_disabled disabled bytes,
      Compression.Compressor.decode_of_disabled disabledToo bytes⟩
  case tiers =>
    intro tier payload valid compressor
    refine ⟨fun failure => encode_eq_error_iff, ?_⟩
    intro stored encoded
    obtain ⟨made, serialized, decoded⟩ :=
      exists_serialized_of_encode (compressor ▸ lawful _) encoded
    refine ⟨made, serialized, ?_, decoded⟩
    intro text
    rw [text] at serialized
    have kept := encode_of_textFormat valid (compressor ▸ rfl) text payload
    exact Except.ok.inj (encoded.symm.trans (kept.trans serialized))

/-- A new tier that stores JSON in octets and compresses all of them. -/
def jsonCompressed : PersistentTier where
  settings := ⟨{ Persistent.Tuning.standard with textFormat := false }, ⟨.zstd, 0, 19⟩⟩
  serializer := .json
  compressor := ⟨⟨.zstd, 0, 19⟩, .sealed, .sealed⟩
  database := .empty
  payloadTypes := .empty
  companion := .create .day .stripPayload

/-- Two octets that look like a frame, below a least size of three, are read back by the other
algorithm at another level; and a truth value comes out of a compressed row. -/
theorem frames_selfDescribing_sealed :
    Compression.BlockCodec.sealed.Lawful ∧
      Compression.Compressor.encode ⟨⟨.lz4, 3, 3⟩, .sealed, .sealed⟩ [1, 0] = .ok [0, 1, 0] ∧
      Compression.Compressor.decode ⟨⟨.zstd, 0, 22⟩, .sealed, .sealed⟩ [0, 1, 0] = .ok [1, 0] ∧
      validate jsonCompressed.settings jsonCompressed.serializer = .ok () ∧
      ∃ stored, jsonCompressed.encode ⟨.single .bool, true⟩ = .ok stored ∧
        ∀ type asList, jsonCompressed.decode type stored asList =
          Serializer.json.deserialize type (.binary (Text.toBytes "true")) asList := by
  have lawful := Compression.BlockCodec.sealed_lawful
  obtain ⟨frames, _, tiers⟩ := frames_selfDescribing lawful lawful
  have framed :
      Compression.Compressor.encode ⟨⟨.lz4, 3, 3⟩, .sealed, .sealed⟩ [1, 0] = .ok [0, 1, 0] := rfl
  have valid : validate jsonCompressed.settings jsonCompressed.serializer = .ok () := rfl
  obtain ⟨_, stores⟩ := tiers jsonCompressed ⟨.single .bool, true⟩ valid rfl
  obtain ⟨stored, encoded⟩ :
      ∃ stored, jsonCompressed.encode ⟨.single .bool, true⟩ = .ok stored := ⟨_, rfl⟩
  obtain ⟨made, serialized, _, decoded⟩ := stores stored encoded
  obtain rfl : StoredContent.binary (Text.toBytes "true") = made := Except.ok.inj serialized
  exact ⟨lawful, framed, (frames ⟨.lz4, 3, 3⟩ ⟨.zstd, 0, 22⟩ [1, 0] _ rfl rfl framed).2.2.2,
    valid, stored, encoded, decoded⟩

end PersistentTier

end ResultCache
