import ResultCache.Database
import ResultCache.MemoryTier
import ResultCache.Persistent.Settings
import ResultCache.Serializer
import ResultCache.Stream

/-!
Contract: the tier that keeps payloads in a database.

Owns:
- `PersistentTier`: a table of rows, the payload type recorded for every key that
  was put, and a companion memory tier that keeps everything but payloads and
  query texts of rows;
- puts, which write the row, then the type, then the companion, and write nothing
  when any step before the first write fails;
- typed reads, which find a payload only behind a fresh companion entry, a record
  of exactly the type asked for, and a row that decodes;
- reads for a refresh, rows as they are, and the two streams of text content.

Rows are never removed by expiry or invalidation. They are passed over until the
next put replaces them or the table is cleared.
-/

namespace ResultCache

/-- Payloads in a database, with everything else about them in memory. -/
structure PersistentTier where
  settings : Persistent.Settings
  serializer : Serializer
  compressor : Compression.Compressor
  database : Database
  payloadTypes : KeyMap PayloadType
  companion : MemoryTier

namespace PersistentTier

/-- Why settings and a serializer do not go together, if they do not. -/
def validate (settings : Persistent.Settings) (serializer : Serializer) : Except CacheError Unit :=
  if settings.textFormat && !serializer.supportsText then
    .error (.configuration .textNeedsTextSerializer)
  else if settings.textFormat && settings.compression.algorithm ≠ .none then
    .error (.configuration .compressionNeedsBinaryTier)
  else .ok ()

/-- The tier with an empty table in a database that was opened for it. -/
def create (settings : Persistent.Settings) (serializer : Serializer) (timeToLive : Duration)
    (database : Database) : Except CacheError PersistentTier := do
  validate settings serializer
  let database ← database.recreate
  return {
    settings
    serializer
    compressor := .ofSettings settings.compression
    database
    payloadTypes := .empty
    companion := .create timeToLive .stripPayload }

/-- The stored form of a payload. In a tier that stores no text, text is stored as
its octets, so that every row has one storage class. -/
def encode (tier : PersistentTier) (payload : Payload) : Except CacheError StoredContent := do
  match ← tier.serializer.serialize payload tier.settings.textFormat with
  | .binary octets => return .binary (← tier.compressor.encode octets)
  | .text text =>
    if tier.settings.textFormat then return .text text
    else return .binary (← tier.compressor.encode (Text.toBytes text))

/-- The value of a stored form at a payload type. -/
def decode (tier : PersistentTier) (type : PayloadType) (content : StoredContent)
    (asList : Bool) : Except CacheError type.Value :=
  match content with
  | .binary octets =>
    if tier.compressor.isEnabled then do
      let octets ← tier.compressor.decode octets
      tier.serializer.deserialize type (.binary octets) asList
    else tier.serializer.deserialize type content asList
  | .text _ => tier.serializer.deserialize type content asList

/-- Writes the row of a payload, the type of it, and the rest of its envelope. -/
def put (tier : PersistentTier) (now : Instant) (key : Key) (envelope : Envelope Payload) :
    Except CacheError Unit × PersistentTier :=
  match envelope.payload with
  | none => (.error (.invalidOperation (.putWithoutPayload key)), tier)
  | some payload =>
    match tier.encode payload with
    | .error failure => (.error failure, tier)
    | .ok content =>
      match tier.database.upsert key (.ofContent envelope.provenance.query content) with
      | .error failure => (.error failure, tier)
      | .ok database =>
        (.ok (),
          { tier with
            database
            payloadTypes := tier.payloadTypes.insert key payload.type
            companion := tier.companion.put now key envelope.metadataOnly })

/-- The envelope of a remembered entry with the payload of its row, when there is a
row and it decodes. The query text is that of the row. -/
def readRow (tier : PersistentTier) (key : Key) (type : PayloadType)
    (remembered : Envelope Payload) : Except CacheError (Option (Envelope type.Value)) := do
  match ← tier.database.record tier.settings.textFormat key with
  | none => return none
  | some record =>
    match tier.decode type record.content remembered.provenance.shape.isListShaped with
    | .ok value =>
      return some
        { provenance := { remembered.provenance with query := record.query }
          payload := some value
          expires := remembered.expires }
    | .error (.serialization _) => return none
    | .error (.compression _) => return none
    | .error failure => throw failure

/-- A typed read: the fresh envelope of a key at a payload type. -/
def getEnvelope (tier : PersistentTier) (now : Instant) (key : Key) (type : PayloadType) :
    Except CacheError (Option (Envelope type.Value)) × PersistentTier :=
  match tier.companion.getForRefresh key with
  | none => (.ok none, tier)
  | some remembered =>
    if remembered.isFreshAt now then
      match tier.payloadTypes.get? key with
      | none => (.ok none, tier)
      | some recorded =>
        if recorded = type then (tier.readRow key type remembered, tier)
        else (.ok none, { tier with companion := tier.companion.recordTypeMismatch })
    else (.ok none, tier)

def getTyped (tier : PersistentTier) (now : Instant) (key : Key) (type : PayloadType) :
    Except CacheError (Option type.Value) × PersistentTier :=
  let (outcome, tier) := tier.getEnvelope now key type
  (outcome.map fun envelope => envelope.bind Envelope.payload, tier)

/-- The envelope of a key, expired as it may be. A query text that the companion
lacks is taken from the row, but for shapes that have none. -/
def getForRefresh (tier : PersistentTier) (key : Key) :
    Except CacheError (Option (Envelope Payload)) :=
  match tier.companion.getForRefresh key with
  | none => .ok none
  | some remembered =>
    if remembered.provenance.shape.isExpressionBased || remembered.provenance.query.isSome then
      .ok (some remembered)
    else do
      let query ← tier.database.queryText key
      return some { remembered with provenance := { remembered.provenance with query } }

/-- The row of a key, expired as it may be. -/
def record (tier : PersistentTier) (key : Key) : Except CacheError (Option Record) :=
  tier.database.record tier.settings.textFormat key

/-- The number of rows, those of expired entries included. -/
def rowCount (tier : PersistentTier) : Except CacheError Nat := tier.database.rowCount

/-- Whether an entry can be streamed: text content behind a fresh companion entry. -/
def canStream (tier : PersistentTier) (now : Instant) (key : Key) : Bool :=
  tier.settings.textFormat &&
    (tier.companion.getForRefresh key).any fun envelope => envelope.isFreshAt now

/-- Why an entry cannot be streamed, if it cannot, as far as the companion knows. -/
def checkStreamable (tier : PersistentTier) (now : Instant) (key : Key) : Except CacheError Unit :=
  if tier.settings.textFormat then
    match tier.companion.getForRefresh key with
    | none => .error (.invalidOperation (.entryMissing key))
    | some envelope =>
      if envelope.isFreshAt now then .ok () else .error (.invalidOperation (.entryExpired key))
  else .error (.invalidOperation .binaryNotStreamable)

def stream (tier : PersistentTier) (now : Instant) (key : Key) (sink : Sink) : Delivery :=
  match tier.checkStreamable now key with
  | .error failure => .refused failure
  | .ok () =>
    match tier.database.contentOctets key with
    | .error failure => .refused failure
    | .ok content => Transfer.copy sink content

/-- Copies the content of an entry to a sink unless a request to stop comes. One
that is there from the start comes before any failure to fetch content. -/
def streamCancellable (tier : PersistentTier) (now : Instant) (key : Key) (sink : Sink)
    (cancellation : Cancellation) : Delivery :=
  match tier.checkStreamable now key with
  | .error failure => .refused failure
  | .ok () =>
    match tier.database.contentOctets key with
    | .error failure =>
      if cancellation.requested .beforePiece 0 0 || cancellation.requested .duringFetch 0 0 then
        .refused (.cancelled 0)
      else .refused failure
    | .ok content => Transfer.copyCancellable sink cancellation content

/-- Ends the freshness of an entry; its row stays. -/
def invalidate (tier : PersistentTier) (now : Instant) (key : Key) : Bool × PersistentTier :=
  let (present, companion) := tier.companion.expire now key
  (present, { tier with companion })

/-- Empties the table and forgets the payload types; the companion is left alone. -/
def clear (tier : PersistentTier) : Except CacheError Unit × PersistentTier :=
  match tier.database.recreate with
  | .error failure => (.error failure, tier)
  | .ok database => (.ok (), { tier with database, payloadTypes := .empty })

end PersistentTier

end ResultCache
