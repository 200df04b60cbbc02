import ResultCache.Fingerprint
import ResultCache.Persistent.Tier

/-!
Contract: the cache of one database signature.

Owns:
- `QueryCache`, a signature, the tiers behind it, and how it derives keys;
- the operations that are the same whatever the tiers are;
- reading through to a fetch, and issuing a remembered fetch again.

Which tiers there are is settled when a cache is made and never changes.
-/

namespace ResultCache

/-- The tiers of a cache. -/
inductive TierStack where
  /-- Payloads and everything about them in memory. -/
  | memory (tier : MemoryTier)
  /-- Payloads in a database, everything about them in memory. -/
  | persistent (tier : PersistentTier)

/-- The cache of one signature. -/
structure QueryCache where
  signature : String
  stack : TierStack
  keys : KeyDeriver

namespace QueryCache

def isPersistent (cache : QueryCache) : Bool :=
  match cache.stack with
  | .memory _ => false
  | .persistent _ => true

def metadata (cache : QueryCache) : MemoryTier :=
  match cache.stack with
  | .memory tier => tier
  | .persistent tier => tier.companion

def withMetadata (cache : QueryCache) (metadata : MemoryTier) : QueryCache :=
  match cache.stack with
  | .memory _ => { cache with stack := .memory metadata }
  | .persistent tier => { cache with stack := .persistent { tier with companion := metadata } }

def put (cache : QueryCache) (now : Instant) (key : Key) (envelope : Envelope Payload) :
    Except CacheError Unit × QueryCache :=
  match cache.stack with
  | .memory tier => (.ok (), { cache with stack := .memory (tier.put now key envelope) })
  | .persistent tier =>
    let (outcome, tier) := tier.put now key envelope
    (outcome, { cache with stack := .persistent tier })

/-- A typed read: the fresh envelope of a key at a payload type. -/
def getEnvelope (cache : QueryCache) (now : Instant) (key : Key) (type : PayloadType) :
    Except CacheError (Option (Envelope type.Value)) × QueryCache :=
  match cache.stack with
  | .memory tier =>
    let (envelope, tier) := tier.getEnvelope now key type
    (.ok envelope, { cache with stack := .memory tier })
  | .persistent tier =>
    let (outcome, tier) := tier.getEnvelope now key type
    (outcome, { cache with stack := .persistent tier })

def getTyped (cache : QueryCache) (now : Instant) (key : Key) (type : PayloadType) :
    Except CacheError (Option type.Value) × QueryCache :=
  let (outcome, cache) := cache.getEnvelope now key type
  (outcome.map fun envelope => envelope.bind Envelope.payload, cache)

/-- The envelope of a key, expired or without payload as it may be. -/
def getForRefresh (cache : QueryCache) (key : Key) : Except CacheError (Option (Envelope Payload)) :=
  match cache.stack with
  | .memory tier => .ok (tier.getForRefresh key)
  | .persistent tier => tier.getForRefresh key

/-- Removes an entry in memory; ends the freshness of a persistent one. -/
def invalidate (cache : QueryCache) (now : Instant) (key : Key) : Bool × QueryCache :=
  match cache.stack with
  | .memory tier =>
    let (present, tier) := tier.invalidate key
    (present, { cache with stack := .memory tier })
  | .persistent tier =>
    let (present, tier) := tier.invalidate now key
    (present, { cache with stack := .persistent tier })

def clear (cache : QueryCache) : Except CacheError Unit × QueryCache :=
  match cache.stack with
  | .memory tier => (.ok (), { cache with stack := .memory tier.clear })
  | .persistent tier =>
    match tier.clear with
    | (.error failure, tier) => (.error failure, { cache with stack := .persistent tier })
    | (.ok (), tier) =>
      (.ok (), { cache with stack := .persistent { tier with companion := tier.companion.clear } })

def canStream (cache : QueryCache) (now : Instant) (key : Key) : Bool :=
  match cache.stack with
  | .memory _ => false
  | .persistent tier => tier.canStream now key

def stream (cache : QueryCache) (now : Instant) (key : Key) (sink : Sink) : Delivery :=
  match cache.stack with
  | .memory _ => .refused (.invalidOperation .memoryNotStreamable)
  | .persistent tier => tier.stream now key sink

/-- Copies the content of an entry to a sink unless a request to stop comes. -/
def streamCancellable (cache : QueryCache) (now : Instant) (key : Key) (sink : Sink)
    (cancellation : Cancellation) : Delivery :=
  match cache.stack with
  | .memory _ => .refused (.invalidOperation .memoryNotStreamable)
  | .persistent tier => tier.streamCancellable now key sink cancellation

/-! ### Fetching through the cache -/

/-- What came of a read that may have fetched. -/
structure ReadThrough (Value : Type) where
  outcome : Except CacheError Value
  /-- How often the fetch was run. -/
  fetches : Nat

/-- The payload of a key, fetched and put under a template when the cache has none. -/
def getOrFetch (cache : QueryCache) (now : Instant) (key : Key) (type : PayloadType)
    (template : Provenance) (fetch : Unit → Except CacheError type.Value) :
    ReadThrough type.Value × QueryCache :=
  match cache.getTyped now key type with
  | (.error failure, cache) => (⟨.error failure, 0⟩, cache)
  | (.ok (some value), cache) => (⟨.ok value, 0⟩, cache)
  | (.ok none, cache) =>
    match fetch () with
    | .error failure => (⟨.error failure, 1⟩, cache)
    | .ok value =>
      let (outcome, cache) := cache.put now key (.ofPayload template ⟨type, value⟩)
      (⟨outcome.map fun _ => value, 1⟩, cache)

/-- What came of a refresh. -/
structure Refreshed (Value : Type) where
  /-- The value fetched; none when nothing is remembered. -/
  outcome : Except CacheError (Option Value)
  /-- The fetches issued. -/
  requests : List Provenance

/-- Issues the remembered fetch of a key again and puts what it gives. -/
def refresh (cache : QueryCache) (now : Instant) (key : Key) (type : PayloadType)
    (execute : Provenance → Except CacheError type.Value) : Refreshed type.Value × QueryCache :=
  match cache.getForRefresh key with
  | .error failure => (⟨.error failure, []⟩, cache)
  | .ok none => (⟨.ok none, []⟩, cache)
  | .ok (some remembered) =>
    let request := remembered.provenance
    match execute request with
    | .error failure => (⟨.error failure, [request]⟩, cache)
    | .ok value =>
      let (outcome, cache) := cache.put now key (.ofPayload request ⟨type, value⟩)
      (⟨outcome.map fun _ => some value, [request]⟩, cache)

end QueryCache

end ResultCache
