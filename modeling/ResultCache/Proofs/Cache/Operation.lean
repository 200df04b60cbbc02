import ResultCache.Cache
import ResultCache.Proofs.Persistent.Operation

/-!
Contract: the operations of a cache as data.

Owns:
- `QueryCache.IsNew`, a cache as it is created, over either stack;
- `QueryCache.Operation`, with the cache that each leaves and the answer that each gives,
  the same for every stack of tiers; fetches and executors are given by what they answer;
- `QueryCache.Event`, an operation or something that others do to the database meanwhile;
- what an invalidation does to what is remembered, and a put that succeeds; a put that
  fails changes nothing;
- the two ways that a read through the cache goes, and a refresh: with a put at its end,
  or without one.

Does not own: what the operations do to rows.
-/

namespace ResultCache

namespace QueryCache

/-- A cache as it is created: with a memory tier of either policy, or a persistent tier. -/
inductive IsNew (timeToLive : Duration) : QueryCache → Prop
  | memory (signature : String) (policy : ReplacementPolicy) (keys : KeyDeriver) :
      IsNew timeToLive ⟨signature, .memory (.create timeToLive policy), keys⟩
  | persistent (signature : String) {tier : PersistentTier} (new : tier.IsNew timeToLive)
      (keys : KeyDeriver) : IsNew timeToLive ⟨signature, .persistent tier, keys⟩

theorem IsNew.exists_policy {timeToLive : Duration} {cache : QueryCache}
    (new : cache.IsNew timeToLive) : ∃ policy, cache.metadata = .create timeToLive policy := by
  cases new with
  | memory signature policy keys => exact ⟨policy, rfl⟩
  | persistent signature new keys => exact ⟨.stripPayload, new.companion⟩

/-- A new cache that stores JSON text. -/
def emptyText : QueryCache where
  signature := "text"
  stack := .persistent
    { settings := .standard
      serializer := .json
      compressor := .ofSettings (.ofAlgorithm .none)
      database := .empty
      payloadTypes := .empty
      companion := .create .day .stripPayload }
  keys := .standard

theorem isNew_emptyText : emptyText.IsNew .day :=
  .persistent "text" ⟨rfl, rfl, rfl, rfl, rfl⟩ .standard

inductive Operation where
  | put (key : Key) (envelope : Envelope Payload)
  | getTyped (key : Key) (type : PayloadType)
  | getEnvelope (key : Key) (type : PayloadType)
  | getForRefresh (key : Key)
  | invalidate (key : Key)
  | clear
  | canStream (key : Key)
  | stream (key : Key) (sink : Sink)
  | streamCancellable (key : Key) (sink : Sink) (cancellation : Cancellation)
  | getOrFetch (key : Key) (type : PayloadType) (template : Provenance)
      (fetch : Unit → Except CacheError type.Value)
  | refresh (key : Key) (type : PayloadType) (execute : Provenance → Except CacheError type.Value)
  /-- A purge of what the cache remembers, in memory or in the companion. -/
  | purgeExpired (grace : Duration)

/-- The cache that an operation leaves. -/
def perform (cache : QueryCache) (now : Instant) : Operation → QueryCache
  | .put key envelope => (cache.put now key envelope).2
  | .getTyped key type => (cache.getTyped now key type).2
  | .getEnvelope key type => (cache.getEnvelope now key type).2
  | .getForRefresh _ | .canStream _ | .stream _ _ | .streamCancellable _ _ _ => cache
  | .invalidate key => (cache.invalidate now key).2
  | .clear => cache.clear.2
  | .getOrFetch key type template fetch => (cache.getOrFetch now key type template fetch).2
  | .refresh key type execute => (cache.refresh now key type execute).2
  | .purgeExpired grace => cache.withMetadata (cache.metadata.purgeExpired now grace).2

inductive Answer where
  | put (outcome : Except CacheError Unit)
  | payload (type : PayloadType) (outcome : Except CacheError (Option type.Value))
  | envelope (type : PayloadType) (outcome : Except CacheError (Option (Envelope type.Value)))
  | remembered (outcome : Except CacheError (Option (Envelope Payload)))
  | invalidated (present : Bool)
  | cleared (outcome : Except CacheError Unit)
  | streamable (verdict : Bool)
  | delivered (delivery : Delivery)
  | fetched (type : PayloadType) (result : ReadThrough type.Value)
  | refreshed (type : PayloadType) (result : Refreshed type.Value)
  | purged (count : Nat)

def answer (cache : QueryCache) (now : Instant) : Operation → Answer
  | .put key envelope => .put (cache.put now key envelope).1
  | .getTyped key type => .payload type (cache.getTyped now key type).1
  | .getEnvelope key type => .envelope type (cache.getEnvelope now key type).1
  | .getForRefresh key => .remembered (cache.getForRefresh key)
  | .invalidate key => .invalidated (cache.invalidate now key).1
  | .clear => .cleared cache.clear.1
  | .canStream key => .streamable (cache.canStream now key)
  | .stream key sink => .delivered (cache.stream now key sink)
  | .streamCancellable key sink cancellation =>
    .delivered (cache.streamCancellable now key sink cancellation)
  | .getOrFetch key type template fetch =>
    .fetched type (cache.getOrFetch now key type template fetch).1
  | .refresh key type execute => .refreshed type (cache.refresh now key type execute).1
  | .purgeExpired grace => .purged (cache.metadata.purgeExpired now grace).1

/-- The cache after a change to its database; there is none in memory. -/
def onDatabase (cache : QueryCache) (change : Database → Database) : QueryCache :=
  match cache.stack with
  | .memory _ => cache
  | .persistent tier =>
    { cache with stack := .persistent { tier with database := change tier.database } }

/-- What comes upon a cache. -/
inductive Event where
  | operation (operation : Operation)
  /-- A change that others make to the database: a lock that is taken or let go, an edit. -/
  | outside (change : Database → Database)

def advance (cache : QueryCache) (now : Instant) : Event → QueryCache
  | .operation operation => cache.perform now operation
  | .outside change => cache.onDatabase change

def observe (cache : QueryCache) (now : Instant) : Event → Option Answer
  | .operation operation => some (cache.answer now operation)
  | .outside _ => none

/-! ### What is remembered -/

@[simp] theorem metadata_withMetadata (cache : QueryCache) (metadata : MemoryTier) :
    (cache.withMetadata metadata).metadata = metadata := by
  obtain ⟨signature, stack, keys⟩ := cache
  cases stack <;> rfl

theorem metadata_invalidate (cache : QueryCache) (now : Instant) (key : Key) :
    (cache.invalidate now key).2.metadata =
      if cache.isPersistent then (cache.metadata.expire now key).2
      else (cache.metadata.invalidate key).2 := by
  obtain ⟨signature, stack, keys⟩ := cache
  cases stack <;> rfl

/-- A put does not change what tiers there are. -/
theorem isPersistent_put (cache : QueryCache) (now : Instant) (key : Key)
    (envelope : Envelope Payload) :
    (cache.put now key envelope).2.isPersistent = cache.isPersistent := by
  obtain ⟨signature, stack, keys⟩ := cache
  cases stack <;> rfl

/-! ### Operations in cases -/

/-- A put fails and leaves the cache as it was, or it succeeds and is remembered, with its
payload or without. -/
theorem put_cases (cache : QueryCache) (now : Instant) (key : Key)
    (envelope : Envelope Payload) :
    (∃ failure, cache.put now key envelope = (.error failure, cache)) ∨
      ∃ kept : Envelope Payload, kept.provenance = envelope.provenance ∧
        (cache.put now key envelope).1 = .ok () ∧
        (cache.put now key envelope).2.metadata = cache.metadata.put now key kept := by
  obtain ⟨signature, stack, keys⟩ := cache
  cases stack with
  | memory tier => exact .inr ⟨envelope, rfl, rfl, rfl⟩
  | persistent tier =>
      -- A persistent put keeps the provenance in the companion and the payload in the row.
      change (∃ failure, ((tier.put now key envelope).1,
          QueryCache.mk signature (.persistent (tier.put now key envelope).2) keys) = _) ∨
        ∃ kept : Envelope Payload, _ ∧ (tier.put now key envelope).1 = .ok () ∧
          (tier.put now key envelope).2.companion = tier.companion.put now key kept
      rcases tier.put_cases now key envelope with
        ⟨failure, failed⟩ | ⟨_, _, _, _, _, _, succeeded⟩
      · rw [failed]
        exact .inl ⟨failure, rfl⟩
      · rw [succeeded]
        exact .inr ⟨envelope.metadataOnly, rfl, rfl, rfl⟩

theorem put_eq_self_of_error {cache : QueryCache} {now : Instant} {key : Key}
    {envelope : Envelope Payload} {failure : CacheError}
    (failed : (cache.put now key envelope).1 = .error failure) :
    (cache.put now key envelope).2 = cache := by
  rcases cache.put_cases now key envelope with ⟨_, unchanged⟩ | ⟨_, _, succeeded, _⟩
  · rw [unchanged]
  · rw [succeeded] at failed
    cases failed

/-- A read through the cache leaves what its typed read leaves, and has fetched nothing
then or failed; or it puts what it fetched. -/
theorem getOrFetch_cases (cache : QueryCache) (now : Instant) (key : Key) (type : PayloadType)
    (template : Provenance) (fetch : Unit → Except CacheError type.Value) :
    (∃ outcome fetches, cache.getOrFetch now key type template fetch =
        (⟨outcome, fetches⟩, (cache.getTyped now key type).2) ∧
        (fetches = 0 ∨ ∃ failure, outcome = .error failure)) ∨
      ∃ value, fetch () = .ok value ∧ cache.getOrFetch now key type template fetch =
        (⟨((cache.getTyped now key type).2.put now key
            (.ofPayload template ⟨type, value⟩)).1.map fun _ => value, 1⟩,
          ((cache.getTyped now key type).2.put now key (.ofPayload template ⟨type, value⟩)).2) := by
  unfold getOrFetch
  rcases cache.getTyped now key type with ⟨failure | (_ | value), read⟩
  · exact .inl ⟨_, _, rfl, .inl rfl⟩
  · dsimp only
    cases fetch () with
    | error failure => exact .inl ⟨_, _, rfl, .inr ⟨_, rfl⟩⟩
    | ok value => exact .inr ⟨value, rfl, rfl⟩
  · exact .inl ⟨_, _, rfl, .inl rfl⟩

/-- A refresh leaves the cache as it was and gives no value; or it puts what it got for
the fetch that is remembered. -/
theorem refresh_cases (cache : QueryCache) (now : Instant) (key : Key) (type : PayloadType)
    (execute : Provenance → Except CacheError type.Value) :
    (∃ outcome requests, cache.refresh now key type execute = (⟨outcome, requests⟩, cache) ∧
        ∀ value, outcome ≠ .ok (some value)) ∨
      ∃ remembered value, cache.getForRefresh key = .ok (some remembered) ∧
        execute remembered.provenance = .ok value ∧
        cache.refresh now key type execute =
          (⟨(cache.put now key (.ofPayload remembered.provenance ⟨type, value⟩)).1.map
              fun _ => some value, [remembered.provenance]⟩,
            (cache.put now key (.ofPayload remembered.provenance ⟨type, value⟩)).2) := by
  unfold refresh
  rcases cache.getForRefresh key with failure | (_ | remembered)
  · exact .inl ⟨_, _, rfl, by simp⟩
  · exact .inl ⟨_, _, rfl, by simp⟩
  · dsimp only
    cases executed : execute remembered.provenance with
    | error failure => exact .inl ⟨_, _, rfl, by simp⟩
    | ok value => exact .inr ⟨remembered, value, rfl, executed, rfl⟩

end QueryCache

end ResultCache
