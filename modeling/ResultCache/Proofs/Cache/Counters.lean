import ResultCache.Proofs.Cache.Operation

/-!
Contract: counters count, and do nothing else.

Owns:
- `Counters.SameWrites`, counters that agree on everything but reads, and that a typed
  read keeps them so;
- `QueryCache.withCounters`, a cache with its counters replaced;
- that every operation answers the same whatever the counters are, and leaves caches that
  differ in nothing else.

Does not own: what is counted when.
-/

namespace ResultCache

/-- Counters that agree on everything but reads. -/
structure Counters.SameWrites (first second : Counters) : Prop where
  puts : first.puts = second.puts
  replacements : first.replacements = second.replacements
  invalidations : first.invalidations = second.invalidations

namespace MemoryTier

variable (tier : MemoryTier) (counters : Counters) (now : Instant) (key : Key)

theorem getEnvelope_sameWrites (type : PayloadType) :
    (tier.getEnvelope now key type).2.counters.SameWrites tier.counters := by
  unfold getEnvelope
  split
  · exact ⟨rfl, rfl, rfl⟩
  · split
    · split
      · exact ⟨rfl, rfl, rfl⟩
      · exact ⟨rfl, rfl, rfl⟩
    · exact ⟨rfl, rfl, rfl⟩

def withCounters : MemoryTier := { tier with counters }

theorem getEnvelope_withCounters (type : PayloadType) :
    ∃ after, (tier.withCounters counters).getEnvelope now key type =
      ((tier.getEnvelope now key type).1,
        (tier.getEnvelope now key type).2.withCounters after) := by
  obtain ⟨after, changed⟩ := (tier.withCounters counters).getEnvelope_eq_count now key type
  obtain ⟨_, same⟩ := tier.getEnvelope_eq_count now key type
  refine ⟨after, Prod.ext ?_ ?_⟩
  · rw [getEnvelope_eq_bind, getEnvelope_eq_bind]
    rfl
  · rw [changed, same]
    rfl

theorem expire_withCounters :
    (tier.withCounters counters).expire now key =
      ((tier.expire now key).1, (tier.expire now key).2.withCounters counters) := by
  unfold expire withCounters
  cases tier.entries.get? key with
  | none => rfl
  | some envelope => rfl

theorem invalidate_withCounters :
    ∃ after, (tier.withCounters counters).invalidate key =
      ((tier.invalidate key).1, (tier.invalidate key).2.withCounters after) := by
  unfold invalidate withCounters
  by_cases present : tier.entries.contains key = true
  · simp only [if_pos present]
    exact ⟨_, rfl⟩
  · simp only [if_neg present]
    exact ⟨counters, rfl⟩

end MemoryTier

namespace PersistentTier

variable (tier : PersistentTier) (counters : Counters) (now : Instant) (key : Key)

/-- The tier with the counters of its companion replaced. -/
def withCounters : PersistentTier :=
  { tier with companion := tier.companion.withCounters counters }

theorem put_withCounters (envelope : Envelope Payload) :
    ∃ after, (tier.withCounters counters).put now key envelope =
      ((tier.put now key envelope).1, (tier.put now key envelope).2.withCounters after) := by
  have sameEncoding : (tier.withCounters counters).encode = tier.encode := rfl
  have sameDatabase : (tier.withCounters counters).database = tier.database := rfl
  unfold put
  rw [sameEncoding, sameDatabase]
  cases envelope.payload with
  | none => exact ⟨counters, rfl⟩
  | some payload =>
      dsimp only
      cases tier.encode payload with
      | error failure => exact ⟨counters, rfl⟩
      | ok content =>
          dsimp only
          cases tier.database.upsert key (.ofContent envelope.provenance.query content) with
          | error failure => exact ⟨counters, rfl⟩
          | ok database => exact ⟨_, rfl⟩

theorem getEnvelope_sameWrites (type : PayloadType) :
    (tier.getEnvelope now key type).2.companion.counters.SameWrites tier.companion.counters := by
  unfold getEnvelope
  split
  · exact ⟨rfl, rfl, rfl⟩
  · split
    · split
      · exact ⟨rfl, rfl, rfl⟩
      · split
        · exact ⟨rfl, rfl, rfl⟩
        · exact ⟨rfl, rfl, rfl⟩
    · exact ⟨rfl, rfl, rfl⟩

theorem getEnvelope_withCounters (type : PayloadType) :
    ∃ after, (tier.withCounters counters).getEnvelope now key type =
      ((tier.getEnvelope now key type).1,
        (tier.getEnvelope now key type).2.withCounters after) := by
  have sameEntry : (tier.withCounters counters).companion.getForRefresh key =
    tier.companion.getForRefresh key := rfl
  have sameType : (tier.withCounters counters).payloadTypes.get? key =
    tier.payloadTypes.get? key := rfl
  unfold getEnvelope
  rw [sameEntry, sameType]
  cases tier.companion.getForRefresh key with
  | none => exact ⟨counters, rfl⟩
  | some remembered =>
      dsimp only
      by_cases fresh : remembered.isFreshAt now = true
      · rw [if_pos fresh, if_pos fresh]
        cases tier.payloadTypes.get? key with
        | none => exact ⟨counters, rfl⟩
        | some recorded =>
            dsimp only
            by_cases same : recorded = type
            · rw [if_pos same, if_pos same]
              exact ⟨counters, rfl⟩
            · rw [if_neg same, if_neg same]
              exact ⟨_, rfl⟩
      · rw [if_neg fresh, if_neg fresh]
        exact ⟨counters, rfl⟩

theorem invalidate_withCounters :
    (tier.withCounters counters).invalidate now key =
      ((tier.invalidate now key).1, (tier.invalidate now key).2.withCounters counters) := by
  unfold invalidate withCounters
  rw [tier.companion.expire_withCounters counters now key]

theorem clear_withCounters :
    (tier.withCounters counters).clear = (tier.clear.1, tier.clear.2.withCounters counters) := by
  unfold clear withCounters
  cases tier.database.recreate with
  | error failure => rfl
  | ok database => rfl

end PersistentTier

namespace QueryCache

variable (cache : QueryCache) (counters : Counters) (now : Instant) (key : Key)

/-- The cache with the counters of what it remembers replaced. -/
def withCounters : QueryCache := cache.withMetadata (cache.metadata.withCounters counters)

theorem withCounters_self (cache : QueryCache) :
    cache.withCounters cache.metadata.counters = cache := by
  obtain ⟨signature, stack, keys⟩ := cache
  cases stack <;> rfl

/-! ### One operation -/

/-- A typed read changes the counters of reads only. -/
theorem exists_counters_of_getEnvelope (cache : QueryCache) (now : Instant) (key : Key)
    (type : PayloadType) :
    ∃ counters, counters.SameWrites cache.metadata.counters ∧
      (cache.getEnvelope now key type).2 = cache.withCounters counters := by
  obtain ⟨signature, stack, keys⟩ := cache
  cases stack with
  | memory tier =>
      obtain ⟨counters, counted⟩ := tier.getEnvelope_eq_count now key type
      have same := tier.getEnvelope_sameWrites now key type
      rw [counted] at same
      refine ⟨counters, same, ?_⟩
      change QueryCache.mk signature (.memory (tier.getEnvelope now key type).2) keys = _
      rw [counted]
      rfl
  | persistent tier =>
      obtain ⟨counters, counted⟩ := tier.getEnvelope_eq_count now key type
      have same := tier.getEnvelope_sameWrites now key type
      rw [counted] at same
      refine ⟨counters, same, ?_⟩
      change QueryCache.mk signature (.persistent (tier.getEnvelope now key type).2) keys = _
      rw [counted]
      rfl

theorem put_withCounters (envelope : Envelope Payload) :
    ∃ after, (cache.withCounters counters).put now key envelope =
      ((cache.put now key envelope).1, (cache.put now key envelope).2.withCounters after) := by
  obtain ⟨signature, stack, keys⟩ := cache
  cases stack with
  | memory tier => exact ⟨_, rfl⟩
  | persistent tier =>
      obtain ⟨after, same⟩ := tier.put_withCounters counters now key envelope
      refine ⟨after, ?_⟩
      change (((tier.withCounters counters).put now key envelope).1,
        QueryCache.mk signature
          (.persistent ((tier.withCounters counters).put now key envelope).2) keys) = _
      rw [same]
      rfl

theorem getEnvelope_withCounters (type : PayloadType) :
    ∃ after, (cache.withCounters counters).getEnvelope now key type =
      ((cache.getEnvelope now key type).1,
        (cache.getEnvelope now key type).2.withCounters after) := by
  obtain ⟨signature, stack, keys⟩ := cache
  cases stack with
  | memory tier =>
      obtain ⟨after, same⟩ := tier.getEnvelope_withCounters counters now key type
      refine ⟨after, ?_⟩
      change (Except.ok ((tier.withCounters counters).getEnvelope now key type).1,
        QueryCache.mk signature
          (.memory ((tier.withCounters counters).getEnvelope now key type).2) keys) = _
      rw [same]
      rfl
  | persistent tier =>
      obtain ⟨after, same⟩ := tier.getEnvelope_withCounters counters now key type
      refine ⟨after, ?_⟩
      change (((tier.withCounters counters).getEnvelope now key type).1,
        QueryCache.mk signature
          (.persistent ((tier.withCounters counters).getEnvelope now key type).2) keys) = _
      rw [same]
      rfl

theorem getTyped_withCounters (type : PayloadType) :
    ∃ after, (cache.withCounters counters).getTyped now key type =
      ((cache.getTyped now key type).1,
        (cache.getTyped now key type).2.withCounters after) := by
  obtain ⟨after, same⟩ := cache.getEnvelope_withCounters counters now key type
  refine ⟨after, ?_⟩
  unfold getTyped
  rw [same]

theorem getForRefresh_withCounters :
    (cache.withCounters counters).getForRefresh key = cache.getForRefresh key := by
  obtain ⟨signature, stack, keys⟩ := cache
  cases stack <;> rfl

theorem invalidate_withCounters :
    ∃ after, (cache.withCounters counters).invalidate now key =
      ((cache.invalidate now key).1, (cache.invalidate now key).2.withCounters after) := by
  obtain ⟨signature, stack, keys⟩ := cache
  cases stack with
  | memory tier =>
      obtain ⟨after, same⟩ := tier.invalidate_withCounters counters key
      refine ⟨after, ?_⟩
      change (((tier.withCounters counters).invalidate key).1,
        QueryCache.mk signature (.memory ((tier.withCounters counters).invalidate key).2) keys) = _
      rw [same]
      rfl
  | persistent tier =>
      refine ⟨counters, ?_⟩
      change (((tier.withCounters counters).invalidate now key).1,
        QueryCache.mk signature
          (.persistent ((tier.withCounters counters).invalidate now key).2) keys) = _
      rw [tier.invalidate_withCounters]
      rfl

theorem clear_withCounters :
    (cache.withCounters counters).clear =
      (cache.clear.1, cache.clear.2.withCounters counters) := by
  obtain ⟨signature, stack, keys⟩ := cache
  cases stack with
  | memory tier => rfl
  | persistent tier =>
      change QueryCache.clear ⟨signature, .persistent (tier.withCounters counters), keys⟩ = _
      unfold clear
      dsimp only
      rw [tier.clear_withCounters]
      cases tier.clear with
      | mk outcome left =>
          cases outcome with
          | error failure => rfl
          | ok _ => rfl

/-! ### Fetching through the cache -/

theorem getOrFetch_withCounters (type : PayloadType) (template : Provenance)
    (fetch : Unit → Except CacheError type.Value) :
    ∃ after, (cache.withCounters counters).getOrFetch now key type template fetch =
      ((cache.getOrFetch now key type template fetch).1,
        (cache.getOrFetch now key type template fetch).2.withCounters after) := by
  obtain ⟨afterRead, sameRead⟩ := cache.getTyped_withCounters counters now key type
  unfold getOrFetch
  rw [sameRead]
  rcases cache.getTyped now key type with ⟨failure | (_ | value), read⟩
  · exact ⟨afterRead, rfl⟩
  · dsimp only
    cases fetch () with
    | error failure => exact ⟨afterRead, rfl⟩
    | ok value =>
        obtain ⟨after, same⟩ :=
          read.put_withCounters afterRead now key (.ofPayload template ⟨type, value⟩)
        dsimp only
        rw [same]
        exact ⟨after, rfl⟩
  · exact ⟨afterRead, rfl⟩

theorem refresh_withCounters (type : PayloadType)
    (execute : Provenance → Except CacheError type.Value) :
    ∃ after, (cache.withCounters counters).refresh now key type execute =
      ((cache.refresh now key type execute).1,
        (cache.refresh now key type execute).2.withCounters after) := by
  unfold refresh
  rw [cache.getForRefresh_withCounters]
  rcases cache.getForRefresh key with failure | (_ | remembered)
  · exact ⟨counters, rfl⟩
  · exact ⟨counters, rfl⟩
  · dsimp only
    cases execute remembered.provenance with
    | error failure => exact ⟨counters, rfl⟩
    | ok value =>
        obtain ⟨after, same⟩ := cache.put_withCounters counters now key
          (.ofPayload remembered.provenance ⟨type, value⟩)
        dsimp only
        rw [same]
        exact ⟨after, rfl⟩

/-! ### Whole histories -/

theorem answer_withCounters (operation : Operation) :
    (cache.withCounters counters).answer now operation = cache.answer now operation := by
  cases operation with
  | put key envelope =>
      obtain ⟨_, same⟩ := cache.put_withCounters counters now key envelope
      simp only [answer, same]
  | getTyped key type =>
      obtain ⟨_, same⟩ := cache.getTyped_withCounters counters now key type
      simp only [answer, same]
  | getEnvelope key type =>
      obtain ⟨_, same⟩ := cache.getEnvelope_withCounters counters now key type
      simp only [answer, same]
  | getForRefresh key => simp only [answer, getForRefresh_withCounters]
  | invalidate key =>
      obtain ⟨_, same⟩ := cache.invalidate_withCounters counters now key
      simp only [answer, same]
  | clear => simp only [answer, clear_withCounters]
  | canStream | stream | streamCancellable | purgeExpired =>
      obtain ⟨signature, stack, keys⟩ := cache
      cases stack <;> rfl
  | getOrFetch key type template fetch =>
      obtain ⟨_, same⟩ := cache.getOrFetch_withCounters counters now key type template fetch
      simp only [answer, same]
  | refresh key type execute =>
      obtain ⟨_, same⟩ := cache.refresh_withCounters counters now key type execute
      simp only [answer, same]

theorem perform_withCounters (operation : Operation) :
    ∃ after, (cache.withCounters counters).perform now operation =
      (cache.perform now operation).withCounters after := by
  cases operation with
  | put key envelope =>
      obtain ⟨after, same⟩ := cache.put_withCounters counters now key envelope
      exact ⟨after, congrArg Prod.snd same⟩
  | getTyped key type =>
      obtain ⟨after, same⟩ := cache.getTyped_withCounters counters now key type
      exact ⟨after, congrArg Prod.snd same⟩
  | getEnvelope key type =>
      obtain ⟨after, same⟩ := cache.getEnvelope_withCounters counters now key type
      exact ⟨after, congrArg Prod.snd same⟩
  | getForRefresh | canStream | stream | streamCancellable => exact ⟨counters, rfl⟩
  | invalidate key =>
      obtain ⟨after, same⟩ := cache.invalidate_withCounters counters now key
      exact ⟨after, congrArg Prod.snd same⟩
  | clear => exact ⟨counters, congrArg Prod.snd (cache.clear_withCounters counters)⟩
  | getOrFetch key type template fetch =>
      obtain ⟨after, same⟩ := cache.getOrFetch_withCounters counters now key type template fetch
      exact ⟨after, congrArg Prod.snd same⟩
  | refresh key type execute =>
      obtain ⟨after, same⟩ := cache.refresh_withCounters counters now key type execute
      exact ⟨after, congrArg Prod.snd same⟩
  | purgeExpired grace =>
      obtain ⟨signature, stack, keys⟩ := cache
      cases stack <;> exact ⟨_, rfl⟩

theorem observe_withCounters (event : Event) :
    (cache.withCounters counters).observe now event = cache.observe now event := by
  cases event with
  | operation operation => exact congrArg some (cache.answer_withCounters counters now operation)
  | outside change => rfl

theorem advance_withCounters (event : Event) :
    ∃ after, (cache.withCounters counters).advance now event =
      (cache.advance now event).withCounters after := by
  cases event with
  | operation operation => exact cache.perform_withCounters counters now operation
  | outside change =>
      obtain ⟨signature, stack, keys⟩ := cache
      cases stack <;> exact ⟨counters, rfl⟩

/-- Operations answer the same all along, whatever the counters were at the start and
whatever happens to the database. -/
theorem trace_withCounters (history : History Event) :
    history.trace advance observe (cache.withCounters counters) =
      history.trace advance observe cache := by
  have step : ∀ now first second event,
      (∃ counters, first = withCounters second counters) →
      ∃ counters, first.advance now event = (second.advance now event).withCounters counters := by
    rintro now _ second event ⟨counters, rfl⟩
    exact second.advance_withCounters counters now event
  have observed : ∀ now first second event,
      (∃ counters, first = withCounters second counters) →
      first.observe now event = second.observe now event := by
    rintro now _ second event ⟨counters, rfl⟩
    exact second.observe_withCounters counters now event
  exact History.trace_eq step observed history ⟨counters, rfl⟩

end QueryCache

end ResultCache
