import ResultCache.Proofs.Cache.Operation

/-!
Contract: purges do not show in typed reads where a put never strips a payload.

Owns:
- `MemoryTier.Swept`, a tier beside one that differs from it by entries alone that are not
  fresh and that purges removed, with the counters that both count alike;
- that a purge sweeps, and that every other operation keeps a swept tier beside the other
  and answers typed reads alike, in a tier that keeps payloads;
- the same of a persistent stack, whose companion is swept and is never put a payload.

Does not own: reads for a refresh and the failures of streams, which tell an entry that is
not fresh from none at all.
-/

namespace ResultCache

namespace MemoryTier

variable {swept tier : MemoryTier} {now : Instant}

/-- What purges leave of an entry: the whole of it, or nothing when it is not fresh. -/
inductive EntrySwept (now : Instant) :
    Option (Envelope Payload) → Option (Envelope Payload) → Prop
  | kept (entry : Option (Envelope Payload)) : EntrySwept now entry entry
  | removed {entry : Option (Envelope Payload)}
      (stale : ∀ envelope, entry = some envelope → envelope.isFreshAt now = false) :
      EntrySwept now none entry

namespace EntrySwept

variable {left entry : Option (Envelope Payload)}

theorem wait {later : Instant} (forward : now ≤ later) (sweeps : EntrySwept now left entry) :
    EntrySwept later left entry := by
  cases sweeps with
  | kept => exact .kept _
  | removed stale =>
      apply removed
      intro envelope found
      exact Envelope.isFreshAt_eq_false_of_le forward (stale envelope found)

theorem purge (sweeps : EntrySwept now left entry) (clock : now.IsClock) (grace : Duration) :
    EntrySwept now (left.filter (outlives (cutoff now grace))) entry := by
  cases sweeps with
  | removed stale => exact removed stale
  | kept =>
      cases left with
      | none => exact kept none
      | some envelope =>
          cases outlived : outlives (cutoff now grace) envelope with
          | true =>
              rw [Option.filter_some, if_pos outlived]
              exact kept _
          | false =>
              rw [Option.filter_some, if_neg (by simp [outlived])]
              apply removed
              intro other same
              rw [← Option.some.inj same]
              exact isFreshAt_eq_false_of_not_outlives clock outlived

/-- What is ended is not fresh, so it does not matter whether it is there. -/
theorem expire (sweeps : EntrySwept now left entry) :
    EntrySwept now (left.map fun envelope => { envelope with expires := some now })
      (entry.map fun envelope => { envelope with expires := some now }) := by
  cases sweeps with
  | kept => exact kept _
  | removed stale =>
      apply removed
      intro envelope found
      obtain ⟨_, _, ended⟩ := Option.map_eq_some_iff.1 found
      rw [← ended]
      exact Instant.before_eq_false_iff.2 le_rfl

end EntrySwept

/-- A tier that purges have swept beside one that they have not. -/
structure Swept (now : Instant) (swept tier : MemoryTier) : Prop where
  timeToLive : swept.timeToLive = tier.timeToLive
  policy : swept.policy = tier.policy
  hits : swept.counters.hits = tier.counters.hits
  typeMismatches : swept.counters.typeMismatches = tier.counters.typeMismatches
  entry : ∀ key, EntrySwept now (swept.entries.get? key) (tier.entries.get? key)

namespace Swept

theorem refl (now : Instant) (tier : MemoryTier) : Swept now tier tier :=
  ⟨rfl, rfl, rfl, rfl, fun _ => .kept _⟩

theorem wait {later : Instant} (forward : now ≤ later) (sweeps : Swept now swept tier) :
    Swept later swept tier :=
  { sweeps with entry := fun key => (sweeps.entry key).wait forward }

/-- One more purge, of the swept tier only. -/
theorem purgeExpired (sweeps : Swept now swept tier) (clock : now.IsClock) (grace : Duration) :
    Swept now (swept.purgeExpired now grace).2 tier := by
  refine { sweeps with entry := ?_ }
  intro key
  rw [get?_purgeExpired]
  exact (sweeps.entry key).purge clock grace

/-- A put of what both tiers store alike. -/
theorem put (sweeps : Swept now swept tier) (key : Key) {envelope : Envelope Payload}
    (alike : swept.stored now key envelope = tier.stored now key envelope) :
    Swept now (swept.put now key envelope) (tier.put now key envelope) := by
  refine ⟨sweeps.timeToLive, sweeps.policy, sweeps.hits, sweeps.typeMismatches, ?_⟩
  intro other
  rw [get?_put, get?_put, alike]
  by_cases same : key = other
  · rw [if_pos same, if_pos same]
    exact .kept _
  · rw [if_neg same, if_neg same]
    exact sweeps.entry other

theorem expiryFrom_eq (sweeps : Swept now swept tier) :
    swept.expiryFrom now = tier.expiryFrom now := by
  unfold expiryFrom
  rw [sweeps.timeToLive]

theorem stored_eq_of_keepPayload (sweeps : Swept now swept tier)
    (keeps : tier.policy = .keepPayload) (key : Key) (envelope : Envelope Payload) :
    swept.stored now key envelope = tier.stored now key envelope := by
  rw [stored_of_keepPayload keeps, stored_of_keepPayload (sweeps.policy.trans keeps),
    sweeps.expiryFrom_eq]

theorem stored_metadataOnly_eq (sweeps : Swept now swept tier) (key : Key)
    (envelope : Envelope Payload) :
    swept.stored now key envelope.metadataOnly = tier.stored now key envelope.metadataOnly := by
  rw [stored_metadataOnly, stored_metadataOnly, sweeps.expiryFrom_eq]

theorem withCounters (sweeps : Swept now swept tier) {first second : Counters}
    (hits : first.hits = second.hits)
    (typeMismatches : first.typeMismatches = second.typeMismatches) :
    Swept now { swept with counters := first } { tier with counters := second } :=
  ⟨sweeps.timeToLive, sweeps.policy, hits, typeMismatches, sweeps.entry⟩

theorem recordTypeMismatch (sweeps : Swept now swept tier) :
    Swept now swept.recordTypeMismatch tier.recordTypeMismatch :=
  sweeps.withCounters sweeps.hits (congrArg (· + 1) sweeps.typeMismatches)

theorem getEnvelope (sweeps : Swept now swept tier) (key : Key) (type : PayloadType) :
    (swept.getEnvelope now key type).1 = (tier.getEnvelope now key type).1 ∧
      Swept now (swept.getEnvelope now key type).2 (tier.getEnvelope now key type).2 := by
  have entry := sweeps.entry key
  unfold MemoryTier.getEnvelope
  generalize swept.entries.get? key = left, tier.entries.get? key = right at entry ⊢
  cases entry with
  | kept =>
      cases left with
      | none => exact ⟨rfl, sweeps.withCounters sweeps.hits sweeps.typeMismatches⟩
      | some envelope =>
          dsimp only
          split
          · split
            · exact ⟨rfl, sweeps.withCounters (congrArg (· + 1) sweeps.hits)
                sweeps.typeMismatches⟩
            · exact ⟨rfl, sweeps.recordTypeMismatch⟩
          · exact ⟨rfl, sweeps.withCounters sweeps.hits sweeps.typeMismatches⟩
  | removed stale =>
      cases right with
      | none => exact ⟨rfl, sweeps.withCounters sweeps.hits sweeps.typeMismatches⟩
      | some envelope =>
          -- The swept tier misses; so does the other, on an entry that is not fresh.
          dsimp only
          rw [if_neg (by simp [stale envelope rfl])]
          exact ⟨rfl, sweeps.withCounters sweeps.hits sweeps.typeMismatches⟩

/-- Changes of entries and of what is counted as removed. -/
theorem ofEntries (sweeps : Swept now swept tier) {sweptAfter after : MemoryTier}
    (sweptChange : ∃ entries invalidations, sweptAfter =
      { swept with
        entries := entries
        counters := { swept.counters with invalidations := invalidations } })
    (change : ∃ entries invalidations, after =
      { tier with
        entries := entries
        counters := { tier.counters with invalidations := invalidations } })
    (entry : ∀ key, EntrySwept now (sweptAfter.entries.get? key) (after.entries.get? key)) :
    Swept now sweptAfter after := by
  obtain ⟨_, _, rfl⟩ := sweptChange
  obtain ⟨_, _, rfl⟩ := change
  exact ⟨sweeps.timeToLive, sweeps.policy, sweeps.hits, sweeps.typeMismatches, entry⟩

theorem expire (sweeps : Swept now swept tier) (key : Key) :
    Swept now (swept.expire now key).2 (tier.expire now key).2 := by
  obtain ⟨_, sweptExpired⟩ := swept.expire_eq_entries now key
  obtain ⟨_, expired⟩ := tier.expire_eq_entries now key
  apply sweeps.ofEntries ⟨_, _, sweptExpired⟩ ⟨_, _, expired⟩
  intro other
  rw [get?_expire, get?_expire]
  by_cases same : key = other
  · rw [if_pos same, if_pos same]
    exact (sweeps.entry key).expire
  · rw [if_neg same, if_neg same]
    exact sweeps.entry other

theorem invalidate (sweeps : Swept now swept tier) (key : Key) :
    Swept now (swept.invalidate key).2 (tier.invalidate key).2 := by
  apply sweeps.ofEntries (swept.invalidate_eq_entries key) (tier.invalidate_eq_entries key)
  intro other
  rw [get?_invalidate, get?_invalidate]
  by_cases same : key = other
  · rw [if_pos same, if_pos same]
    exact .kept none
  · rw [if_neg same, if_neg same]
    exact sweeps.entry other

theorem clear (sweeps : Swept now swept tier) : Swept now swept.clear tier.clear :=
  ⟨sweeps.timeToLive, sweeps.policy, sweeps.hits, sweeps.typeMismatches, fun _ => .kept none⟩

end Swept

/-! ### Runs of a memory tier -/

def Operation.isPurge : Operation → Bool
  | .purgeExpired _ => true
  | _ => false

/-- What a typed read finds. -/
inductive TypedRead where
  | payload (type : PayloadType) (found : Option type.Value)
  | envelope (type : PayloadType) (found : Option (Envelope type.Value))

def typedRead? (tier : MemoryTier) (now : Instant) : Operation → Option TypedRead
  | .getTyped key type => some (.payload type (tier.getTyped now key type).1)
  | .getEnvelope key type => some (.envelope type (tier.getEnvelope now key type).1)
  | _ => none

/-- A purge is no typed read. -/
theorem typedRead?_of_purge (tier : MemoryTier) (now : Instant) (operation : Operation)
    (purge : (!operation.isPurge) ≠ true) : tier.typedRead? now operation = none := by
  cases operation with
  | purgeExpired grace => rfl
  | _ => exact absurd rfl purge

namespace Swept

theorem perform (sweeps : Swept now swept tier) (keeps : tier.policy = .keepPayload)
    (clock : now.IsClock) (operation : Operation) :
    Swept now (swept.perform now operation)
      (History.passing (fun operation => !operation.isPurge) MemoryTier.perform tier now
        operation) := by
  cases operation with
  | put key envelope => exact sweeps.put key (sweeps.stored_eq_of_keepPayload keeps key envelope)
  | getTyped key type | getEnvelope key type => exact (sweeps.getEnvelope key type).2
  | getForRefresh key => exact sweeps
  | expire key => exact sweeps.expire key
  | invalidate key => exact sweeps.invalidate key
  | clear => exact sweeps.clear
  | purgeExpired grace => exact sweeps.purgeExpired clock grace

theorem typedRead?_eq (sweeps : Swept now swept tier) (operation : Operation) :
    swept.typedRead? now operation = tier.typedRead? now operation := by
  cases operation with
  | getTyped key type =>
      simp only [typedRead?, MemoryTier.getTyped]
      rw [(sweeps.getEnvelope key type).1]
  | getEnvelope key type =>
      simp only [typedRead?]
      rw [(sweeps.getEnvelope key type).1]
  | _ => rfl

end Swept

end MemoryTier

namespace PersistentTier

variable {swept tier : PersistentTier} {now : Instant}

/-- A tier whose companion purges have swept, beside one whose companion they have not. -/
inductive Swept (now : Instant) : PersistentTier → PersistentTier → Prop
  | intro {settings : Persistent.Settings} {serializer : Serializer}
      {compressor : Compression.Compressor} {database : Database}
      {payloadTypes : KeyMap PayloadType} {swept companion : MemoryTier}
      (sweeps : MemoryTier.Swept now swept companion) :
      Swept now ⟨settings, serializer, compressor, database, payloadTypes, swept⟩
        ⟨settings, serializer, compressor, database, payloadTypes, companion⟩

namespace Swept

theorem refl (now : Instant) (tier : PersistentTier) : Swept now tier tier :=
  .intro (.refl now tier.companion)

theorem wait {later : Instant} (forward : now ≤ later) (sweeps : Swept now swept tier) :
    Swept later swept tier := by
  cases sweeps with
  | intro sweeps => exact .intro (sweeps.wait forward)

/-- A put looks at nothing that a purge touches, and gives the companion no payload. -/
theorem put (sweeps : Swept now swept tier) (key : Key) (envelope : Envelope Payload) :
    (swept.put now key envelope).1 = (tier.put now key envelope).1 ∧
      Swept now (swept.put now key envelope).2 (tier.put now key envelope).2 := by
  cases sweeps with
  | @intro settings serializer compressor database payloadTypes swept companion sweeps =>
      have sameEncoding :
          encode ⟨settings, serializer, compressor, database, payloadTypes, swept⟩ =
            encode ⟨settings, serializer, compressor, database, payloadTypes, companion⟩ := rfl
      unfold PersistentTier.put
      rw [sameEncoding]
      cases envelope.payload with
      | none => exact ⟨rfl, .intro sweeps⟩
      | some payload =>
          dsimp only
          cases encode ⟨settings, serializer, compressor, database, payloadTypes, companion⟩
            payload with
          | error failure => exact ⟨rfl, .intro sweeps⟩
          | ok content =>
              dsimp only
              cases database.upsert key (.ofContent envelope.provenance.query content) with
              | error failure => exact ⟨rfl, .intro sweeps⟩
              | ok database =>
                  have alike := sweeps.stored_metadataOnly_eq key envelope
                  exact ⟨rfl, .intro (sweeps.put key alike)⟩

theorem getEnvelope (sweeps : Swept now swept tier) (key : Key) (type : PayloadType) :
    (swept.getEnvelope now key type).1 = (tier.getEnvelope now key type).1 ∧
      Swept now (swept.getEnvelope now key type).2 (tier.getEnvelope now key type).2 := by
  cases sweeps with
  | @intro settings serializer compressor database payloadTypes swept companion sweeps =>
      have entry := sweeps.entry key
      unfold PersistentTier.getEnvelope MemoryTier.getForRefresh
      dsimp only
      generalize swept.entries.get? key = left, companion.entries.get? key = right at entry ⊢
      cases entry with
      | kept =>
          cases left with
          | none => exact ⟨rfl, .intro sweeps⟩
          | some remembered =>
              dsimp only
              split
              · cases payloadTypes.get? key with
                | none => exact ⟨rfl, .intro sweeps⟩
                | some recorded =>
                    dsimp only
                    split
                    · exact ⟨rfl, .intro sweeps⟩
                    · exact ⟨rfl, .intro sweeps.recordTypeMismatch⟩
              · exact ⟨rfl, .intro sweeps⟩
      | removed stale =>
          cases right with
          | none => exact ⟨rfl, .intro sweeps⟩
          | some remembered =>
              dsimp only
              rw [if_neg (by simp [stale remembered rfl])]
              exact ⟨rfl, .intro sweeps⟩

theorem canStream_eq (sweeps : Swept now swept tier) (key : Key) :
    swept.canStream now key = tier.canStream now key := by
  cases sweeps with
  | @intro settings serializer compressor database payloadTypes swept companion sweeps =>
      have entry := sweeps.entry key
      unfold PersistentTier.canStream MemoryTier.getForRefresh
      dsimp only
      generalize swept.entries.get? key = left, companion.entries.get? key = right at entry ⊢
      cases entry with
      | kept => rfl
      | removed stale =>
          cases right with
          | none => rfl
          | some remembered => rw [Option.any_some, stale remembered rfl, Option.any_none]

end Swept

end PersistentTier

namespace QueryCache

variable {swept cache : QueryCache} {now : Instant}

/-- A persistent stack whose companion purges have swept, beside one whose they have not. -/
inductive Swept (now : Instant) : QueryCache → QueryCache → Prop
  | intro {signature : String} {keys : KeyDeriver} {swept tier : PersistentTier}
      (sweeps : PersistentTier.Swept now swept tier) :
      Swept now ⟨signature, .persistent swept, keys⟩ ⟨signature, .persistent tier, keys⟩

namespace Event

def isPurge : Event → Bool
  | .operation (.purgeExpired _) => true
  | _ => false

/-- Whether an event puts what a read for a refresh remembers. -/
def isRefresh : Event → Bool
  | .operation (.refresh _ _ _) => true
  | _ => false

end Event

/-- What those operations answer that look at no entry but a fresh one. -/
def freshAnswer? (cache : QueryCache) (now : Instant) : Event → Option Answer
  | .operation (.put key envelope) => some (cache.answer now (.put key envelope))
  | .operation (.getTyped key type) => some (cache.answer now (.getTyped key type))
  | .operation (.getEnvelope key type) => some (cache.answer now (.getEnvelope key type))
  | .operation (.canStream key) => some (cache.answer now (.canStream key))
  | .operation .clear => some (cache.answer now .clear)
  | .operation (.getOrFetch key type template fetch) =>
    some (cache.answer now (.getOrFetch key type template fetch))
  | _ => none

theorem freshAnswer?_of_purge (cache : QueryCache) (now : Instant) (event : Event)
    (purge : (!event.isPurge) ≠ true) : cache.freshAnswer? now event = none := by
  rcases event with (_ | _ | _ | _ | _ | _ | _ | _ | _ | _ | _ | grace) | change
  all_goals first | rfl | exact absurd rfl purge

namespace Swept

theorem wait {later : Instant} (forward : now ≤ later) (sweeps : Swept now swept cache) :
    Swept later swept cache := by
  cases sweeps with
  | intro sweeps => exact .intro (sweeps.wait forward)

theorem put (sweeps : Swept now swept cache) (key : Key) (envelope : Envelope Payload) :
    (swept.put now key envelope).1 = (cache.put now key envelope).1 ∧
      Swept now (swept.put now key envelope).2 (cache.put now key envelope).2 := by
  cases sweeps with
  | intro sweeps =>
      obtain ⟨same, after⟩ := sweeps.put key envelope
      exact ⟨same, .intro after⟩

theorem getEnvelope (sweeps : Swept now swept cache) (key : Key) (type : PayloadType) :
    (swept.getEnvelope now key type).1 = (cache.getEnvelope now key type).1 ∧
      Swept now (swept.getEnvelope now key type).2 (cache.getEnvelope now key type).2 := by
  cases sweeps with
  | intro sweeps =>
      obtain ⟨same, after⟩ := sweeps.getEnvelope key type
      exact ⟨same, .intro after⟩

theorem getTyped (sweeps : Swept now swept cache) (key : Key) (type : PayloadType) :
    (swept.getTyped now key type).1 = (cache.getTyped now key type).1 ∧
      Swept now (swept.getTyped now key type).2 (cache.getTyped now key type).2 := by
  obtain ⟨same, after⟩ := sweeps.getEnvelope key type
  refine ⟨?_, after⟩
  change Except.map _ (swept.getEnvelope now key type).1 =
    Except.map _ (cache.getEnvelope now key type).1
  rw [same]

theorem getOrFetch (sweeps : Swept now swept cache) (key : Key) (type : PayloadType)
    (template : Provenance) (fetch : Unit → Except CacheError type.Value) :
    (swept.getOrFetch now key type template fetch).1 =
        (cache.getOrFetch now key type template fetch).1 ∧
      Swept now (swept.getOrFetch now key type template fetch).2
        (cache.getOrFetch now key type template fetch).2 := by
  obtain ⟨same, read⟩ := sweeps.getTyped key type
  unfold QueryCache.getOrFetch
  generalize swept.getTyped now key type = left, cache.getTyped now key type = right at same read ⊢
  obtain ⟨outcome, swept⟩ := left
  obtain ⟨_, cache⟩ := right
  cases same
  rcases outcome with failure | (_ | value)
  · exact ⟨rfl, read⟩
  · dsimp only
    cases fetch () with
    | error failure => exact ⟨rfl, read⟩
    | ok value =>
        obtain ⟨sameOutcome, put⟩ := read.put key (.ofPayload template ⟨type, value⟩)
        have fetched := congrArg
          (fun outcome => (⟨outcome.map fun _ => value, 1⟩ : ReadThrough _)) sameOutcome
        exact ⟨fetched, put⟩
  · exact ⟨rfl, read⟩

theorem clear (sweeps : Swept now swept cache) :
    swept.clear.1 = cache.clear.1 ∧ Swept now swept.clear.2 cache.clear.2 := by
  cases sweeps with
  | intro sweeps =>
      cases sweeps with
      | @intro _ _ _ database _ _ _ sweeps =>
          unfold QueryCache.clear PersistentTier.clear
          dsimp only
          cases database.recreate with
          | error failure => exact ⟨rfl, .intro (.intro sweeps)⟩
          | ok database => exact ⟨rfl, .intro (.intro sweeps.clear)⟩

theorem advance (sweeps : Swept now swept cache) (clock : now.IsClock) {event : Event}
    (plain : event.isRefresh = false) :
    Swept now (swept.advance now event)
      (History.passing (fun event => !event.isPurge) QueryCache.advance cache now event) := by
  cases event with
  | outside change =>
      cases sweeps with
      | intro sweeps =>
          cases sweeps with
          | intro sweeps => exact .intro (.intro sweeps)
  | operation operation =>
      cases operation with
      | put key envelope => exact (sweeps.put key envelope).2
      | getTyped key type => exact (sweeps.getTyped key type).2
      | getEnvelope key type => exact (sweeps.getEnvelope key type).2
      | getForRefresh | canStream | stream | streamCancellable => exact sweeps
      | invalidate key =>
          cases sweeps with
          | intro sweeps =>
              cases sweeps with
              | intro sweeps => exact .intro (.intro (sweeps.expire key))
      | clear => exact sweeps.clear.2
      | getOrFetch key type template fetch => exact (sweeps.getOrFetch key type template fetch).2
      | refresh => cases plain
      | purgeExpired grace =>
          cases sweeps with
          | intro sweeps =>
              cases sweeps with
              | intro sweeps => exact .intro (.intro (sweeps.purgeExpired clock grace))

theorem freshAnswer?_eq (sweeps : Swept now swept cache) (event : Event) :
    swept.freshAnswer? now event = cache.freshAnswer? now event := by
  cases event with
  | outside change => rfl
  | operation operation =>
      cases operation with
      | put key envelope => simp only [freshAnswer?, answer, (sweeps.put key envelope).1]
      | getTyped key type => simp only [freshAnswer?, answer, (sweeps.getTyped key type).1]
      | getEnvelope key type => simp only [freshAnswer?, answer, (sweeps.getEnvelope key type).1]
      | canStream key =>
          cases sweeps with
          | intro sweeps =>
              simp only [freshAnswer?, answer, QueryCache.canStream, sweeps.canStream_eq]
      | clear => simp only [freshAnswer?, answer, sweeps.clear.1]
      | getOrFetch key type template fetch =>
          simp only [freshAnswer?, answer, (sweeps.getOrFetch key type template fetch).1]
      | getForRefresh | invalidate | stream | streamCancellable | refresh | purgeExpired => rfl

theorem counters (sweeps : Swept now swept cache) :
    swept.metadata.counters.hits = cache.metadata.counters.hits ∧
      swept.metadata.counters.typeMismatches = cache.metadata.counters.typeMismatches := by
  cases sweeps with
  | intro sweeps =>
      cases sweeps with
      | intro sweeps => exact ⟨sweeps.hits, sweeps.typeMismatches⟩

end Swept

/-- Purges do not show. Over a run of a memory tier that keeps payloads, typed reads find
the same as over the run without its purges, and hits and type mismatches end equal. Over a
run of a persistent stack without a refresh, puts, typed reads, clears, fetching reads and
questions whether an entry can be streamed are answered the same, and both counters end
equal; whatever happens to the database. -/
theorem purges_do_not_show :
    (∀ {tier : MemoryTier}, tier.policy = .keepPayload →
        ∀ {history : History MemoryTier.Operation}, history.IsOrdered →
          (∀ event ∈ history, event.1.IsClock) →
          let unpurged := history.only fun operation => !operation.isPurge
          (history.trace MemoryTier.perform MemoryTier.typedRead? tier).reduceOption =
              (unpurged.trace MemoryTier.perform MemoryTier.typedRead? tier).reduceOption ∧
            let ended := history.run MemoryTier.perform tier
            let endedUnpurged := unpurged.run MemoryTier.perform tier
            ended.counters.hits = endedUnpurged.counters.hits ∧
              ended.counters.typeMismatches = endedUnpurged.counters.typeMismatches) ∧
      ∀ (signature : String) (tier : PersistentTier) (keys : KeyDeriver)
        {history : History Event}, history.IsOrdered →
          (∀ event ∈ history, event.1.IsClock ∧ event.2.isRefresh = false) →
          let cache : QueryCache := ⟨signature, .persistent tier, keys⟩
          let unpurged := history.only fun event => !event.isPurge
          (history.trace advance freshAnswer? cache).reduceOption =
              (unpurged.trace advance freshAnswer? cache).reduceOption ∧
            let counters := (history.run advance cache).metadata.counters
            let countersUnpurged := (unpurged.run advance cache).metadata.counters
            counters.hits = countersUnpurged.hits ∧
              counters.typeMismatches = countersUnpurged.typeMismatches := by
  constructor
  · intro tier keeps history ordered clock unpurged
    have wait : ∀ past now (swept tier : MemoryTier), past ≤ now →
        MemoryTier.Swept past swept tier ∧ tier.policy = .keepPayload →
        MemoryTier.Swept now swept tier ∧ tier.policy = .keepPayload := by
      rintro past now swept tier forward ⟨sweeps, keeps⟩
      exact ⟨sweeps.wait forward, keeps⟩
    have step : ∀ now (swept tier : MemoryTier) operation, now.IsClock →
        MemoryTier.Swept now swept tier ∧ tier.policy = .keepPayload →
        MemoryTier.Swept now (swept.perform now operation)
            (History.passing (fun operation => !operation.isPurge) MemoryTier.perform tier now
              operation) ∧
          (History.passing (fun operation => !operation.isPurge) MemoryTier.perform tier now
            operation).policy = .keepPayload := by
      rintro now swept tier operation clock ⟨sweeps, keeps⟩
      refine ⟨sweeps.perform keeps clock operation, ?_⟩
      unfold History.passing
      split
      · exact (tier.perform_settings now operation).2.trans keeps
      · exact keeps
    have observed : ∀ now (swept tier : MemoryTier) operation, now.IsClock →
        MemoryTier.Swept now swept tier ∧ tier.policy = .keepPayload →
        swept.typedRead? now operation = tier.typedRead? now operation := by
      rintro now swept tier operation _ ⟨sweeps, _⟩
      exact sweeps.typedRead?_eq operation
    obtain ⟨same, _, sweeps, _⟩ := History.only_alike wait step observed
      MemoryTier.typedRead?_of_purge ordered clock fun now => ⟨.refl now tier, keeps⟩
    exact ⟨same, sweeps.hits, sweeps.typeMismatches⟩
  · intro signature tier keys history ordered plain cache unpurged
    have wait : ∀ past now swept cache, past ≤ now → Swept past swept cache →
        Swept now swept cache := by
      intro past now swept cache forward sweeps
      exact sweeps.wait forward
    have step : ∀ now swept cache event, (now.IsClock ∧ Event.isRefresh event = false) →
        Swept now swept cache →
        Swept now (swept.advance now event)
          (History.passing (fun event => !event.isPurge) advance cache now event) := by
      intro now swept cache event allowed sweeps
      exact sweeps.advance allowed.1 allowed.2
    have observed : ∀ now swept cache event, (now.IsClock ∧ Event.isRefresh event = false) →
        Swept now swept cache → swept.freshAnswer? now event = cache.freshAnswer? now event := by
      intro now swept cache event _ sweeps
      exact sweeps.freshAnswer?_eq event
    obtain ⟨same, _, sweeps⟩ := History.only_alike wait step observed freshAnswer?_of_purge
      ordered plain fun now => .intro (.refl now tier)
    exact ⟨same, sweeps.counters⟩

/-- An entry that ends, is purged, is put again, and outlives a purge. -/
def purgedTwice : History MemoryTier.Operation :=
  [(⟨0, 0⟩, .put 7 (.ofPayload (.bare .oneByQuery) ⟨.single .bool, true⟩)),
    (⟨1, 0⟩, .expire 7),
    (⟨1, 0⟩, .purgeExpired (.ofSeconds 0)),
    (⟨2, 0⟩, .getTyped 7 (.single .bool)),
    (⟨3, 0⟩, .put 7 (.ofPayload (.bare .oneByQuery) ⟨.single .bool, false⟩)),
    (⟨4, 0⟩, .purgeExpired (.ofSeconds 9223372036854775807)),
    (⟨5, 0⟩, .getEnvelope 7 (.single .bool))]

/-- The same through a cache that stores text. -/
def purgedStack : History Event :=
  [(⟨0, 0⟩, .operation (.put 7 (.ofPayload (.bare .oneByQuery) ⟨.single .bool, true⟩))),
    (⟨1, 0⟩, .operation (.invalidate 7)),
    (⟨1, 0⟩, .operation (.purgeExpired (.ofSeconds 0))),
    (⟨2, 0⟩, .operation (.canStream 7)),
    (⟨3, 0⟩, .operation (.put 7 (.ofPayload (.bare .oneByQuery) ⟨.single .bool, false⟩))),
    (⟨4, 0⟩, .operation (.purgeExpired (.ofSeconds 9223372036854775807))),
    (⟨5, 0⟩, .operation (.getTyped 7 (.single .text)))]

theorem purges_do_not_show_twice :
    purgedTwice.IsOrdered ∧ (∀ event ∈ purgedTwice, event.1.IsClock) ∧
      purgedStack.IsOrdered ∧
      (∀ event ∈ purgedStack, event.1.IsClock ∧ event.2.isRefresh = false) ∧
      (let tier := MemoryTier.create .day .keepPayload
       let counters := (purgedTwice.run MemoryTier.perform tier).counters
       let unpurged := purgedTwice.only fun operation => !operation.isPurge
       unpurged.length = 5 ∧ counters.hits = 1 ∧
         counters.hits = (unpurged.run MemoryTier.perform tier).counters.hits) ∧
      (let counters := (purgedStack.run advance emptyText).metadata.counters
       let unpurged := purgedStack.only fun event => !event.isPurge
       unpurged.length = 5 ∧ counters.typeMismatches = 1 ∧
         counters.typeMismatches =
           (unpurged.run advance emptyText).metadata.counters.typeMismatches) := by
  have ordered : purgedTwice.IsOrdered := by decide
  have clock : ∀ event ∈ purgedTwice, event.1.IsClock := by decide
  have orderedStack : purgedStack.IsOrdered := by decide
  have plain : ∀ event ∈ purgedStack, event.1.IsClock ∧ event.2.isRefresh = false := by decide
  obtain ⟨memory, persistent⟩ := purges_do_not_show
  refine ⟨ordered, clock, orderedStack, plain, ⟨rfl, by decide, ?_⟩, rfl, by decide, ?_⟩
  · exact (memory rfl ordered clock).2.1
  · exact (persistent "text" _ .standard orderedStack plain).2.2

end QueryCache

end ResultCache
