import ResultCache.Proofs.Cache.Provenance
import ResultCache.Proofs.Cache.Purging

/-!
Contract: what a cache keeps for a key while others are at work on it.

Owns:
- `QueryCache.Reachable`, the caches that operations lead to from a new one;
- `QueryCache.Operation.changes`, the operations that may change what is kept for a key;
- `QueryCache.SameAt`, caches that keep the same for a key, and that operations elsewhere keep
  them so, and purges of what is fresh;
- that such caches answer typed reads alike.

Does not own: what is kept for a key.
-/

namespace ResultCache

namespace MemoryTier

/-- Two tiers with the same entry at a key, and the same settings. -/
structure SameAt (key : Key) (first second : MemoryTier) : Prop where
  entry : first.entries.get? key = second.entries.get? key
  timeToLive : first.timeToLive = second.timeToLive
  policy : first.policy = second.policy

namespace SameAt

variable {first second : MemoryTier} {key other : Key}

theorem refl (key : Key) (tier : MemoryTier) : SameAt key tier tier := ⟨rfl, rfl, rfl⟩

theorem trans {third : MemoryTier} (same : SameAt key first second)
    (same' : SameAt key second third) : SameAt key first third :=
  ⟨same.entry.trans same'.entry, same.timeToLive.trans same'.timeToLive,
    same.policy.trans same'.policy⟩

theorem withCounters (key : Key) (tier : MemoryTier) (counters : Counters) :
    SameAt key (tier.withCounters counters) tier := ⟨rfl, rfl, rfl⟩

theorem put (differs : other ≠ key) (tier : MemoryTier) (now : Instant)
    (envelope : Envelope Payload) : SameAt key (tier.put now other envelope) tier := by
  refine ⟨?_, rfl, rfl⟩
  rw [get?_put, if_neg differs]

theorem expire (differs : other ≠ key) (tier : MemoryTier) (now : Instant) :
    SameAt key (tier.expire now other).2 tier := by
  obtain ⟨timeToLive, policy⟩ := tier.perform_settings now (.expire other)
  refine ⟨?_, timeToLive, policy⟩
  rw [get?_expire, if_neg differs]

theorem invalidate (differs : other ≠ key) (tier : MemoryTier) :
    SameAt key (tier.invalidate other).2 tier := by
  obtain ⟨timeToLive, policy⟩ := tier.perform_settings .earliest (.invalidate other)
  refine ⟨?_, timeToLive, policy⟩
  rw [get?_invalidate, if_neg differs]

/-- A purge leaves an entry that is fresh. -/
theorem purgeExpired {tier : MemoryTier} {now : Instant} (clock : now.IsClock)
    (fresh : ∀ envelope, tier.entries.get? key = some envelope → envelope.isFreshAt now = true)
    (grace : Duration) : SameAt key (tier.purgeExpired now grace).2 tier := by
  refine ⟨?_, rfl, rfl⟩
  rw [get?_purgeExpired]
  cases entry : tier.entries.get? key with
  | none => rfl
  | some envelope =>
      have outlives : outlives (cutoff now grace) envelope = true := by
        by_contra purged
        have stale := isFreshAt_eq_false_of_not_outlives clock (Bool.eq_false_of_not_eq_true purged)
        rw [fresh envelope entry] at stale
        cases stale
      exact Option.filter_some_pos outlives

end SameAt

end MemoryTier

namespace PersistentTier

variable {first second : PersistentTier} {key : Key}

theorem SameRow.trans {third : PersistentTier} (same : SameRow first second key)
    (same' : SameRow second third key) : SameRow first third key where
  codec := ⟨same.codec.settings.trans same'.codec.settings,
    same.codec.serializer.trans same'.codec.serializer,
    same.codec.compressor.trans same'.codec.compressor⟩
  type := same.type.trans same'.type
  row rows table := by
    obtain ⟨rows', table', row'⟩ := same'.row rows table
    obtain ⟨rows'', table'', row''⟩ := same.row rows' table'
    exact ⟨rows'', table'', row''.trans row'⟩

/-- Where rows can be reached, the same row is read in the same way. -/
theorem SameRow.getEnvelope_eq (same : SameRow first second key)
    (entry : first.companion.entries.get? key = second.companion.entries.get? key)
    {rows : KeyMap StoredRow} (table : second.database = .table rows) (now : Instant)
    (type : PayloadType) :
    (first.getEnvelope now key type).1 = (second.getEnvelope now key type).1 := by
  obtain ⟨others, table', row⟩ := same.row rows table
  have record : first.database.record first.settings.textFormat key =
      second.database.record second.settings.textFormat key := by
    rw [table, table', same.codec.settings]
    simp only [Database.record, Database.rows, bind, Except.bind, row]
  have readRow : ∀ remembered,
      first.readRow key type remembered = second.readRow key type remembered := by
    intro remembered
    rw [readRow, readRow, record, same.codec.decode_eq]
  unfold getEnvelope MemoryTier.getForRefresh
  rw [entry, same.type]
  cases second.companion.entries.get? key with
  | none => rfl
  | some remembered =>
      dsimp only
      by_cases fresh : remembered.isFreshAt now = true
      · rw [if_pos fresh, if_pos fresh]
        cases second.payloadTypes.get? key with
        | none => rfl
        | some recorded =>
            dsimp only
            by_cases matching : recorded = type
            · rw [if_pos matching, if_pos matching]
              exact readRow remembered
            · rw [if_neg matching, if_neg matching]
      · rw [if_neg fresh, if_neg fresh]

end PersistentTier

namespace QueryCache

/-- A cache that operations lead to from a new one. -/
inductive Reachable (timeToLive : Duration) : QueryCache → Prop
  | run {initial : QueryCache} (new : initial.IsNew timeToLive) (past : History Operation) :
      Reachable timeToLive (past.run perform initial)

namespace Reachable

variable {timeToLive : Duration} {cache : QueryCache}

theorem traces (reachable : cache.Reachable timeToLive) (key : Key) :
    ∃ trail, Traces timeToLive key cache trail := by
  cases reachable with
  | run new past => exact ⟨_, .run new past key⟩

theorem grounded (reachable : cache.Reachable timeToLive) : cache.Grounded := by
  obtain ⟨trail, traces⟩ := reachable.traces 0
  exact traces.grounded

theorem expiryFrom_eq (reachable : cache.Reachable timeToLive) (now : Instant) :
    cache.metadata.expiryFrom now = now.later timeToLive.clamped := by
  obtain ⟨trail, traces⟩ := reachable.traces 0
  rw [MemoryTier.expiryFrom, traces.timeToLive]

end Reachable

/-- Whether an operation may change what is kept for a key. -/
def Operation.changes (key : Key) : Operation → Bool
  | .put other _ | .invalidate other | .getOrFetch other _ _ _ | .refresh other _ _ => other = key
  | .clear | .purgeExpired _ => true
  | .getTyped _ _ | .getEnvelope _ _ | .getForRefresh _ | .canStream _ | .stream _ _
  | .streamCancellable _ _ _ => false

/-- Two caches that keep the same for a key, in tiers of one kind. -/
inductive SameAt (key : Key) : QueryCache → QueryCache → Prop
  | memory {first second : MemoryTier} (same : first.SameAt key second)
      {signature signature' : String} {keys keys' : KeyDeriver} :
      SameAt key ⟨signature, .memory first, keys⟩ ⟨signature', .memory second, keys'⟩
  | persistent {first second : PersistentTier}
      (companion : first.companion.SameAt key second.companion) (row : first.SameRow second key)
      {signature signature' : String} {keys keys' : KeyDeriver} :
      SameAt key ⟨signature, .persistent first, keys⟩ ⟨signature', .persistent second, keys'⟩

namespace SameAt

variable {first second cache : QueryCache} {key other : Key}

theorem refl (key : Key) (cache : QueryCache) : SameAt key cache cache := by
  obtain ⟨signature, stack, keys⟩ := cache
  cases stack with
  | memory tier => exact .memory (.refl key tier)
  | persistent tier => exact .persistent (.refl key tier.companion) (.withCompanion _)

theorem trans {third : QueryCache} (same : SameAt key first second)
    (same' : SameAt key second third) : SameAt key first third := by
  cases same with
  | memory same =>
      cases same' with
      | memory same' => exact .memory (same.trans same')
  | persistent companion row =>
      cases same' with
      | persistent companion' row' =>
          exact .persistent (companion.trans companion') (row.trans row')

theorem metadata (same : SameAt key first second) :
    first.metadata.SameAt key second.metadata := by
  cases same with
  | memory same => exact same
  | persistent companion row => exact companion

theorem isPersistent_eq (same : SameAt key first second) :
    first.isPersistent = second.isPersistent := by
  cases same <;> rfl

/-! ### Kept by operations -/

theorem withMetadata {metadata : MemoryTier} (same : metadata.SameAt key cache.metadata) :
    SameAt key (cache.withMetadata metadata) cache := by
  obtain ⟨signature, stack, keys⟩ := cache
  cases stack with
  | memory tier => exact .memory same
  | persistent tier => exact .persistent same (.withCompanion _)

theorem getEnvelope (key : Key) (cache : QueryCache) (now : Instant) (other : Key)
    (type : PayloadType) : SameAt key (cache.getEnvelope now other type).2 cache := by
  obtain ⟨counters, _, counted⟩ := cache.exists_counters_of_getEnvelope now other type
  rw [counted]
  exact withMetadata (.withCounters key cache.metadata counters)

theorem put (differs : other ≠ key) (cache : QueryCache) (now : Instant)
    (envelope : Envelope Payload) : SameAt key (cache.put now other envelope).2 cache := by
  obtain ⟨signature, stack, keys⟩ := cache
  cases stack with
  | memory tier => exact .memory (.put differs tier now envelope)
  | persistent tier =>
      change SameAt key ⟨signature, .persistent (tier.put now other envelope).2, keys⟩ _
      rcases tier.put_cases now other envelope with
        ⟨_, failed⟩ | ⟨rows, payload, content, table, _, _, succeeded⟩
      · rw [failed]
        exact .refl key _
      · rw [succeeded]
        exact .persistent (.put differs tier.companion now _)
          (.written differs table now envelope payload content)

theorem invalidate (differs : other ≠ key) (cache : QueryCache) (now : Instant) :
    SameAt key (cache.invalidate now other).2 cache := by
  obtain ⟨signature, stack, keys⟩ := cache
  cases stack with
  | memory tier => exact .memory (.invalidate differs tier)
  | persistent tier => exact .persistent (.expire differs tier.companion now) (.withCompanion _)

/-- Operations elsewhere leave what is kept for a key. -/
theorem perform {operation : Operation} (elsewhere : operation.changes key = false)
    (cache : QueryCache) (now : Instant) : SameAt key (cache.perform now operation) cache := by
  cases operation with
  | put other envelope => exact put (of_decide_eq_false elsewhere) cache now envelope
  | getTyped other type | getEnvelope other type => exact getEnvelope key cache now other type
  | getForRefresh | canStream | stream | streamCancellable => exact refl key cache
  | invalidate other => exact invalidate (of_decide_eq_false elsewhere) cache now
  | clear | purgeExpired => cases elsewhere
  | getOrFetch other type template fetch =>
      have read : SameAt key (cache.getTyped now other type).2 cache :=
        getEnvelope key cache now other type
      change SameAt key (cache.getOrFetch now other type template fetch).2 cache
      rcases cache.getOrFetch_cases now other type template fetch with
        ⟨_, _, readOnly, _⟩ | ⟨value, _, wrote⟩
      · rw [readOnly]
        exact read
      · rw [wrote]
        exact (put (of_decide_eq_false elsewhere) _ now _).trans read
  | refresh other type execute =>
      change SameAt key (cache.refresh now other type execute).2 cache
      rcases cache.refresh_cases now other type execute with
        ⟨_, _, unchanged, _⟩ | ⟨remembered, value, _, _, wrote⟩
      · rw [unchanged]
        exact refl key cache
      · rw [wrote]
        exact put (of_decide_eq_false elsewhere) cache now _

theorem purgeExpired {now : Instant} (clock : now.IsClock)
    (fresh : ∀ envelope, cache.metadata.entries.get? key = some envelope →
      envelope.isFreshAt now = true) (grace : Duration) :
    SameAt key (cache.perform now (.purgeExpired grace)) cache :=
  withMetadata (.purgeExpired clock fresh grace)

/-! ### Alike to readers -/

theorem getTyped_eq (same : SameAt key first second) (grounded : second.Grounded) (now : Instant)
    (type : PayloadType) : (first.getTyped now key type).1 = (second.getTyped now key type).1 := by
  cases same with
  | @memory first second same _ _ _ _ =>
      have alike : (first.getEnvelope now key type).1 = (second.getEnvelope now key type).1 := by
        rw [MemoryTier.getEnvelope_eq_bind, MemoryTier.getEnvelope_eq_bind, same.entry]
      exact congrArg (fun found => Except.ok (Option.bind found Envelope.payload)) alike
  | @persistent first second companion row _ _ _ _ =>
      obtain ⟨table, _⟩ := grounded
      have alike := row.getEnvelope_eq companion.entry table now type
      exact congrArg (Except.map fun found => Option.bind found Envelope.payload) alike

end SameAt

end QueryCache

end ResultCache
