import ResultCache.MemoryTier
import ResultCache.Proofs.History
import ResultCache.Proofs.Time.Order

/-!
Contract: the operations of a memory tier as data, and what each does to one entry.

Owns:
- `MemoryTier.Operation` and `MemoryTier.perform`;
- for every operation, the entry of any key after it in terms of the entry before it;
- typed reads in terms of the entry that is read.

Does not own: counters, and runs of several operations.
-/

namespace ResultCache

theorem Envelope.downcast?_payload {envelope : Envelope Payload} {payload : Payload}
    (held : envelope.payload = some payload) (type : PayloadType) :
    envelope.downcast? type = (payload.as? type).map envelope.withPayload := by
  unfold Envelope.downcast?
  rw [held]

/-- What is not fresh stays so. -/
theorem Envelope.isFreshAt_eq_false_of_le {envelope : Envelope Payload} {past now : Instant}
    (forward : past ≤ now) (stale : envelope.isFreshAt past = false) :
    envelope.isFreshAt now = false := by
  unfold isFreshAt at stale ⊢
  cases expires : envelope.expires with
  | none => rfl
  | some expiry =>
      rw [expires] at stale
      exact Instant.before_eq_false_iff.2 ((Instant.before_eq_false_iff.1 stale).trans forward)

namespace MemoryTier

inductive Operation where
  | put (key : Key) (envelope : Envelope Payload)
  | getTyped (key : Key) (type : PayloadType)
  | getEnvelope (key : Key) (type : PayloadType)
  | getForRefresh (key : Key)
  | expire (key : Key)
  | invalidate (key : Key)
  | clear
  | purgeExpired (grace : Duration)

/-- The tier that an operation leaves. -/
def perform (tier : MemoryTier) (now : Instant) : Operation → MemoryTier
  | .put key envelope => tier.put now key envelope
  | .getTyped key type => (tier.getTyped now key type).2
  | .getEnvelope key type => (tier.getEnvelope now key type).2
  | .getForRefresh _ => tier
  | .expire key => (tier.expire now key).2
  | .invalidate key => (tier.invalidate key).2
  | .clear => tier.clear
  | .purgeExpired grace => (tier.purgeExpired now grace).2

/-! ### Entries after each operation -/

theorem stored_eq (tier : MemoryTier) (now : Instant) (key : Key) (envelope : Envelope Payload) :
    tier.stored now key envelope =
      ⟨envelope.provenance,
        if tier.entries.contains key = true ∧ tier.policy = .stripPayload then none
        else envelope.payload,
        some (tier.expiryFrom now)⟩ := by
  unfold stored
  by_cases strips : tier.entries.contains key = true ∧ tier.policy = .stripPayload
  · rw [if_pos strips, if_pos (by simpa using strips)]
    rfl
  · rw [if_neg strips, if_neg (by simpa using strips)]

theorem stored_of_keepPayload {tier : MemoryTier} (keeps : tier.policy = .keepPayload)
    (now : Instant) (key : Key) (envelope : Envelope Payload) :
    tier.stored now key envelope =
      ⟨envelope.provenance, envelope.payload, some (tier.expiryFrom now)⟩ := by
  rw [stored_eq, keeps]
  simp

theorem stored_metadataOnly (tier : MemoryTier) (now : Instant) (key : Key)
    (envelope : Envelope Payload) :
    tier.stored now key envelope.metadataOnly =
      ⟨envelope.provenance, none, some (tier.expiryFrom now)⟩ := by
  rw [stored_eq]
  simp [Envelope.metadataOnly]

theorem get?_put (tier : MemoryTier) (now : Instant) (key other : Key)
    (envelope : Envelope Payload) :
    (tier.put now key envelope).entries.get? other =
      if key = other then some (tier.stored now key envelope) else tier.entries.get? other :=
  KeyMap.get?_insert _ _ _ _

/-- Typed reads change counters only. -/
theorem getEnvelope_eq_count (tier : MemoryTier) (now : Instant) (key : Key)
    (type : PayloadType) :
    ∃ counters, (tier.getEnvelope now key type).2 = { tier with counters := counters } := by
  unfold getEnvelope
  split
  · exact ⟨_, rfl⟩
  · split
    · split
      · exact ⟨_, rfl⟩
      · exact ⟨_, rfl⟩
    · exact ⟨_, rfl⟩

@[simp] theorem getEnvelope_entries (tier : MemoryTier) (now : Instant) (key : Key)
    (type : PayloadType) : (tier.getEnvelope now key type).2.entries = tier.entries := by
  obtain ⟨counters, counted⟩ := tier.getEnvelope_eq_count now key type
  rw [counted]

@[simp] theorem getTyped_entries (tier : MemoryTier) (now : Instant) (key : Key)
    (type : PayloadType) : (tier.getTyped now key type).2.entries = tier.entries :=
  getEnvelope_entries tier now key type

/-- Expiry changes entries only. -/
theorem expire_eq_entries (tier : MemoryTier) (now : Instant) (key : Key) :
    ∃ entries, (tier.expire now key).2 = { tier with entries := entries } := by
  unfold expire
  cases tier.entries.get? key with
  | none => exact ⟨tier.entries, rfl⟩
  | some envelope => exact ⟨_, rfl⟩

/-- Removal changes entries, and the count of removals. -/
theorem invalidate_eq_entries (tier : MemoryTier) (key : Key) :
    ∃ entries invalidations, (tier.invalidate key).2 =
      { tier with
        entries := entries
        counters := { tier.counters with invalidations := invalidations } } := by
  unfold invalidate
  by_cases present : tier.entries.contains key = true
  · rw [if_pos present]
    exact ⟨_, _, rfl⟩
  · rw [if_neg present]
    exact ⟨tier.entries, tier.counters.invalidations, rfl⟩

theorem get?_expire (tier : MemoryTier) (now : Instant) (key other : Key) :
    (tier.expire now key).2.entries.get? other =
      if key = other then
        (tier.entries.get? key).map fun envelope => { envelope with expires := some now }
      else tier.entries.get? other := by
  unfold expire
  cases found : tier.entries.get? key with
  | none =>
      by_cases same : key = other
      · rw [if_pos same, ← same]
        exact found
      · rw [if_neg same]
  | some envelope => exact KeyMap.get?_insert _ _ _ _

theorem get?_invalidate (tier : MemoryTier) (key other : Key) :
    (tier.invalidate key).2.entries.get? other =
      if key = other then none else tier.entries.get? other := by
  unfold invalidate
  by_cases present : tier.entries.contains key = true
  · rw [if_pos present]
    have erased := KeyMap.get?_erase tier.entries key other
    simpa only [eq_comm] using erased
  · rw [if_neg present]
    by_cases same : key = other
    · rw [if_pos same, ← same]
      simpa [KeyMap.contains] using present
    · rw [if_neg same]

theorem get?_purgeExpired (tier : MemoryTier) (now : Instant) (grace : Duration) (key : Key) :
    (tier.purgeExpired now grace).2.entries.get? key =
      (tier.entries.get? key).filter (outlives (cutoff now grace)) :=
  KeyMap.get?_filter _ _ _

/-- A purge removes nothing that is fresh, whatever the grace. -/
theorem isFreshAt_eq_false_of_not_outlives {now : Instant} (clock : now.IsClock)
    {grace : Duration} {envelope : Envelope Payload}
    (purged : outlives (cutoff now grace) envelope = false) :
    envelope.isFreshAt now = false := by
  unfold outlives at purged
  unfold Envelope.isFreshAt
  cases expires : envelope.expires with
  | none => rfl
  | some expiry =>
      rw [expires] at purged
      have early : expiry ≤ cutoff now grace := Instant.before_eq_false_iff.1 purged
      exact Instant.before_eq_false_iff.2 (early.trans (Instant.earlier_le clock _))

/-- No operation changes the time to live or the policy. -/
theorem perform_settings (tier : MemoryTier) (now : Instant) (operation : Operation) :
    (tier.perform now operation).timeToLive = tier.timeToLive ∧
      (tier.perform now operation).policy = tier.policy := by
  cases operation with
  | put key envelope => exact ⟨rfl, rfl⟩
  | getTyped key type | getEnvelope key type =>
      obtain ⟨counters, counted⟩ := tier.getEnvelope_eq_count now key type
      change (tier.getEnvelope now key type).2.timeToLive = _ ∧
        (tier.getEnvelope now key type).2.policy = _
      rw [counted]
      exact ⟨rfl, rfl⟩
  | getForRefresh key => exact ⟨rfl, rfl⟩
  | expire key =>
      obtain ⟨entries, changed⟩ := tier.expire_eq_entries now key
      change (tier.expire now key).2.timeToLive = _ ∧ (tier.expire now key).2.policy = _
      rw [changed]
      exact ⟨rfl, rfl⟩
  | invalidate key =>
      obtain ⟨entries, invalidations, changed⟩ := tier.invalidate_eq_entries key
      change (tier.invalidate key).2.timeToLive = _ ∧ (tier.invalidate key).2.policy = _
      rw [changed]
      exact ⟨rfl, rfl⟩
  | clear => exact ⟨rfl, rfl⟩
  | purgeExpired grace => exact ⟨rfl, rfl⟩

/-! ### Typed reads -/

theorem getEnvelope_of_missing {tier : MemoryTier} {key : Key}
    (missing : tier.entries.get? key = none) (now : Instant) (type : PayloadType) :
    tier.getEnvelope now key type =
      (none, tier.count fun counters => { counters with misses := counters.misses + 1 }) := by
  unfold getEnvelope
  rw [missing]

theorem getEnvelope_of_held {tier : MemoryTier} {key : Key} {envelope : Envelope Payload}
    {payload : Payload} (entry : tier.entries.get? key = some envelope)
    (held : envelope.payload = some payload) (now : Instant) (type : PayloadType) :
    tier.getEnvelope now key type =
      if envelope.isFreshAt now then
        if payload.type = type then
          (envelope.downcast? type,
            tier.count fun counters => { counters with hits := counters.hits + 1 })
        else (none, tier.recordTypeMismatch)
      else
        (none, tier.count fun counters =>
          { counters with
            misses := counters.misses + 1
            staleMisses := counters.staleMisses + 1 }) := by
  unfold getEnvelope recordTypeMismatch
  rw [entry]
  simp only [held, Option.isSome_some, Bool.true_and, Option.all_some, Payload.is,
    decide_eq_true_eq]

/-- A typed read finds the entry of its key when that is fresh, has a payload, and
the payload is of the type asked for. -/
theorem getEnvelope_eq_bind (tier : MemoryTier) (now : Instant) (key : Key)
    (type : PayloadType) :
    (tier.getEnvelope now key type).1 = (tier.entries.get? key).bind fun envelope =>
      if envelope.payload.isSome && envelope.isFreshAt now then envelope.downcast? type
      else none := by
  unfold getEnvelope
  cases tier.entries.get? key with
  | none => rfl
  | some envelope =>
      rw [Option.bind_some]
      dsimp only
      by_cases serves : (envelope.payload.isSome && envelope.isFreshAt now) = true
      · rw [if_pos serves, if_pos serves]
        obtain ⟨payload, held⟩ := Option.isSome_iff_exists.1 (Bool.and_eq_true_iff.1 serves).1
        rw [Envelope.downcast?_payload held type, held, Option.all_some]
        by_cases same : payload.is type = true
        · rw [if_pos same]
        · have differs : payload.type ≠ type := fun equal => same (decide_eq_true equal)
          rw [if_neg same, Payload.as?_eq_none differs]
          rfl
      · rw [if_neg serves, if_neg serves]

theorem getTyped_eq_some_iff_of_get? {tier : MemoryTier} {now : Instant} {key : Key}
    {type : PayloadType} {value : type.Value} :
    (tier.getTyped now key type).1 = some value ↔
      ∃ envelope, tier.entries.get? key = some envelope ∧
        envelope.payload = some ⟨type, value⟩ ∧ envelope.isFreshAt now = true := by
  change ((tier.getEnvelope now key type).1.bind Envelope.payload) = some value ↔ _
  rw [getEnvelope_eq_bind]
  cases tier.entries.get? key with
  | none => simp
  | some envelope =>
      obtain ⟨provenance, payload, expires⟩ := envelope
      cases payload with
      | none => simp
      | some payload =>
          by_cases fresh : Envelope.isFreshAt ⟨provenance, some payload, expires⟩ now = true
          · have read : payload.as? type = some value ↔ payload = ⟨type, value⟩ :=
              Payload.as?_eq_some_iff
            simp [fresh, Envelope.downcast?, Envelope.withPayload, Option.bind_map, ← read,
              Function.comp_def]
          · simp [fresh]

end MemoryTier

end ResultCache
