import ResultCache.Proofs.Memory.Operation
import ResultCache.Proofs.Time.Saturation

/-!
Contract: the instants that a memory tier reckons with.

Owns:
- what a put stamps, in exact nanoseconds, and that it stamps the same in every state;
- the cutoff of a purge, in exact nanoseconds, and that a purge keeps exactly what expires
  after it, and so what is fresh;
- that a stamp, which is made by way of a span that may be cut, is never later or earlier
  than the calendar allows.

Does not own: when an entry that is expired before its stamp is dropped.
-/

namespace ResultCache

namespace MemoryTier

variable {timeToLive : Duration} {policy : ReplacementPolicy} {now : Instant}

/-- Every run keeps the time to live that the tier was made with. -/
theorem timeToLive_run (timeToLive : Duration) (policy : ReplacementPolicy)
    (history : History Operation) :
    (history.run perform (create timeToLive policy)).timeToLive = timeToLive.clamped := by
  have step : ∀ (tier : MemoryTier) now operation, tier.timeToLive = timeToLive.clamped →
      (tier.perform now operation).timeToLive = timeToLive.clamped := by
    intro tier now operation same
    exact (tier.perform_settings now operation).1.trans same
  exact History.run_preserves step history rfl

/-- Whatever went before, a put stamps what the new tier would stamp. -/
theorem exists_stored_of_put (timeToLive : Duration) (policy : ReplacementPolicy)
    (history : History Operation) (now : Instant) (key : Key) (envelope : Envelope Payload) :
    ∃ stored,
      ((history.run perform (create timeToLive policy)).put now key envelope).entries.get? key =
        some stored ∧
      stored.expires = some ((create timeToLive policy).expiryFrom now) := by
  refine ⟨_, (get?_put _ now key key envelope).trans (if_pos rfl), ?_⟩
  rw [stored_eq, expiryFrom, timeToLive_run]
  rfl

theorem sinceEpoch_expiryFrom (clock : now.IsClock) :
    ((create timeToLive policy).expiryFrom now).sinceEpoch =
      min (now.sinceEpoch + timeToLive.nanoseconds) Instant.latest.sinceEpoch :=
  Instant.sinceEpoch_later clock timeToLive

theorem sinceEpoch_cutoff (clock : now.IsClock) (grace : Duration) :
    (cutoff now grace).sinceEpoch =
      max (now.sinceEpoch - grace.nanoseconds) Instant.earliest.sinceEpoch :=
  Instant.sinceEpoch_earlier clock grace

theorem isFreshAt_iff_of_expires {envelope : Envelope Payload} {expiry : Instant}
    (expires : envelope.expires = some expiry) (moment : Instant) :
    envelope.isFreshAt moment = true ↔ moment < expiry := by
  unfold Envelope.isFreshAt
  rw [expires]
  exact Instant.before_iff

/-- A purge keeps an entry exactly when the entry expires after the cutoff. -/
theorem get?_purgeExpired_eq_some_iff {tier : MemoryTier} {grace : Duration} {key : Key}
    {envelope : Envelope Payload} :
    (tier.purgeExpired now grace).2.entries.get? key = some envelope ↔
      tier.entries.get? key = some envelope ∧
        ∃ expiry, envelope.expires = some expiry ∧ cutoff now grace < expiry := by
  have outlived : outlives (cutoff now grace) envelope = true ↔
      ∃ expiry, envelope.expires = some expiry ∧ cutoff now grace < expiry := by
    unfold outlives
    cases envelope.expires with
    | none => simp
    | some expiry => simp [Instant.before_iff]
  rw [get?_purgeExpired, Option.filter_eq_some_iff, outlived]

/-- A purge keeps what is fresh, whatever the grace. -/
theorem get?_purgeExpired_of_fresh {tier : MemoryTier} {key : Key} {envelope : Envelope Payload}
    (clock : now.IsClock) (entry : tier.entries.get? key = some envelope)
    (fresh : envelope.isFreshAt now = true) (grace : Duration) :
    (tier.purgeExpired now grace).2.entries.get? key = some envelope := by
  rw [get?_purgeExpired, entry, Option.filter_some]
  apply if_pos
  cases outlived : outlives (cutoff now grace) envelope with
  | true => rfl
  | false =>
      rw [isFreshAt_eq_false_of_not_outlives clock outlived] at fresh
      cases fresh

/-- Stamps and cutoffs are the exact sum and difference in nanoseconds, cut at the ends of the
calendar: stamps grow with the clock and the time to live, what a put stores is fresh strictly
before its stamp, and a purge keeps exactly what expires after its cutoff, and so drops nothing
that is fresh. -/
theorem expiry_saturates (timeToLive grace : Duration) (policy : ReplacementPolicy)
    {now : Instant} (clock : now.IsClock) :
    let stamp := (create timeToLive policy).expiryFrom now
    (stamp.IsClock ∧ stamp.sinceEpoch =
        min (now.sinceEpoch + timeToLive.nanoseconds) Instant.latest.sinceEpoch) ∧
      ((cutoff now grace).IsClock ∧ (cutoff now grace).sinceEpoch =
        max (now.sinceEpoch - grace.nanoseconds) Instant.earliest.sinceEpoch) ∧
      (∀ (history : History Operation) (key : Key) (envelope : Envelope Payload),
        ∃ stored, ((history.run perform (create timeToLive policy)).put now key
            envelope).entries.get? key = some stored ∧
          stored.expires = some stamp ∧
          ∀ moment, stored.isFreshAt moment = true ↔ moment < stamp) ∧
      (∀ (longer : Duration) (later : Instant), later.IsClock → now ≤ later →
        timeToLive.nanoseconds ≤ longer.nanoseconds →
        stamp ≤ (create longer policy).expiryFrom later) ∧
      (∀ (tier : MemoryTier) (key : Key) (envelope : Envelope Payload),
        (tier.purgeExpired now grace).2.entries.get? key = some envelope ↔
          tier.entries.get? key = some envelope ∧
            ∃ expiry, envelope.expires = some expiry ∧ cutoff now grace < expiry) ∧
      ∀ (tier : MemoryTier) (key : Key) (envelope : Envelope Payload),
        tier.entries.get? key = some envelope → envelope.isFreshAt now = true →
        (tier.purgeExpired now grace).2.entries.get? key = some envelope := by
  refine ⟨⟨Instant.isClock_later clock timeToLive, sinceEpoch_expiryFrom clock⟩,
    ⟨Instant.isClock_earlier clock grace, sinceEpoch_cutoff clock grace⟩, ?puts, ?grows,
    fun _ _ _ => get?_purgeExpired_eq_some_iff, ?purges⟩
  case puts =>
    intro history key envelope
    obtain ⟨stored, entry, expires⟩ :=
      exists_stored_of_put timeToLive policy history now key envelope
    exact ⟨stored, entry, expires, isFreshAt_iff_of_expires expires⟩
  case grows =>
    intro longer later laterClock forward longs
    exact Instant.later_le_later clock laterClock forward longs
  case purges =>
    intro tier key envelope entry fresh
    exact get?_purgeExpired_of_fresh clock entry fresh grace

/-- The longest duration that there is: every second and nanosecond that two words count. -/
def endless : Duration := .ofParts 18446744073709551615 999999999

/-- One nanosecond before the end of the calendar. -/
def penultimate : Instant := ⟨8210266876799, 999999998⟩

/-- Close to the end of the calendar an endless time to live is one nanosecond, and an endless
grace reaches back to its start. -/
theorem expiry_saturates_penultimate :
    penultimate.IsClock ∧
      ((create endless .keepPayload).expiryFrom penultimate).sinceEpoch =
        Instant.latest.sinceEpoch ∧
      (cutoff penultimate endless).sinceEpoch = Instant.earliest.sinceEpoch ∧
      (create endless .keepPayload).expiryFrom penultimate ≤
        (create endless .keepPayload).expiryFrom Instant.latest ∧
      ∃ stored tier, tier = (create endless .keepPayload).put penultimate 7
          (.ofPayload (.bare .execute) ⟨.single .unit, ()⟩) ∧
        stored.isFreshAt penultimate = true ∧
        (tier.purgeExpired penultimate endless).2.entries.get? 7 = some stored := by
  have clock : penultimate.IsClock := by decide
  obtain ⟨⟨stampClock, stamped⟩, ⟨_, cut⟩, puts, grows, _, purges⟩ :=
    expiry_saturates endless endless .keepPayload clock
  obtain ⟨stored, entry, _, fresh⟩ :=
    puts [] 7 (.ofPayload (.bare .execute) ⟨.single .unit, ()⟩)
  have ahead : penultimate < (create endless .keepPayload).expiryFrom penultimate := by
    rw [← not_le, Instant.le_iff_sinceEpoch_le stampClock.subsecond clock.subsecond, stamped]
    decide
  refine ⟨clock, stamped.trans (by decide), cut.trans (by decide),
    grows endless Instant.latest Instant.isClock_latest clock.le_latest le_rfl,
    stored, _, rfl, (fresh _).2 ahead, purges _ 7 stored entry ((fresh _).2 ahead)⟩

end MemoryTier

end ResultCache
