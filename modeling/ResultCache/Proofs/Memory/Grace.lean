import ResultCache.Proofs.Memory.Expiry
import ResultCache.Proofs.Memory.ReadLaw

/-!
Contract: what a purge drops, by what happened to a key since it was last put.

Owns:
- `SincePut`, the put and the expiries of a key as a function of the history alone, and
  `SincePut.staleFrom`, the instant at which the key stopped being fresh;
- the expiry that an entry carries, which is that of the last of them, and that every
  operation keeps the two in step;
- the law of purges: a key is dropped when it stopped being fresh by the cutoff and was not
  expired again after it, so that expiring a stale entry restarts its grace window;
- a history in which an entry outlives its grace window in that way.

Does not own: typed reads, and what is removed by other operations.
-/

namespace ResultCache

namespace MemoryTier

/-- What has happened to a key since it was last put. -/
structure SincePut where
  /-- When it was put. -/
  moment : Instant
  /-- When it was expired since, in order. -/
  expiries : List Instant
  deriving DecidableEq

namespace SincePut

variable {timeToLive : Duration} {key : Key} {since : SincePut} {now limit : Instant}

/-- The record of a key after one more operation; there is none before the first put. -/
def after (key : Key) (record : Option SincePut) (now : Instant) : Operation → Option SincePut
  | .put other _ => if other = key then some ⟨now, []⟩ else record
  | .expire other =>
    if other = key then record.map fun since => { since with expiries := since.expiries ++ [now] }
    else record
  | .getTyped _ _ | .getEnvelope _ _ | .getForRefresh _ | .invalidate _ | .clear
  | .purgeExpired _ => record

def ofHistory (key : Key) (history : History Operation) : Option SincePut :=
  history.run (after key) none

/-- When the key stopped being fresh: at its stamp, or when it was first expired if that was
earlier. -/
def staleFrom (timeToLive : Duration) (since : SincePut) : Instant :=
  match since.expiries with
  | [] => stamp timeToLive since.moment
  | first :: _ => min (stamp timeToLive since.moment) first

/-- The expiry that the entry carries: the last one, or the stamp. -/
def expiry (timeToLive : Duration) (since : SincePut) : Instant :=
  since.expiries.getLast?.getD (stamp timeToLive since.moment)

/-- The key was expired in order, and not in the future. -/
def IsPast (since : SincePut) (now : Instant) : Prop :=
  (since.expiries ++ [now]).Pairwise (· ≤ ·)

theorem IsPast.le (past : since.IsPast now) {moment : Instant} (member : moment ∈ since.expiries) :
    moment ≤ now :=
  (List.pairwise_append.1 past).2.2 moment member now (List.mem_singleton_self now)

theorem IsPast.wait {later : Instant} (past : since.IsPast now) (forward : now ≤ later) :
    since.IsPast later := by
  have parts := List.pairwise_append.1 past
  refine List.pairwise_append.2 ⟨parts.1, List.pairwise_singleton _ _, ?_⟩
  intro moment member other last
  rw [List.mem_singleton.1 last]
  exact (past.le member).trans forward

/-- One more expiry, now. -/
theorem IsPast.expire (past : since.IsPast now) :
    IsPast { since with expiries := since.expiries ++ [now] } now := by
  refine List.pairwise_append.2 ⟨past, List.pairwise_singleton _ _, ?_⟩
  intro moment member other last
  rw [List.mem_singleton.1 last]
  rcases List.mem_append.1 member with earlier | present
  · exact past.le earlier
  · exact (List.mem_singleton.1 present).le

/-- The first and the last of the expiries, and that none lies outside them. -/
theorem IsPast.exists_ends (past : since.IsPast now) (expired : since.expiries ≠ [])
    (timeToLive : Duration) :
    ∃ first last, since.staleFrom timeToLive = min (stamp timeToLive since.moment) first ∧
      since.expiry timeToLive = last ∧ last ∈ since.expiries ∧ first ≤ last ∧ last ≤ now ∧
      ∀ moment ∈ since.expiries, moment ≤ last := by
  obtain ⟨moment, expiries⟩ := since
  obtain ⟨earlier, last, rfl⟩ := List.eq_nil_or_concat' expiries |>.resolve_left expired
  have sorted := (List.pairwise_append.1 past).1
  have upper : ∀ moment ∈ earlier ++ [last], moment ≤ last := by
    intro moment member
    rcases List.mem_append.1 member with before | itself
    · exact (List.pairwise_append.1 sorted).2.2 moment before last (List.mem_singleton_self last)
    · exact (List.mem_singleton.1 itself).le
  have member : last ∈ earlier ++ [last] := List.mem_append_right _ (List.mem_singleton_self last)
  have carried : expiry timeToLive ⟨moment, earlier ++ [last]⟩ = last := by simp [expiry]
  cases earlier with
  | nil => exact ⟨last, last, rfl, carried, member, le_rfl, past.le member, upper⟩
  | cons first rest =>
      exact ⟨first, last, rfl, carried, member, upper first List.mem_cons_self, past.le member,
        upper⟩

/-- The entry is fresh as long as the key has not stopped being fresh. -/
theorem lt_expiry_iff (past : since.IsPast now) :
    now < since.expiry timeToLive ↔ now < since.staleFrom timeToLive := by
  by_cases expired : since.expiries = []
  · rw [expiry, staleFrom, expired]
    rfl
  · -- An expiry is past, and so is all freshness from then on.
    obtain ⟨first, last, stale, carried, _, ordered, lastPast, _⟩ :=
      past.exists_ends expired timeToLive
    have ended : min (stamp timeToLive since.moment) first ≤ now :=
      (min_le_right _ _).trans (ordered.trans lastPast)
    rw [stale, carried]
    exact iff_of_false (not_lt.2 lastPast) (not_lt.2 ended)

/-- The entry carries an expiry within a limit when freshness ended within it and the key was
not expired beyond it. -/
theorem expiry_le_iff (past : since.IsPast now) :
    since.expiry timeToLive ≤ limit ↔
      since.staleFrom timeToLive ≤ limit ∧ ∀ moment ∈ since.expiries, moment ≤ limit := by
  by_cases expired : since.expiries = []
  · rw [expiry, staleFrom, expired]
    simp
  · obtain ⟨first, last, stale, carried, member, ordered, _, upper⟩ :=
      past.exists_ends expired timeToLive
    rw [stale, carried]
    constructor
    · intro within
      refine ⟨(min_le_right _ _).trans (ordered.trans within), ?_⟩
      intro moment present
      exact (upper moment present).trans within
    · rintro ⟨_, within⟩
      exact within last member

end SincePut

/-- A tier and the record of a key are in step: an entry carries the expiry of the record. -/
structure Declines (timeToLive : Duration) (key : Key) (now : Instant) (tier : MemoryTier)
    (record : Option SincePut) : Prop where
  sameTimeToLive : tier.timeToLive = timeToLive.clamped
  carries : ∀ envelope, tier.entries.get? key = some envelope →
    ∃ since, record = some since ∧ envelope.expires = some (since.expiry timeToLive)
  past : ∀ since, record = some since → since.IsPast now

namespace Declines

variable {timeToLive : Duration} {key : Key} {now : Instant} {tier : MemoryTier}
  {record : Option SincePut}

theorem create (timeToLive : Duration) (policy : ReplacementPolicy) (key : Key) (now : Instant) :
    Declines timeToLive key now (MemoryTier.create timeToLive policy) none where
  sameTimeToLive := rfl
  carries := by
    intro envelope found
    cases found
  past := by
    intro since found
    cases found

theorem wait {later : Instant} (forward : now ≤ later)
    (declines : Declines timeToLive key now tier record) :
    Declines timeToLive key later tier record where
  sameTimeToLive := declines.sameTimeToLive
  carries := declines.carries
  past := by
    intro since found
    exact (declines.past since found).wait forward

/-- Entries that stay as they are carry what they carried. -/
theorem subset (declines : Declines timeToLive key now tier record) {after : MemoryTier}
    (settings : after.timeToLive = tier.timeToLive)
    (kept : ∀ envelope, after.entries.get? key = some envelope →
      tier.entries.get? key = some envelope) :
    Declines timeToLive key now after record where
  sameTimeToLive := settings.trans declines.sameTimeToLive
  carries := by
    intro envelope found
    exact declines.carries envelope (kept envelope found)
  past := declines.past

theorem put (declines : Declines timeToLive key now tier record) (clock : now.IsClock)
    (other : Key) (envelope : Envelope Payload) :
    Declines timeToLive key now (tier.put now other envelope)
      (SincePut.after key record now (.put other envelope)) := by
  by_cases hit : other = key
  · refine ⟨declines.sameTimeToLive, ?_, ?_⟩
    · intro stored found
      rw [get?_put, if_pos hit] at found
      cases found
      refine ⟨⟨now, []⟩, if_pos hit, ?_⟩
      rw [stored_eq, expiryFrom_eq_stamp declines.sameTimeToLive clock]
      rfl
    · intro since found
      rw [SincePut.after, if_pos hit] at found
      cases found
      exact List.pairwise_singleton _ _
  · rw [SincePut.after, if_neg hit]
    have kept : ∀ stored, (tier.put now other envelope).entries.get? key = some stored →
        tier.entries.get? key = some stored := by
      intro stored found
      rwa [get?_put, if_neg hit] at found
    exact declines.subset rfl kept

theorem expire (declines : Declines timeToLive key now tier record) (other : Key) :
    Declines timeToLive key now (tier.expire now other).2
      (SincePut.after key record now (.expire other)) := by
  have settings : (tier.expire now other).2.timeToLive = tier.timeToLive :=
    (tier.perform_settings now (.expire other)).1
  by_cases hit : other = key
  · rw [SincePut.after, if_pos hit]
    refine ⟨settings.trans declines.sameTimeToLive, ?_, ?_⟩
    · intro ended found
      rw [get?_expire, if_pos hit] at found
      obtain ⟨envelope, entry, rfl⟩ := Option.map_eq_some_iff.1 found
      obtain ⟨since, recorded, _⟩ := declines.carries envelope (hit ▸ entry)
      refine ⟨{ since with expiries := since.expiries ++ [now] }, ?_, ?_⟩
      · rw [recorded]
        rfl
      · simp [SincePut.expiry]
    · intro ended found
      obtain ⟨since, recorded, rfl⟩ := Option.map_eq_some_iff.1 found
      exact (declines.past since recorded).expire
  · rw [SincePut.after, if_neg hit]
    apply declines.subset settings
    intro envelope found
    rwa [get?_expire, if_neg hit] at found

theorem perform (declines : Declines timeToLive key now tier record) (clock : now.IsClock)
    (operation : Operation) :
    Declines timeToLive key now (tier.perform now operation)
      (SincePut.after key record now operation) := by
  have settings := (tier.perform_settings now operation).1
  cases operation with
  | put other envelope => exact declines.put clock other envelope
  | expire other => exact declines.expire other
  | getTyped other type | getEnvelope other type =>
      apply declines.subset settings
      intro envelope found
      simpa only [MemoryTier.perform, getTyped_entries, getEnvelope_entries] using found
  | getForRefresh other => exact declines
  | invalidate other =>
      apply declines.subset settings
      intro envelope found
      rw [MemoryTier.perform, get?_invalidate] at found
      split at found
      · cases found
      · exact found
  | clear =>
      apply declines.subset settings
      intro envelope found
      cases found
  | purgeExpired grace =>
      apply declines.subset settings
      intro envelope found
      rw [MemoryTier.perform, get?_purgeExpired] at found
      exact (Option.filter_eq_some_iff.1 found).1

end Declines

variable {timeToLive : Duration} {policy : ReplacementPolicy}

/-- After any history, the tier and the record of every key are in step. -/
theorem declines_run {history : History Operation} (ordered : history.IsOrdered)
    (clock : ∀ event ∈ history, event.1.IsClock) {now : Instant}
    (past : ∀ event ∈ history, event.1 ≤ now) (key : Key) :
    Declines timeToLive key now (history.run perform (create timeToLive policy))
      (SincePut.ofHistory key history) := by
  have wait : ∀ past now tier record, past ≤ now → Declines timeToLive key past tier record →
      Declines timeToLive key now tier record := by
    intro past now tier record forward declines
    exact declines.wait forward
  have step : ∀ now tier record operation, now.IsClock →
      Declines timeToLive key now tier record →
      Declines timeToLive key now (tier.perform now operation)
        (SincePut.after key record now operation) := by
    intro now tier record operation clockNow declines
    exact declines.perform clockNow operation
  exact History.run_related wait step ordered clock past (Declines.create timeToLive policy key _)

/-- A purge drops an entry when its expiry is within the cutoff. -/
theorem contains_purgeExpired_eq_false_iff {tier : MemoryTier} {key : Key} {now expiry : Instant}
    {envelope : Envelope Payload} (entry : tier.entries.get? key = some envelope)
    (expires : envelope.expires = some expiry) (grace : Duration) :
    (tier.purgeExpired now grace).2.contains key = false ↔ expiry ≤ cutoff now grace := by
  have outlived : outlives (cutoff now grace) envelope = (cutoff now grace).before expiry := by
    rw [outlives, expires]
  rw [contains, KeyMap.contains, get?_purgeExpired, entry, Option.filter_some, outlived,
    ← Instant.before_eq_false_iff]
  cases (cutoff now grace).before expiry <;> simp

/-- The law of purges. A purge drops a present key exactly when it stopped being fresh by the
cutoff and was not expired after it. So the grace window is counted from the moment when the
key stopped being fresh, but for keys that were stale by the cutoff and expired again since. -/
theorem purge_drops_iff {history : History Operation} (ordered : history.IsOrdered)
    (clock : ∀ event ∈ history, event.1.IsClock) {now : Instant} (nowClock : now.IsClock)
    (past : ∀ event ∈ history, event.1 ≤ now) {key : Key}
    (present : (history.run perform (create timeToLive policy)).contains key = true)
    (grace : Duration) :
    let tier := history.run perform (create timeToLive policy)
    let limit := max (now.minus grace) Instant.earliest
    let dropped := (tier.purgeExpired now grace).2.contains key = false
    ∃ since, SincePut.ofHistory key history = some since ∧
      ((∃ envelope, tier.getForRefresh key = some envelope ∧ envelope.isFreshAt now = true) ↔
        now < since.staleFrom timeToLive) ∧
      (dropped ↔ since.staleFrom timeToLive ≤ limit ∧
        ∀ moment ∈ since.expiries, moment ≤ limit) ∧
      ((dropped ↔ since.staleFrom timeToLive ≤ limit) ↔
        ¬∃ moment ∈ since.expiries, since.staleFrom timeToLive ≤ limit ∧ limit < moment) := by
  intro tier limit dropped
  have declines : Declines timeToLive key now tier (SincePut.ofHistory key history) :=
    declines_run ordered clock past key
  obtain ⟨envelope, entry⟩ := Option.isSome_iff_exists.1 present
  obtain ⟨since, recorded, expires⟩ := declines.carries envelope entry
  have isPast := declines.past since recorded
  have law : dropped ↔ since.staleFrom timeToLive ≤ limit ∧
      ∀ moment ∈ since.expiries, moment ≤ limit := by
    have cut : cutoff now grace = limit := Instant.earlier_clamped nowClock grace
    rw [← SincePut.expiry_le_iff isPast, ← cut]
    exact contains_purgeExpired_eq_false_iff entry expires grace
  refine ⟨since, recorded, ?fresh, law, ?exact⟩
  case fresh =>
    rw [← SincePut.lt_expiry_iff isPast, ← isFreshAt_iff_of_expires expires]
    constructor
    · rintro ⟨_, found, fresh⟩
      obtain rfl := Option.some.inj (entry.symm.trans found)
      exact fresh
    · intro fresh
      exact ⟨envelope, entry, fresh⟩
  case exact =>
    rw [law]
    constructor
    · rintro counted ⟨moment, member, stale, beyond⟩
      exact absurd ((counted.2 stale).2 moment member) (not_le.2 beyond)
    · intro never
      refine ⟨And.left, fun stale => ⟨stale, ?_⟩⟩
      intro moment member
      exact not_lt.1 fun beyond => never ⟨moment, member, stale, beyond⟩

/-- A key that is put and expired twice, the second time when it has been stale for a while. -/
def expiredTwice : History Operation :=
  [(⟨0, 0⟩, .put 7 (.ofPayload (.bare .execute) ⟨.single .unit, ()⟩)),
    (⟨20, 0⟩, .expire 7),
    (⟨30, 0⟩, .getTyped 7 (.single .unit)),
    (⟨40, 0⟩, .expire 7)]

/-- Both expiries lie before the cutoff, so the key is dropped. -/
theorem purge_drops_expiredTwice :
    expiredTwice.IsOrdered ∧ (∀ event ∈ expiredTwice, event.1.IsClock) ∧
      (⟨120, 0⟩ : Instant).IsClock ∧ (∀ event ∈ expiredTwice, event.1 ≤ ⟨120, 0⟩) ∧
      (expiredTwice.run perform (create (.ofSeconds 60) .stripPayload)).contains 7 = true ∧
      ((expiredTwice.run perform (create (.ofSeconds 60) .stripPayload)).purgeExpired ⟨120, 0⟩
        (.ofSeconds 50)).2.contains 7 = false := by
  have ordered : expiredTwice.IsOrdered := by decide
  have clock : ∀ event ∈ expiredTwice, event.1.IsClock := by decide
  have nowClock : (⟨120, 0⟩ : Instant).IsClock := by decide
  have past : ∀ event ∈ expiredTwice, event.1 ≤ ⟨120, 0⟩ := by decide
  have present :
      (expiredTwice.run perform (create (.ofSeconds 60) .stripPayload)).contains 7 = true := rfl
  obtain ⟨since, recorded, _, law, _⟩ :=
    purge_drops_iff ordered clock nowClock past present (.ofSeconds 50)
  obtain rfl : (⟨⟨0, 0⟩, [⟨20, 0⟩, ⟨40, 0⟩]⟩ : SincePut) = since := Option.some.inj recorded
  exact ⟨ordered, clock, nowClock, past, present, law.2 (by decide)⟩

/-- A key that is put, lives out its time of a minute, and is expired when it is stale. -/
def expiredWhenStale : History Operation :=
  [(⟨0, 0⟩, .put 7 (.ofPayload (.bare .execute) ⟨.single .unit, ()⟩)), (⟨100, 0⟩, .expire 7)]

/-- It stopped being fresh after a minute, which is before the cutoff of a purge after two
minutes with fifty seconds of grace, and yet it is not dropped. -/
theorem expiredWhenStale_outlives_grace :
    expiredWhenStale.IsOrdered ∧ (∀ event ∈ expiredWhenStale, event.1.IsClock) ∧
      (⟨120, 0⟩ : Instant).IsClock ∧ (∀ event ∈ expiredWhenStale, event.1 ≤ ⟨120, 0⟩) ∧
      (expiredWhenStale.run perform (create (.ofSeconds 60) .stripPayload)).contains 7 = true ∧
      SincePut.ofHistory 7 expiredWhenStale = some ⟨⟨0, 0⟩, [⟨100, 0⟩]⟩ ∧
      SincePut.staleFrom (.ofSeconds 60) ⟨⟨0, 0⟩, [⟨100, 0⟩]⟩ = ⟨60, 0⟩ ∧
      (⟨60, 0⟩ : Instant) ≤ max ((⟨120, 0⟩ : Instant).minus (.ofSeconds 50)) Instant.earliest ∧
      ((expiredWhenStale.run perform (create (.ofSeconds 60) .stripPayload)).purgeExpired
        ⟨120, 0⟩ (.ofSeconds 50)).2.contains 7 = true ∧
      ¬(((expiredWhenStale.run perform (create (.ofSeconds 60) .stripPayload)).purgeExpired
          ⟨120, 0⟩ (.ofSeconds 50)).2.contains 7 = false ↔
        (⟨60, 0⟩ : Instant) ≤ max ((⟨120, 0⟩ : Instant).minus (.ofSeconds 50)) Instant.earliest) := by
  have within :
      (⟨60, 0⟩ : Instant) ≤ max ((⟨120, 0⟩ : Instant).minus (.ofSeconds 50)) Instant.earliest := by
    decide
  have kept : ((expiredWhenStale.run perform (create (.ofSeconds 60) .stripPayload)).purgeExpired
      ⟨120, 0⟩ (.ofSeconds 50)).2.contains 7 = true := rfl
  refine ⟨by decide, by decide, by decide, by decide, rfl, rfl, by decide, within, kept, ?_⟩
  intro counted
  cases kept.symm.trans (counted.2 within)

end MemoryTier

end ResultCache
