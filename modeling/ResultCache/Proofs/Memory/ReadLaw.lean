import ResultCache.Proofs.Memory.Operation
import ResultCache.Proofs.Time.Order

/-!
Contract: what a typed read of a memory tier finds after any history.

Owns:
- `Life`, what a key has gone through since it was last removed, as a function of the
  history alone;
- the entry that a life leaves in the tier, and that every operation keeps the two in
  step;
- the read law: a read finds the payload of the last live put, under the conditions
  that the life of the key decides.

Does not own: counters.
-/

namespace ResultCache

namespace MemoryTier

/-- When an entry put at an instant stops being served, unless it is ended before. -/
def stamp (timeToLive : Duration) (moment : Instant) : Instant :=
  min (moment.plus timeToLive) Instant.latest

/-- A tier with this time to live stamps every put with it, although the span it
keeps may be a shorter one. -/
theorem expiryFrom_eq_stamp {tier : MemoryTier} {timeToLive : Duration} {now : Instant}
    (same : tier.timeToLive = timeToLive.clamped) (clock : now.IsClock) :
    tier.expiryFrom now = stamp timeToLive now := by
  unfold expiryFrom stamp
  rw [same]
  exact Instant.later_clamped clock timeToLive

/-- What a key has gone through since it was last removed. -/
structure Life where
  /-- The live puts, the last one first. -/
  puts : List (Instant × Envelope Payload)
  /-- When the key was last expired, if that was after the last put. -/
  ended : Option Instant

namespace Life

variable {timeToLive : Duration} {policy : ReplacementPolicy} {key : Key}

def unborn : Life := ⟨[], none⟩

/-- When the last live put stops being served, or stopped. -/
def expiry? (timeToLive : Duration) (life : Life) : Option Instant :=
  life.puts.head?.map fun last => life.ended.getD (stamp timeToLive last.1)

/-- The life of a key after one more operation. A purge removes the key when its last
put stopped being served by the end of the grace window. -/
def after (timeToLive : Duration) (key : Key) (life : Life) (now : Instant) : Operation → Life
  | .put other envelope => if other = key then ⟨(now, envelope) :: life.puts, none⟩ else life
  | .getTyped _ _ | .getEnvelope _ _ | .getForRefresh _ => life
  | .expire other => if other = key then { life with ended := some now } else life
  | .invalidate other => if other = key then unborn else life
  | .clear => unborn
  | .purgeExpired grace =>
    if (life.expiry? timeToLive).any fun expiry =>
        expiry ≤ max (now.minus grace) Instant.earliest
    then unborn else life

/-- The life of a key that a history describes. -/
def ofHistory (timeToLive : Duration) (key : Key) (history : History Operation) : Life :=
  history.run (after timeToLive key) unborn

/-- The entry that a life leaves in a tier: the last put, stripped where it replaced
another one in a tier that strips. -/
def entry (timeToLive : Duration) (policy : ReplacementPolicy) (life : Life) :
    Option (Envelope Payload) :=
  match life.puts with
  | [] => none
  | (moment, envelope) :: earlier =>
    some ⟨envelope.provenance,
      if policy = .stripPayload ∧ earlier ≠ [] then none else envelope.payload,
      some (life.ended.getD (stamp timeToLive moment))⟩

theorem entry_eq_none_iff {life : Life} :
    life.entry timeToLive policy = none ↔ life.puts = [] := by
  unfold entry
  cases life.puts with
  | nil => simp
  | cons last earlier => simp

theorem entry_expire (life : Life) (now : Instant) :
    ({ life with ended := some now } : Life).entry timeToLive policy =
      (life.entry timeToLive policy).map fun envelope => { envelope with expires := some now } := by
  unfold entry
  cases life.puts with
  | nil => rfl
  | cons last earlier => rfl

/-- An operation ends a life at its own instant only. -/
theorem ended_after {life : Life} {now moment : Instant} {operation : Operation}
    (member : moment ∈ (life.after timeToLive key now operation).ended) :
    moment ∈ life.ended ∨ moment = now := by
  cases operation with
  | put other envelope =>
      simp only [after] at member
      split at member
      · exact absurd member (by simp)
      · exact Or.inl member
  | getTyped other type | getEnvelope other type | getForRefresh other => exact Or.inl member
  | expire other =>
      simp only [after] at member
      split at member
      · exact Or.inr (Option.some.inj member).symm
      · exact Or.inl member
  | invalidate other =>
      simp only [after] at member
      split at member
      · exact absurd member (by simp [unborn])
      · exact Or.inl member
  | clear => exact absurd member (by simp [after, unborn])
  | purgeExpired grace =>
      simp only [after] at member
      split at member
      · exact absurd member (by simp [unborn])
      · exact Or.inl member

/-- Entries outlive a purge unless the last put stopped being served by its cutoff. -/
theorem entry_filter_outlives (life : Life) (cutoff : Instant) :
    (life.entry timeToLive policy).filter (outlives cutoff) =
      if (life.expiry? timeToLive).any fun expiry => expiry ≤ cutoff then none
      else life.entry timeToLive policy := by
  unfold entry expiry?
  cases life.puts with
  | nil => rfl
  | cons last earlier =>
      by_cases stopped : life.ended.getD (stamp timeToLive last.1) ≤ cutoff
      · have dropped := Instant.before_eq_false_iff.2 stopped
        simp [stopped, outlives, dropped]
      · have kept := Instant.before_iff.2 (not_le.1 stopped)
        simp [stopped, outlives, kept]

end Life

/-- A tier and the life of a key are in step: the life leaves the entry that the tier
has, and was not ended in the future. -/
structure Tracks (timeToLive : Duration) (policy : ReplacementPolicy) (key : Key) (now : Instant)
    (tier : MemoryTier) (life : Life) : Prop where
  sameTimeToLive : tier.timeToLive = timeToLive.clamped
  samePolicy : tier.policy = policy
  sameEntry : tier.entries.get? key = life.entry timeToLive policy
  endedBefore : ∀ moment ∈ life.ended, moment ≤ now

namespace Tracks

variable {timeToLive : Duration} {policy : ReplacementPolicy} {key : Key} {now : Instant}
  {tier : MemoryTier} {life : Life}

theorem create (timeToLive : Duration) (policy : ReplacementPolicy) (key : Key) (now : Instant) :
    Tracks timeToLive policy key now (MemoryTier.create timeToLive policy) .unborn :=
  ⟨rfl, rfl, rfl, by simp [Life.unborn]⟩

theorem wait {later : Instant} (forward : now ≤ later)
    (tracks : Tracks timeToLive policy key now tier life) :
    Tracks timeToLive policy key later tier life where
  sameTimeToLive := tracks.sameTimeToLive
  samePolicy := tracks.samePolicy
  sameEntry := tracks.sameEntry
  endedBefore := by
    intro moment member
    exact (tracks.endedBefore moment member).trans forward

/-- What a put stores is the entry of the life with one more put. -/
theorem stored_eq_entry (tracks : Tracks timeToLive policy key now tier life)
    (clock : now.IsClock) (envelope : Envelope Payload) :
    some (tier.stored now key envelope) =
      Life.entry timeToLive policy ⟨(now, envelope) :: life.puts, none⟩ := by
  have present : tier.entries.contains key = true ↔ life.puts ≠ [] := by
    unfold KeyMap.contains
    rw [tracks.sameEntry, Option.isSome_iff_ne_none, ne_eq, Life.entry_eq_none_iff]
  have strips : (tier.entries.contains key = true ∧ tier.policy = .stripPayload) ↔
      (policy = .stripPayload ∧ life.puts ≠ []) := by
    rw [present, tracks.samePolicy, and_comm]
  rw [stored_eq, expiryFrom_eq_stamp tracks.sameTimeToLive clock]
  unfold Life.entry
  simp only [strips, Option.getD_none]

theorem perform (tracks : Tracks timeToLive policy key now tier life) (clock : now.IsClock)
    (operation : Operation) :
    Tracks timeToLive policy key now (tier.perform now operation)
      (life.after timeToLive key now operation) where
  sameTimeToLive := (tier.perform_settings now operation).1.trans tracks.sameTimeToLive
  samePolicy := (tier.perform_settings now operation).2.trans tracks.samePolicy
  sameEntry := by
    have same := tracks.sameEntry
    cases operation with
    | put other envelope =>
        simp only [MemoryTier.perform, Life.after, get?_put]
        by_cases hit : other = key
        · rw [if_pos hit, if_pos hit, hit]
          exact tracks.stored_eq_entry clock envelope
        · rw [if_neg hit, if_neg hit]
          exact same
    | getTyped other type | getEnvelope other type =>
        simp only [MemoryTier.perform, Life.after, getTyped_entries, getEnvelope_entries]
        exact same
    | getForRefresh other => exact same
    | expire other =>
        simp only [MemoryTier.perform, Life.after, get?_expire]
        by_cases hit : other = key
        · rw [if_pos hit, if_pos hit, hit, same, Life.entry_expire]
        · rw [if_neg hit, if_neg hit]
          exact same
    | invalidate other =>
        simp only [MemoryTier.perform, Life.after, get?_invalidate]
        by_cases hit : other = key
        · rw [if_pos hit, if_pos hit]
          rfl
        · rw [if_neg hit, if_neg hit]
          exact same
    | clear => rfl
    | purgeExpired grace =>
        -- The tier cuts grace windows to the longest span; a clock never gets near it.
        have cut : cutoff now grace = max (now.minus grace) Instant.earliest :=
          Instant.earlier_clamped clock grace
        simp only [MemoryTier.perform, Life.after, get?_purgeExpired]
        rw [same, cut, Life.entry_filter_outlives, apply_ite (Life.entry timeToLive policy)]
        rfl
  endedBefore := by
    intro moment member
    rcases Life.ended_after member with before | present
    · exact tracks.endedBefore moment before
    · exact present.le

/-- What the tier serves, by the life of the key alone. -/
theorem serves_iff (tracks : Tracks timeToLive policy key now tier life)
    {type : PayloadType} {value : type.Value} :
    (tier.getTyped now key type).1 = some value ↔
      ∃ moment envelope earlier, life.puts = (moment, envelope) :: earlier ∧
        envelope.payload = some ⟨type, value⟩ ∧ now < stamp timeToLive moment ∧
        life.ended = none ∧ (policy = .stripPayload → earlier = []) := by
  rw [getTyped_eq_some_iff_of_get?, tracks.sameEntry]
  unfold Life.entry
  cases puts : life.puts with
  | nil => simp
  | cons last earlier =>
      obtain ⟨moment, envelope⟩ := last
      -- An entry that was expired carries the instant of its expiry, which is past.
      have serves : now.before (life.ended.getD (stamp timeToLive moment)) = true ↔
          now < stamp timeToLive moment ∧ life.ended = none := by
        rw [Instant.before_iff]
        cases ended : life.ended with
        | none => simp
        | some finish =>
            have past := tracks.endedBefore finish (by rw [ended]; rfl)
            simpa using past
      have alone : (policy = .stripPayload → earlier = []) ↔
          ¬(policy = .stripPayload ∧ earlier ≠ []) := by
        rw [not_and, not_not]
      constructor
      · rintro ⟨held, found, payload, fresh⟩
        cases found
        by_cases strips : policy = .stripPayload ∧ earlier ≠ []
        · exact absurd payload (by simp [strips])
        · rw [if_neg strips] at payload
          obtain ⟨inTime, lasting⟩ := serves.1 fresh
          exact ⟨moment, envelope, earlier, rfl, payload, inTime, lasting, alone.2 strips⟩
      · rintro ⟨_, _, _, same, payload, inTime, lasting, isAlone⟩
        cases same
        refine ⟨_, rfl, ?_, serves.2 ⟨inTime, lasting⟩⟩
        rw [if_neg (alone.1 isAlone)]
        exact payload

end Tracks

variable {timeToLive : Duration} {policy : ReplacementPolicy}

/-- After any history, the tier and the life of every key are in step. -/
theorem tracks_run {history : History Operation} (ordered : history.IsOrdered)
    (clock : ∀ event ∈ history, event.1.IsClock) {now : Instant}
    (past : ∀ event ∈ history, event.1 ≤ now) (key : Key) :
    Tracks timeToLive policy key now (history.run perform (create timeToLive policy))
      (Life.ofHistory timeToLive key history) := by
  have wait : ∀ past now tier life, past ≤ now →
      Tracks timeToLive policy key past tier life →
      Tracks timeToLive policy key now tier life := by
    intro past now tier life forward tracks
    exact tracks.wait forward
  have step : ∀ now tier life operation, now.IsClock →
      Tracks timeToLive policy key now tier life →
      Tracks timeToLive policy key now (tier.perform now operation)
        (life.after timeToLive key now operation) := by
    intro now tier life operation clockNow tracks
    exact tracks.perform clockNow operation
  exact History.run_related wait step ordered clock past (Tracks.create timeToLive policy key _)

/-- The read law: a tier serves the payload of the last live put of a key, at its own
type, before its stamp, unless the key was expired or the payload was stripped. -/
theorem getTyped_run_eq_some_iff {history : History Operation} (ordered : history.IsOrdered)
    (clock : ∀ event ∈ history, event.1.IsClock) {now : Instant}
    (past : ∀ event ∈ history, event.1 ≤ now) {key : Key} {type : PayloadType}
    {value : type.Value} :
    ((history.run perform (create timeToLive policy)).getTyped now key type).1 = some value ↔
      ∃ moment envelope earlier,
        (Life.ofHistory timeToLive key history).puts = (moment, envelope) :: earlier ∧
        envelope.payload = some ⟨type, value⟩ ∧ now < stamp timeToLive moment ∧
        (Life.ofHistory timeToLive key history).ended = none ∧
        (policy = .stripPayload → earlier = []) :=
  (tracks_run ordered clock past key).serves_iff

/-- A key that is put, expired, purged and put again, in a tier that strips. -/
def replacedAfterPurge : History Operation :=
  [(⟨0, 0⟩, .put 7 (.ofPayload (.bare .execute) ⟨.single .unit, ()⟩)),
    (⟨5, 0⟩, .expire 7),
    (⟨9, 0⟩, .purgeExpired (.ofSeconds 2)),
    (⟨10, 0⟩, .put 7 (.ofPayload (.bare .oneByQuery) ⟨.single .text, "row"⟩)),
    (⟨11, 0⟩, .getForRefresh 7)]

theorem getTyped_replacedAfterPurge :
    replacedAfterPurge.IsOrdered ∧ (∀ event ∈ replacedAfterPurge, event.1.IsClock) ∧
      (∀ event ∈ replacedAfterPurge, event.1 ≤ ⟨69, 0⟩) ∧
      ((replacedAfterPurge.run perform (create (.ofSeconds 60) .stripPayload)).getTyped ⟨69, 0⟩ 7
        (.single .text)).1 = some "row" := by
  have ordered : replacedAfterPurge.IsOrdered := by decide
  have clock : ∀ event ∈ replacedAfterPurge, event.1.IsClock := by decide
  have past : ∀ event ∈ replacedAfterPurge, event.1 ≤ ⟨69, 0⟩ := by decide
  refine ⟨ordered, clock, past, (getTyped_run_eq_some_iff ordered clock past).2 ?_⟩
  exact ⟨⟨10, 0⟩, _, [], rfl, rfl, by decide, rfl, fun _ => rfl⟩

end MemoryTier

end ResultCache
