import ResultCache.Proofs.Cache.Grounding

/-!
Contract: provenance is never lost, mixed up or invented.

Owns:
- `QueryCache.putMade?`, the put that an operation made, as its caller knows it;
- `QueryCache.trail`, what a caller can know of an entry without looking: the provenance of
  the last put since the entry was removed, and when it expires;
- `QueryCache.Traces`, that the entry is what its trail says, and that every operation
  keeps it so;
- that a read for a refresh gives what the trail says, after every run.

Does not own: payloads, and the entries of other keys.
-/

namespace ResultCache

namespace QueryCache

/-- The put that an operation made, with its provenance: its own; that of the template when
a fetch was run; that of the request when a fetch was issued again. -/
def putMade? : Operation → Answer → Option (Key × Provenance)
  | .put key envelope, .put (.ok ()) => some (key, envelope.provenance)
  | .getOrFetch key _ template _, .fetched _ ⟨.ok _, 1⟩ => some (key, template)
  | .refresh key _ _, .refreshed _ ⟨.ok (some _), [request]⟩ => some (key, request)
  | _, _ => none

/-- What can be known of an entry without looking at payloads. -/
abbrev Trail := Envelope Empty

/-- What is left of the trail of a key by an operation that puts nothing. An entry is
removed by a clear, by a purge when it expired long enough ago, and from memory by its
invalidation, which ends the freshness of a persistent one. -/
def trailLeft (key : Key) (persistent : Bool) (now : Instant) (trail : Option Trail) :
    Operation → Option Trail
  | .invalidate other =>
    if other = key then
      if persistent then trail.map fun trail => { trail with expires := some now } else none
    else trail
  | .clear => none
  | .purgeExpired grace =>
    trail.filter fun trail => trail.expires.any (now.earlier grace.clamped).before
  | _ => trail

/-- A put of the key starts its trail anew. -/
def trailRenewed (timeToLive : Duration) (key : Key) (now : Instant) (trail : Option Trail) :
    Option (Key × Provenance) → Option Trail
  | some (other, provenance) =>
    if other = key then some ⟨provenance, none, some (now.later timeToLive.clamped)⟩ else trail
  | none => trail

def trailAfter (timeToLive : Duration) (key : Key) (cache : QueryCache) (now : Instant)
    (trail : Option Trail) (operation : Operation) : Option Trail :=
  trailRenewed timeToLive key now (trailLeft key cache.isPersistent now trail operation)
    (putMade? operation (cache.answer now operation))

/-- The trail of a key in a new cache after a history. -/
def trail (timeToLive : Duration) (key : Key) (cache : QueryCache)
    (history : History Operation) : Option Trail :=
  history.follow perform (trailAfter timeToLive key) cache none

/-- The entry of a key is what its trail says. -/
structure Traces (timeToLive : Duration) (key : Key) (cache : QueryCache)
    (trail : Option Trail) : Prop where
  grounded : cache.Grounded
  timeToLive : cache.metadata.timeToLive = timeToLive.clamped
  entry : (cache.metadata.entries.get? key).map Envelope.metadataOnly = trail

namespace Traces

variable {timeToLive : Duration} {key : Key} {cache : QueryCache} {trail : Option Trail}

theorem ofNew (new : cache.IsNew timeToLive) (key : Key) :
    Traces timeToLive key cache none := by
  obtain ⟨policy, created⟩ := new.exists_policy
  refine ⟨.ofNew new, ?_, ?_⟩
  · rw [created]
    rfl
  · rw [created]
    rfl

theorem getEnvelope (traces : Traces timeToLive key cache trail) (now : Instant) (other : Key)
    (type : PayloadType) :
    Traces timeToLive key (cache.getEnvelope now other type).2 trail := by
  obtain ⟨counters, _, counted⟩ := cache.exists_counters_of_getEnvelope now other type
  rw [counted]
  refine ⟨traces.grounded.withCounters counters, ?_, ?_⟩
  · rw [QueryCache.withCounters, metadata_withMetadata]
    exact traces.timeToLive
  · rw [QueryCache.withCounters, metadata_withMetadata]
    exact traces.entry

/-- A put leaves the trail that its answer tells, as it is or as part of an operation. -/
theorem put (traces : Traces timeToLive key cache trail) {now : Instant} {other : Key}
    {envelope : Envelope Payload} {made : Option (Key × Provenance)}
    (told : made = (cache.put now other envelope).1.toOption.map fun _ =>
      (other, envelope.provenance)) :
    Traces timeToLive key (cache.put now other envelope).2
      (trailRenewed timeToLive key now trail made) := by
  rcases cache.put_cases now other envelope with
    ⟨_, failed⟩ | ⟨kept, same, succeeded, remembered⟩
  · rw [failed] at told ⊢
    rw [told]
    exact traces
  · rw [succeeded] at told
    rw [told]
    refine ⟨traces.grounded.put now other envelope, ?_, ?_⟩
    · rw [remembered]
      exact traces.timeToLive
    · rw [remembered, MemoryTier.get?_put, ← same]
      change _ = if other = key then _ else trail
      by_cases here : other = key
      · rw [if_pos here, if_pos here, MemoryTier.stored_eq, MemoryTier.expiryFrom,
          traces.timeToLive]
        rfl
      · rw [if_neg here, if_neg here]
        exact traces.entry

theorem invalidate (traces : Traces timeToLive key cache trail) (now : Instant) (other : Key) :
    Traces timeToLive key (cache.invalidate now other).2
      (trailLeft key cache.isPersistent now trail (.invalidate other)) := by
  have grounded := traces.grounded.perform now (.invalidate other)
  rw [trailLeft]
  cases persistent : cache.isPersistent with
  | true =>
      have metadata : (cache.invalidate now other).2.metadata =
          (cache.metadata.expire now other).2 := by
        rw [metadata_invalidate, if_pos persistent]
      refine ⟨grounded, ?_, ?_⟩
      · rw [metadata, ← traces.timeToLive]
        exact (cache.metadata.perform_settings now (.expire other)).1
      · rw [metadata, MemoryTier.get?_expire, ← traces.entry]
        by_cases here : other = key
        · rw [if_pos here, if_pos here, here, Option.map_map, if_pos rfl, Option.map_map]
          rfl
        · rw [if_neg here, if_neg here]
  | false =>
      have metadata : (cache.invalidate now other).2.metadata =
          (cache.metadata.invalidate other).2 := by
        rw [metadata_invalidate, if_neg (by simp [persistent])]
      refine ⟨grounded, ?_, ?_⟩
      · rw [metadata, ← traces.timeToLive]
        exact (cache.metadata.perform_settings now (.invalidate other)).1
      · rw [metadata, MemoryTier.get?_invalidate, ← traces.entry]
        by_cases here : other = key
        · rw [if_pos here, if_pos here]
          rfl
        · rw [if_neg here, if_neg here]

theorem clear (traces : Traces timeToLive key cache trail) :
    Traces timeToLive key cache.clear.2 none := by
  obtain ⟨grounded, cleared⟩ := traces.grounded.clear
  refine ⟨grounded, ?_, ?_⟩
  · rw [cleared]
    exact traces.timeToLive
  · rw [cleared]
    rfl

theorem purgeExpired (traces : Traces timeToLive key cache trail) (now : Instant)
    (grace : Duration) :
    Traces timeToLive key (cache.perform now (.purgeExpired grace))
      (trailLeft key cache.isPersistent now trail (.purgeExpired grace)) := by
  refine ⟨traces.grounded.perform now (.purgeExpired grace), ?_, ?_⟩
  · rw [perform, metadata_withMetadata]
    exact traces.timeToLive
  · rw [perform, metadata_withMetadata, MemoryTier.get?_purgeExpired, ← traces.entry, trailLeft]
    cases cache.metadata.entries.get? key with
    | none => rfl
    | some remembered =>
        -- The purge looks at the expiry only, which the trail has in common with the entry.
        have same : MemoryTier.outlives (MemoryTier.cutoff now grace) remembered =
            remembered.expires.any (now.earlier grace.clamped).before := by
          unfold MemoryTier.outlives
          cases remembered.expires <;> rfl
        cases outlives : MemoryTier.outlives (MemoryTier.cutoff now grace) remembered <;>
          simp [Option.filter, Envelope.metadataOnly, outlives, ← same]

theorem perform (traces : Traces timeToLive key cache trail) (now : Instant)
    (operation : Operation) :
    Traces timeToLive key (cache.perform now operation)
      (trailAfter timeToLive key cache now trail operation) := by
  cases operation with
  | put other envelope =>
      apply traces.put
      rw [answer]
      cases (cache.put now other envelope).1 <;> rfl
  | getTyped other type | getEnvelope other type => exact traces.getEnvelope now other type
  | getForRefresh | canStream | stream | streamCancellable => exact traces
  | invalidate other => exact traces.invalidate now other
  | clear => exact traces.clear
  | getOrFetch other type template fetch =>
      have read : Traces timeToLive key (cache.getTyped now other type).2 trail :=
        traces.getEnvelope now other type
      rw [trailAfter, answer, QueryCache.perform]
      rcases cache.getOrFetch_cases now other type template fetch with
        ⟨outcome, fetches, readOnly, nothing⟩ | ⟨value, _, wrote⟩
      · -- What has put nothing has run no fetch or failed, and its answer says so.
        have none : putMade? (.getOrFetch other type template fetch)
            (.fetched type ⟨outcome, fetches⟩) = none := by
          rcases nothing with rfl | ⟨failure, rfl⟩
          · cases outcome <;> rfl
          · rfl
        rw [readOnly, none]
        exact read
      · rw [wrote]
        apply put read
        dsimp only
        cases (QueryCache.put _ now other _).1 <;> rfl
  | refresh other type execute =>
      rw [trailAfter, answer, QueryCache.perform]
      rcases cache.refresh_cases now other type execute with
        ⟨outcome, requests, unchanged, nothing⟩ | ⟨remembered, value, _, _, wrote⟩
      · have none : putMade? (.refresh other type execute)
            (.refreshed type ⟨outcome, requests⟩) = none := by
          rcases outcome with _ | _ | value
          · rfl
          · rfl
          · exact absurd rfl (nothing value)
        rw [unchanged, none]
        exact traces
      · rw [wrote]
        apply traces.put
        dsimp only
        cases (QueryCache.put _ now other _).1 <;> rfl
  | purgeExpired grace => exact traces.purgeExpired now grace

theorem run (new : cache.IsNew timeToLive) (history : History Operation) (key : Key) :
    Traces timeToLive key (history.run QueryCache.perform cache)
      (QueryCache.trail timeToLive key cache history) := by
  have step : ∀ cache now trail operation, Traces timeToLive key cache trail →
      Traces timeToLive key (cache.perform now operation)
        (trailAfter timeToLive key cache now trail operation) := by
    intro cache now trail operation traces
    exact traces.perform now operation
  exact History.follow_preserves step history (ofNew new key)

end Traces

/-- After every run of a new cache, a read for a refresh gives what the trail of the key
says: nothing unless there was a put since the entry was last removed, and otherwise the
shape, the query text, the parameters, the filter and the selector of the last put, with
the expiry that it or a later invalidation set. -/
theorem getForRefresh_run {timeToLive : Duration} {cache : QueryCache}
    (new : cache.IsNew timeToLive) (history : History Operation) (key : Key) :
    ∃ found, (history.run perform cache).getForRefresh key = .ok found ∧
      found.map Envelope.metadataOnly = trail timeToLive key cache history := by
  have traces := Traces.run new history key
  exact ⟨_, traces.grounded.getForRefresh_eq key, traces.entry⟩

/-- A truth value fetched by a query, invalidated, and overwritten by a list without a
query text; a put without payload, which fails; and a purge that is too early for either. -/
def overtaken : History Operation :=
  [(⟨0, 0⟩, .put 7 (.ofPayload (.ofQuery .oneByQuery "SELECT 1") ⟨.single .bool, true⟩)),
    (⟨1, 0⟩, .invalidate 7),
    (⟨2, 0⟩, .put 7 (.ofPayload (.bare .listByQuery) ⟨.single (.list .bool), [true]⟩)),
    (⟨3, 0⟩, .put 7 ⟨.ofQuery .listByQuery "SELECT 2", none, none⟩),
    (⟨4, 0⟩, .purgeExpired .day)]

/-- The query text of the first put is not found in the row of the second. -/
theorem getForRefresh_overtaken :
    emptyText.IsNew .day ∧
      ∃ remembered, (overtaken.run perform emptyText).getForRefresh 7 = .ok (some remembered) ∧
        remembered.provenance = .bare .listByQuery := by
  have last : trail .day 7 emptyText overtaken =
      some ⟨.bare .listByQuery, none, some ⟨86402, 0⟩⟩ := rfl
  obtain ⟨found, read, same⟩ := getForRefresh_run isNew_emptyText overtaken 7
  rw [last] at same
  obtain ⟨remembered, rfl, known⟩ := Option.map_eq_some_iff.1 same
  exact ⟨isNew_emptyText, remembered, read, congrArg Envelope.provenance known⟩

end QueryCache

end ResultCache
