import ResultCache.Proofs.Cache.Counters

/-!
Contract: a write that fails leaves a cache as it was.

Owns:
- `QueryCache.Answer.FailsToWrite`, the answers by which a put, a read through the cache
  and a refresh say that they failed;
- that a put and a refresh that fail have changed nothing, and a read through the cache no
  more than its typed read;
- that all later operations answer as if the write had not been tried, whatever others do
  to the database.

Does not own: why a write fails. The payload may be missing or refused by the serializer
or the compressor, the database may be out of reach, or what was to give the value failed.
-/

namespace ResultCache

theorem CacheError.eq_error_of_map {First Second : Type} {outcome : Except CacheError First}
    {change : First → Second} {failure : CacheError}
    (failed : outcome.map change = .error failure) : outcome = .error failure := by
  cases outcome with
  | error _ =>
      cases failed
      rfl
  | ok _ => cases failed

namespace QueryCache

/-- Answers by which a write says that it failed. -/
inductive Answer.FailsToWrite : Answer → Prop
  | put (failure : CacheError) : FailsToWrite (.put (.error failure))
  | fetched (type : PayloadType) (failure : CacheError) (fetches : Nat) :
      FailsToWrite (.fetched type ⟨.error failure, fetches⟩)
  | refreshed (type : PayloadType) (failure : CacheError) (requests : List Provenance) :
      FailsToWrite (.refreshed type ⟨.error failure, requests⟩)

variable {cache : QueryCache} {now : Instant} {key : Key} {failure : CacheError}

theorem getOrFetch_eq_getTyped_of_error {type : PayloadType} {template : Provenance}
    {fetch : Unit → Except CacheError type.Value}
    (failed : (cache.getOrFetch now key type template fetch).1.outcome = .error failure) :
    (cache.getOrFetch now key type template fetch).2 = (cache.getTyped now key type).2 := by
  rcases cache.getOrFetch_cases now key type template fetch with
    ⟨_, _, readOnly, _⟩ | ⟨value, _, wrote⟩
  · rw [readOnly]
  · rw [wrote] at failed ⊢
    exact put_eq_self_of_error (CacheError.eq_error_of_map failed)

theorem refresh_eq_self_of_error {type : PayloadType}
    {execute : Provenance → Except CacheError type.Value}
    (failed : (cache.refresh now key type execute).1.outcome = .error failure) :
    (cache.refresh now key type execute).2 = cache := by
  rcases cache.refresh_cases now key type execute with
    ⟨_, _, unchanged, _⟩ | ⟨remembered, value, _, _, wrote⟩
  · rw [unchanged]
  · rw [wrote] at failed ⊢
    exact put_eq_self_of_error (CacheError.eq_error_of_map failed)

/-! ### Whole operations -/

section Failed

variable {type : PayloadType} {template : Provenance} {envelope : Envelope Payload}
  {fetch : Unit → Except CacheError type.Value}
  {execute : Provenance → Except CacheError type.Value}

theorem perform_put_of_failsToWrite
    (failed : (cache.answer now (.put key envelope)).FailsToWrite) :
    cache.perform now (.put key envelope) = cache := by
  generalize answered : cache.answer now (.put key envelope) = answer at failed
  cases failed with
  | put failure => exact put_eq_self_of_error (Answer.put.inj answered)
  | fetched | refreshed => cases answered

theorem perform_getOrFetch_of_failsToWrite
    (failed : (cache.answer now (.getOrFetch key type template fetch)).FailsToWrite) :
    cache.perform now (.getOrFetch key type template fetch) =
      cache.perform now (.getTyped key type) := by
  generalize answered : cache.answer now (.getOrFetch key type template fetch) = answer at failed
  cases failed with
  | fetched _ failure fetches =>
      obtain ⟨rfl, same⟩ := Answer.fetched.inj answered
      exact getOrFetch_eq_getTyped_of_error (congrArg ReadThrough.outcome (eq_of_heq same))
  | put | refreshed => cases answered

theorem perform_refresh_of_failsToWrite
    (failed : (cache.answer now (.refresh key type execute)).FailsToWrite) :
    cache.perform now (.refresh key type execute) = cache := by
  generalize answered : cache.answer now (.refresh key type execute) = answer at failed
  cases failed with
  | refreshed _ failure requests =>
      obtain ⟨rfl, same⟩ := Answer.refreshed.inj answered
      exact refresh_eq_self_of_error (congrArg Refreshed.outcome (eq_of_heq same))
  | put | fetched => cases answered

end Failed

/-- What a failed write leaves: the cache as it was, or what its typed read leaves. -/
theorem perform_of_failsToWrite {operation : Operation}
    (failed : (cache.answer now operation).FailsToWrite) :
    (cache.perform now operation = cache ∧
        ∀ key type template fetch, operation ≠ .getOrFetch key type template fetch) ∨
      ∃ key type template fetch, operation = .getOrFetch key type template fetch ∧
        cache.perform now operation = (cache.getTyped now key type).2 := by
  cases operation with
  | put key envelope => exact .inl ⟨perform_put_of_failsToWrite failed, by simp⟩
  | refresh key type execute => exact .inl ⟨perform_refresh_of_failsToWrite failed, by simp⟩
  | getOrFetch key type template fetch =>
      exact .inr ⟨_, _, _, _, rfl, perform_getOrFetch_of_failsToWrite failed⟩
  | _ => cases failed

/-- A failed write leaves the rows, the recorded types and the entries with their expiry
as they were. A put and a refresh leave the whole cache so, and a read through the cache
leaves what its typed read leaves, which differs in the counters of reads at most. Every
later operation answers as if the write had not been tried, whatever happens to the
database meanwhile. -/
theorem failed_write_leaves_cache {operation : Operation}
    (failed : (cache.answer now operation).FailsToWrite) :
    ((∀ key type template fetch, operation ≠ .getOrFetch key type template fetch) →
        cache.perform now operation = cache) ∧
      (∀ key type template fetch, operation = .getOrFetch key type template fetch →
        cache.perform now operation = (cache.getTyped now key type).2) ∧
      (∃ counters, counters.SameWrites cache.metadata.counters ∧
        cache.perform now operation = cache.withCounters counters) ∧
      ∀ history : History Event,
        history.trace advance observe (cache.perform now operation) =
          history.trace advance observe cache := by
  -- Only a read through the cache leaves more than it found, and that in the counters.
  rcases perform_of_failsToWrite failed with
    ⟨unchanged, other⟩ | ⟨key, type, template, fetch, rfl, readOnly⟩
  · refine ⟨fun _ => unchanged, ?_, ⟨_, ⟨rfl, rfl, rfl⟩, ?_⟩, ?_⟩
    · intro key type template fetch same
      exact absurd same (other key type template fetch)
    · exact unchanged.trans cache.withCounters_self.symm
    · intro history
      rw [unchanged]
  · obtain ⟨counters, same, counted⟩ := cache.exists_counters_of_getEnvelope now key type
    have left := readOnly.trans counted
    refine ⟨fun other => absurd rfl (other _ _ _ _), ?_, ⟨counters, same, left⟩, ?_⟩
    · intro _ _ _ _ equal
      cases equal
      exact readOnly
    · intro history
      rw [left]
      exact cache.trace_withCounters counters history

/-- A cache with a truth value in it. -/
def flagged : QueryCache :=
  (emptyText.put ⟨0, 0⟩ 7 (.ofPayload (.bare .oneByQuery) ⟨.single .bool, true⟩)).2

/-- A read through the cache of the key of the truth value. It counts a mismatch of types,
fetches a map, and fails, for pairs are no keys of a JSON object. -/
def fetchOfPairs : Operation :=
  .getOrFetch 7 (.single (.map .integerPair .bool)) (.bare .oneByQuery) fun _ =>
    .ok (SortedMap.ofPairs [((1, 2), true)])

theorem flagged_fetchOfPairs :
    (flagged.answer ⟨1, 0⟩ fetchOfPairs).FailsToWrite ∧
      (flagged.perform ⟨1, 0⟩ fetchOfPairs).metadata.counters.typeMismatches = 1 ∧
      ∀ history : History Event,
        history.trace advance observe (flagged.perform ⟨1, 0⟩ fetchOfPairs) =
          history.trace advance observe flagged := by
  have failed : (flagged.answer ⟨1, 0⟩ fetchOfPairs).FailsToWrite :=
    .fetched _ (.unsupportedType "a key that is neither a text nor an integer") 1
  exact ⟨failed, rfl, (failed_write_leaves_cache failed).2.2.2⟩

end QueryCache

end ResultCache
