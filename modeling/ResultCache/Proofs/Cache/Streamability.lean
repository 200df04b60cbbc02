import ResultCache.Proofs.Cache.Grounding
import ResultCache.Proofs.Persistent.Streaming

/-!
Contract: a cache streams exactly what it says it can stream.

Owns:
- that every remembered entry of a grounded persistent tier has a row to stream;
- `QueryCache.StreamsAsTold`, that both streams to a sink that never fails succeed when the
  cache says that they can be had, and are refused before the first write when it says that
  they cannot;
- that a grounded cache streams as told, and so a new one after every run.

Does not own: what a stream comes to when its sink fails or a request to stop comes.
-/

namespace ResultCache

namespace PersistentTier.Grounded

variable {tier : PersistentTier}

theorem exists_rows (grounded : tier.Grounded) :
    ∃ rows, tier.database = .table rows ∧
      ∀ key, tier.companion.contains key = true → rows.contains key = true := by
  obtain ⟨table, row⟩ := grounded
  refine ⟨_, table, ?_⟩
  intro key present
  obtain ⟨remembered, entry⟩ := Option.isSome_iff_exists.1 present
  obtain ⟨content, stored⟩ := row key remembered entry
  exact Option.isSome_iff_exists.2 ⟨_, stored⟩

theorem exists_row_of_canStream (grounded : tier.Grounded) {now : Instant} {key : Key}
    (streamable : tier.canStream now key = true) :
    ∃ rows row, tier.database = .table rows ∧ rows.get? key = some row := by
  obtain ⟨rows, table, behind⟩ := grounded.exists_rows
  obtain ⟨_, fresh⟩ := Bool.and_eq_true_iff.1 streamable
  obtain ⟨remembered, entry, _⟩ := (Option.any_eq_true _ _).1 fresh
  have present := behind key (Option.isSome_iff_exists.2 ⟨remembered, entry⟩)
  obtain ⟨row, stored⟩ := Option.isSome_iff_exists.1 present
  exact ⟨rows, row, table, stored⟩

end PersistentTier.Grounded

namespace QueryCache

/-- Streams of a key succeed when the cache says that they can be had, and are refused as a
mistake of the caller, with nothing written, when it says that they cannot. -/
structure StreamsAsTold (cache : QueryCache) (now : Instant) (key : Key) : Prop where
  blocking : ∀ sink : Sink, sink.NeverFails →
    (cache.canStream now key = true ↔ ∃ count, (cache.stream now key sink).outcome = .ok count)
  cancellable : ∀ sink : Sink, sink.NeverFails →
    (cache.canStream now key = true ↔
      ∃ count, (cache.streamCancellable now key sink .never).outcome = .ok count)
  refused : cache.canStream now key = false → ∃ fault, ∀ sink cancellation,
    cache.stream now key sink = .refused (.invalidOperation fault) ∧
      cache.streamCancellable now key sink cancellation = .refused (.invalidOperation fault)

/-- What is refused has not succeeded. -/
theorem eq_true_iff_exists_ok {told : Bool} {delivery : Delivery}
    (served : told = true → ∃ count, delivery.outcome = .ok count)
    (refused : told = false → ∃ failure, delivery = .refused failure) :
    told = true ↔ ∃ count, delivery.outcome = .ok count := by
  refine ⟨served, ?_⟩
  rintro ⟨count, succeeded⟩
  cases told with
  | true => rfl
  | false =>
      obtain ⟨failure, rfl⟩ := refused rfl
      cases succeeded

section Told

variable {cache : QueryCache} {now : Instant} {key : Key}

theorem exists_fault_of_not_canStream (told : cache.canStream now key = false) :
    ∃ fault, ∀ sink cancellation,
      cache.stream now key sink = .refused (.invalidOperation fault) ∧
        cache.streamCancellable now key sink cancellation =
          .refused (.invalidOperation fault) := by
  obtain ⟨signature, stack, keys⟩ := cache
  cases stack with
  | memory tier => exact ⟨.memoryNotStreamable, fun _ _ => ⟨rfl, rfl⟩⟩
  | persistent tier =>
      obtain ⟨fault, refused⟩ := PersistentTier.exists_fault_of_not_canStream told
      refine ⟨fault, fun sink cancellation => ⟨?_, ?_⟩⟩
      · exact PersistentTier.stream_of_refused refused sink
      · exact PersistentTier.streamCancellable_of_refused refused sink cancellation

theorem Grounded.exists_ok_of_canStream (grounded : cache.Grounded)
    (told : cache.canStream now key = true) {sink : Sink} (reliable : sink.NeverFails) :
    (∃ count, (cache.stream now key sink).outcome = .ok count) ∧
      ∃ count, (cache.streamCancellable now key sink .never).outcome = .ok count := by
  obtain ⟨signature, stack, keys⟩ := cache
  cases stack with
  | memory tier => cases told
  | persistent tier =>
      obtain ⟨rows, row, table, stored⟩ :=
        PersistentTier.Grounded.exists_row_of_canStream grounded told
      constructor
      · change ∃ count, (tier.stream now key sink).outcome = .ok count
        rw [PersistentTier.stream_of_row told table stored]
        exact Transfer.exists_ok_of_copy reliable _
      · change ∃ count, (tier.streamCancellable now key sink .never).outcome = .ok count
        rw [PersistentTier.streamCancellable_of_row told table stored]
        exact Transfer.exists_ok_of_copyCancellable reliable _

theorem Grounded.streamsAsTold (grounded : cache.Grounded) (now : Instant) (key : Key) :
    cache.StreamsAsTold now key := by
  refine ⟨?_, ?_, exists_fault_of_not_canStream⟩
  · intro sink reliable
    apply eq_true_iff_exists_ok
    · intro told
      exact (grounded.exists_ok_of_canStream told reliable).1
    · intro told
      obtain ⟨fault, refused⟩ := exists_fault_of_not_canStream told
      exact ⟨_, (refused sink .never).1⟩
  · intro sink reliable
    apply eq_true_iff_exists_ok
    · intro told
      exact (grounded.exists_ok_of_canStream told reliable).2
    · intro told
      obtain ⟨fault, refused⟩ := exists_fault_of_not_canStream told
      exact ⟨_, (refused sink .never).2⟩

end Told

/-- After every run of a new cache, over either stack, there is a row behind every key that
a persistent tier remembers, and all keys stream as the cache tells at any instant. -/
theorem streamsAsTold_run {timeToLive : Duration} {cache : QueryCache}
    (new : cache.IsNew timeToLive) (history : History Operation) :
    (∀ tier, (history.run perform cache).stack = .persistent tier →
        ∃ rows, tier.database = .table rows ∧
          ∀ key, tier.companion.contains key = true → rows.contains key = true) ∧
      ∀ now key, (history.run perform cache).StreamsAsTold now key := by
  have grounded := (Grounded.ofNew new).run history
  refine ⟨?_, grounded.streamsAsTold⟩
  intro tier reached
  unfold Grounded at grounded
  rw [reached] at grounded
  exact PersistentTier.Grounded.exists_rows grounded

/-- A sink that takes one octet at a time. -/
def octetByOctet : Sink := ⟨fun _ _ _ => .accepts 1, [], none⟩

/-- A key that is put before a clear, and one that is put behind it. -/
def aroundClear : History Operation :=
  [(⟨0, 0⟩, .put 7 (.ofPayload (.bare .oneByQuery) ⟨.single .bool, true⟩)),
    (⟨1, 0⟩, .clear),
    (⟨2, 0⟩, .put 8 (.ofPayload (.bare .oneByQuery) ⟨.single .bool, false⟩))]

theorem streamsAsTold_aroundClear :
    emptyText.IsNew .day ∧ octetByOctet.NeverFails ∧
      (∃ count, ((aroundClear.run perform emptyText).stream ⟨3, 0⟩ 8 octetByOctet).outcome =
        .ok count) ∧
      ∃ fault, (aroundClear.run perform emptyText).stream ⟨3, 0⟩ 7 octetByOctet =
        .refused (.invalidOperation fault) := by
  have reliable : octetByOctet.NeverFails := ⟨fun _ _ _ _ => ⟨1, by decide, rfl⟩, rfl, rfl⟩
  have told := (streamsAsTold_run isNew_emptyText aroundClear).2 ⟨3, 0⟩
  have present : (aroundClear.run perform emptyText).canStream ⟨3, 0⟩ 8 = true := rfl
  have absent : (aroundClear.run perform emptyText).canStream ⟨3, 0⟩ 7 = false := rfl
  obtain ⟨fault, refused⟩ := (told 7).refused absent
  exact ⟨isNew_emptyText, reliable, ((told 8).blocking octetByOctet reliable).1 present,
    fault, (refused octetByOctet .never).1⟩

end QueryCache

end ResultCache
