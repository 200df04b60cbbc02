import ResultCache.Proofs.Cache.Frame
import ResultCache.Proofs.Cache.ReadBack

/-!
Contract: a refresh issues the remembered fetch, and remembers it.

Owns:
- what a refresh does, by what a read for a refresh gives;
- `QueryCache.SameFetch`, caches that remember the same fetch for a key, and that refreshes of
  the key and operations elsewhere keep them so;
- that each refresh issues that fetch once, whatever was refreshed before, and what is read
  after it.

Does not own: what was put first.
-/

namespace ResultCache

namespace QueryCache

variable {cache : QueryCache} {now : Instant} {key : Key} {type : PayloadType}

/-! ### One refresh -/

theorem refresh_of_none (nothing : cache.getForRefresh key = .ok none) (now : Instant)
    (type : PayloadType) (execute : Provenance → Except CacheError type.Value) :
    cache.refresh now key type execute = (⟨.ok none, []⟩, cache) := by
  unfold refresh
  rw [nothing]

theorem refresh_of_some {remembered : Envelope Payload}
    (remembers : cache.getForRefresh key = .ok (some remembered)) (now : Instant)
    (type : PayloadType) (execute : Provenance → Except CacheError type.Value) :
    cache.refresh now key type execute =
      match execute remembered.provenance with
      | .error failure => (⟨.error failure, [remembered.provenance]⟩, cache)
      | .ok value =>
        let put := cache.put now key (.ofPayload remembered.provenance ⟨type, value⟩)
        (⟨put.1.map fun _ => some value, [remembered.provenance]⟩, put.2) := by
  unfold refresh
  revert remembers
  generalize cache.getForRefresh key = found
  rintro rfl
  rfl

/-- A refresh issues the remembered fetch once, and what it does depends on the executor at
that fetch only. -/
theorem requests_of_refresh {remembered : Envelope Payload}
    (remembers : cache.getForRefresh key = .ok (some remembered)) (now : Instant)
    (type : PayloadType) (execute : Provenance → Except CacheError type.Value) :
    (cache.refresh now key type execute).1.requests = [remembered.provenance] ∧
      ∀ execute', execute' remembered.provenance = execute remembered.provenance →
        cache.refresh now key type execute' = cache.refresh now key type execute := by
  constructor
  · rw [refresh_of_some remembers]
    cases execute remembered.provenance <;> rfl
  · intro execute' alike
    rw [refresh_of_some remembers, refresh_of_some remembers, alike]

/-- A refresh that gives a value got it for the remembered fetch, and put it under that. -/
theorem put_of_refresh {remembered : Envelope Payload}
    (remembers : cache.getForRefresh key = .ok (some remembered))
    {execute : Provenance → Except CacheError type.Value} {value : type.Value}
    {requests : List Provenance} {after : QueryCache}
    (refreshed : cache.refresh now key type execute = (⟨.ok (some value), requests⟩, after)) :
    execute remembered.provenance = .ok value ∧
      cache.put now key (.ofPayload remembered.provenance ⟨type, value⟩) = (.ok (), after) := by
  rw [refresh_of_some remembers] at refreshed
  cases executed : execute remembered.provenance with
  | error failure =>
      rw [executed] at refreshed
      cases refreshed
  | ok given =>
      rw [executed] at refreshed
      dsimp only at refreshed
      rcases wrote : cache.put now key (.ofPayload remembered.provenance ⟨type, given⟩) with
        ⟨failure | _, left⟩
      · rw [wrote] at refreshed
        cases refreshed
      · rw [wrote] at refreshed
        cases refreshed
        exact ⟨rfl, wrote⟩

/-! ### Refreshes in a row -/

/-- What may come upon a cache between refreshes of a key: other ones, with any executor at
any type, and operations that leave the key alone. -/
inductive Operation.AmongRefreshes (key : Key) : Operation → Prop
  | refresh (type : PayloadType) (execute : Provenance → Except CacheError type.Value) :
      AmongRefreshes key (.refresh key type execute)
  | elsewhere {operation : Operation} (leaves : operation.changes key = false) :
      AmongRefreshes key operation

/-- A cache remembers the fetch of a key that another one did, in tiers of one kind. -/
structure SameFetch (key : Key) (start state : QueryCache) : Prop where
  grounded : state.Grounded
  isPersistent : state.isPersistent = start.isPersistent
  timeToLive : state.metadata.timeToLive = start.metadata.timeToLive
  policy : state.metadata.policy = start.metadata.policy
  provenance : (state.metadata.entries.get? key).map Envelope.provenance =
    (start.metadata.entries.get? key).map Envelope.provenance

namespace SameFetch

variable {start state : QueryCache}

theorem refl (grounded : start.Grounded) (key : Key) : SameFetch key start start :=
  ⟨grounded, rfl, rfl, rfl, rfl⟩

theorem frame (same : SameFetch key start cache) (alike : SameAt key state cache)
    (grounded : state.Grounded) : SameFetch key start state where
  grounded := grounded
  isPersistent := alike.isPersistent_eq.trans same.isPersistent
  timeToLive := alike.metadata.timeToLive.trans same.timeToLive
  policy := alike.metadata.policy.trans same.policy
  provenance := by rw [alike.metadata.entry, same.provenance]

theorem exists_remembered (same : SameFetch key start state) (grounded : start.Grounded)
    {remembered : Envelope Payload} (remembers : start.getForRefresh key = .ok (some remembered)) :
    ∃ again, state.getForRefresh key = .ok (some again) ∧
      again.provenance = remembered.provenance := by
  rw [grounded.getForRefresh_eq] at remembers
  have entry : start.metadata.entries.get? key = some remembered := Except.ok.inj remembers
  have provenance := same.provenance
  rw [entry] at provenance
  obtain ⟨again, entry', equal⟩ := Option.map_eq_some_iff.1 provenance
  refine ⟨again, ?_, equal⟩
  rw [same.grounded.getForRefresh_eq]
  exact congrArg Except.ok entry'

/-- Where something is remembered, a put keeps its payload but in memory that strips. -/
theorem keepsPut_iff (same : SameFetch key start state) {remembered : Envelope Payload}
    (remembers : state.getForRefresh key = .ok (some remembered)) :
    state.KeepsPut key ↔ start.isPersistent = true ∨ start.metadata.policy = .keepPayload := by
  rw [same.grounded.getForRefresh_eq] at remembers
  have entry : state.metadata.entries.get? key = some remembered := Except.ok.inj remembers
  have present : state.metadata.contains key = true := by
    rw [MemoryTier.contains, KeyMap.contains, entry]
    rfl
  rw [KeepsPut, MemoryTier.KeepsPut, same.isPersistent, same.policy, present]
  simp

/-- A put under the remembered fetch changes the payload and the expiry only. -/
theorem put (same : SameFetch key start state) {remembered envelope : Envelope Payload}
    (entry : state.metadata.entries.get? key = some remembered)
    (reissued : envelope.provenance = remembered.provenance) (now : Instant) :
    SameFetch key start (state.put now key envelope).2 := by
  have grounded := same.grounded.put now key envelope
  rcases state.put_cases now key envelope with ⟨_, failed⟩ | ⟨kept, equal, _, metadata⟩
  · rw [failed]
    exact same
  · refine ⟨grounded, ?_, ?_, ?_, ?_⟩
    · rw [isPersistent_put, same.isPersistent]
    · rw [metadata, ← same.timeToLive]
      rfl
    · rw [metadata, ← same.policy]
      rfl
    · rw [metadata, MemoryTier.get?_put, if_pos rfl, ← same.provenance, entry,
        MemoryTier.stored_eq, Option.map_some, Option.map_some, equal, reissued]

theorem perform (same : SameFetch key start state) (now : Instant) {operation : Operation}
    (among : operation.AmongRefreshes key) : SameFetch key start (state.perform now operation) := by
  cases among with
  | elsewhere leaves =>
      exact same.frame (.perform leaves state now) (same.grounded.perform now operation)
  | refresh type execute =>
      change SameFetch key start (state.refresh now key type execute).2
      rcases state.refresh_cases now key type execute with
        ⟨_, _, unchanged, _⟩ | ⟨remembered, value, remembers, _, wrote⟩
      · rw [unchanged]
        exact same
      · rw [wrote]
        rw [same.grounded.getForRefresh_eq] at remembers
        have reissued : (Envelope.ofPayload remembered.provenance
            (Payload.mk type value)).provenance = remembered.provenance := rfl
        exact same.put (Except.ok.inj remembers) reissued now

theorem run (same : SameFetch key start state) {history : History Operation}
    (among : ∀ event ∈ history, event.2.AmongRefreshes key) :
    SameFetch key start (history.run QueryCache.perform state) := by
  have step : ∀ state now operation, Operation.AmongRefreshes key operation →
      SameFetch key start state → SameFetch key start (state.perform now operation) := by
    intro state now operation allowed same
    exact same.perform now allowed
  exact History.run_preserves_of_allowed step among same

end SameFetch

/-- In every state that a cache reaches: where nothing is remembered for a key, a refresh
gives nothing, asks for nothing, and changes nothing. Otherwise it issues the remembered fetch
once, whatever became of its payload, and it still does after other refreshes of the key, at
any type, and operations elsewhere. After a refresh that gave a value, a typed read finds that
until it expires in a database and under the policy to keep payloads; in memory that strips, it
finds nothing. Where there is time to live, the same instant is early enough, but for the last
one of the calendar. -/
theorem refresh_issues_remembered {timeToLive : Duration} (reachable : cache.Reachable timeToLive)
    (key : Key) :
    (cache.getForRefresh key = .ok none ∧
      ∀ now type execute, cache.refresh now key type execute = (⟨.ok none, []⟩, cache)) ∨
    ∃ remembered, cache.getForRefresh key = .ok (some remembered) ∧
      ∀ history : History Operation, (∀ event ∈ history, event.2.AmongRefreshes key) →
      ∀ state, state = history.run perform cache →
        (∃ again, state.getForRefresh key = .ok (some again) ∧
          again.provenance = remembered.provenance) ∧
        ∀ now type execute,
          (state.refresh now key type execute).1.requests = [remembered.provenance] ∧
          (∀ execute', execute' remembered.provenance = execute remembered.provenance →
            state.refresh now key type execute' = state.refresh now key type execute) ∧
          ∀ value after, state.refresh now key type execute =
              (⟨.ok (some value), [remembered.provenance]⟩, after) →
            execute remembered.provenance = .ok value ∧
            (state.Restores remembered.provenance.shape ⟨type, value⟩ →
              (∀ later, (after.getTyped later key type).1 =
                .ok (if (cache.isPersistent = true ∨ cache.metadata.policy = .keepPayload) ∧
                  later.before (now.later timeToLive.clamped) = true then some value else none)) ∧
              (0 < timeToLive.nanoseconds → now < Instant.latest →
                (after.getTyped now key type).1 =
                  .ok (if cache.isPersistent = true ∨ cache.metadata.policy = .keepPayload then
                    some value else none))) := by
  have grounded := reachable.grounded
  cases entry : cache.metadata.getForRefresh key with
  | none =>
      have nothing : cache.getForRefresh key = .ok none := by
        rw [grounded.getForRefresh_eq, entry]
      exact .inl ⟨nothing, fun now type execute => refresh_of_none nothing now type execute⟩
  | some remembered =>
      right
      have remembers : cache.getForRefresh key = .ok (some remembered) := by
        rw [grounded.getForRefresh_eq, entry]
      refine ⟨remembered, remembers, ?_⟩
      rintro history among state rfl
      have same := (SameFetch.refl grounded key).run among
      obtain ⟨again, remembersAgain, provenance⟩ := same.exists_remembered grounded remembers
      refine ⟨⟨again, remembersAgain, provenance⟩, fun now type execute => ?_⟩
      obtain ⟨issued, only⟩ := requests_of_refresh remembersAgain now type execute
      rw [provenance] at issued only
      refine ⟨issued, only, fun value after refreshed => ?_⟩
      obtain ⟨executed, wrote⟩ := put_of_refresh remembersAgain refreshed
      rw [provenance] at executed wrote
      refine ⟨executed, fun restores => ?_⟩
      have stamp : (History.run perform cache history).metadata.expiryFrom now =
          now.later timeToLive.clamped := by
        rw [MemoryTier.expiryFrom, same.timeToLive]
        exact reachable.expiryFrom_eq now
      have found := getTyped_put restores wrote
      simp only [same.keepsPut_iff remembersAgain, stamp] at found
      refine ⟨found, fun lives early => ?_⟩
      have fresh : now.before (now.later timeToLive.clamped) = true :=
        Instant.before_iff.2 (Instant.lt_later early (Duration.clamped_pos lives))
      rw [found now]
      simp only [fresh, and_true]

/-- A truth value that one query gave, replaced by that of another, and a list for another key. -/
def queriedOnce : History Operation :=
  [(⟨0, 0⟩, .put 7 (.ofPayload (.ofQuery .oneByQuery "SELECT 1") ⟨.single .bool, true⟩)),
    (⟨1, 0⟩, .put 7 (.ofPayload (.ofQuery .oneByQuery "SELECT 2") ⟨.single .bool, true⟩)),
    (⟨2, 0⟩, .put 8 (.ofPayload (.bare .listByQuery) ⟨.single (.list .bool), []⟩))]

def queriedInMemory : QueryCache :=
  queriedOnce.run perform ⟨"memory", .memory (.create .day .stripPayload), .standard⟩

def queriedAsText : QueryCache := queriedOnce.run perform emptyText

/-- A refresh at another type, one that fails, and an invalidation of another key. -/
def refreshedMeanwhile : History Operation :=
  [(⟨3, 0⟩, .refresh 7 (.single (.list .bool)) fun _ => .ok [true]),
    (⟨4, 0⟩, .refresh 7 (.single .bool) fun _ => .error .database),
    (⟨5, 0⟩, .invalidate 8)]

/-- The query of the last put is issued again. Its value is found as text, and not in memory. -/
theorem refresh_refreshedMeanwhile :
    queriedInMemory.Reachable .day ∧ queriedAsText.Reachable .day ∧
      (∀ event ∈ refreshedMeanwhile, event.2.AmongRefreshes 7) ∧
      (refreshedMeanwhile.run perform queriedAsText).Restores .oneByQuery ⟨.single .bool, false⟩ ∧
      ∃ inMemory asText,
        (refreshedMeanwhile.run perform queriedInMemory).refresh ⟨6, 0⟩ 7 (.single .bool)
          (fun _ => .ok false) =
            (⟨.ok (some false), [.ofQuery .oneByQuery "SELECT 2"]⟩, inMemory) ∧
        (refreshedMeanwhile.run perform queriedAsText).refresh ⟨6, 0⟩ 7 (.single .bool)
          (fun _ => .ok false) =
            (⟨.ok (some false), [.ofQuery .oneByQuery "SELECT 2"]⟩, asText) ∧
        (inMemory.getTyped ⟨6, 0⟩ 7 (.single .bool)).1 = .ok none ∧
        (asText.getTyped ⟨6, 0⟩ 7 (.single .bool)).1 = .ok (some false) := by
  have reachable : queriedInMemory.Reachable .day :=
    .run (.memory "memory" .stripPayload .standard) _
  have reachableText : queriedAsText.Reachable .day := .run isNew_emptyText _
  have among : ∀ event ∈ refreshedMeanwhile, event.2.AmongRefreshes 7 := by
    intro event member
    simp only [refreshedMeanwhile, List.mem_cons, List.not_mem_nil, or_false] at member
    rcases member with rfl | rfl | rfl
    · exact .refresh _ _
    · exact .refresh _ _
    · exact .elsewhere rfl
  have restores : (refreshedMeanwhile.run perform queriedAsText).Restores .oneByQuery
      ⟨.single .bool, false⟩ := by
    intro content encoded
    have json : Serializer.json = .ofFormat .json := rfl
    refine ⟨PersistentTier.content?_of_encode json encoded, ?_⟩
    cases encoded
    rfl
  have early : (⟨6, 0⟩ : Instant) < Instant.latest := Instant.before_iff.1 rfl
  have refreshed : (refreshedMeanwhile.run perform queriedInMemory).refresh ⟨6, 0⟩ 7
      (.single .bool) (fun _ => .ok false) =
        (⟨.ok (some false), [.ofQuery .oneByQuery "SELECT 2"]⟩, _) := Prod.ext rfl rfl
  have refreshedText : (refreshedMeanwhile.run perform queriedAsText).refresh ⟨6, 0⟩ 7
      (.single .bool) (fun _ => .ok false) =
        (⟨.ok (some false), [.ofQuery .oneByQuery "SELECT 2"]⟩, _) := Prod.ext rfl rfl
  refine ⟨reachable, reachableText, among, restores, _, _, refreshed, refreshedText, ?_, ?_⟩
  · have remembers : queriedInMemory.getForRefresh 7 = .ok (some
        ⟨.ofQuery .oneByQuery "SELECT 2", none, some ⟨86401, 0⟩⟩) := rfl
    rcases refresh_issues_remembered reachable 7 with ⟨nothing, _⟩ | ⟨remembered, found, all⟩
    · rw [remembers] at nothing
      cases nothing
    · rw [remembers] at found
      cases found
      obtain ⟨_, _, after⟩ := (all refreshedMeanwhile among _ rfl).2 ⟨6, 0⟩ (.single .bool) _
      exact ((after _ _ refreshed).2 trivial).2 (by decide) early
  · have remembers : queriedAsText.getForRefresh 7 = .ok (some
        ⟨.ofQuery .oneByQuery "SELECT 2", none, some ⟨86401, 0⟩⟩) := rfl
    rcases refresh_issues_remembered reachableText 7 with ⟨nothing, _⟩ | ⟨remembered, found, all⟩
    · rw [remembers] at nothing
      cases nothing
    · rw [remembers] at found
      cases found
      obtain ⟨_, _, after⟩ := (all refreshedMeanwhile among _ rfl).2 ⟨6, 0⟩ (.single .bool) _
      exact ((after _ _ refreshedText).2 restores).2 (by decide) early

end QueryCache

end ResultCache
