import ResultCache.Proofs.Cache.Frame
import ResultCache.Proofs.Cache.ReadBack

/-!
Contract: how often reads through a cache fetch.

Owns:
- the two ways that a read through the cache goes, by what its typed read finds;
- `QueryCache.Follows`, what may come after a read through the cache, until an expiry;
- that hits are followed by hits, that a fetch is followed by hits where its value is kept,
  and that all reads fetch where values are stripped.

Does not own: what is kept by a put.
-/

namespace ResultCache

namespace QueryCache

variable {cache : QueryCache} {now : Instant} {key : Key} {type : PayloadType}
  {value : type.Value} {template : Provenance} {fetch : Unit → Except CacheError type.Value}

/-! ### One read through -/

theorem getOrFetch_of_hit (hit : (cache.getTyped now key type).1 = .ok (some value))
    (template : Provenance) (fetch : Unit → Except CacheError type.Value) :
    cache.getOrFetch now key type template fetch =
      (⟨.ok value, 0⟩, (cache.getTyped now key type).2) := by
  unfold getOrFetch
  revert hit
  rcases cache.getTyped now key type with ⟨outcome, left⟩
  rintro rfl
  rfl

theorem getOrFetch_of_miss (miss : (cache.getTyped now key type).1 = .ok none)
    (template : Provenance) (fetch : Unit → Except CacheError type.Value) :
    cache.getOrFetch now key type template fetch =
      match fetch () with
      | .error failure => (⟨.error failure, 1⟩, (cache.getTyped now key type).2)
      | .ok value =>
        let put := (cache.getTyped now key type).2.put now key (.ofPayload template ⟨type, value⟩)
        (⟨put.1.map fun _ => value, 1⟩, put.2) := by
  unfold getOrFetch
  revert miss
  rcases cache.getTyped now key type with ⟨outcome, left⟩
  rintro rfl
  rfl

/-- A read through that gives a value found it, or fetched it and put it. -/
theorem getOrFetch_of_ok {fetches : Nat} {after : QueryCache}
    (called : cache.getOrFetch now key type template fetch = (⟨.ok value, fetches⟩, after)) :
    ((cache.getTyped now key type).1 = .ok (some value) ∧ fetches = 0 ∧
        after = (cache.getTyped now key type).2) ∨
      ((cache.getTyped now key type).1 = .ok none ∧ fetch () = .ok value ∧ fetches = 1 ∧
        (cache.getTyped now key type).2.put now key (.ofPayload template ⟨type, value⟩) =
          (.ok (), after)) := by
  cases read : (cache.getTyped now key type).1 with
  | error failure =>
      unfold getOrFetch at called
      revert read called
      rcases cache.getTyped now key type with ⟨outcome, left⟩
      rintro called rfl
      cases called
  | ok found =>
      cases found with
      | some found =>
          rw [getOrFetch_of_hit read] at called
          cases called
          exact .inl ⟨rfl, rfl, rfl⟩
      | none =>
          rw [getOrFetch_of_miss read] at called
          cases fetched : fetch () with
          | error failure =>
              rw [fetched] at called
              cases called
          | ok fetchedValue =>
              rw [fetched] at called
              dsimp only at called
              rcases wrote : (cache.getTyped now key type).2.put now key
                (.ofPayload template ⟨type, fetchedValue⟩) with ⟨failure | _, left⟩
              · rw [wrote] at called
                cases called
              · rw [wrote] at called
                cases called
                exact .inr ⟨rfl, rfl, rfl, wrote⟩

/-- What a read through puts leaves what its put on the cache as it was would leave. -/
theorem exists_put_of_read {after : QueryCache}
    (wrote : (cache.getTyped now key type).2.put now key (.ofPayload template ⟨type, value⟩) =
      (.ok (), after)) :
    ∃ kept, cache.put now key (.ofPayload template ⟨type, value⟩) = (.ok (), kept) ∧
      SameAt key after kept := by
  obtain ⟨counters, _, counted⟩ := cache.exists_counters_of_getEnvelope now key type
  change (cache.getEnvelope now key type).2.put now key _ = _ at wrote
  obtain ⟨counters', alike⟩ :=
    cache.put_withCounters counters now key (.ofPayload template ⟨type, value⟩)
  rw [counted, alike] at wrote
  obtain ⟨succeeded, rfl⟩ := Prod.mk.inj wrote
  exact ⟨_, Prod.ext succeeded rfl, .withMetadata (.withCounters key _ counters')⟩

/-- Whatever state it meets, a read through runs its fetch once at most. -/
theorem fetches_le_one (cache : QueryCache) (now : Instant) (key : Key) (type : PayloadType)
    (template : Provenance) (fetch : Unit → Except CacheError type.Value) :
    (cache.getOrFetch now key type template fetch).1.fetches ≤ 1 := by
  unfold getOrFetch
  split
  · exact Nat.zero_le 1
  · exact Nat.zero_le 1
  · split <;> exact Nat.le_refl 1

/-! ### Reads after reads -/

/-- What may come upon a cache between reads through it for a key at a type: such reads,
purges, and operations that leave the key alone. -/
inductive Operation.Between (key : Key) (type : PayloadType) : Operation → Prop
  | read (template : Provenance) (fetch : Unit → Except CacheError type.Value) :
      Between key type (.getOrFetch key type template fetch)
  | purge (grace : Duration) : Between key type (.purgeExpired grace)
  | elsewhere {operation : Operation} (leaves : operation.changes key = false) :
      Between key type operation

/-- What may come after a read through the cache, until an expiry. -/
structure Follows (key : Key) (type : PayloadType) (first expiry now : Instant)
    (operation : Operation) : Prop where
  clock : now.IsClock
  forward : first ≤ now
  early : now.before expiry = true
  between : operation.Between key type

/-- What comes of an operation, and of its fetch, when it reads through for a key at a type. -/
def ReadsThrough (key : Key) (type : PayloadType)
    (comes : (Unit → Except CacheError type.Value) → ReadThrough type.Value → Prop)
    (cache : QueryCache) (now : Instant) (operation : Operation) : Prop :=
  ∀ template fetch, operation = .getOrFetch key type template fetch →
    comes fetch (cache.getOrFetch now key type template fetch).1

/-- Where a value is found until an expiry, no later read fetches until then. -/
theorem each_hits {start state : QueryCache} {first expiry : Instant}
    (same : SameAt key state start) (grounded : start.Grounded)
    (expires : ∀ envelope, start.metadata.entries.get? key = some envelope →
      envelope.expires = some expiry)
    (found : ∀ now, now.before expiry = true → (start.getTyped now key type).1 = .ok (some value))
    {rest : History Operation}
    (follows : ∀ event ∈ rest, Follows key type first expiry event.1 event.2) :
    rest.Each perform (ReadsThrough key type fun _ result => result = ⟨.ok value, 0⟩) state := by
  have hit : ∀ state now, now.before expiry = true → SameAt key state start →
      (state.getTyped now key type).1 = .ok (some value) := by
    intro state now early same
    rw [same.getTyped_eq grounded]
    exact found now early
  -- All along, what is kept for the key stays what it was at the start.
  have step : ∀ state now operation, Follows key type first expiry now operation →
      SameAt key state start → SameAt key (state.perform now operation) start := by
    intro state now operation event same
    cases event.between with
    | read template fetch =>
        change SameAt key (state.getOrFetch now key type template fetch).2 start
        rw [getOrFetch_of_hit (hit state now event.early same)]
        exact SameAt.trans (.getEnvelope key state now key type) same
    | purge grace =>
        refine SameAt.trans (.purgeExpired event.clock ?_ grace) same
        intro envelope entry
        rw [same.metadata.entry] at entry
        rw [Envelope.isFreshAt, expires envelope entry]
        exact event.early
    | elsewhere leaves => exact SameAt.trans (.perform leaves state now) same
  refine History.each_of_invariant step ?_ follows same
  rintro state now _ event same template fetch rfl
  rw [getOrFetch_of_hit (hit state now event.early same)]

/-- A cache in memory that strips, with an entry for a key that has no payload and does not
expire before an instant. -/
structure Strips (key : Key) (timeToLive : Duration) (expiry : Instant) (cache : QueryCache) :
    Prop where
  isMemory : cache.isPersistent = false
  policy : cache.metadata.policy = .stripPayload
  timeToLive : cache.metadata.timeToLive = timeToLive
  entry : ∃ envelope stamp, cache.metadata.entries.get? key = some envelope ∧
    envelope.payload = none ∧ envelope.expires = some stamp ∧ expiry ≤ stamp

namespace Strips

variable {timeToLive : Duration} {expiry : Instant} {state : QueryCache}

theorem frame (strips : Strips key timeToLive expiry cache) (same : SameAt key state cache) :
    Strips key timeToLive expiry state := by
  obtain ⟨envelope, stamp, entry, rest⟩ := strips.entry
  exact ⟨same.isPersistent_eq.trans strips.isMemory, same.metadata.policy.trans strips.policy,
    same.metadata.timeToLive.trans strips.timeToLive,
    envelope, stamp, same.metadata.entry.trans entry, rest⟩

/-- A put that does not keep its payload leaves an entry without one. -/
theorem ofPut (loses : ¬ cache.KeepsPut key) (now : Instant) (envelope : Envelope Payload)
    (early : expiry ≤ cache.metadata.expiryFrom now) :
    (cache.put now key envelope).1 = .ok () ∧
      Strips key cache.metadata.timeToLive expiry (cache.put now key envelope).2 := by
  obtain ⟨isMemory, present, policy⟩ := not_keepsPut_iff.1 loses
  obtain ⟨signature, stack, keys⟩ := cache
  cases stack with
  | persistent tier => cases isMemory
  | memory tier =>
      refine ⟨rfl, rfl, policy, rfl, tier.stored now key envelope, tier.expiryFrom now, ?_⟩
      change (tier.put now key envelope).entries.get? key = _ ∧ _
      rw [MemoryTier.get?_put, if_pos rfl, MemoryTier.stored_eq, if_pos ⟨present, policy⟩]
      exact ⟨rfl, rfl, rfl, early⟩

theorem not_keepsPut (strips : Strips key timeToLive expiry cache) : ¬ cache.KeepsPut key := by
  obtain ⟨envelope, _, entry, _⟩ := strips.entry
  refine not_keepsPut_iff.2 ⟨strips.isMemory, ?_, strips.policy⟩
  rw [KeyMap.contains, entry]
  rfl

theorem getTyped_eq (strips : Strips key timeToLive expiry cache) (now : Instant)
    (type : PayloadType) : (cache.getTyped now key type).1 = .ok none := by
  obtain ⟨envelope, _, entry, stripped, _⟩ := strips.entry
  have isMemory := strips.isMemory
  obtain ⟨signature, stack, keys⟩ := cache
  cases stack with
  | persistent tier => cases isMemory
  | memory tier =>
      change tier.entries.get? key = some envelope at entry
      change Except.ok ((tier.getEnvelope now key type).1.bind Envelope.payload) = _
      rw [MemoryTier.getEnvelope_eq_bind, entry, Option.bind_some, stripped]
      rfl

/-- A read through fetches, and gives what it fetched. -/
theorem getOrFetch (strips : Strips key timeToLive expiry cache) {now : Instant}
    (early : expiry ≤ now.later timeToLive) (template : Provenance)
    (fetch : Unit → Except CacheError type.Value) :
    (cache.getOrFetch now key type template fetch).1 = ⟨fetch (), 1⟩ ∧
      Strips key timeToLive expiry (cache.getOrFetch now key type template fetch).2 := by
  have read : Strips key timeToLive expiry (cache.getTyped now key type).2 :=
    strips.frame (.getEnvelope key cache now key type)
  have stamps : expiry ≤ (cache.getTyped now key type).2.metadata.expiryFrom now := by
    rw [MemoryTier.expiryFrom]
    exact read.timeToLive ▸ early
  rw [getOrFetch_of_miss (strips.getTyped_eq now type)]
  cases fetched : fetch () with
  | error failure => exact ⟨rfl, read⟩
  | ok value =>
      obtain ⟨succeeded, left⟩ := ofPut read.not_keepsPut now
        (.ofPayload template ⟨type, value⟩) stamps
      rw [read.timeToLive] at left
      refine ⟨?_, left⟩
      dsimp only
      rw [succeeded]
      rfl

end Strips

/-- Where payloads are stripped, all later reads fetch until the first put would expire. -/
theorem each_fetches {first : Instant} (clock : first.IsClock) {timeToLive : Duration}
    (strips : Strips key timeToLive (first.later timeToLive) cache) {rest : History Operation}
    (follows : ∀ event ∈ rest,
      Follows key type first (first.later timeToLive) event.1 event.2) :
    rest.Each perform (ReadsThrough key type fun fetch result => result = ⟨fetch (), 1⟩) cache := by
  -- The clock does not go back, so that no later put stamps an earlier expiry.
  have stamps : ∀ now operation, Follows key type first (first.later timeToLive) now operation →
      first.later timeToLive ≤ now.later timeToLive := by
    intro now operation event
    exact Instant.later_mono clock event.forward timeToLive
  have step : ∀ state now operation,
      Follows key type first (first.later timeToLive) now operation →
      Strips key timeToLive (first.later timeToLive) state →
      Strips key timeToLive (first.later timeToLive) (state.perform now operation) := by
    intro state now operation event strips
    cases event.between with
    | read template fetch => exact (strips.getOrFetch (stamps now _ event) template fetch).2
    | purge grace =>
        refine strips.frame (.purgeExpired event.clock ?_ grace)
        intro envelope entry
        obtain ⟨_, stamp, entry', _, expires, late⟩ := strips.entry
        rw [entry] at entry'
        cases entry'
        rw [Envelope.isFreshAt, expires]
        exact Instant.before_iff.2 ((Instant.before_iff.1 event.early).trans_le late)
    | elsewhere leaves => exact strips.frame (.perform leaves state now)
  refine History.each_of_invariant step ?_ follows strips
  rintro state now _ event strips template fetch rfl
  exact (strips.getOrFetch (stamps now _ event) template fetch).1

/-- In every state that a cache reaches, a fetch is run once at most, and not where the value
is found. After a read through that gave a value, further ones for the key and the type, with
nothing else done to the key but purges, do as follows. If the first found the value, all
give it and none fetches, until the entry expires. If the first fetched, then until its put
expires: where its payload was kept and is restored, all give the value of the first and none
fetches; where it was stripped, each fetches and gives what it fetched. -/
theorem reads_through_fetch_as_kept {timeToLive : Duration} (reachable : cache.Reachable timeToLive)
    (clock : now.IsClock) {fetches : Nat} {after : QueryCache}
    (called : cache.getOrFetch now key type template fetch = (⟨.ok value, fetches⟩, after))
    (rest : History Operation) :
    (∀ (state : QueryCache) moment template' fetch',
      (state.getOrFetch moment key type template' fetch').1.fetches ≤ 1 ∧
        ∀ found, (state.getTyped moment key type).1 = .ok (some found) →
          (state.getOrFetch moment key type template' fetch').1 = ⟨.ok found, 0⟩) ∧
    (((cache.getTyped now key type).1 = .ok (some value) ∧ fetches = 0 ∧
        ∃ envelope expiry, cache.metadata.entries.get? key = some envelope ∧
          envelope.expires = some expiry ∧
          ((∀ event ∈ rest, Follows key type now expiry event.1 event.2) →
            rest.Each perform (ReadsThrough key type fun _ result => result = ⟨.ok value, 0⟩)
              after)) ∨
      ((cache.getTyped now key type).1 = .ok none ∧ fetch () = .ok value ∧ fetches = 1 ∧
        ((∀ event ∈ rest,
            Follows key type now (now.later timeToLive.clamped) event.1 event.2) →
          (cache.KeepsPut key → cache.Restores template.shape ⟨type, value⟩ →
            rest.Each perform (ReadsThrough key type fun _ result => result = ⟨.ok value, 0⟩)
              after) ∧
          (¬ cache.KeepsPut key →
            rest.Each perform (ReadsThrough key type fun fetch' result => result = ⟨fetch' (), 1⟩)
              after)))) := by
  constructor
  · intro state moment template' fetch'
    refine ⟨state.fetches_le_one moment key type template' fetch', fun found hit => ?_⟩
    rw [getOrFetch_of_hit hit]
  rcases getOrFetch_of_ok called with ⟨hit, unfetched, rfl⟩ | ⟨miss, fetched, once, wrote⟩
  · left
    obtain ⟨envelope, expiry, entry, expires, found⟩ := exists_expiry_of_hit hit
    refine ⟨hit, unfetched, envelope, expiry, entry, expires, fun follows => ?_⟩
    have expiresAt : ∀ other, cache.metadata.entries.get? key = some other →
        other.expires = some expiry := by
      intro other entry'
      rw [entry] at entry'
      cases entry'
      exact expires
    exact each_hits (.getEnvelope key cache now key type) reachable.grounded expiresAt found follows
  · right
    refine ⟨miss, fetched, once, fun follows => ?_⟩
    obtain ⟨kept, put, same⟩ := exists_put_of_read wrote
    have stamp := reachable.expiryFrom_eq now
    constructor
    · intro keeps restores
      have grounded := reachable.grounded.put now key (.ofPayload template ⟨type, value⟩)
      rw [put] at grounded
      refine each_hits same grounded ?_ ?_ follows
      · intro envelope entry
        rw [expires_of_put put entry, stamp]
      · intro later early
        rw [getTyped_put restores put, stamp, if_pos ⟨keeps, early⟩]
    · intro loses
      obtain ⟨trail, traces⟩ := reachable.traces key
      have strips := (Strips.ofPut loses now (.ofPayload template ⟨type, value⟩) stamp.ge).2
      rw [put, traces.timeToLive] at strips
      exact each_fetches clock (strips.frame same) follows

/-- A cache in memory that strips, with a truth value that lives for ten seconds. -/
def heldBriefly : QueryCache :=
  History.run perform ⟨"memory", .memory (.create (.ofSeconds 10) .stripPayload), .standard⟩
    [(⟨0, 0⟩, .put 7 (.ofPayload (.bare .oneByQuery) ⟨.single .bool, true⟩))]

/-- A cache that stores JSON text, with a list that is not fresh. -/
def heldAsText : QueryCache :=
  History.run perform emptyText
    [(⟨0, 0⟩, .put 7 (.ofPayload (.bare .listByQuery) ⟨.single (.list .bool), [true]⟩)),
      (⟨1, 0⟩, .invalidate 7)]

/-- A purge without grace, and a truth value that is read through with another fetch. -/
def readAgain : History Operation :=
  [(⟨21, 0⟩, .purgeExpired ⟨0⟩),
    (⟨22, 0⟩, .getOrFetch 7 (.single .bool) (.bare .oneByQuery) fun _ => .ok true)]

/-- The truth value has expired. What is fetched in its place is stripped in memory, so that
the other fetch is run too; as text it is kept. -/
theorem reads_through_readAgain :
    heldBriefly.Reachable (.ofSeconds 10) ∧ heldAsText.Reachable .day ∧
      Instant.IsClock ⟨20, 0⟩ ∧
      (∀ event ∈ readAgain, Follows 7 (.single .bool) ⟨20, 0⟩ ⟨30, 0⟩ event.1 event.2) ∧
      ¬ heldBriefly.KeepsPut 7 ∧ heldAsText.KeepsPut 7 ∧
      heldAsText.Restores .oneByQuery ⟨.single .bool, false⟩ ∧
      ∃ inMemory asText,
        heldBriefly.getOrFetch ⟨20, 0⟩ 7 (.single .bool) (.bare .oneByQuery)
          (fun _ => .ok false) = (⟨.ok false, 1⟩, inMemory) ∧
        heldAsText.getOrFetch ⟨20, 0⟩ 7 (.single .bool) (.bare .oneByQuery)
          (fun _ => .ok false) = (⟨.ok false, 1⟩, asText) ∧
        readAgain.Each perform
          (ReadsThrough 7 (.single .bool) fun fetch result => result = ⟨fetch (), 1⟩) inMemory ∧
        readAgain.Each perform
          (ReadsThrough 7 (.single .bool) fun _ result => result = ⟨.ok false, 0⟩) asText := by
  have reachable : heldBriefly.Reachable (.ofSeconds 10) :=
    .run (.memory "memory" .stripPayload .standard) _
  have reachableText : heldAsText.Reachable .day := .run isNew_emptyText _
  have clock : Instant.IsClock ⟨20, 0⟩ := by decide
  have follows (expiry : Instant) (late : ⟨22, 0⟩ < expiry) : ∀ event ∈ readAgain,
      Follows 7 (.single .bool) ⟨20, 0⟩ expiry event.1 event.2 := by
    intro event member
    rcases List.mem_pair.1 member with rfl | rfl
    · have early : (⟨21, 0⟩ : Instant) < ⟨22, 0⟩ := Instant.before_iff.1 rfl
      exact ⟨by decide, Instant.before_eq_false_iff.1 rfl, Instant.before_iff.2 (early.trans late),
        .purge _⟩
    · exact ⟨by decide, Instant.before_eq_false_iff.1 rfl, Instant.before_iff.2 late, .read _ _⟩
  have followsBriefly := follows ⟨30, 0⟩ (Instant.before_iff.1 rfl)
  have loses : ¬ heldBriefly.KeepsPut 7 := by decide
  have keeps : heldAsText.KeepsPut 7 := .inl rfl
  have restores : heldAsText.Restores .oneByQuery ⟨.single .bool, false⟩ := by
    intro content encoded
    have json : Serializer.json = .ofFormat .json := rfl
    refine ⟨PersistentTier.content?_of_encode json encoded, ?_⟩
    cases encoded
    rfl
  have fetched : heldBriefly.getOrFetch ⟨20, 0⟩ 7 (.single .bool) (.bare .oneByQuery)
      (fun _ => .ok false) = (⟨.ok false, 1⟩, _) := Prod.ext rfl rfl
  have fetchedText : heldAsText.getOrFetch ⟨20, 0⟩ 7 (.single .bool) (.bare .oneByQuery)
      (fun _ => .ok false) = (⟨.ok false, 1⟩, _) := Prod.ext rfl rfl
  refine ⟨reachable, reachableText, clock, followsBriefly, loses, keeps, restores, _, _, fetched,
    fetchedText, ?_, ?_⟩
  · rcases (reads_through_fetch_as_kept reachable clock fetched readAgain).2 with hit | miss
    · cases hit.2.1
    · exact (miss.2.2.2 followsBriefly).2 loses
  · rcases (reads_through_fetch_as_kept reachableText clock fetchedText readAgain).2 with
      hit | miss
    · cases hit.2.1
    · exact (miss.2.2.2 (follows _ (Instant.before_iff.1 rfl))).1 keeps restores

end QueryCache

end ResultCache
