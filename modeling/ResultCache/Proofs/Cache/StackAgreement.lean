import ResultCache.Proofs.Cache.Operation
import ResultCache.Proofs.Persistent.Operation

/-!
Contract: caches over either stack of tiers answer typed reads alike.

Owns:
- `PersistentTier.Backs`, what a persistent tier keeps for an entry that a memory tier
  has, or for one that it has lost;
- `PersistentTier.Mirrors`, a persistent tier that backs every entry of a memory tier
  that keeps payloads, with the counters that both count alike;
- that the operations of a cache keep the tiers so, and that typed reads and counters
  agree all along.

Does not own: reads for a refresh and streams, on which the stacks differ.
-/

namespace ResultCache

namespace PersistentTier

variable {tier initial : PersistentTier} {memory : MemoryTier} {key : Key} {now : Instant}

/-! ### One entry -/

/-- What a persistent tier keeps for an entry of a memory tier: the rest of the entry
in the companion, and its payload behind a row; or, for no entry, nothing fresh. -/
inductive Backs (tier : PersistentTier) (key : Key) (now : Instant) :
    Option (Envelope Payload) → Prop
  | gone
      (stale : ∀ remembered, tier.companion.entries.get? key = some remembered →
        remembered.isFreshAt now = false) :
      Backs tier key now none
  | kept {rows : KeyMap StoredRow} {envelope : Envelope Payload} {payload : Payload}
      {content : StoredContent} (reachable : tier.database = .table rows)
      (held : envelope.payload = some payload)
      (remembered : tier.companion.entries.get? key = some envelope.metadataOnly)
      (type : tier.payloadTypes.get? key = some payload.type)
      (row : rows.get? key = some (.ofContent envelope.provenance.query content))
      (fits : (Cell.ofContent content).content? tier.settings.textFormat = some content)
      (decoded : tier.decode payload.type content envelope.provenance.shape.isListShaped =
        .ok payload.value) :
      Backs tier key now (some envelope)

namespace Backs

variable {entry : Option (Envelope Payload)}

theorem wait {later : Instant} (forward : now ≤ later) (backs : tier.Backs key now entry) :
    tier.Backs key later entry := by
  cases backs with
  | gone stale =>
      apply gone
      intro remembered found
      exact Envelope.isFreshAt_eq_false_of_le forward (stale remembered found)
  | kept reachable held remembered type row fits decoded =>
      exact kept reachable held remembered type row fits decoded

/-- Tiers that keep the same for a key back the same entries of it. -/
theorem frame {other : PersistentTier} (backs : tier.Backs key now entry)
    (same : SameRow other tier key)
    (companion : other.companion.entries.get? key = tier.companion.entries.get? key) :
    other.Backs key now entry := by
  cases backs with
  | gone stale =>
      apply gone
      rw [companion]
      exact stale
  | kept reachable held remembered type row fits decoded =>
      obtain ⟨others, there, sameRow⟩ := same.row _ reachable
      rw [← same.codec.settings] at fits
      rw [← same.codec.decode_eq] at decoded
      exact kept there held (companion.trans remembered) (same.type.trans type)
        (sameRow.trans row) fits decoded

end Backs

/-! ### Whole tiers -/

/-- A persistent tier that backs every entry of a memory tier that keeps payloads. -/
structure Mirrors (initial : PersistentTier) (now : Instant) (memory : MemoryTier)
    (tier : PersistentTier) : Prop where
  codec : SameCodec tier initial
  reachable : ∃ rows, tier.database = .table rows
  keeps : memory.policy = .keepPayload
  timeToLive : tier.companion.timeToLive = memory.timeToLive
  typeMismatches : tier.companion.counters.typeMismatches = memory.counters.typeMismatches
  puts : tier.companion.counters.puts = memory.counters.puts
  backs : ∀ key, tier.Backs key now (memory.entries.get? key)

namespace Mirrors

theorem wait {later : Instant} (forward : now ≤ later)
    (mirrors : Mirrors initial now memory tier) : Mirrors initial later memory tier :=
  { mirrors with backs := fun key => (mirrors.backs key).wait forward }

theorem put (mirrors : Mirrors initial now memory tier) {envelope : Envelope Payload}
    {payload : Payload} {content : StoredContent} (held : envelope.payload = some payload)
    (encoded : initial.encode payload = .ok content)
    (fits : (Cell.ofContent content).content? initial.settings.textFormat = some content)
    (decoded : initial.decode payload.type content envelope.provenance.shape.isListShaped =
      .ok payload.value) (key : Key) :
    Mirrors initial now (memory.put now key envelope) (tier.put now key envelope).2 := by
  obtain ⟨rows, table⟩ := mirrors.reachable
  have encodedHere : tier.encode payload = .ok content := by
    rw [mirrors.codec.encode_eq]
    exact encoded
  have sameExpiry : tier.companion.expiryFrom now = memory.expiryFrom now := by
    unfold MemoryTier.expiryFrom
    rw [mirrors.timeToLive]
  rw [put_eq_written table held encodedHere]
  refine ⟨mirrors.codec.withState _ _ _,
    ⟨_, rfl⟩, mirrors.keeps, mirrors.timeToLive, mirrors.typeMismatches,
    congrArg (· + 1) mirrors.puts, ?_⟩
  intro other
  rw [MemoryTier.get?_put]
  by_cases same : key = other
  · -- The companion is given no payload, so its stripping does not show.
    rw [if_pos same, ← same, MemoryTier.stored_of_keepPayload mirrors.keeps]
    refine .kept rfl held ?_ (KeyMap.get?_insert_self _ _ _) (KeyMap.get?_insert_self _ _ _) ?_ ?_
    · change (tier.companion.put now key envelope.metadataOnly).entries.get? key = _
      rw [MemoryTier.get?_put, if_pos rfl, MemoryTier.stored_metadataOnly, sameExpiry]
      rfl
    · change (Cell.ofContent content).content? tier.settings.textFormat = some content
      rw [mirrors.codec.settings]
      exact fits
    · change tier.decode payload.type content envelope.provenance.shape.isListShaped = _
      rw [mirrors.codec.decode_eq]
      exact decoded
  · rw [if_neg same]
    refine (mirrors.backs other).frame (.written same table now envelope payload content) ?_
    change (tier.companion.put now key envelope.metadataOnly).entries.get? other = _
    rw [MemoryTier.get?_put, if_neg same]

theorem withCounters (mirrors : Mirrors initial now memory tier) {first second : Counters}
    (typeMismatches : second.typeMismatches = first.typeMismatches)
    (puts : second.puts = first.puts) :
    Mirrors initial now { memory with counters := first }
      { tier with companion := { tier.companion with counters := second } } where
  codec := mirrors.codec.withState _ _ _
  reachable := mirrors.reachable
  keeps := mirrors.keeps
  timeToLive := mirrors.timeToLive
  typeMismatches := typeMismatches
  puts := puts
  backs key := (mirrors.backs key).frame (.withCompanion _) rfl

theorem getEnvelope (mirrors : Mirrors initial now memory tier) (key : Key)
    (type : PayloadType) :
    (tier.getEnvelope now key type).1 = .ok (memory.getEnvelope now key type).1 ∧
      Mirrors initial now (memory.getEnvelope now key type).2
        (tier.getEnvelope now key type).2 := by
  have backs := mirrors.backs key
  cases entry : memory.entries.get? key with
  | none =>
      rw [entry] at backs
      cases backs with
      | gone stale =>
          rw [getEnvelope_of_stale stale, MemoryTier.getEnvelope_of_missing entry]
          exact ⟨rfl, mirrors.withCounters mirrors.typeMismatches mirrors.puts⟩
  | some envelope =>
      rw [entry] at backs
      cases backs with
      | kept reachable held remembered recorded row fits decoded =>
          rename_i payload content
          rw [MemoryTier.getEnvelope_of_held entry held]
          by_cases fresh : envelope.isFreshAt now = true
          · rw [getEnvelope_of_fresh remembered fresh recorded, if_pos fresh]
            by_cases same : payload.type = type
            · rw [if_pos same, if_pos same]
              subst same
              rw [readRow_of_row reachable row fits decoded, Envelope.downcast?_payload held,
                Payload.as?_self]
              exact ⟨rfl, mirrors.withCounters mirrors.typeMismatches mirrors.puts⟩
            · rw [if_neg same, if_neg same]
              exact ⟨rfl, mirrors.withCounters (congrArg (· + 1) mirrors.typeMismatches)
                mirrors.puts⟩
          · have stale : ∀ other, tier.companion.entries.get? key = some other →
                other.isFreshAt now = false := by
              intro other found
              rw [remembered] at found
              rw [← Option.some.inj found]
              exact Bool.eq_false_of_not_eq_true fresh
            rw [getEnvelope_of_stale stale, if_neg fresh]
            exact ⟨rfl, mirrors.withCounters mirrors.typeMismatches mirrors.puts⟩

theorem invalidate (mirrors : Mirrors initial now memory tier) (key : Key) :
    Mirrors initial now (memory.invalidate key).2 (tier.invalidate now key).2 := by
  obtain ⟨_, _, removed⟩ := memory.invalidate_eq_entries key
  obtain ⟨_, ended⟩ := tier.companion.expire_eq_entries now key
  refine ⟨mirrors.codec.withState _ _ _,
    mirrors.reachable, ?_, ?_, ?_, ?_, ?_⟩
  · rw [removed]
    exact mirrors.keeps
  · change (tier.companion.expire now key).2.timeToLive = _
    rw [removed, ended]
    exact mirrors.timeToLive
  · change (tier.companion.expire now key).2.counters.typeMismatches = _
    rw [removed, ended]
    exact mirrors.typeMismatches
  · change (tier.companion.expire now key).2.counters.puts = _
    rw [removed, ended]
    exact mirrors.puts
  · intro other
    rw [MemoryTier.get?_invalidate]
    have expired := MemoryTier.get?_expire tier.companion now key other
    by_cases same : key = other
    · rw [if_pos same]
      rw [if_pos same] at expired
      -- The companion keeps the entry; from now on it is never fresh.
      apply Backs.gone
      intro remembered found
      change (tier.companion.expire now key).2.entries.get? other = _ at found
      rw [expired] at found
      obtain ⟨envelope, _, ended⟩ := Option.map_eq_some_iff.1 found
      rw [← ended]
      exact Instant.before_eq_false_iff.2 le_rfl
    · rw [if_neg same]
      rw [if_neg same] at expired
      exact (mirrors.backs other).frame (.withCompanion _) expired

theorem clear (mirrors : Mirrors initial now memory tier) :
    ∃ cleared, tier.clear = (.ok (), cleared) ∧
      Mirrors initial now memory.clear
        { cleared with companion := cleared.companion.clear } := by
  obtain ⟨rows, table⟩ := mirrors.reachable
  have recreated : tier.database.recreate = .ok .empty := by
    rw [table]
    rfl
  refine ⟨{ tier with database := .empty, payloadTypes := .empty }, ?_, ?_⟩
  · unfold PersistentTier.clear
    rw [recreated]
  refine ⟨mirrors.codec.withState _ _ _,
    ⟨_, rfl⟩, mirrors.keeps, mirrors.timeToLive, mirrors.typeMismatches, mirrors.puts, ?_⟩
  intro key
  apply Backs.gone
  intro remembered found
  cases found

/-- A new tier backs an empty one. -/
theorem ofNew {timeToLive : Duration} (new : initial.IsNew timeToLive) (now : Instant) :
    Mirrors initial now (.create timeToLive .keepPayload) initial where
  codec := ⟨rfl, rfl, rfl⟩
  reachable := ⟨_, new.database⟩
  keeps := rfl
  timeToLive := by rw [new.companion]; rfl
  typeMismatches := by rw [new.companion]; rfl
  puts := by rw [new.companion]; rfl
  backs := by
    intro key
    apply Backs.gone
    intro remembered found
    rw [new.companion] at found
    cases found

end Mirrors

end PersistentTier

namespace QueryCache

/-! ### Whole histories -/

inductive TypedRead where
  | payload (type : PayloadType) (read : Except CacheError (Option type.Value))
  | envelope (type : PayloadType) (read : Except CacheError (Option (Envelope type.Value)))

/-- What shows of an operation: what a typed read finds, and two counters after it. -/
structure Sighting where
  read : Option TypedRead
  typeMismatches : Nat
  puts : Nat

def typedRead? (cache : QueryCache) (now : Instant) : Operation → Option TypedRead
  | .getTyped key type => some (.payload type (cache.getTyped now key type).1)
  | .getEnvelope key type => some (.envelope type (cache.getEnvelope now key type).1)
  | _ => none

def sighting (cache : QueryCache) (now : Instant) (operation : Operation) : Sighting :=
  let counters := (cache.perform now operation).metadata.counters
  ⟨cache.typedRead? now operation, counters.typeMismatches, counters.puts⟩

/-- Operations that a memory stack and a persistent one carry out alike: typed reads,
removals, and puts of payloads that the persistent tier encodes and decodes back under
the list hint of their shape. Reads for a refresh change nothing. -/
def IsShared (tier : PersistentTier) : Operation → Prop
  | .put _ envelope =>
    ∃ payload content, envelope.payload = some payload ∧ tier.encode payload = .ok content ∧
      tier.decode payload.type content envelope.provenance.shape.isListShaped =
        .ok payload.value
  | .getTyped _ _ | .getEnvelope _ _ | .getForRefresh _ | .invalidate _ | .clear => True
  | _ => False

/-- A memory stack and a persistent one that backs it. -/
inductive Agree (initial : PersistentTier) (now : Instant) : QueryCache → QueryCache → Prop
  | intro {memory : MemoryTier} {tier : PersistentTier} (mirrors : initial.Mirrors now memory tier)
      (first second : String) (firstKeys secondKeys : KeyDeriver) :
      Agree initial now ⟨first, .memory memory, firstKeys⟩ ⟨second, .persistent tier, secondKeys⟩

namespace Agree

variable {initial : PersistentTier} {now : Instant} {first second : QueryCache}

theorem wait {later : Instant} (forward : now ≤ later) (agree : Agree initial now first second) :
    Agree initial later first second := by
  cases agree with
  | intro mirrors => exact .intro (mirrors.wait forward) _ _ _ _

theorem counters (agree : Agree initial now first second) :
    first.metadata.counters.typeMismatches = second.metadata.counters.typeMismatches ∧
      first.metadata.counters.puts = second.metadata.counters.puts := by
  cases agree with
  | intro mirrors => exact ⟨mirrors.typeMismatches.symm, mirrors.puts.symm⟩

theorem getEnvelope (agree : Agree initial now first second) (key : Key) (type : PayloadType) :
    (first.getEnvelope now key type).1 = (second.getEnvelope now key type).1 ∧
      Agree initial now (first.getEnvelope now key type).2
        (second.getEnvelope now key type).2 := by
  cases agree with
  | intro mirrors =>
      obtain ⟨same, after⟩ := mirrors.getEnvelope key type
      exact ⟨same.symm, .intro after _ _ _ _⟩

theorem perform {format : Format} (serializer : initial.serializer = .ofFormat format)
    (agree : Agree initial now first second) {operation : Operation}
    (shared : IsShared initial operation) :
    Agree initial now (first.perform now operation) (second.perform now operation) := by
  cases operation with
  | put key envelope =>
      obtain ⟨payload, content, held, encoded, decoded⟩ := shared
      have fits := PersistentTier.content?_of_encode serializer encoded
      cases agree with
      | intro mirrors => exact .intro (mirrors.put held encoded fits decoded key) _ _ _ _
  | getTyped key type | getEnvelope key type => exact (agree.getEnvelope key type).2
  | getForRefresh key => exact agree
  | invalidate key =>
      cases agree with
      | intro mirrors => exact .intro (mirrors.invalidate key) _ _ _ _
  | clear =>
      cases agree with
      | intro mirrors =>
          obtain ⟨cleared, done, after⟩ := mirrors.clear
          simp only [QueryCache.perform, QueryCache.clear, done]
          exact .intro after _ _ _ _
  | canStream | stream | streamCancellable | getOrFetch | refresh | purgeExpired =>
      exact shared.elim

theorem typedRead?_eq (agree : Agree initial now first second) (operation : Operation) :
    first.typedRead? now operation = second.typedRead? now operation := by
  cases operation with
  | getTyped key type =>
      simp only [typedRead?, getTyped]
      rw [(agree.getEnvelope key type).1]
  | getEnvelope key type =>
      simp only [typedRead?]
      rw [(agree.getEnvelope key type).1]
  | _ => rfl

end Agree

/-- Over a common history, a memory stack that keeps payloads and a new persistent stack
with the same time to live find the same in every typed read, and count the same puts
and type mismatches after every operation. -/
theorem sightings_eq {timeToLive : Duration} {tier : PersistentTier}
    (new : tier.IsNew timeToLive) {format : Format} (serializer : tier.serializer = .ofFormat format)
    {history : History Operation} (ordered : history.IsOrdered)
    (shared : ∀ event ∈ history, IsShared tier event.2)
    (first second : String) (firstKeys secondKeys : KeyDeriver) :
    history.trace perform sighting
        ⟨first, .memory (.create timeToLive .keepPayload), firstKeys⟩ =
      history.trace perform sighting ⟨second, .persistent tier, secondKeys⟩ := by
  have wait : ∀ past now first second, past ≤ now → Agree tier past first second →
      Agree tier now first second := by
    intro past now first second forward agree
    exact agree.wait forward
  have step : ∀ now first second operation, IsShared tier operation →
      Agree tier now first second →
      Agree tier now (first.perform now operation) (second.perform now operation) := by
    intro now first second operation allowed agree
    exact agree.perform serializer allowed
  have observed : ∀ now first second operation, IsShared tier operation →
      Agree tier now first second →
      first.sighting now operation = second.sighting now operation := by
    intro now first second operation allowed agree
    obtain ⟨typeMismatches, puts⟩ := (step _ _ _ operation allowed agree).counters
    simp only [sighting]
    rw [agree.typedRead?_eq, typeMismatches, puts]
  apply History.trace_eq_of_related wait step observed ordered shared
  intro event _
  exact .intro (PersistentTier.Mirrors.ofNew new event.1) _ _ _ _

/-- A new tier that stores compressed octets. -/
def packed : PersistentTier where
  settings := ⟨{ Persistent.Tuning.standard with textFormat := false }, ⟨.lz4, 0, 3⟩⟩
  serializer := .ofFormat .messagePack
  compressor := .ofSettings ⟨.lz4, 0, 3⟩
  database := .empty
  payloadTypes := .empty
  companion := .create .day .stripPayload

/-- A truth value that is read, overwritten by a list, read at its old type, and
invalidated. -/
def replaced : History Operation :=
  [(⟨0, 0⟩, .put 7 (.ofPayload (.bare .oneByQuery) ⟨.single .bool, true⟩)),
    (⟨1, 0⟩, .getTyped 7 (.single .bool)),
    (⟨2, 0⟩, .put 7 (.ofPayload (.bare .listByQuery) ⟨.single (.list .bool), [true, false]⟩)),
    (⟨3, 0⟩, .getEnvelope 7 (.single .bool)),
    (⟨4, 0⟩, .invalidate 7)]

theorem sightings_replaced :
    packed.IsNew .day ∧ packed.serializer = .ofFormat .messagePack ∧ replaced.IsOrdered ∧
      (∀ event ∈ replaced, IsShared packed event.2) ∧
      replaced.trace perform sighting
          ⟨"memory", .memory (.create .day .keepPayload), .standard⟩ =
        replaced.trace perform sighting ⟨"packed", .persistent packed, .standard⟩ := by
  have new : packed.IsNew .day := ⟨rfl, rfl, rfl, rfl, rfl⟩
  have serializer : packed.serializer = .ofFormat .messagePack := rfl
  have ordered : replaced.IsOrdered := by decide
  have shared : ∀ event ∈ replaced, IsShared packed event.2 := by
    intro event member
    simp only [replaced, List.mem_cons, List.not_mem_nil, or_false] at member
    rcases member with rfl | rfl | rfl | rfl | rfl
    · exact ⟨_, _, rfl, rfl, rfl⟩
    · trivial
    · exact ⟨_, _, rfl, rfl, rfl⟩
    · trivial
    · trivial
  exact ⟨new, serializer, ordered, shared, sightings_eq new serializer ordered shared _ _ _ _⟩

end QueryCache

end ResultCache
