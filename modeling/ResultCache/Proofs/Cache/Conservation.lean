import ResultCache.Proofs.Cache.Counters
import ResultCache.Proofs.Memory.Ledger

/-!
Contract: counters are conserved along every run.

Owns:
- `QueryCache.meetsOtherType`, what a typed read meets that a persistent stack refuses for
  its type, and the number of such reads in a run;
- `QueryCache.CountsMismatches`, that the counters of reads of a companion count these and
  nothing else, which every operation on the cache keeps, whatever happens to the database;
- the conservation laws, for a memory tier and for the companion of a persistent one.

Does not own: the ledger of a memory tier.
-/

namespace ResultCache

/-- Counters that agree on reads. -/
structure Counters.SameReads (first second : Counters) : Prop where
  hits : first.hits = second.hits
  misses : first.misses = second.misses
  staleMisses : first.staleMisses = second.staleMisses
  typeMismatches : first.typeMismatches = second.typeMismatches

namespace PersistentTier

/-- Whether there is a fresh entry for which another type is recorded. -/
def holdsOtherType (tier : PersistentTier) (now : Instant) (key : Key) (type : PayloadType) :
    Bool :=
  (tier.companion.getForRefresh key).any (fun envelope => envelope.isFreshAt now) &&
    (tier.payloadTypes.get? key).any fun recorded => recorded ≠ type

/-- A typed read is counted when another type is recorded for a fresh entry, and leaves the
tier as it was when not. -/
theorem getEnvelope_eq_ite (tier : PersistentTier) (now : Instant) (key : Key)
    (type : PayloadType) :
    (tier.getEnvelope now key type).2 =
      if tier.holdsOtherType now key type then
        { tier with companion := tier.companion.recordTypeMismatch }
      else tier := by
  unfold getEnvelope holdsOtherType
  cases tier.companion.getForRefresh key with
  | none => rfl
  | some remembered =>
      dsimp only
      by_cases fresh : remembered.isFreshAt now = true
      · rw [if_pos fresh]
        cases tier.payloadTypes.get? key with
        | none => simp
        | some recorded =>
            dsimp only
            by_cases same : recorded = type
            · simp [same]
            · simp [same, fresh]
      · rw [if_neg fresh]
        simp [fresh]

end PersistentTier

namespace QueryCache

/-- Whether a typed read meets a fresh entry of a persistent stack for which another type
is recorded. -/
def meetsOtherType (cache : QueryCache) (now : Instant) (key : Key) (type : PayloadType) : Bool :=
  match cache.stack with
  | .memory _ => false
  | .persistent tier => tier.holdsOtherType now key type

/-- How many typed reads met another type, after one more event. -/
def mismatchesAfter (cache : QueryCache) (now : Instant) (mismatches : Nat) : Event → Nat
  | .operation (.getTyped key type) | .operation (.getEnvelope key type)
  | .operation (.getOrFetch key type _ _) =>
    mismatches + if cache.meetsOtherType now key type then 1 else 0
  | _ => mismatches

/-- The companion of a persistent stack has counted so many typed reads that met another
type, each as a miss and as a mismatch, and no other read. -/
inductive CountsMismatches : QueryCache → Nat → Prop
  | intro {signature : String} {tier : PersistentTier} {keys : KeyDeriver} {mismatches : Nat}
      (reads : tier.companion.counters.SameReads
        { Counters.zero with misses := mismatches, typeMismatches := mismatches }) :
      CountsMismatches ⟨signature, .persistent tier, keys⟩ mismatches

namespace CountsMismatches

variable {cache : QueryCache} {mismatches : Nat}

theorem ofNew {timeToLive : Duration} {tier : PersistentTier} (new : tier.IsNew timeToLive)
    (signature : String) (keys : KeyDeriver) :
    CountsMismatches ⟨signature, .persistent tier, keys⟩ 0 := by
  refine .intro ?_
  rw [new.companion]
  exact ⟨rfl, rfl, rfl, rfl⟩

theorem getEnvelope (counts : cache.CountsMismatches mismatches) (now : Instant) (key : Key)
    (type : PayloadType) :
    (cache.getEnvelope now key type).2.CountsMismatches
      (mismatches + if cache.meetsOtherType now key type then 1 else 0) := by
  cases counts with
  | @intro signature tier keys _ reads =>
      change CountsMismatches ⟨signature, .persistent (tier.getEnvelope now key type).2, keys⟩
        (mismatches + if tier.holdsOtherType now key type then 1 else 0)
      rw [tier.getEnvelope_eq_ite]
      by_cases other : tier.holdsOtherType now key type = true
      · rw [if_pos other, if_pos other]
        refine .intro ⟨reads.hits, ?_, reads.staleMisses, ?_⟩
        · exact congrArg (· + 1) reads.misses
        · exact congrArg (· + 1) reads.typeMismatches
      · rw [if_neg other, if_neg other]
        exact .intro reads

theorem put (counts : cache.CountsMismatches mismatches) (now : Instant) (key : Key)
    (envelope : Envelope Payload) :
    (cache.put now key envelope).2.CountsMismatches mismatches := by
  cases counts with
  | @intro signature tier keys _ reads =>
      change CountsMismatches ⟨signature, .persistent (tier.put now key envelope).2, keys⟩ _
      rcases tier.put_cases now key envelope with ⟨_, failed⟩ | ⟨_, _, _, _, _, _, succeeded⟩
      · rw [failed]
        exact .intro reads
      · rw [succeeded]
        exact .intro ⟨reads.hits, reads.misses, reads.staleMisses, reads.typeMismatches⟩

theorem clear (counts : cache.CountsMismatches mismatches) :
    cache.clear.2.CountsMismatches mismatches := by
  cases counts with
  | @intro signature tier keys _ reads =>
      unfold QueryCache.clear PersistentTier.clear
      dsimp only
      cases tier.database.recreate with
      | error failure => exact .intro reads
      | ok database => exact .intro reads

theorem invalidate (counts : cache.CountsMismatches mismatches) (now : Instant) (key : Key) :
    (cache.invalidate now key).2.CountsMismatches mismatches := by
  cases counts with
  | @intro signature tier keys _ reads =>
      obtain ⟨_, ended⟩ := tier.companion.expire_eq_entries now key
      change CountsMismatches ⟨signature,
        .persistent { tier with companion := (tier.companion.expire now key).2 }, keys⟩ _
      rw [ended]
      exact .intro reads

theorem advance (counts : cache.CountsMismatches mismatches) (now : Instant) (event : Event) :
    (cache.advance now event).CountsMismatches (cache.mismatchesAfter now mismatches event) := by
  cases event with
  | outside change =>
      cases counts with
      | intro reads => exact .intro reads
  | operation operation =>
      cases operation with
      | put key envelope => exact counts.put now key envelope
      | getTyped key type | getEnvelope key type => exact counts.getEnvelope now key type
      | getForRefresh | canStream | stream | streamCancellable => exact counts
      | invalidate key => exact counts.invalidate now key
      | clear => exact counts.clear
      | getOrFetch key type template fetch =>
          have read := counts.getEnvelope now key type
          change (cache.getOrFetch now key type template fetch).2.CountsMismatches _
          rcases cache.getOrFetch_cases now key type template fetch with
            ⟨_, _, readOnly, _⟩ | ⟨value, _, wrote⟩
          · rw [readOnly]
            exact read
          · rw [wrote]
            exact put read now key _
      | refresh key type execute =>
          change (cache.refresh now key type execute).2.CountsMismatches _
          rcases cache.refresh_cases now key type execute with
            ⟨_, _, unchanged, _⟩ | ⟨remembered, value, _, _, wrote⟩
          · rw [unchanged]
            exact counts
          · rw [wrote]
            exact counts.put now key _
      | purgeExpired grace =>
          cases counts with
          | intro reads => exact .intro reads

theorem run (counts : cache.CountsMismatches mismatches) (history : History Event) :
    (history.run QueryCache.advance cache).CountsMismatches
      (history.follow QueryCache.advance mismatchesAfter cache mismatches) := by
  have step : ∀ cache now mismatches event, CountsMismatches cache mismatches →
      (cache.advance now event).CountsMismatches
        (cache.mismatchesAfter now mismatches event) := by
    intro cache now mismatches event counts
    exact counts.advance now event
  exact History.follow_preserves step history counts

/-- The counters of reads by the number of mismatches. -/
theorem counters (counts : cache.CountsMismatches mismatches) :
    cache.metadata.counters.SameReads
      { Counters.zero with misses := mismatches, typeMismatches := mismatches } := by
  cases counts with
  | intro reads => exact reads

end CountsMismatches

/-- After every run of a new memory tier, hits and misses are the typed reads; the misses
that are neither stale nor of another type are the reads of absent keys; and the puts that
replaced nothing are the entries that are there, those that were invalidated, those that
purges removed, and those that were there at a clear. After every run of a new persistent
stack, the companion has counted nothing but the typed reads that met another type. -/
theorem counters_balance :
    (∀ (timeToLive : Duration) (policy : ReplacementPolicy)
        (history : History MemoryTier.Operation),
      let new := MemoryTier.create timeToLive policy
      let tier := history.run MemoryTier.perform new
      let ledger := history.follow MemoryTier.perform MemoryTier.Ledger.after new .blank
      let counters := tier.counters
      counters.hits + counters.misses = ledger.reads ∧
        counters.staleMisses + counters.typeMismatches ≤ counters.misses ∧
        counters.misses - counters.staleMisses - counters.typeMismatches = ledger.absentReads ∧
        counters.replacements ≤ counters.puts ∧
        counters.puts - counters.replacements =
          tier.size + counters.invalidations + ledger.purged + ledger.cleared) ∧
      ∀ {timeToLive : Duration} {tier : PersistentTier}, tier.IsNew timeToLive →
        ∀ (signature : String) (keys : KeyDeriver) (history : History Event),
          let new : QueryCache := ⟨signature, .persistent tier, keys⟩
          let counters := (history.run advance new).metadata.counters
          counters.hits = 0 ∧ counters.staleMisses = 0 ∧
            counters.misses = counters.typeMismatches ∧
            counters.typeMismatches = history.follow advance mismatchesAfter new 0 := by
  constructor
  · intro timeToLive policy history
    obtain ⟨reads, misses, entries⟩ := MemoryTier.balanced_run timeToLive policy history
    exact ⟨reads, by omega, by omega, by omega, by omega⟩
  · intro timeToLive tier new signature keys history
    have counts := ((CountsMismatches.ofNew new signature keys).run history).counters
    exact ⟨counts.hits, counts.staleMisses, counts.misses.trans counts.typeMismatches.symm,
      counts.typeMismatches⟩

/-- Entries that are replaced, read at both their types and after their end, invalidated,
purged and cleared away. -/
def everyLoss : History MemoryTier.Operation :=
  [(⟨0, 0⟩, .put 7 (.ofPayload (.bare .execute) ⟨.single .unit, ()⟩)),
    (⟨1, 0⟩, .getTyped 7 (.single .bool)),
    (⟨2, 0⟩, .put 7 (.ofPayload (.bare .execute) ⟨.single .unit, ()⟩)),
    (⟨3, 0⟩, .getEnvelope 7 (.single .unit)),
    (⟨4, 0⟩, .getTyped 8 (.single .unit)),
    (⟨5, 0⟩, .expire 7),
    (⟨6, 0⟩, .getTyped 7 (.single .unit)),
    (⟨7, 0⟩, .purgeExpired (.ofSeconds 0)),
    (⟨8, 0⟩, .put 8 (.ofPayload (.bare .execute) ⟨.single .unit, ()⟩)),
    (⟨9, 0⟩, .invalidate 8),
    (⟨10, 0⟩, .put 9 (.ofPayload (.bare .execute) ⟨.single .unit, ()⟩)),
    (⟨11, 0⟩, .clear)]

/-- A truth value that is read at another type while it is fresh and after its end. -/
def readAsText : History Event :=
  [(⟨0, 0⟩, .operation (.put 7 (.ofPayload (.bare .oneByQuery) ⟨.single .bool, true⟩))),
    (⟨1, 0⟩, .operation (.getTyped 7 (.single .text))),
    (⟨2, 0⟩, .outside fun _ => .locked),
    (⟨3, 0⟩, .operation (.getEnvelope 7 (.single .text))),
    (⟨4, 0⟩, .operation (.invalidate 7)),
    (⟨5, 0⟩, .operation (.getTyped 7 (.single .text)))]

theorem counters_balance_everyLoss_readAsText :
    (let tier := everyLoss.run MemoryTier.perform (.create .day .keepPayload)
     let ledger := everyLoss.follow MemoryTier.perform MemoryTier.Ledger.after
        (.create .day .keepPayload) .blank
     ledger = ⟨4, 1, 1, 1⟩ ∧
        tier.counters.hits + tier.counters.misses = 4 ∧
        tier.counters.misses - tier.counters.staleMisses - tier.counters.typeMismatches = 1 ∧
        tier.counters.puts - tier.counters.replacements =
          tier.size + tier.counters.invalidations + 1 + 1) ∧
      ∃ tier, emptyText.stack = .persistent tier ∧ tier.IsNew .day ∧
        (let counters := (readAsText.run advance emptyText).metadata.counters
         counters.hits = 0 ∧ counters.staleMisses = 0 ∧
            counters.misses = counters.typeMismatches ∧ counters.typeMismatches = 2) := by
  constructor
  · obtain ⟨reads, _, absent, _, entries⟩ := counters_balance.1 .day .keepPayload everyLoss
    exact ⟨rfl, reads, absent, entries⟩
  · refine ⟨_, rfl, ⟨rfl, rfl, rfl, rfl, rfl⟩, ?_⟩
    exact counters_balance.2 ⟨rfl, rfl, rfl, rfl, rfl⟩ "text" .standard readAsText

end QueryCache

end ResultCache
