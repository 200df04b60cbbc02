import ResultCache.Proofs.Memory.Operation

/-!
Contract: the counters of a memory tier balance.

Owns:
- `MemoryTier.Ledger`, what a witness of a run counts who never looks at a counter;
- `MemoryTier.Balanced`, the three accounts that counters, entries and a ledger keep with
  one another: of reads, of misses, and of entries;
- that every operation keeps the books balanced, and so every run of a new tier.

Does not own: the companion of a persistent tier, which is read behind its own back.
-/

namespace ResultCache

namespace MemoryTier

/-- What a witness of a run counts. -/
structure Ledger where
  /-- The typed reads. -/
  reads : Nat
  /-- The typed reads of keys without an entry. -/
  absentReads : Nat
  /-- The entries that purges said they removed. -/
  purged : Nat
  /-- The entries that were there when the tier was cleared. -/
  cleared : Nat

namespace Ledger

def blank : Ledger := ⟨0, 0, 0, 0⟩

def afterRead (ledger : Ledger) (present : Bool) : Ledger :=
  { ledger with
    reads := ledger.reads + 1
    absentReads := ledger.absentReads + if present then 0 else 1 }

/-- The ledger after one more operation on a tier. -/
def after (tier : MemoryTier) (now : Instant) (ledger : Ledger) : Operation → Ledger
  | .getTyped key _ | .getEnvelope key _ => ledger.afterRead (tier.contains key)
  | .clear => { ledger with cleared := ledger.cleared + tier.size }
  | .purgeExpired grace =>
    { ledger with purged := ledger.purged + (tier.purgeExpired now grace).1 }
  | .put _ _ | .getForRefresh _ | .expire _ | .invalidate _ => ledger

end Ledger

/-- The accounts of a tier: every read hit or missed; every miss was of an absent key, of an
entry that was not served, or of another type; and every put replaced an entry or made one,
which is still there or was removed in one of three ways. -/
structure Balanced (tier : MemoryTier) (ledger : Ledger) : Prop where
  reads : tier.counters.hits + tier.counters.misses = ledger.reads
  misses : tier.counters.misses =
    tier.counters.staleMisses + tier.counters.typeMismatches + ledger.absentReads
  entries : tier.counters.puts = tier.counters.replacements +
    (tier.size + tier.counters.invalidations + ledger.purged + ledger.cleared)

namespace Balanced

variable {tier : MemoryTier} {ledger : Ledger}

theorem create (timeToLive : Duration) (policy : ReplacementPolicy) :
    Balanced (MemoryTier.create timeToLive policy) .blank :=
  ⟨rfl, rfl, rfl⟩

theorem put (balanced : tier.Balanced ledger) (now : Instant) (key : Key)
    (envelope : Envelope Payload) : (tier.put now key envelope).Balanced ledger where
  reads := balanced.reads
  misses := balanced.misses
  entries := by
    have before := balanced.entries
    have grown := KeyMap.size_insert tier.entries key (tier.stored now key envelope)
    simp only [MemoryTier.put, size] at before ⊢
    by_cases present : tier.entries.contains key = true
    · simp only [present, if_true] at grown ⊢
      omega
    · simp only [present] at grown ⊢
      simp only [Bool.false_eq_true, if_false] at grown ⊢
      omega

theorem getEnvelope (balanced : tier.Balanced ledger) (now : Instant) (key : Key)
    (type : PayloadType) :
    (tier.getEnvelope now key type).2.Balanced (ledger.afterRead (tier.contains key)) := by
  obtain ⟨reads, misses, entries⟩ := balanced
  unfold MemoryTier.getEnvelope MemoryTier.contains KeyMap.contains Ledger.afterRead
  cases tier.entries.get? key with
  | none =>
      refine ⟨?_, ?_, entries⟩
      · simp only [count]
        omega
      · simp only [count, Option.isSome_none, Bool.false_eq_true, if_false]
        omega
  | some envelope =>
      dsimp only
      simp only [Option.isSome_some, if_true]
      -- A present entry is served, or not fresh, or of another type, and counted as that.
      split
      · split
        · refine ⟨?_, misses, entries⟩
          simp only [count]
          omega
        · refine ⟨?_, ?_, entries⟩ <;> simp only [count] <;> omega
      · refine ⟨?_, ?_, entries⟩ <;> simp only [count] <;> omega

theorem expire (balanced : tier.Balanced ledger) (now : Instant) (key : Key) :
    (tier.expire now key).2.Balanced ledger := by
  unfold MemoryTier.expire
  cases found : tier.entries.get? key with
  | none => exact balanced
  | some envelope =>
      refine ⟨balanced.reads, balanced.misses, ?_⟩
      have present : tier.entries.contains key = true := by
        rw [KeyMap.contains, found]
        rfl
      have before := balanced.entries
      simp only [size] at before ⊢
      rw [KeyMap.size_insert, if_pos present]
      exact before

theorem invalidate (balanced : tier.Balanced ledger) (key : Key) :
    (tier.invalidate key).2.Balanced ledger := by
  unfold MemoryTier.invalidate
  by_cases present : tier.entries.contains key = true
  · rw [if_pos present]
    refine ⟨balanced.reads, balanced.misses, ?_⟩
    have before := balanced.entries
    have shrunk := KeyMap.size_erase tier.entries key
    rw [if_pos present] at shrunk
    simp only [size] at before ⊢
    omega
  · rw [if_neg present]
    exact balanced

theorem purgeExpired (balanced : tier.Balanced ledger) (now : Instant) (grace : Duration) :
    (tier.purgeExpired now grace).2.Balanced
      (Ledger.after tier now ledger (.purgeExpired grace)) where
  reads := balanced.reads
  misses := balanced.misses
  entries := by
    have before := balanced.entries
    have shrunk := KeyMap.size_filter_le tier.entries
      fun _ envelope => outlives (cutoff now grace) envelope
    simp only [MemoryTier.purgeExpired, Ledger.after, size] at before ⊢
    omega

theorem clear (balanced : tier.Balanced ledger) (now : Instant) :
    tier.clear.Balanced (Ledger.after tier now ledger .clear) where
  reads := balanced.reads
  misses := balanced.misses
  entries := by
    have before := balanced.entries
    simp only [MemoryTier.clear, Ledger.after, size, KeyMap.size_empty] at before ⊢
    omega

theorem perform (balanced : tier.Balanced ledger) (now : Instant) (operation : Operation) :
    (tier.perform now operation).Balanced (Ledger.after tier now ledger operation) := by
  cases operation with
  | put key envelope => exact balanced.put now key envelope
  | getTyped key type | getEnvelope key type => exact balanced.getEnvelope now key type
  | getForRefresh key => exact balanced
  | expire key => exact balanced.expire now key
  | invalidate key => exact balanced.invalidate key
  | clear => exact balanced.clear now
  | purgeExpired grace => exact balanced.purgeExpired now grace

end Balanced

/-- The books of a new tier are balanced after every run. -/
theorem balanced_run (timeToLive : Duration) (policy : ReplacementPolicy)
    (history : History Operation) :
    (history.run perform (create timeToLive policy)).Balanced
      (history.follow perform Ledger.after (create timeToLive policy) .blank) := by
  have step : ∀ tier now ledger operation, Balanced tier ledger →
      (tier.perform now operation).Balanced (Ledger.after tier now ledger operation) := by
    intro tier now ledger operation balanced
    exact balanced.perform now operation
  exact History.follow_preserves step history (Balanced.create timeToLive policy)

end MemoryTier

end ResultCache
