import ResultCache.Proofs.Cache.Counters

/-!
Contract: what a cache remembers has a row behind it.

Owns:
- `PersistentTier.Grounded`: behind every entry of the companion there is a row, with the
  query text of the entry;
- that every operation of a cache keeps its persistent tier grounded, and a run with them;
- reads for a refresh of a grounded tier, which give what the companion remembers.

Rows without an entry are common: a purge of the companion leaves the rows.
-/

namespace ResultCache

namespace PersistentTier

/-- Behind every entry of the companion there is a row with its query text. -/
inductive Grounded (tier : PersistentTier) : Prop
  | intro {rows : KeyMap StoredRow} (table : tier.database = .table rows)
      (row : ∀ key remembered, tier.companion.entries.get? key = some remembered →
        ∃ content, rows.get? key = some (.ofContent remembered.provenance.query content)) :
      Grounded tier

namespace Grounded

variable {tier : PersistentTier}

theorem ofNew {timeToLive : Duration} (new : tier.IsNew timeToLive) : tier.Grounded := by
  refine .intro new.database ?_
  intro key remembered entry
  rw [new.companion] at entry
  cases entry

/-- The companion may forget entries, and change them in all but their provenance. -/
theorem withCompanion (grounded : tier.Grounded) {companion : MemoryTier}
    (known : ∀ key remembered, companion.entries.get? key = some remembered →
      ∃ original, tier.companion.entries.get? key = some original ∧
        original.provenance = remembered.provenance) :
    Grounded { tier with companion := companion } := by
  obtain ⟨table, row⟩ := grounded
  refine .intro table ?_
  intro key remembered entry
  obtain ⟨original, before, same⟩ := known key remembered entry
  rw [← same]
  exact row key original before

/-- A put writes the row and the entry of its key from one envelope. -/
theorem written (grounded : tier.Grounded) {now : Instant} {key : Key}
    {envelope : Envelope Payload} {rows : KeyMap StoredRow} {payload : Payload}
    {content : StoredContent} (table : tier.database = .table rows) :
    (tier.written now key envelope rows payload content).Grounded := by
  obtain ⟨sameTable, row⟩ := grounded
  rw [table] at sameTable
  cases sameTable
  -- Rows and entries change at one key, and the row is made of the envelope of the entry.
  refine .intro rfl ?_
  intro other remembered entry
  change (tier.companion.put now key envelope.metadataOnly).entries.get? other = _ at entry
  rw [MemoryTier.get?_put, MemoryTier.stored_metadataOnly] at entry
  rw [KeyMap.get?_insert]
  by_cases same : key = other
  · rw [if_pos same] at entry
    cases entry
    exact ⟨content, if_pos same⟩
  · rw [if_neg same] at entry
    rw [if_neg same]
    exact row other remembered entry

theorem put (grounded : tier.Grounded) (now : Instant) (key : Key)
    (envelope : Envelope Payload) : (tier.put now key envelope).2.Grounded := by
  rcases tier.put_cases now key envelope with ⟨_, failed⟩ | ⟨_, _, _, table, _, _, succeeded⟩
  · rw [failed]
    exact grounded
  · rw [succeeded]
    exact grounded.written table

theorem invalidate (grounded : tier.Grounded) (now : Instant) (key : Key) :
    (tier.invalidate now key).2.Grounded := by
  have known : ∀ other remembered,
      (tier.companion.expire now key).2.entries.get? other = some remembered →
      ∃ original, tier.companion.entries.get? other = some original ∧
        original.provenance = remembered.provenance := by
    intro other remembered entry
    rw [MemoryTier.get?_expire] at entry
    by_cases same : key = other
    · rw [if_pos same] at entry
      obtain ⟨original, before, rfl⟩ := Option.map_eq_some_iff.1 entry
      exact ⟨original, same ▸ before, rfl⟩
    · rw [if_neg same] at entry
      exact ⟨remembered, entry, rfl⟩
  exact grounded.withCompanion known

theorem purgeExpired (grounded : tier.Grounded) (now : Instant) (grace : Duration) :
    Grounded { tier with companion := (tier.companion.purgeExpired now grace).2 } := by
  apply grounded.withCompanion
  intro key remembered entry
  rw [MemoryTier.get?_purgeExpired] at entry
  exact ⟨remembered, (Option.filter_eq_some_iff.1 entry).1, rfl⟩

/-- A tier whose table can be reached is cleared. -/
theorem clear_eq (grounded : tier.Grounded) :
    tier.clear = (.ok (), { tier with database := .empty, payloadTypes := .empty }) := by
  obtain ⟨table, _⟩ := grounded
  unfold clear
  rw [table]
  rfl

/-- A read for a refresh gives what the companion remembers: the query text of the row is
that of the entry, so that a missing one stays missing. -/
theorem getForRefresh_eq (grounded : tier.Grounded) (key : Key) :
    tier.getForRefresh key = .ok (tier.companion.getForRefresh key) := by
  obtain ⟨table, row⟩ := grounded
  unfold getForRefresh
  cases entry : tier.companion.getForRefresh key with
  | none => rfl
  | some remembered =>
      dsimp only
      by_cases known : (remembered.provenance.shape.isExpressionBased ||
          remembered.provenance.query.isSome) = true
      · rw [if_pos known]
      · -- The row is asked for a query text only where the entry has none.
        rw [if_neg known, table]
        obtain ⟨content, stored⟩ := row key remembered entry
        unfold Database.queryText
        simp only [Database.rows, bind, Except.bind, stored, StoredRow.readQuery_ofContent]
        rfl

end Grounded

end PersistentTier

namespace QueryCache

/-- The persistent tier of a cache is grounded, if there is one. -/
def Grounded (cache : QueryCache) : Prop :=
  match cache.stack with
  | .memory _ => True
  | .persistent tier => tier.Grounded

namespace Grounded

variable {cache : QueryCache}

theorem ofNew {timeToLive : Duration} (new : cache.IsNew timeToLive) : cache.Grounded := by
  cases new with
  | memory => trivial
  | persistent signature new keys => exact PersistentTier.Grounded.ofNew new

theorem withCounters (grounded : cache.Grounded) (counters : Counters) :
    (cache.withCounters counters).Grounded := by
  obtain ⟨signature, stack, keys⟩ := cache
  cases stack with
  | memory tier => trivial
  | persistent tier =>
      apply PersistentTier.Grounded.withCompanion grounded
      intro key remembered entry
      exact ⟨remembered, entry, rfl⟩

theorem getEnvelope (grounded : cache.Grounded) (now : Instant) (key : Key)
    (type : PayloadType) : (cache.getEnvelope now key type).2.Grounded := by
  obtain ⟨counters, _, counted⟩ := cache.exists_counters_of_getEnvelope now key type
  rw [counted]
  exact grounded.withCounters counters

theorem put (grounded : cache.Grounded) (now : Instant) (key : Key)
    (envelope : Envelope Payload) : (cache.put now key envelope).2.Grounded := by
  obtain ⟨signature, stack, keys⟩ := cache
  cases stack with
  | memory tier => trivial
  | persistent tier => exact PersistentTier.Grounded.put grounded now key envelope

theorem clear (grounded : cache.Grounded) :
    cache.clear.2.Grounded ∧ cache.clear.2.metadata = cache.metadata.clear := by
  obtain ⟨signature, stack, keys⟩ := cache
  cases stack with
  | memory tier => exact ⟨trivial, rfl⟩
  | persistent tier =>
      change PersistentTier.Grounded tier at grounded
      unfold QueryCache.clear
      dsimp only
      rw [grounded.clear_eq]
      refine ⟨.intro rfl ?_, rfl⟩
      intro key remembered entry
      cases entry

theorem perform (grounded : cache.Grounded) (now : Instant) (operation : Operation) :
    (cache.perform now operation).Grounded := by
  cases operation with
  | put key envelope => exact grounded.put now key envelope
  | getTyped key type | getEnvelope key type => exact grounded.getEnvelope now key type
  | getForRefresh | canStream | stream | streamCancellable => exact grounded
  | invalidate key =>
      obtain ⟨signature, stack, keys⟩ := cache
      cases stack with
      | memory tier => trivial
      | persistent tier => exact PersistentTier.Grounded.invalidate grounded now key
  | clear => exact grounded.clear.1
  | getOrFetch key type template fetch =>
      have read := grounded.getEnvelope now key type
      change (cache.getOrFetch now key type template fetch).2.Grounded
      rcases cache.getOrFetch_cases now key type template fetch with
        ⟨_, _, readOnly, _⟩ | ⟨value, _, wrote⟩
      · rw [readOnly]
        exact read
      · rw [wrote]
        exact put read now key _
  | refresh key type execute =>
      change (cache.refresh now key type execute).2.Grounded
      rcases cache.refresh_cases now key type execute with
        ⟨_, _, unchanged, _⟩ | ⟨remembered, value, _, _, wrote⟩
      · rw [unchanged]
        exact grounded
      · rw [wrote]
        exact grounded.put now key _
  | purgeExpired grace =>
      obtain ⟨signature, stack, keys⟩ := cache
      cases stack with
      | memory tier => trivial
      | persistent tier => exact PersistentTier.Grounded.purgeExpired grounded now grace

theorem run (grounded : cache.Grounded) (history : History Operation) :
    (history.run QueryCache.perform cache).Grounded := by
  have step : ∀ cache now operation, Grounded cache → (cache.perform now operation).Grounded := by
    intro cache now operation kept
    exact kept.perform now operation
  exact History.run_preserves step history grounded

/-- What is remembered is given back for a refresh. -/
theorem getForRefresh_eq (grounded : cache.Grounded) (key : Key) :
    cache.getForRefresh key = .ok (cache.metadata.getForRefresh key) := by
  obtain ⟨signature, stack, keys⟩ := cache
  cases stack with
  | memory tier => rfl
  | persistent tier => exact PersistentTier.Grounded.getForRefresh_eq grounded key

end Grounded

end QueryCache

end ResultCache
