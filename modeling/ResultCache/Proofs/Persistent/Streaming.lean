import ResultCache.Persistent.Tier
import ResultCache.Proofs.Stream.Accounting

/-!
Contract: streams of a persistent tier, from its checks to the sink.

Owns:
- that a stream is refused with a mistake of the caller, before anything is written,
  unless the tier says that it can be had;
- that a stream that can be had copies the octets of the row;
- what a cancellable stream comes to: whatever the sink does and whenever a request to
  stop comes, the sink holds the front of the content, counted exactly.

Does not own: which keys have a row.
-/

namespace ResultCache

theorem Database.contentOctets_of_row {rows : KeyMap StoredRow} {key : Key} {row : StoredRow}
    (stored : rows.get? key = some row) :
    (table rows).contentOctets key = .ok row.content.octets := by
  unfold contentOctets
  simp only [Database.rows, bind, Except.bind, stored]
  rfl

namespace PersistentTier

variable {tier : PersistentTier} {now : Instant} {key : Key}

/-! ### Checks -/

theorem checkStreamable_of_canStream (streamable : tier.canStream now key = true) :
    tier.checkStreamable now key = .ok () := by
  obtain ⟨text, fresh⟩ := Bool.and_eq_true_iff.1 streamable
  unfold checkStreamable
  rw [if_pos text]
  cases entry : tier.companion.getForRefresh key with
  | none =>
      rw [entry] at fresh
      cases fresh
  | some remembered =>
      rw [entry] at fresh
      exact if_pos fresh

/-- What cannot be streamed is refused as a mistake of the caller. -/
theorem exists_fault_of_not_canStream (refused : tier.canStream now key = false) :
    ∃ fault, tier.checkStreamable now key = .error (.invalidOperation fault) := by
  unfold checkStreamable
  by_cases text : tier.settings.textFormat = true
  · rw [if_pos text]
    cases entry : tier.companion.getForRefresh key with
    | none => exact ⟨_, rfl⟩
    | some remembered =>
        unfold canStream at refused
        rw [entry, text] at refused
        have stale : ¬remembered.isFreshAt now = true := Bool.eq_false_iff.1 refused
        exact ⟨_, if_neg stale⟩
  · rw [if_neg text]
    exact ⟨_, rfl⟩

theorem stream_of_refused {failure : CacheError}
    (refused : tier.checkStreamable now key = .error failure) (sink : Sink) :
    tier.stream now key sink = .refused failure := by
  unfold stream
  rw [refused]

theorem streamCancellable_of_refused {failure : CacheError}
    (refused : tier.checkStreamable now key = .error failure) (sink : Sink)
    (cancellation : Cancellation) :
    tier.streamCancellable now key sink cancellation = .refused failure := by
  unfold streamCancellable
  rw [refused]

/-! ### Copies -/

section Row

variable {rows : KeyMap StoredRow} {row : StoredRow}
  (streamable : tier.canStream now key = true) (table : tier.database = .table rows)
  (stored : rows.get? key = some row)

include streamable table stored

theorem stream_of_row (sink : Sink) :
    tier.stream now key sink = Transfer.copy sink row.content.octets := by
  unfold stream
  rw [checkStreamable_of_canStream streamable, table, Database.contentOctets_of_row stored]

theorem streamCancellable_of_row (sink : Sink) (cancellation : Cancellation) :
    tier.streamCancellable now key sink cancellation =
      Transfer.copyCancellable sink cancellation row.content.octets := by
  unfold streamCancellable
  rw [checkStreamable_of_canStream streamable, table, Database.contentOctets_of_row stored]

/-- A cancellable stream of a fresh text entry gives account of the content, whatever the
sink answers and whenever a request to stop comes. Its copy ends behind at most one write
for every octet and one more, and a request that comes when the sink holds everything
changes nothing. -/
theorem streamCancellable_accounts (sink : Sink) (cancellation : Cancellation) :
    (tier.streamCancellable now key sink cancellation).Accounts row.content.octets ∧
      (Transfer.writeFrom sink cancellation row.content.octets .start).1.calls ≤
        row.content.octets.length + 1 ∧
      (row.content.octets ≠ [] → ∀ other,
        Transfer.SameUntil row.content.octets other cancellation →
          tier.streamCancellable now key sink other =
            tier.streamCancellable now key sink cancellation) := by
  rw [streamCancellable_of_row streamable table stored]
  refine ⟨Transfer.copyCancellable_accounts sink cancellation _, ?_, ?_⟩
  · exact Transfer.calls_le_of_progress (Transfer.copyCancellable_progress sink cancellation _)
  · intro some other same
    rw [streamCancellable_of_row streamable table stored]
    exact Transfer.copyCancellable_congr same some

end Row

/-- A tier with one fresh entry, whose content is exactly two pieces long. -/
def twoPieces : PersistentTier where
  settings := .standard
  serializer := .json
  compressor := .ofSettings (.ofAlgorithm .none)
  database :=
    .table (KeyMap.empty.insert 7
      ⟨none, .text (List.replicate (2 * Transfer.pieceSize) 0x20)⟩)
  payloadTypes := KeyMap.empty.insert 7 (.single .unit)
  companion :=
    (MemoryTier.create .day .stripPayload).put ⟨0, 0⟩ 7 ⟨.bare .oneByQuery, none, none⟩

/-- A sink that takes three octets at a time, and cannot be flushed. -/
def threeAtATime : Sink := ⟨fun _ _ _ => .accepts 3, [], some .storageFull⟩

/-- A request to stop that comes while a write is pending behind the first piece. -/
def behindFirstPiece : Cancellation where
  requested moment _ held := moment = .duringWrite && decide (Transfer.pieceSize < held)

theorem twoPieces_accounts :
    twoPieces.canStream ⟨1, 0⟩ 7 = true ∧
      (twoPieces.streamCancellable ⟨1, 0⟩ 7 threeAtATime behindFirstPiece).Accounts
        (List.replicate (2 * Transfer.pieceSize) 0x20) := by
  have streamable : twoPieces.canStream ⟨1, 0⟩ 7 = true := by decide
  have stored := KeyMap.get?_insert_self KeyMap.empty 7
    (⟨none, .text (List.replicate (2 * Transfer.pieceSize) 0x20)⟩ : StoredRow)
  exact ⟨streamable,
    (streamCancellable_accounts streamable rfl stored threeAtATime behindFirstPiece).1⟩

end PersistentTier

end ResultCache
