import Mathlib.Data.List.Infix
import ResultCache.Stream

/-!
Contract: what a sink holds when a copy ends.

Owns:
- `Transfer.Holds`, a copy whose sink holds the front of the content, counted exactly;
- `Transfer.Progress`, how a cancellable copy stands when it writes no more for now, which
  the writes of one piece keep, and the pieces of a content after them;
- `Delivery.Accounts`, the four ways that a cancellable copy comes to its end, each with
  what the sink then holds;
- that a request to stop counts for nothing once the sink holds everything;
- that copies to sinks that never fail are not stopped.

Does not own: which content is copied.
-/

namespace ResultCache

/-- A sink that takes octets at every write and is flushed without fault. -/
structure Sink.NeverFails (sink : Sink) : Prop where
  accepts : ∀ calls held offered, 0 < offered →
    ∃ count, 0 < count ∧ sink.answer calls held offered = .accepts count
  uninterrupted : sink.interruptions = []
  flushes : sink.flushFault = none

namespace Sink.NeverFails

variable {sink : Sink} {calls held offered : Nat}

theorem answer_ne_fails (reliable : sink.NeverFails) (some : offered ≠ 0) {fault : IoFault} :
    sink.answer calls held offered ≠ .fails fault := by
  obtain ⟨count, _, answered⟩ := reliable.accepts calls held offered (Nat.pos_of_ne_zero some)
  rw [answered]
  exact Answer.noConfusion

theorem takes (reliable : sink.NeverFails) (some : offered ≠ 0) {count : Nat}
    (answered : sink.answer calls held offered = .accepts count) : min count offered ≠ 0 := by
  obtain ⟨taken, positive, accepted⟩ :=
    reliable.accepts calls held offered (Nat.pos_of_ne_zero some)
  rw [answered] at accepted
  cases accepted
  omega

end Sink.NeverFails

/-- The account that a delivery gives of a content. Requests to stop are granted only
while octets are missing, or before empty content is fetched. -/
inductive Delivery.Accounts (content : Bytes) : Delivery → Prop
  /-- All of it was received, and flushed. -/
  | whole : Accounts content ⟨.ok content.length, content, 1⟩
  /-- All of it was received, and the flush failed. -/
  | unflushed (fault : IoFault) : Accounts content ⟨.error (.io fault), content, 1⟩
  /-- A request to stop came behind so many octets. -/
  | cancelled {count : Nat} (within : count ≤ content.length)
      (unfinished : count < content.length ∨ content = []) :
      Accounts content ⟨.error (.cancelled count), content.take count, 0⟩
  /-- A write failed behind so many octets. -/
  | failed {count : Nat} (fault : IoFault) (unfinished : count < content.length) :
      Accounts content ⟨.error (.io fault), content.take count, 0⟩

namespace Transfer

variable {sink : Sink} {cancellation other : Cancellation} {content octets : Bytes}
  {transfer reached : Transfer} {left : Nat}

/-! ### What the sink holds -/

/-- The sink holds the front of the content, as far as the copy has got. -/
structure Holds (content : Bytes) (transfer : Transfer) : Prop where
  within : transfer.held ≤ content.length
  taken : transfer.taken.reverse = content.take transfer.held

namespace Holds

theorem start (content : Bytes) : Holds content .start := ⟨Nat.zero_le _, by simp [Transfer.start]⟩

theorem called (holds : Holds content transfer) : Holds content transfer.called :=
  ⟨holds.within, holds.taken⟩

/-- Octets that come next in the content extend what the sink holds. -/
theorem took (holds : Holds content transfer) (next : octets <+: content.drop transfer.held) :
    Holds content (transfer.took octets) where
  within := by
    have fits := next.length_le
    have within := holds.within
    rw [List.length_drop] at fits
    change transfer.held + octets.length ≤ content.length
    omega
  taken := by
    have same : octets = (content.drop transfer.held).take octets.length :=
      List.prefix_iff_eq_take.1 next
    calc (transfer.took octets).taken.reverse
        = transfer.taken.reverse ++ octets := by
          simp [Transfer.took, List.reverseAux_eq]
      _ = content.take transfer.held ++ (content.drop transfer.held).take octets.length := by
          rw [holds.taken, ← same]
      _ = content.take (transfer.held + octets.length) := List.take_add.symm

end Holds

theorem held_took_take (transfer : Transfer) {size : Nat} (enough : size ≤ octets.length) :
    (transfer.took (octets.take size)).held = transfer.held + size := by
  change transfer.held + (octets.take size).length = _
  rw [List.length_take, Nat.min_eq_left enough]

/-- What is left of octets that come next comes next behind those that were taken. -/
theorem drop_prefix_drop (next : octets <+: content.drop transfer.held) (size : Nat) :
    octets.drop size <+: content.drop (transfer.held + size) := by
  rw [← List.drop_drop]
  exact next.drop size

/-! ### The cancellable copy -/

/-- How a copy stands that writes no more for now: under way with at most one write for
every octet, or stopped behind at most one write more, with octets missing. -/
inductive Progress (content : Bytes) : Transfer × Option CacheError → Prop
  | underway {transfer : Transfer} (holds : Holds content transfer)
      (calls : transfer.calls ≤ transfer.held) : Progress content (transfer, none)
  | cancelled {transfer : Transfer} (holds : Holds content transfer)
      (calls : transfer.calls ≤ transfer.held + 1)
      (unfinished : transfer.held < content.length ∨ content = []) :
      Progress content (transfer, some (.cancelled transfer.held))
  | failed {transfer : Transfer} (holds : Holds content transfer)
      (calls : transfer.calls ≤ transfer.held + 1) (fault : IoFault)
      (unfinished : transfer.held < content.length) :
      Progress content (transfer, some (.io fault))

/-- A copy that was not stopped is still under way. -/
theorem Progress.of_unstopped {result : Transfer × Option CacheError}
    (progress : Progress content result) (unstopped : result.2 = none) :
    Holds content result.1 ∧ result.1.calls ≤ result.1.held := by
  cases progress with
  | underway holds calls => exact ⟨holds, calls⟩
  | cancelled | failed => cases unstopped

theorem writePiece_progress (holds : Holds content transfer)
    (next : octets <+: content.drop transfer.held) (calls : transfer.calls ≤ transfer.held)
    (whole : left = octets.length) :
    Progress content (writePiece sink cancellation transfer left octets) := by
  -- Octets that are left to write are missing, so that every stop finds some missing.
  have unfinished : left ≠ 0 → transfer.held < content.length := by
    have fits := next.length_le
    rw [List.length_drop] at fits
    omega
  fun_induction writePiece sink cancellation transfer left octets with
  | case1 => exact .underway holds calls
  | case2 transfer left octets some _ =>
      exact .cancelled holds (Nat.le_succ_of_le calls) (.inl (unfinished some))
  | case3 transfer left octets some _ _ =>
      exact .failed holds.called (Nat.succ_le_succ calls) _ (unfinished some)
  | case4 transfer left octets some _ _ _ =>
      exact .cancelled holds.called (Nat.succ_le_succ calls) (.inl (unfinished some))
  | case5 transfer left octets some _ _ _ fault _ =>
      exact .failed holds.called (Nat.succ_le_succ calls) fault (unfinished some)
  | case6 transfer left octets some _ _ _ count _ size _ =>
      exact .failed holds.called (Nat.succ_le_succ calls) _ (unfinished some)
  | case7 transfer left octets some _ _ _ count _ size takes inductionHypothesis =>
      have enough : size ≤ octets.length := by omega
      have held := held_took_take transfer enough
      apply inductionHypothesis
      · exact holds.took ((List.take_prefix _ _).trans next)
      · rw [held]
        exact drop_prefix_drop next size
      · rw [held]
        change transfer.calls + 1 ≤ transfer.held + size
        omega
      · rw [List.length_drop, whole]
      · intro more
        have fits := next.length_le
        rw [List.length_drop] at fits
        omega

theorem pieceAt_at_front (content : Bytes) (offset : Nat) :
    pieceAt content offset <+: content.drop offset := List.take_prefix _ _

/-- Pieces are empty behind the content only. -/
theorem length_le_of_pieceAt_empty {offset : Nat}
    (empty : (pieceAt content offset).length = 0) : content.length ≤ offset := by
  rw [pieceAt, List.length_take, List.length_drop, pieceSize] at empty
  omega

theorem writeFrom_progress (holds : Holds content transfer)
    (calls : transfer.calls ≤ transfer.held)
    (unfinished : transfer.held < content.length ∨ content = []) :
    Progress content (writeFrom sink cancellation content transfer) := by
  fun_induction writeFrom sink cancellation content transfer with
  | case1 transfer _ => exact .cancelled holds (Nat.le_succ_of_le calls) unfinished
  | case2 transfer _ piece _ => exact .underway holds calls
  | case3 transfer _ piece _ written missing inductionHypothesis =>
      -- Between pieces a request is granted only if octets are missing behind this one.
      have progress : Progress content written :=
        writePiece_progress holds (pieceAt_at_front _ _) calls rfl
      obtain ⟨further, calls⟩ := progress.of_unstopped missing.1
      exact inductionHypothesis further calls (.inl missing.2)
  | case4 transfer _ piece _ written _ =>
      exact writePiece_progress holds (pieceAt_at_front _ _) calls rfl

/-- A copy that was not stopped has got to the end. -/
theorem length_le_of_writeFrom
    (unstopped : (writeFrom sink cancellation content transfer).2 = none) :
    content.length ≤ (writeFrom sink cancellation content transfer).1.held := by
  fun_induction writeFrom sink cancellation content transfer with
  | case1 => cases unstopped
  | case2 transfer _ piece empty => exact length_le_of_pieceAt_empty empty
  | case3 transfer _ piece _ written _ inductionHypothesis => exact inductionHypothesis unstopped
  | case4 transfer _ piece _ written ended =>
      exact Nat.le_of_not_lt fun before => ended ⟨unstopped, before⟩

theorem copyCancellable_progress (sink : Sink) (cancellation : Cancellation) (content : Bytes) :
    Progress content (writeFrom sink cancellation content start) := by
  apply writeFrom_progress (Holds.start content) (Nat.le_refl 0)
  cases content with
  | nil => exact .inr rfl
  | cons octet rest => exact .inl (Nat.succ_pos _)

theorem calls_le_of_progress {result : Transfer × Option CacheError}
    (progress : Progress content result) : result.1.calls ≤ content.length + 1 := by
  cases progress with
  | underway holds calls | cancelled holds calls | failed holds calls =>
      have within := holds.within
      dsimp only
      omega

/-- A sink that holds all of the content is flushed, and the copy says so. -/
theorem Holds.accounts (holds : Holds content transfer) (all : transfer.held = content.length) :
    (transfer.finish sink none).Accounts content := by
  have received : transfer.taken.reverse = content := by
    rw [holds.taken, all, List.take_length]
  unfold finish
  cases sink.flushFault with
  | none =>
      simp only [all, received]
      exact .whole
  | some fault =>
      simp only [received]
      exact .unflushed fault

theorem Holds.accounts_of_fault (holds : Holds content transfer) (fault : IoFault)
    (unfinished : transfer.held < content.length) :
    (transfer.finish sink (some (.io fault))).Accounts content := by
  unfold finish
  simp only [holds.taken]
  exact .failed fault unfinished

/-- The end of a copy gives account of the content. -/
theorem accounts_of_progress {result : Transfer × Option CacheError}
    (progress : Progress content result)
    (complete : result.2 = none → content.length ≤ result.1.held) :
    (result.1.finish sink result.2).Accounts content := by
  cases progress with
  | underway holds calls => exact holds.accounts (Nat.le_antisymm holds.within (complete rfl))
  | cancelled holds calls unfinished =>
      unfold finish
      simp only [holds.taken]
      exact .cancelled holds.within unfinished
  | failed holds calls fault unfinished => exact holds.accounts_of_fault fault unfinished

theorem copyCancellable_accounts (sink : Sink) (cancellation : Cancellation) (content : Bytes) :
    (copyCancellable sink cancellation content).Accounts content :=
  accounts_of_progress (copyCancellable_progress sink cancellation content)
    length_le_of_writeFrom

/-! ### Requests to stop that come late -/

/-- Two requests to stop that differ at most when everything is held. -/
def SameUntil (content : Bytes) (first second : Cancellation) : Prop :=
  ∀ moment calls held, held < content.length →
    first.requested moment calls held = second.requested moment calls held

theorem writePiece_congr (same : SameUntil content other cancellation)
    (whole : left = octets.length) (within : transfer.held + left ≤ content.length) :
    writePiece sink other transfer left octets =
      writePiece sink cancellation transfer left octets := by
  have alike : left ≠ 0 → ∀ moment, other.requested moment transfer.calls transfer.held =
      cancellation.requested moment transfer.calls transfer.held := by
    intro some moment
    exact same moment _ _ (by omega)
  fun_induction writePiece sink cancellation transfer left octets with
  | case1 transfer octets => rw [writePiece, if_pos rfl]
  | case2 transfer left octets some stops =>
      rw [writePiece, if_neg some, alike some, if_pos stops]
  | case3 transfer left octets some goes met =>
      rw [writePiece, if_neg some, alike some, if_neg goes, if_pos met]
  | case4 transfer left octets some goes free stops =>
      rw [writePiece, if_neg some, alike some, if_neg goes, if_neg free, alike some, if_pos stops]
  | case5 transfer left octets some goes free stays fault answered =>
      rw [writePiece, if_neg some, alike some, if_neg goes, if_neg free, alike some, if_neg stays,
        answered]
  | case6 transfer left octets some goes free stays count answered size none =>
      rw [writePiece, if_neg some, alike some, if_neg goes, if_neg free, alike some, if_neg stays,
        answered]
      exact if_pos none
  | case7 transfer left octets some goes free stays count answered size takes
      inductionHypothesis =>
      have enough : size ≤ octets.length := by omega
      have held := held_took_take transfer enough
      have within : (transfer.took (octets.take size)).held + (left - size) ≤ content.length := by
        rw [held]
        omega
      rw [writePiece, if_neg some, alike some, if_neg goes, if_neg free, alike some, if_neg stays,
        answered]
      refine (if_neg takes).trans (inductionHypothesis ?_ within ?_)
      · rw [List.length_drop, whole]
      · intro more moment
        exact same moment _ _ (by omega)

theorem length_pieceAt_le (content : Bytes) (offset : Nat) :
    (pieceAt content offset).length ≤ content.length - offset := by
  have fits := (pieceAt_at_front content offset).length_le
  rwa [List.length_drop] at fits

theorem writeFrom_congr (same : SameUntil content other cancellation)
    (missing : transfer.held < content.length) :
    writeFrom sink other content transfer = writeFrom sink cancellation content transfer := by
  have piece : ∀ {transfer : Transfer}, transfer.held < content.length →
      writePiece sink other transfer (pieceAt content transfer.held).length
          (pieceAt content transfer.held) =
        writePiece sink cancellation transfer (pieceAt content transfer.held).length
          (pieceAt content transfer.held) := by
    intro transfer missing
    have fits := length_pieceAt_le content transfer.held
    exact writePiece_congr same rfl (by omega)
  fun_induction writeFrom sink cancellation content transfer with
  | case1 transfer stops =>
      rw [writeFrom, same _ _ _ missing, same _ _ _ missing, if_pos stops]
  | case2 transfer goes _ empty =>
      rw [writeFrom, same _ _ _ missing, same _ _ _ missing, if_neg goes]
      exact if_pos empty
  | case3 transfer goes _ some written more inductionHypothesis =>
      rw [writeFrom, same _ _ _ missing, same _ _ _ missing, if_neg goes]
      refine (if_neg some).trans ?_
      rw [piece missing]
      exact (if_pos more).trans (inductionHypothesis more.2)
  | case4 transfer goes _ some written ended =>
      rw [writeFrom, same _ _ _ missing, same _ _ _ missing, if_neg goes]
      refine (if_neg some).trans ?_
      rw [piece missing]
      exact if_neg ended

theorem copyCancellable_congr (same : SameUntil content other cancellation)
    (some : content ≠ []) :
    copyCancellable sink other content = copyCancellable sink cancellation content := by
  unfold copyCancellable
  rw [writeFrom_congr same (List.length_pos_of_ne_nil some)]

/-! ### Sinks that never fail -/

section Reliable

variable (reliable : sink.NeverFails)

include reliable

/-- Interruptions do not stop the blocking copy, since it makes the write again. -/
theorem writeAll_unstopped (interruptions : List Nat) (transfer : Transfer) (left : Nat)
    (octets : Bytes) : (writeAll sink interruptions transfer left octets).2 = none := by
  fun_induction writeAll sink interruptions transfer left octets with
  | case1 => rfl
  | case2 interruptions transfer left octets _ _ inductionHypothesis => exact inductionHypothesis
  | case3 interruptions transfer left octets some _ fault answered =>
      exact absurd answered (reliable.answer_ne_fails some)
  | case4 interruptions transfer left octets some _ count answered size none =>
      exact absurd none (reliable.takes some answered)
  | case5 interruptions transfer left octets _ _ count _ size _ inductionHypothesis =>
      exact inductionHypothesis

theorem writePiece_unstopped (transfer : Transfer) (left : Nat) (octets : Bytes) :
    (writePiece sink .never transfer left octets).2 = none := by
  fun_induction writePiece sink .never transfer left octets with
  | case1 => rfl
  | case2 transfer left octets _ stops => cases stops
  | case3 transfer left octets _ _ met =>
      rw [reliable.uninterrupted] at met
      cases met
  | case4 transfer left octets _ _ _ stops => cases stops
  | case5 transfer left octets some _ _ _ fault answered =>
      exact absurd answered (reliable.answer_ne_fails some)
  | case6 transfer left octets some _ _ _ count answered size none =>
      exact absurd none (reliable.takes some answered)
  | case7 transfer left octets _ _ _ _ count _ size _ inductionHypothesis =>
      exact inductionHypothesis

theorem writeFrom_unstopped (content : Bytes) (transfer : Transfer) :
    (writeFrom sink .never content transfer).2 = none := by
  fun_induction writeFrom sink .never content transfer with
  | case1 transfer stops => cases stops
  | case2 => rfl
  | case3 transfer _ piece _ written _ inductionHypothesis => exact inductionHypothesis
  | case4 transfer _ piece _ written _ => exact writePiece_unstopped reliable _ _ _

theorem finish_of_unstopped (transfer : Transfer) :
    (transfer.finish sink none).outcome = .ok transfer.held := by
  unfold finish
  rw [reliable.flushes]

theorem exists_ok_of_copy (content : Bytes) :
    ∃ count, (copy sink content).outcome = .ok count := by
  unfold copy
  simp only [writeAll_unstopped reliable]
  exact ⟨_, finish_of_unstopped reliable _⟩

theorem exists_ok_of_copyCancellable (content : Bytes) :
    ∃ count, (copyCancellable sink .never content).outcome = .ok count := by
  unfold copyCancellable
  simp only [writeFrom_unstopped reliable]
  exact ⟨_, finish_of_unstopped reliable _⟩

end Reliable

end Transfer

end ResultCache
