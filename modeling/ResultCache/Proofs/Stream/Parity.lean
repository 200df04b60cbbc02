import ResultCache.Proofs.Stream.Accounting

/-!
Contract: the blocking copy and the cancellable one deliver the same.

Owns:
- the account that a blocking copy gives of its content, whatever the sink does;
- that an account of a copy that succeeded is one of all of the content;
- that both copies deliver all of a content, and count it alike, to sinks that never
  fail, however much each of them takes at a time.

Does not own: which content is copied.
-/

namespace ResultCache

/-- A copy that succeeded has delivered all of the content, and flushed it. -/
theorem Delivery.Accounts.eq_of_ok {content : Bytes} {delivery : Delivery} {count : Nat}
    (accounts : delivery.Accounts content) (succeeded : delivery.outcome = .ok count) :
    delivery = ⟨.ok content.length, content, 1⟩ := by
  cases accounts with
  | whole => rfl
  | unflushed | cancelled | failed => cases succeeded

namespace Transfer

variable {sink first second : Sink} {content octets : Bytes} {transfer : Transfer} {left : Nat}
  {interruptions : List Nat}

/-- How a blocking copy stands behind the octets that it was to write: all of them are
held, or a fault came while some were missing. -/
inductive Written (content : Bytes) (goal : Nat) : Transfer × Option CacheError → Prop
  | all {transfer : Transfer} (holds : Holds content transfer) (reached : transfer.held = goal) :
      Written content goal (transfer, none)
  | failed {transfer : Transfer} (holds : Holds content transfer) (fault : IoFault)
      (unfinished : transfer.held < content.length) :
      Written content goal (transfer, some (.io fault))

theorem writeAll_written (holds : Holds content transfer)
    (next : octets <+: content.drop transfer.held) (whole : left = octets.length) :
    Written content (transfer.held + left)
      (writeAll sink interruptions transfer left octets) := by
  -- Octets that are left to write are missing, so that every fault finds some missing.
  have unfinished : left ≠ 0 → transfer.held < content.length := by
    have fits := next.length_le
    rw [List.length_drop] at fits
    omega
  fun_induction writeAll sink interruptions transfer left octets with
  | case1 => exact .all holds rfl
  | case2 interruptions transfer left octets _ _ inductionHypothesis =>
      exact inductionHypothesis holds.called next whole unfinished
  | case3 interruptions transfer left octets some _ fault _ =>
      exact .failed holds.called fault (unfinished some)
  | case4 interruptions transfer left octets some _ count _ size _ =>
      exact .failed holds.called .writeZero (unfinished some)
  | case5 interruptions transfer left octets some _ count _ size takes inductionHypothesis =>
      have enough : size ≤ octets.length := by omega
      have held := held_took_take transfer enough
      have goal : (transfer.took (octets.take size)).held + (left - size) =
          transfer.held + left := by
        rw [held]
        omega
      rw [← goal]
      apply inductionHypothesis
      · exact holds.took ((List.take_prefix _ _).trans next)
      · rw [held]
        exact drop_prefix_drop next size
      · rw [List.length_drop, whole]
      · intro more
        have fits := next.length_le
        rw [List.length_drop] at fits
        omega

/-- A blocking copy gives account of the content, whatever the sink answers. -/
theorem copy_accounts (sink : Sink) (content : Bytes) :
    (copy sink content).Accounts content := by
  have written : Written content (start.held + content.length)
      (writeAll sink sink.interruptions start content.length content) :=
    writeAll_written (Holds.start content) (List.prefix_refl _) rfl
  unfold copy
  generalize writeAll sink sink.interruptions start content.length content = result at written
  cases written with
  | all holds reached => exact holds.accounts (reached.trans (Nat.zero_add _))
  | failed holds fault unfinished => exact holds.accounts_of_fault fault unfinished

theorem copy_eq_whole (reliable : sink.NeverFails) (content : Bytes) :
    copy sink content = ⟨.ok content.length, content, 1⟩ := by
  obtain ⟨count, succeeded⟩ := exists_ok_of_copy reliable content
  exact (copy_accounts sink content).eq_of_ok succeeded

theorem copyCancellable_eq_whole (reliable : sink.NeverFails) (content : Bytes) :
    copyCancellable sink .never content = ⟨.ok content.length, content, 1⟩ := by
  obtain ⟨count, succeeded⟩ := exists_ok_of_copyCancellable reliable content
  exact (copyCancellable_accounts sink .never content).eq_of_ok succeeded

end Transfer

end ResultCache
