import ResultCache.Proofs.Time.Order

/-!
Contract: saturating arithmetic in exact nanoseconds.

Owns:
- that instants outside leap seconds are told and ordered by their nanoseconds since the
  epoch, and that every number of nanoseconds counts to such an instant;
- the sum and the difference of an instant and a duration as whole numbers, cut at the ends
  of the calendar and nowhere else, although the duration is cut to the longest span first.

Does not own: what is stamped with a sum, or dropped by a difference.
-/

namespace ResultCache

namespace Instant

variable {first second instant : Instant}

/-! ### Nanoseconds since the epoch -/

theorem ofSinceEpoch_nanoseconds (nanoseconds : Int) :
    (ofSinceEpoch nanoseconds).nanoseconds = (nanoseconds % 1000000000).toNat := by
  simp only [ofSinceEpoch, Duration.perSecond]
  rw [Int.fmod_eq_emod_of_nonneg _ (by decide)]
  rfl

@[simp] theorem sinceEpoch_ofSinceEpoch (nanoseconds : Int) :
    (ofSinceEpoch nanoseconds).sinceEpoch = nanoseconds := by
  simp only [sinceEpoch, ofSinceEpoch_seconds, ofSinceEpoch_nanoseconds, Duration.perSecond]
  omega

theorem subsecond_ofSinceEpoch (nanoseconds : Int) :
    (ofSinceEpoch nanoseconds).nanoseconds < Duration.perSecond := by
  simp only [ofSinceEpoch_nanoseconds, Duration.perSecond]
  omega

/-- Outside leap seconds, instants are ordered by their nanoseconds since the epoch. -/
theorem le_iff_sinceEpoch_le (firstSubsecond : first.nanoseconds < Duration.perSecond)
    (secondSubsecond : second.nanoseconds < Duration.perSecond) :
    first ≤ second ↔ first.sinceEpoch ≤ second.sinceEpoch := by
  simp only [Duration.perSecond] at firstSubsecond secondSubsecond
  rw [← not_lt, lt_iff]
  simp only [sinceEpoch, Duration.perSecond]
  omega

theorem sinceEpoch_min (firstSubsecond : first.nanoseconds < Duration.perSecond)
    (secondSubsecond : second.nanoseconds < Duration.perSecond) :
    (min first second).sinceEpoch = min first.sinceEpoch second.sinceEpoch := by
  have order := le_iff_sinceEpoch_le firstSubsecond secondSubsecond
  rw [min_def, min_def, apply_ite sinceEpoch, if_congr order rfl rfl]

theorem sinceEpoch_max (firstSubsecond : first.nanoseconds < Duration.perSecond)
    (secondSubsecond : second.nanoseconds < Duration.perSecond) :
    (max first second).sinceEpoch = max first.sinceEpoch second.sinceEpoch := by
  have order := le_iff_sinceEpoch_le firstSubsecond secondSubsecond
  rw [max_def, max_def, apply_ite sinceEpoch, if_congr order rfl rfl]

theorem isClock_earliest : earliest.IsClock := by decide

theorem isClock_latest : latest.IsClock := by decide

/-- An instant outside leap seconds is one of a clock when it is within the calendar. -/
theorem isClock_of_mem (subsecond : instant.nanoseconds < Duration.perSecond)
    (notBefore : earliest ≤ instant) (notAfter : instant ≤ latest) : instant.IsClock := by
  rw [← not_lt, lt_iff] at notBefore notAfter
  exact ⟨by omega, by omega, subsecond⟩

theorem IsClock.earliest_le (clock : instant.IsClock) : earliest ≤ instant := by
  rw [le_iff_sinceEpoch_le isClock_earliest.subsecond clock.subsecond]
  have notBefore := clock.notBefore
  simp only [earliest, sinceEpoch, Duration.perSecond] at notBefore ⊢
  omega

theorem IsClock.le_latest (clock : instant.IsClock) : instant ≤ latest := by
  rw [le_iff_sinceEpoch_le clock.subsecond isClock_latest.subsecond]
  have notAfter := clock.notAfter
  have subsecond := clock.subsecond
  simp only [latest, sinceEpoch, Duration.perSecond] at notAfter subsecond ⊢
  omega

/-! ### Sums and differences -/

section Exact

variable (instant : Instant) (duration : Duration)

theorem sinceEpoch_plus :
    (instant.plus duration).sinceEpoch = instant.sinceEpoch + duration.nanoseconds :=
  sinceEpoch_ofSinceEpoch _

theorem sinceEpoch_minus :
    (instant.minus duration).sinceEpoch = instant.sinceEpoch - duration.nanoseconds :=
  sinceEpoch_ofSinceEpoch _

theorem subsecond_plus : (instant.plus duration).nanoseconds < Duration.perSecond :=
  subsecond_ofSinceEpoch _

theorem subsecond_minus : (instant.minus duration).nanoseconds < Duration.perSecond :=
  subsecond_ofSinceEpoch _

end Exact

section Saturating

variable (clock : instant.IsClock) (duration : Duration)

include clock

theorem le_plus : instant ≤ instant.plus duration := by
  rw [le_iff_sinceEpoch_le clock.subsecond (subsecond_plus _ _), sinceEpoch_plus]
  omega

/-- A sum stays within the calendar. -/
theorem isClock_later : (instant.later duration.clamped).IsClock := by
  rw [later_clamped clock]
  rcases le_total (instant.plus duration) latest with within | beyond
  · rw [min_eq_left within]
    exact isClock_of_mem (subsecond_plus _ _)
      (clock.earliest_le.trans (le_plus clock duration)) within
  · rw [min_eq_right beyond]
    exact isClock_latest

/-- So does a difference. -/
theorem isClock_earlier : (instant.earlier duration.clamped).IsClock := by
  rw [earlier_clamped clock]
  rcases le_total earliest (instant.minus duration) with within | beyond
  · rw [max_eq_left within]
    exact isClock_of_mem (subsecond_minus _ _) within
      ((minus_le clock duration).trans clock.le_latest)
  · rw [max_eq_right beyond]
    exact isClock_earliest

/-- A sum is the exact one, or the end of the calendar when that is less. -/
theorem sinceEpoch_later :
    (instant.later duration.clamped).sinceEpoch =
      min (instant.sinceEpoch + duration.nanoseconds) latest.sinceEpoch := by
  rw [later_clamped clock, sinceEpoch_min (subsecond_plus _ _) isClock_latest.subsecond,
    sinceEpoch_plus]

/-- A difference is the exact one, or the start of the calendar when that is more. -/
theorem sinceEpoch_earlier :
    (instant.earlier duration.clamped).sinceEpoch =
      max (instant.sinceEpoch - duration.nanoseconds) earliest.sinceEpoch := by
  rw [earlier_clamped clock, sinceEpoch_max (subsecond_minus _ _) isClock_earliest.subsecond,
    sinceEpoch_minus]

end Saturating

/-- Sums grow with the instant and with the duration. -/
theorem later_le_later (firstClock : first.IsClock) (secondClock : second.IsClock)
    (forward : first ≤ second) {shorter longer : Duration}
    (longs : shorter.nanoseconds ≤ longer.nanoseconds) :
    first.later shorter.clamped ≤ second.later longer.clamped := by
  rw [le_iff_sinceEpoch_le firstClock.subsecond secondClock.subsecond] at forward
  rw [le_iff_sinceEpoch_le (isClock_later firstClock shorter).subsecond
      (isClock_later secondClock longer).subsecond,
    sinceEpoch_later firstClock, sinceEpoch_later secondClock]
  omega

end Instant

end ResultCache
