import Mathlib.Data.Prod.Lex
import ResultCache.Time

/-!
Contract: the order of instants, and saturating arithmetic as a minimum and a maximum.

Owns:
- the linear order on instants that `Instant.before` decides;
- `Instant.IsCivil`, the instants of the calendar, and `Instant.IsClock`, those that
  a clock shows;
- the exact sum and difference of an instant and a duration, and the two laws that
  the operations of the library are the exact ones cut at the ends of the calendar,
  although durations are cut to the longest span first;
- sums that follow the clock: they never go back when it does not, and lie ahead of it.

Does not own: what expires when.
-/

namespace ResultCache

/-- A time to live is not cut to nothing. -/
theorem Duration.nanoseconds_ofSeconds (seconds : Nat) :
    (ofSeconds seconds).nanoseconds = seconds * 1000000000 := by
  simp only [ofSeconds, ofParts, perSecond, Nat.add_zero]

theorem Duration.nanoseconds_clamped (duration : Duration) :
    duration.clamped.nanoseconds = min duration.nanoseconds longestSpan.nanoseconds := by
  rw [clamped, apply_ite nanoseconds, min_def]

theorem Duration.clamped_pos {duration : Duration} (positive : 0 < duration.nanoseconds) :
    0 < duration.clamped.nanoseconds := by
  rw [nanoseconds_clamped]
  exact lt_min positive (by decide)

namespace Instant

/-! ### Order -/

/-- What instants are ordered by: seconds first, then nanoseconds. -/
def orderKey (instant : Instant) : Int ×ₗ Nat := toLex (instant.seconds, instant.nanoseconds)

theorem orderKey_injective : Function.Injective orderKey := by
  intro first second same
  have parts : (first.seconds, first.nanoseconds) = (second.seconds, second.nanoseconds) :=
    toLex.injective same
  cases first
  cases second
  simpa using parts

instance : LinearOrder Instant := LinearOrder.lift' orderKey orderKey_injective

theorem lt_iff {first second : Instant} :
    first < second ↔ first.seconds < second.seconds ∨
      first.seconds = second.seconds ∧ first.nanoseconds < second.nanoseconds := by
  change orderKey first < orderKey second ↔ _
  exact Prod.Lex.toLex_lt_toLex

theorem before_iff {first second : Instant} : first.before second = true ↔ first < second := by
  rw [lt_iff]
  simp [before]

theorem before_eq_false_iff {first second : Instant} :
    first.before second = false ↔ second ≤ first := by
  rw [← not_lt, ← before_iff, Bool.not_eq_true]

/-! ### Instants of the calendar -/

/-- An instant of the calendar, leap seconds included. -/
structure IsCivil (instant : Instant) : Prop where
  notBefore : earliest.seconds ≤ instant.seconds
  notAfter : instant.seconds ≤ latest.seconds
  subsecond : instant.nanoseconds < 2 * Duration.perSecond

/-- An instant that a clock shows: of the calendar, and outside leap seconds. -/
structure IsClock (instant : Instant) : Prop where
  notBefore : earliest.seconds ≤ instant.seconds
  notAfter : instant.seconds ≤ latest.seconds
  subsecond : instant.nanoseconds < Duration.perSecond

instance (instant : Instant) : Decidable instant.IsCivil :=
  decidable_of_iff
    (earliest.seconds ≤ instant.seconds ∧ instant.seconds ≤ latest.seconds ∧
      instant.nanoseconds < 2 * Duration.perSecond)
    ⟨fun all => ⟨all.1, all.2.1, all.2.2⟩, fun civil => ⟨civil.1, civil.2, civil.3⟩⟩

instance (instant : Instant) : Decidable instant.IsClock :=
  decidable_of_iff
    (earliest.seconds ≤ instant.seconds ∧ instant.seconds ≤ latest.seconds ∧
      instant.nanoseconds < Duration.perSecond)
    ⟨fun all => ⟨all.1, all.2.1, all.2.2⟩, fun clock => ⟨clock.1, clock.2, clock.3⟩⟩

/-! ### Exact arithmetic -/

/-- The instant a duration later, however late that is. -/
def plus (instant : Instant) (duration : Duration) : Instant :=
  ofSinceEpoch (instant.sinceEpoch + duration.nanoseconds)

/-- The instant a duration earlier, however early that is. -/
def minus (instant : Instant) (duration : Duration) : Instant :=
  ofSinceEpoch (instant.sinceEpoch - duration.nanoseconds)

theorem ofSinceEpoch_seconds (nanoseconds : Int) :
    (ofSinceEpoch nanoseconds).seconds = nanoseconds / 1000000000 := by
  simp only [ofSinceEpoch, Duration.perSecond]
  exact Int.fdiv_eq_ediv_of_nonneg nanoseconds (by decide)

theorem later_eq_min (instant : Instant) (span : Duration) :
    instant.later span = min (instant.plus span) latest := by
  change (if latest.before (instant.plus span) then none else some (instant.plus span)).getD latest
    = _
  by_cases beyond : latest.before (instant.plus span) = true
  · rw [if_pos beyond, min_eq_right (before_iff.1 beyond).le]
    rfl
  · rw [if_neg beyond,
      min_eq_left (before_eq_false_iff.1 (Bool.eq_false_of_not_eq_true beyond))]
    rfl

theorem earlier_eq_max (instant : Instant) (span : Duration) :
    instant.earlier span = max (instant.minus span) earliest := by
  change (if (instant.minus span).before earliest then none
    else some (instant.minus span)).getD earliest = _
  by_cases beyond : (instant.minus span).before earliest = true
  · rw [if_pos beyond, max_eq_right (before_iff.1 beyond).le]
    rfl
  · rw [if_neg beyond,
      max_eq_left (before_eq_false_iff.1 (Bool.eq_false_of_not_eq_true beyond))]
    rfl

/-- The calendar is shorter than the longest span. -/
theorem latest_le_plus {instant : Instant} (clock : instant.IsClock) {span : Duration}
    (long : Duration.longestSpan.nanoseconds ≤ span.nanoseconds) : latest ≤ instant.plus span := by
  apply le_of_lt
  rw [lt_iff]
  left
  rw [plus, ofSinceEpoch_seconds]
  have start := clock.notBefore
  simp only [earliest, latest, sinceEpoch, Duration.longestSpan, Duration.ofParts,
    Duration.perSecond] at start long ⊢
  omega

theorem minus_le_earliest {instant : Instant} (clock : instant.IsClock) {span : Duration}
    (long : Duration.longestSpan.nanoseconds ≤ span.nanoseconds) :
    instant.minus span ≤ earliest := by
  apply le_of_lt
  rw [lt_iff]
  left
  rw [minus, ofSinceEpoch_seconds]
  have bound := clock.notAfter
  have subsecond := clock.subsecond
  simp only [earliest, latest, sinceEpoch, Duration.longestSpan, Duration.ofParts,
    Duration.perSecond] at bound subsecond long ⊢
  omega

/-- Cutting a duration to the longest span does not show in a sum that is cut at the
end of the calendar. -/
theorem later_clamped {instant : Instant} (clock : instant.IsClock) (duration : Duration) :
    instant.later duration.clamped = min (instant.plus duration) latest := by
  rw [later_eq_min]
  by_cases short : duration.nanoseconds ≤ Duration.longestSpan.nanoseconds
  · rw [Duration.clamped, if_pos short]
  · rw [Duration.clamped, if_neg short, min_eq_right (latest_le_plus clock le_rfl),
      min_eq_right (latest_le_plus clock (by omega))]

/-- Nor does it show in a difference that is cut at the start of the calendar. -/
theorem earlier_clamped {instant : Instant} (clock : instant.IsClock) (duration : Duration) :
    instant.earlier duration.clamped = max (instant.minus duration) earliest := by
  rw [earlier_eq_max]
  by_cases short : duration.nanoseconds ≤ Duration.longestSpan.nanoseconds
  · rw [Duration.clamped, if_pos short]
  · rw [Duration.clamped, if_neg short, max_eq_right (minus_le_earliest clock le_rfl),
      max_eq_right (minus_le_earliest clock (by omega))]

theorem minus_le {instant : Instant} (clock : instant.IsClock) (duration : Duration) :
    instant.minus duration ≤ instant := by
  have subsecond := clock.subsecond
  have seconds : (instant.minus duration).seconds =
      (instant.sinceEpoch - duration.nanoseconds) / 1000000000 := ofSinceEpoch_seconds _
  have nanoseconds : (instant.minus duration).nanoseconds =
      ((instant.sinceEpoch - duration.nanoseconds) % 1000000000).toNat := by
    simp only [minus, ofSinceEpoch, Duration.perSecond]
    rw [Int.fmod_eq_emod_of_nonneg _ (by decide)]
    rfl
  simp only [sinceEpoch, Duration.perSecond] at seconds nanoseconds subsecond
  rw [← not_lt, lt_iff]
  omega

theorem earlier_le {instant : Instant} (clock : instant.IsClock) (span : Duration) :
    instant.earlier span ≤ instant := by
  rw [earlier_eq_max]
  apply max_le (minus_le clock span)
  rw [← not_lt, lt_iff]
  have notBefore := clock.notBefore
  simp only [earliest] at notBefore ⊢
  omega

theorem ofSinceEpoch_mono {first second : Int} (forward : first ≤ second) :
    ofSinceEpoch first ≤ ofSinceEpoch second := by
  rw [← not_lt, lt_iff, ofSinceEpoch_seconds, ofSinceEpoch_seconds]
  simp only [ofSinceEpoch, Duration.perSecond]
  rw [Int.fmod_eq_emod_of_nonneg _ (by decide), Int.fmod_eq_emod_of_nonneg _ (by decide)]
  omega

/-- A clock that does not go back stamps no earlier expiry. -/
theorem later_mono {first second : Instant} (clock : first.IsClock) (forward : first ≤ second)
    (span : Duration) : first.later span ≤ second.later span := by
  have elapsed : first.sinceEpoch ≤ second.sinceEpoch := by
    rw [← not_lt, lt_iff] at forward
    have subsecond := clock.subsecond
    simp only [sinceEpoch, Duration.perSecond] at subsecond ⊢
    omega
  rw [later_eq_min, later_eq_min]
  have moved : first.plus span ≤ second.plus span :=
    ofSinceEpoch_mono (Int.add_le_add_right elapsed _)
  exact le_min ((min_le_left _ _).trans moved) (min_le_right _ _)

/-- Before the end of the calendar, what has time to live lives on at its own instant. -/
theorem lt_later {instant : Instant} (early : instant < latest) {span : Duration}
    (lives : 0 < span.nanoseconds) : instant < instant.later span := by
  rw [later_eq_min]
  refine lt_min ?_ early
  rw [lt_iff, plus, ofSinceEpoch_seconds]
  simp only [ofSinceEpoch, sinceEpoch, Duration.perSecond]
  rw [Int.fmod_eq_emod_of_nonneg _ (by decide)]
  omega

end Instant

end ResultCache
