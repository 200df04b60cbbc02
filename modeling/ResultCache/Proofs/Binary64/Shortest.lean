import Mathlib.Algebra.Order.Field.Rat
import Mathlib.Tactic.Linarith
import Mathlib.Tactic.NormNum
import Mathlib.Tactic.Positivity
import Mathlib.Tactic.Ring
import ResultCache.Binary64.Shortest

/-!
Contract: the search for the shortest decimal of a double always finds one.

Owns:
- the bounds of the significand and the exponent of a finite double;
- the reading of the scaled comparisons as comparisons of rationals;
- that the leading place is not above the double, and that one more digit than seventeen
  leaves a decimal in the rounding interval;
- that the coefficient which the search finds is positive.

Does not own: that the decimal is the shortest one, and that it reads back. Writers need no
more than a decimal to spell.
-/

namespace ResultCache

namespace Binary64

variable {number : Binary64}

/-! ### Finite doubles -/

theorem significand_pos (nonzero : number.isZero = false) : 0 < number.significand := by
  unfold isZero at nonzero
  unfold significand fractionSpan
  split
  · simp_all
    omega
  · omega

theorem significand_lt (number : Binary64) : number.significand < 2 ^ 53 := by
  have fraction : number.fraction < fractionSpan := Nat.mod_lt _ (by decide)
  unfold significand
  unfold fractionSpan at *
  split <;> omega

theorem exponent_bounds (finite : number.isFinite = true) :
    -1074 ≤ number.exponent ∧ number.exponent ≤ 971 := by
  have field : number.exponentField < 2047 := of_decide_eq_true finite
  unfold exponent
  omega

namespace Shortest

/-! ### Comparisons as rationals -/

theorem zpow_mul_pow_toNat {base : ℚ} (nonzero : base ≠ 0) (power : ℤ) :
    base ^ power * base ^ (-power).toNat = base ^ power.toNat := by
  rcases le_total 0 power with up | down
  · have none : (-power).toNat = 0 := by omega
    rw [none, pow_zero, mul_one, ← zpow_natCast, Int.toNat_of_nonneg up]
  · have none : power.toNat = 0 := by omega
    rw [none, pow_zero, ← zpow_natCast, Int.toNat_of_nonneg (by omega), ← zpow_add₀ nonzero,
      add_neg_cancel, zpow_zero]

/-- Multiples of a power of ten and of a power of two, on a scale where both are natural. -/
theorem scaled_le_iff (tens twos : ℕ) (place power : ℤ) :
    tens * (10 ^ place.toNat * 2 ^ (-power).toNat) ≤
        twos * (2 ^ power.toNat * 10 ^ (-place).toNat) ↔
      (tens : ℚ) * 10 ^ place ≤ twos * 2 ^ power := by
  have scale : (0 : ℚ) < 10 ^ (-place).toNat * 2 ^ (-power).toNat := by positivity
  have ten : (tens : ℚ) * (10 ^ place.toNat * 2 ^ (-power).toNat) =
      tens * 10 ^ place * (10 ^ (-place).toNat * 2 ^ (-power).toNat) := by
    rw [← zpow_mul_pow_toNat (by norm_num) place]
    ring
  have two : (twos : ℚ) * (2 ^ power.toNat * 10 ^ (-place).toNat) =
      twos * 2 ^ power * (10 ^ (-place).toNat * 2 ^ (-power).toNat) := by
    rw [← zpow_mul_pow_toNat (by norm_num) power]
    ring
  rw [← @Nat.cast_le ℚ]
  push_cast
  rw [ten, two]
  exact mul_le_mul_iff_left₀ scale

/-- The double on the scale of a quarter of its last place. -/
theorem centre_mul_zpow (number : Binary64) :
    (centre number : ℚ) * 2 ^ (number.exponent - 2) = number.significand * 2 ^ number.exponent := by
  unfold centre
  rw [zpow_sub₀ (by norm_num)]
  push_cast
  ring

/-- A power of ten that is not above the double. -/
def Reaches (number : Binary64) (place : ℤ) : Prop :=
  (10 : ℚ) ^ place ≤ number.significand * 2 ^ number.exponent

theorem reaches_iff (number : Binary64) (place : ℤ) :
    (scales number place).1 ≤ centre number * (scales number place).2 ↔ Reaches number place := by
  have scaled := scaled_le_iff 1 (centre number) place (number.exponent - 2)
  rw [one_mul, Nat.cast_one, one_mul, centre_mul_zpow] at scaled
  exact scaled

theorem Reaches.mono {place lower : ℤ} (reaches : Reaches number place) (le : lower ≤ place) :
    Reaches number lower :=
  (zpow_le_zpow_right₀ (by norm_num) le).trans reaches

/-! ### The leading place -/

/-- The guess of the leading place, for every magnitude of a finite double. -/
private theorem guess_le_natural : ∀ shift : ℕ, shift < 2098 →
    1 * (10 ^ (Int.fdiv (((shift : ℤ) - 1074) * 30103) 100000 - 1).toNat *
        2 ^ (-((shift : ℤ) - 1074)).toNat) ≤
      1 * (2 ^ ((shift : ℤ) - 1074).toNat *
        10 ^ (-(Int.fdiv (((shift : ℤ) - 1074) * 30103) 100000 - 1)).toNat) := by
  decide +kernel

theorem zpow_guess_le {magnitude : ℤ} (least : -1074 ≤ magnitude) (greatest : magnitude < 1024) :
    (10 : ℚ) ^ (Int.fdiv (magnitude * 30103) 100000 - 1) ≤ 2 ^ magnitude := by
  have natural := guess_le_natural (magnitude + 1074).toNat (by omega)
  have shifted : ((magnitude + 1074).toNat : ℤ) - 1074 = magnitude := by omega
  rw [shifted, scaled_le_iff, Nat.cast_one, one_mul, one_mul] at natural
  exact natural

theorem leadingPlace_reaches (finite : number.isFinite = true) (nonzero : number.isZero = false) :
    Reaches number (leadingPlace number) := by
  have positive := significand_pos nonzero
  obtain ⟨least, greatest⟩ := exponent_bounds finite
  have width : number.significand.log2 < 53 :=
    (Nat.log2_lt (by omega)).2 (significand_lt number)
  have guess : Reaches number
      (Int.fdiv (((number.significand.log2 : ℤ) + number.exponent) * 30103) 100000 - 1) := by
    refine (zpow_guess_le (by omega) (by omega)).trans ?_
    rw [zpow_add₀ (by norm_num), zpow_natCast]
    have leading : ((2 ^ number.significand.log2 : ℕ) : ℚ) ≤ number.significand :=
      Nat.cast_le.2 (Nat.log2_self_le (by omega))
    push_cast at leading
    exact mul_le_mul_of_nonneg_right leading (zpow_nonneg (by norm_num) _)
  unfold leadingPlace
  dsimp only
  split
  · rename_i reached
    exact (reaches_iff _ _).1 (of_decide_eq_true reached)
  · split
    · rename_i reached
      exact (reaches_iff _ _).1 (of_decide_eq_true reached)
    · exact guess

/-! ### The search -/

theorem scales_pos (number : Binary64) (place : ℤ) :
    0 < (scales number place).1 ∧ 0 < (scales number place).2 := by
  unfold scales
  constructor <;> exact Nat.mul_pos (Nat.pow_pos (by decide)) (Nat.pow_pos (by decide))

/-- On a grid that is not above the double, the neighbours of the double are not zero. -/
theorem pos_of_onGrid? {place : ℤ} (reaches : Reaches number place) {coefficient : ℕ}
    (found : onGrid? number place = some coefficient) : 0 < coefficient := by
  have below : 0 < centre number * (scales number place).2 / (scales number place).1 :=
    Nat.div_pos ((reaches_iff _ _).2 reaches) (scales_pos number place).1
  unfold onGrid? at found
  dsimp only at found
  split at found
  · cases found
  · cases found
    exact below
  · cases found
    omega
  · split at found <;> cases found
    · exact below
    · omega

/-- On a grid that is finer than a quarter of the last place, the neighbour below the double
is in the rounding interval. -/
theorem onGrid?_isSome {place : ℤ} (nonzero : number.isZero = false)
    (fine : (scales number place).1 ≤ (scales number place).2) :
    (onGrid? number place).isSome = true := by
  obtain ⟨decimalPos, quarterPos⟩ := scales_pos number place
  have positive := significand_pos nonzero
  have readsBelow : readsBack number place
      (centre number * (scales number place).2 / (scales number place).1) = true := by
    have atMost := Nat.div_mul_le_self (centre number * (scales number place).2)
      (scales number place).1
    have atLeast := Nat.lt_div_mul_add (a := centre number * (scales number place).2) decimalPos
    have lower : lowerEnd number + 1 ≤ centre number := by
      unfold lowerEnd centre
      split <;> omega
    have lowerScaled := Nat.mul_le_mul_right (scales number place).2 lower
    rw [Nat.succ_mul] at lowerScaled
    have upperScaled : upperEnd number * (scales number place).2 =
        centre number * (scales number place).2 + 2 * (scales number place).2 := Nat.add_mul ..
    unfold readsBack
    dsimp only
    split <;> simp only [Bool.and_eq_true, decide_eq_true_eq] <;> omega
  unfold onGrid?
  dsimp only
  rw [readsBelow]
  split
  · contradiction
  · rfl
  · contradiction
  · split <;> rfl

/-- Seventeen places behind the leading one, the grid is that fine. -/
theorem fine_of_reaches {leading : ℤ} (reaches : Reaches number leading) :
    (scales number (leading - 17)).1 ≤ (scales number (leading - 17)).2 := by
  have scaled := scaled_le_iff 1 1 (leading - 17) (number.exponent - 2)
  rw [one_mul, one_mul, Nat.cast_one, one_mul, one_mul] at scaled
  refine scaled.2 ?_
  have width : (number.significand : ℚ) ≤ 2 ^ 53 := by
    exact_mod_cast (significand_lt number).le
  have power : (0 : ℚ) < 2 ^ number.exponent := zpow_pos (by norm_num) _
  have bound : (10 : ℚ) ^ leading ≤ 2 ^ 53 * 2 ^ number.exponent :=
    reaches.trans (mul_le_mul_of_nonneg_right width power.le)
  rw [zpow_sub₀ (by norm_num), zpow_sub₀ (by norm_num), div_le_iff₀ (by norm_num)]
  norm_num
  linarith

theorem search_pos {leading : ℤ} (reaches : Reaches number leading) {fuel digits : ℕ}
    (hit : ∃ more < fuel, (onGrid? number (leading - (digits + more : ℕ))).isSome = true) :
    0 < (search number leading fuel digits).coefficient := by
  induction fuel generalizing digits with
  | zero =>
      obtain ⟨more, absurdity, _⟩ := hit
      omega
  | succ fuel inductionHypothesis =>
      rw [search]
      split
      · rename_i coefficient found
        exact pos_of_onGrid? (reaches.mono (by omega)) found
      · rename_i absent
        apply inductionHypothesis
        obtain ⟨more, bound, some⟩ := hit
        -- The first grid has no hit, so the one there is comes later.
        obtain ⟨less, rfl⟩ : ∃ less, more = less + 1 := by
          cases more with
          | zero =>
              rw [Nat.add_zero, absent] at some
              cases some
          | succ less => exact ⟨less, rfl⟩
        exact ⟨less, by omega, by rwa [Nat.add_right_comm]⟩

end Shortest

/-- The shortest decimal of a finite double is not zero. -/
theorem shortest_coefficient_pos (finite : number.isFinite = true)
    (nonzero : number.isZero = false) : 0 < number.shortest.coefficient := by
  have reaches := Shortest.leadingPlace_reaches finite nonzero
  apply Shortest.search_pos reaches
  exact ⟨17, by decide, Shortest.onGrid?_isSome nonzero (Shortest.fine_of_reaches reaches)⟩

end Binary64

end ResultCache
