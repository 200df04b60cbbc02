import ResultCache.Fingerprint
import ResultCache.Proofs.Word

/-!
Contract: the arithmetic that folds components into a key, and the way back from a key.

Owns:
- `unmix`, the accumulator in front of a step, and that a step tells the accumulator before it
  and the component that it mixes in;
- `unmixAll`, the accumulator in front of a sequence: components behind a point, whatever they
  are, neither make nor hide a difference at that point;
- `accumulatorOf`, the accumulator of a key: the final avalanche tells every accumulator.

Two component sequences that differ in one window therefore have one key exactly when the
window leaves one accumulator behind.

Does not own: which fetches have which components.
-/

namespace ResultCache

namespace Fingerprint

/-! ### Steps -/

/-- The multiplicative inverse of the factor of a step. -/
def factorInverse : UInt64 := 0x2944ff5aec02945

theorem factor_mul_factorInverse : factor * factorInverse = 1 := by decide

/-- The accumulator in front of the step that mixed a component in. -/
def unmix (accumulator : UInt64) (component : Component) : UInt64 :=
  (accumulator ^^^ component) * factorInverse

theorem unmix_mix (accumulator : UInt64) (component : Component) :
    unmix (mix accumulator component) component = accumulator := by
  rw [unmix, mix, UInt64.xor_assoc, UInt64.xor_self, UInt64.xor_zero]
  exact Word.mul_mul_cancel factor_mul_factorInverse accumulator

theorem mix_unmix (accumulator : UInt64) (component : Component) :
    mix (unmix accumulator component) component = accumulator := by
  have unit : factorInverse * factor = 1 := by
    rw [UInt64.mul_comm, factor_mul_factorInverse]
  rw [mix, unmix, Word.mul_mul_cancel unit, UInt64.xor_assoc, UInt64.xor_self, UInt64.xor_zero]

theorem mix_bijective (component : Component) : Function.Bijective (mix · component) := by
  have back : Function.LeftInverse (unmix · component) (mix · component) :=
    fun accumulator => unmix_mix accumulator component
  have forth : Function.RightInverse (unmix · component) (mix · component) :=
    fun accumulator => mix_unmix accumulator component
  exact ⟨back.injective, forth.surjective⟩

theorem mix_right_inj {first second : Component} (accumulator : UInt64) :
    mix accumulator first = mix accumulator second ↔ first = second := by
  rw [mix, mix, UInt64.xor_right_inj]

/-! ### Sequences of steps -/

theorem mixAll_append (accumulator : UInt64) (first second : List Component) :
    mixAll accumulator (first ++ second) = mixAll (mixAll accumulator first) second :=
  List.foldl_append

/-- The accumulator in front of a sequence, from the one behind it. -/
def unmixAll (accumulator : UInt64) : List Component → UInt64
  | [] => accumulator
  | component :: components => unmix (unmixAll accumulator components) component

theorem unmixAll_mixAll (accumulator : UInt64) (components : List Component) :
    unmixAll (mixAll accumulator components) components = accumulator := by
  induction components generalizing accumulator with
  | nil => rfl
  | cons component components inductionHypothesis =>
      show unmix (unmixAll (mixAll (mix accumulator component) components) components)
        component = accumulator
      rw [inductionHypothesis, unmix_mix]

theorem mixAll_unmixAll (accumulator : UInt64) (components : List Component) :
    mixAll (unmixAll accumulator components) components = accumulator := by
  induction components with
  | nil => rfl
  | cons component components inductionHypothesis =>
      show mixAll (mix (unmix (unmixAll accumulator components) component) component)
        components = accumulator
      rw [mix_unmix, inductionHypothesis]

theorem mixAll_bijective (components : List Component) :
    Function.Bijective (mixAll · components) := by
  have back : Function.LeftInverse (unmixAll · components) (mixAll · components) :=
    fun accumulator => unmixAll_mixAll accumulator components
  have forth : Function.RightInverse (unmixAll · components) (mixAll · components) :=
    fun accumulator => mixAll_unmixAll accumulator components
  exact ⟨back.injective, forth.surjective⟩

/-- Mixing in one sequence more keeps accumulators apart. -/
theorem mixAll_left_inj (components : List Component) {first second : UInt64} :
    mixAll first components = mixAll second components ↔ first = second :=
  (mixAll_bijective components).injective.eq_iff

/-! ### The final avalanche -/

/-- The accumulator in front of an avalanche: its moves and multipliers undone, last one first. -/
def unavalanche (word : UInt64) : UInt64 :=
  let second := Word.xorShiftTwice 31 word
  let first := Word.xorShiftTwice 27 (second * 0x319642b2d24d8ec3)
  Word.xorShiftTwice 30 (first * 0x96de1b173f119089)

theorem avalanche_eq (accumulator : UInt64) :
    avalanche accumulator = Word.xorShift 31
      (Word.xorShift 27 (Word.xorShift 30 accumulator * 0xbf58476d1ce4e5b9) *
        0x94d049bb133111eb) :=
  rfl

theorem unavalanche_avalanche (accumulator : UInt64) :
    unavalanche (avalanche accumulator) = accumulator := by
  rw [unavalanche, avalanche_eq, Word.xorShiftTwice_xorShift (by decide),
    Word.mul_mul_cancel (by decide), Word.xorShiftTwice_xorShift (by decide),
    Word.mul_mul_cancel (by decide), Word.xorShiftTwice_xorShift (by decide)]

theorem avalanche_unavalanche (word : UInt64) : avalanche (unavalanche word) = word := by
  rw [avalanche_eq, unavalanche, Word.xorShift_xorShiftTwice (by decide),
    Word.mul_mul_cancel (by decide), Word.xorShift_xorShiftTwice (by decide),
    Word.mul_mul_cancel (by decide), Word.xorShift_xorShiftTwice (by decide)]

/-- The accumulator that a key was finished from. -/
def accumulatorOf (key : Key) : UInt64 := unavalanche key.toUInt64

theorem accumulatorOf_finish (accumulator : UInt64) :
    accumulatorOf (finish accumulator) = accumulator :=
  unavalanche_avalanche accumulator

theorem finish_accumulatorOf (key : Key) : finish (accumulatorOf key) = key := by
  rw [finish, accumulatorOf, avalanche_unavalanche]
  rfl

theorem finish_injective : Function.Injective finish :=
  Function.LeftInverse.injective accumulatorOf_finish

theorem finish_bijective : Function.Bijective finish :=
  ⟨finish_injective, Function.RightInverse.surjective finish_accumulatorOf⟩

/-! ### Keys -/

/-- Keys of sequences that end alike are the same exactly when the accumulators in front of the
end are. -/
theorem keyOf_append_eq_iff (before before' after : List Component) :
    keyOf (before ++ after) = keyOf (before' ++ after) ↔
      mixAll seed before = mixAll seed before' := by
  rw [keyOf, keyOf, finish_injective.eq_iff, mixAll_append, mixAll_append, mixAll_left_inj]

/-- Keys of sequences that differ in one window are the same exactly when the window leaves
the same accumulator behind. -/
theorem keyOf_eq_iff (before window window' after : List Component) :
    keyOf (before ++ (window ++ after)) = keyOf (before ++ (window' ++ after)) ↔
      mixAll (mixAll seed before) window = mixAll (mixAll seed before) window' := by
  rw [← List.append_assoc, ← List.append_assoc, keyOf_append_eq_iff, mixAll_append, mixAll_append]

end Fingerprint

end ResultCache
