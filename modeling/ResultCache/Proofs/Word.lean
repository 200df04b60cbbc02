import Mathlib.Data.Nat.Bitwise

/-!
Contract: sixty-four bit words under multiplication, exclusive or and shifts.

Owns:
- the way back from a multiplier that has an inverse, and from the exclusive or of a word
  with its own copy moved down;
- `Word.Near`, words of one block, and that words whose exclusive or is small are;
- that near words keep their order and their distance under a multiplier, when the
  products are near as well.

Does not own: which multipliers and shifts a digest or a key uses.
-/

namespace ResultCache

namespace Word

variable {first second : UInt64}

/-! ### Multipliers -/

/-- A multiplier with an inverse is undone. -/
theorem mul_mul_cancel {multiplier inverse : UInt64} (unit : multiplier * inverse = 1)
    (word : UInt64) : word * multiplier * inverse = word := by
  rw [UInt64.mul_assoc, unit, UInt64.mul_one]

/-- A multiplier with an inverse is cancelled. -/
theorem mul_cancel {multiplier inverse : UInt64} (unit : multiplier * inverse = 1)
    (same : first * multiplier = second * multiplier) : first = second := by
  rw [← mul_mul_cancel unit first, same, mul_mul_cancel unit]

/-! ### Exclusive or -/

/-- Pairs with one exclusive or differ by one word. -/
theorem xor_exchange {left right left' right' : UInt64} :
    left ^^^ right = left' ^^^ right' ↔ left ^^^ left' = right ^^^ right' := by
  have regrouped : left ^^^ right ^^^ (left' ^^^ right') =
      left ^^^ left' ^^^ (right ^^^ right') := by
    ac_rfl
  rw [← UInt64.xor_eq_zero_iff, regrouped, UInt64.xor_eq_zero_iff]

/-- The exclusive or of a word with its own copy moved down. -/
def xorShift (places word : UInt64) : UInt64 := word ^^^ (word >>> places)

/-- The exclusive or of a word with both its copies, moved down once and twice. -/
def xorShiftTwice (places word : UInt64) : UInt64 :=
  word ^^^ (word >>> places) ^^^ (word >>> places >>> places)

/-- Three moves by a third of a word or more leave nothing. -/
theorem shiftRight_thrice {places : UInt64} (far : 64 ≤ 3 * (places.toNat % 64)) (word : UInt64) :
    word >>> places >>> places >>> places = 0 := by
  have vanishes : word.toNat < 2 ^ (places.toNat % 64 + (places.toNat % 64 + places.toNat % 64)) :=
    word.toNat_lt.trans_le (Nat.pow_le_pow_right (by decide) (by omega))
  apply UInt64.toNat_inj.1
  rw [UInt64.toNat_shiftRight, UInt64.toNat_shiftRight, UInt64.toNat_shiftRight,
    ← Nat.shiftRight_add, ← Nat.shiftRight_add, Nat.shiftRight_eq_div_pow]
  exact Nat.div_eq_of_lt vanishes

theorem xorShiftTwice_xorShift {places : UInt64} (far : 64 ≤ 3 * (places.toNat % 64))
    (word : UInt64) : xorShiftTwice places (xorShift places word) = word := by
  unfold xorShiftTwice xorShift
  simp only [UInt64.shiftRight_xor, shiftRight_thrice far]
  -- Each copy that is left meets itself.
  have paired (once twice : UInt64) : word ^^^ once ^^^ (once ^^^ twice) ^^^ (twice ^^^ 0) =
      word ^^^ (once ^^^ once) ^^^ (twice ^^^ twice) ^^^ 0 := by
    ac_rfl
  rw [paired, UInt64.xor_self, UInt64.xor_self, UInt64.xor_zero, UInt64.xor_zero, UInt64.xor_zero]

theorem xorShift_xorShiftTwice {places : UInt64} (far : 64 ≤ 3 * (places.toNat % 64))
    (word : UInt64) : xorShift places (xorShiftTwice places word) = word := by
  have commute : xorShift places (xorShiftTwice places word) =
      xorShiftTwice places (xorShift places word) := by
    unfold xorShiftTwice xorShift
    simp only [UInt64.shiftRight_xor]
    ac_rfl
  rw [commute, xorShiftTwice_xorShift far]

/-! ### Blocks -/

/-- Words that agree in all but so many of their lowest bits. -/
def Near (width : Nat) (first second : UInt64) : Prop :=
  first.toNat / 2 ^ width = second.toNat / 2 ^ width

/-- An exclusive or with one word keeps words near. -/
theorem near_xor_iff {width : Nat} (word : UInt64) :
    Near width (word ^^^ first) (word ^^^ second) ↔ Near width first second := by
  unfold Near
  rw [UInt64.toNat_xor, UInt64.toNat_xor, Nat.xor_div_two_pow, Nat.xor_div_two_pow,
    Nat.xor_right_inj]

theorem near_of_xor_lt {width : Nat} (small : (first ^^^ second).toNat < 2 ^ width) :
    Near width first second := by
  have apart : (first.toNat ^^^ second.toNat) / 2 ^ width = 0 := by
    rw [← UInt64.toNat_xor]
    exact Nat.div_eq_of_lt small
  rw [Nat.xor_div_two_pow] at apart
  exact Nat.xor_eq_zero_iff.1 apart

theorem Near.symm {width : Nat} (near : Near width first second) : Near width second first :=
  Eq.symm near

/-- Near words are less than a block apart. -/
theorem Near.lt_add {width : Nat} (near : Near width first second) :
    second.toNat < first.toNat + 2 ^ width := by
  have below := Nat.div_mul_le_self first.toNat (2 ^ width)
  have above := Nat.lt_mul_div_succ second.toNat (Nat.two_pow_pos width)
  rw [← near] at above
  rw [Nat.mul_add, Nat.mul_comm] at above
  omega

/-- A multiplier keeps the order of near words and stretches their distance, when the
products are near and a whole block stretched does not reach around. -/
theorem toNat_mul_of_near {multiplier : UInt64} {width room : Nat}
    (near : Near width first second) (nearProducts : Near room (first * multiplier) (second * multiplier))
    (fits : 2 ^ width * multiplier.toNat + 2 ^ room ≤ 2 ^ 64)
    (ordered : first.toNat ≤ second.toNat) :
    (second * multiplier).toNat =
      (first * multiplier).toNat + (second.toNat - first.toNat) * multiplier.toNat := by
  obtain ⟨gap, split⟩ := Nat.exists_eq_add_of_le ordered
  have short : gap < 2 ^ width := by
    have bound := near.lt_add
    omega
  have stretched : gap * multiplier.toNat ≤ 2 ^ width * multiplier.toNat :=
    Nat.mul_le_mul_right _ short.le
  have product : (second * multiplier).toNat =
      ((first * multiplier).toNat + gap * multiplier.toNat) % 2 ^ 64 := by
    rw [UInt64.toNat_mul, UInt64.toNat_mul, split, Nat.add_mul, Nat.mod_add_mod]
  -- Past the largest word the second product would be a block and more below the first.
  have back := nearProducts.symm.lt_add
  have word := (first * multiplier).toNat_lt
  rw [split, Nat.add_sub_cancel_left]
  omega

end Word

end ResultCache
