/-!
Contract: double-precision numbers as their sixty-four bits.

Owns:
- `Binary64` and its fields: sign, significand and exponent;
- rounding of an exact quotient to the nearest double, ties to even;
- the few operations the library performs: conversion of integers, product,
  quotient, change of sign, widening of a single, and the comparison that takes
  both zeros as equal and a NaN as unequal to itself.

Does not own: decimal text. All arithmetic is exact on natural numbers; no
operation of the machine's floating-point unit is used.
-/

namespace ResultCache

/-- A double-precision number, given by its interchange bits. Equality of this
type is equality of bits. -/
structure Binary64 where
  bits : UInt64
  deriving DecidableEq, Repr

namespace Binary64

def fractionSpan : Nat := 0x10000000000000

def signSpan : Nat := 0x8000000000000000

def exponentField (number : Binary64) : Nat := number.bits.toNat / fractionSpan % 2048

def fraction (number : Binary64) : Nat := number.bits.toNat % fractionSpan

def isNegative (number : Binary64) : Bool := signSpan ≤ number.bits.toNat

def isFinite (number : Binary64) : Bool := number.exponentField < 2047

def isNaN (number : Binary64) : Bool := number.exponentField = 2047 && number.fraction ≠ 0

def isZero (number : Binary64) : Bool := number.exponentField = 0 && number.fraction = 0

/-- The integer significand of a finite number, hidden bit included. -/
def significand (number : Binary64) : Nat :=
  if number.exponentField = 0 then number.fraction else fractionSpan + number.fraction

/-- The exponent of the last significand bit: the magnitude of a finite number is
its significand times two to this power. -/
def exponent (number : Binary64) : Int := (max number.exponentField 1 : Nat) - 1075

def negate (number : Binary64) : Binary64 := ⟨number.bits ^^^ 0x8000000000000000⟩

/-- The number with the sign asked for, from its magnitude. -/
def withSign (negative : Bool) (magnitude : Binary64) : Binary64 :=
  if negative then magnitude.negate else magnitude

def zero : Binary64 := ⟨0⟩

def infinity : Binary64 := ⟨0x7ff0000000000000⟩

/-! ### Rounding -/

/-- The quotient rounded to the nearest integer, a half to the even neighbour. -/
def roundQuotient (numerator denominator : Nat) : Nat :=
  let whole := numerator / denominator
  let twice := 2 * (numerator % denominator)
  if denominator < twice || (twice = denominator && whole % 2 = 1) then whole + 1 else whole

/-- The quotient of `numerator` by `denominator` and two to the power `scale`,
as an exact pair. -/
def scaledQuotient (numerator denominator : Nat) (scale : Int) : Nat × Nat :=
  if 0 ≤ scale then (numerator, denominator * Nat.pow 2 scale.toNat)
  else (numerator * Nat.pow 2 (-scale).toNat, denominator)

/-- The power of two that the last significand bit of the nearest double to the
quotient stands for. -/
def lastPlace (numerator denominator : Nat) : Int :=
  let guess : Int := max ((numerator.log2 : Int) - denominator.log2 - 53) (-1074)
  let pair := scaledQuotient numerator denominator guess
  if 0x20000000000000 ≤ pair.1 / pair.2 then guess + 1 else guess

/-- The double with this significand and last place; too large ones are infinite. -/
def assemble (significand : Nat) (place : Int) : Binary64 :=
  if 971 < place then infinity
  else ⟨(((place + 1075).toNat * fractionSpan + significand) - fractionSpan).toUInt64⟩

def ofRatio (numerator denominator : Nat) : Binary64 :=
  if numerator = 0 || denominator = 0 then zero
  else
    let place := lastPlace numerator denominator
    let pair := scaledQuotient numerator denominator place
    assemble (roundQuotient pair.1 pair.2) place

/-- The double nearest to `significand` times two to the power `exponent`. -/
def ofScaled (significand : Nat) (exponent : Int) : Binary64 :=
  if 0 ≤ exponent then ofRatio (significand * Nat.pow 2 exponent.toNat) 1
  else ofRatio significand (Nat.pow 2 (-exponent).toNat)

def ofNat (number : Nat) : Binary64 := ofRatio number 1

def ofInt (number : Int) : Binary64 := withSign (number < 0) (ofNat number.natAbs)

def multiply (first second : Binary64) : Binary64 :=
  ofScaled (first.significand * second.significand) (first.exponent + second.exponent)

/-- The quotient of two finite magnitudes, the second of them not zero. -/
def divide (first second : Binary64) : Binary64 :=
  let scale := first.exponent - second.exponent
  if 0 ≤ scale then ofRatio (first.significand * Nat.pow 2 scale.toNat) second.significand
  else ofRatio first.significand (second.significand * Nat.pow 2 (-scale).toNat)

/-! ### Comparison and widening -/

/-- Numerical equality: both zeros are equal, a NaN equals nothing. -/
def equal (first second : Binary64) : Bool :=
  !first.isNaN && !second.isNaN && (first = second || (first.isZero && second.isZero))

/-- The double of a single-precision bit pattern. The value is kept, and a NaN
becomes a quiet NaN with the same payload. -/
def ofSingle (bits : UInt32) : Binary64 :=
  let negative := 0x80000000 ≤ bits.toNat
  let field : Nat := bits.toNat / 0x800000 % 256
  let stored : Nat := bits.toNat % 0x800000
  withSign negative <|
    if field = 255 then
      if stored = 0 then infinity
      else ⟨(0x7ff0000000000000 ||| (0x8000000000000 ||| (stored * 0x20000000).toUInt64))⟩
    else if field = 0 then ofScaled stored (-149)
    else ofScaled (0x800000 + stored) ((field : Int) - 150)

end Binary64

end ResultCache
