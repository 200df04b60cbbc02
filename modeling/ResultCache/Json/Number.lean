import ResultCache.Json.Literal

/-!
Contract: the numeric value of a number literal.

Owns:
- `Number`, an integer of at most sixty-four bits or a double;
- the integer reading: a literal without point and exponent is an integer when
  it fits a signed or an unsigned 64-bit word, and minus zero is a double;
- the double reading: the leading digits that fit an unsigned 64-bit word are
  the significand, the digits dropped before the point raise the exponent, those
  after it are ignored, and the significand as a double is scaled by a power of
  ten as a double, 308 places at a time.

The double reading rounds the significand and each scaling on its own, so it can
miss the nearest double in the last place; a literal beyond the largest double
has no value, and one below the smallest is zero.
-/

namespace ResultCache

namespace Json

/-- The value of a number literal. -/
inductive Number where
  | integer (value : Int)
  | double (value : Binary64)
  deriving DecidableEq, Repr

namespace Number

def significandLimit : Nat := 0xffffffffffffffff

/-- The significand of as many digits as fit, after one read before, and the
digits that do not. -/
def significandOf (before : Nat) : List Digit → Nat × List Digit
  | [] => (before, [])
  | digit :: rest =>
    if before * 10 + digit.val ≤ significandLimit then
      significandOf (before * 10 + digit.val) rest
    else (before, digit :: rest)

def powerOfTen (places : Nat) : Binary64 := Binary64.ofNat (Nat.pow 10 places)

/-- A magnitude moved down by the places, at most 308 at a time. The fuel bounds
the steps; a magnitude that has become zero stays so. -/
def scaleDown : Nat → Binary64 → Nat → Binary64
  | 0, _, _ => Binary64.zero
  | fuel + 1, magnitude, places =>
    if places ≤ 308 then magnitude.divide (powerOfTen places)
    else if magnitude.isZero then magnitude
    else scaleDown fuel (magnitude.divide (powerOfTen 308)) (places - 308)

/-- The magnitude of a significand moved by the places: `none` past the largest double. -/
def scale? (significand : Nat) (places : Int) : Option Binary64 :=
  let magnitude := Binary64.ofNat significand
  if 0 ≤ places then
    if places ≤ 308 then
      let moved := magnitude.multiply (powerOfTen places.toNat)
      if moved.isFinite then some moved else none
    else if magnitude.isZero then some magnitude
    else none
  else some (scaleDown 4 magnitude places.natAbs)

def exponentValue : Option (Bool × List Digit) → Int
  | none => 0
  | some (negative, digits) =>
    let size : Int := Digit.spell 0 digits
    if negative then -size else size

/-- The value of an integer literal whose digits fit the significand. -/
def ofSignificand (negative : Bool) (significand : Nat) : Number :=
  if negative then
    if significand = 0 || 0x8000000000000000 < significand then
      .double (Binary64.ofNat significand).negate
    else .integer (-significand)
  else .integer significand

def ofLiteral? (literal : NumberLiteral) : Option Number :=
  let (whole, surplus) := significandOf 0 literal.whole
  if surplus = [] ∧ literal.fraction = [] ∧ literal.exponent = none then
    some (ofSignificand literal.negative whole)
  else
    let (significand, unread) := significandOf whole literal.fraction
    let places : Int :=
      surplus.length - (literal.fraction.length - unread.length : Nat) + exponentValue literal.exponent
    (scale? significand places).map fun magnitude => .double (Binary64.withSign literal.negative magnitude)

end Number

end Json

end ResultCache
