import ResultCache.Binary64.Basic

/-!
Contract: the shortest decimal that reads back as a given double.

Owns:
- the interval of reals that round to a finite positive double;
- the search for the fewest digits with a decimal in that interval, the nearer
  of two such decimals, and the even one of two equally near.

Does not own: how the digits are laid out as text.
-/

namespace ResultCache

namespace Binary64

/-- A positive decimal: its coefficient times ten to the power `exponent`. -/
structure Decimal where
  coefficient : Nat
  exponent : Int
  deriving DecidableEq, Repr

namespace Shortest

/-- Four times the significand: the scale on which the ends of the rounding
interval are whole. -/
def centre (number : Binary64) : Nat := 4 * number.significand

/-- The lower end of the rounding interval, on the scale of `centre`. Below a
power of two the neighbour is only half as far away. -/
def lowerEnd (number : Binary64) : Nat :=
  if number.fraction = 0 && 1 < number.exponentField then centre number - 1 else centre number - 2

/-- The upper end of the rounding interval, on the scale of `centre`. -/
def upperEnd (number : Binary64) : Nat := centre number + 2

/-- Multipliers that make `coefficient * 10 ^ place` and `quarter * 2 ^ (exponent - 2)`
comparable as natural numbers: the first for the decimal, the second for the
quarter steps. -/
def scales (number : Binary64) (place : Int) : Nat × Nat :=
  let twos := number.exponent - 2
  (Nat.pow 10 place.toNat * Nat.pow 2 (-twos).toNat,
    Nat.pow 2 twos.toNat * Nat.pow 10 (-place).toNat)

/-- Whether the decimal `coefficient * 10 ^ place` rounds to the number: it lies
inside the interval, ends included for an even significand. -/
def readsBack (number : Binary64) (place : Int) (coefficient : Nat) : Bool :=
  let (decimalScale, quarterScale) := scales number place
  let scaled := coefficient * decimalScale
  if number.significand % 2 = 0 then
    lowerEnd number * quarterScale ≤ scaled && scaled ≤ upperEnd number * quarterScale
  else
    lowerEnd number * quarterScale < scaled && scaled < upperEnd number * quarterScale

/-- The decimal exponent of the leading digit, found from the binary magnitude. -/
def leadingPlace (number : Binary64) : Int :=
  let guess := Int.fdiv (((number.significand.log2 : Int) + number.exponent) * 30103) 100000 - 1
  let reaches (place : Int) : Bool :=
    let (decimalScale, quarterScale) := scales number place
    decimalScale ≤ centre number * quarterScale
  if reaches (guess + 2) then guess + 2 else if reaches (guess + 1) then guess + 1 else guess

/-- The decimal that reads back on one grid: of the two neighbours of the number,
the one inside the interval, the nearer of both, the even one of a tie. -/
def onGrid? (number : Binary64) (place : Int) : Option Nat :=
  let (decimalScale, quarterScale) := scales number place
  let exact := centre number * quarterScale
  let below := exact / decimalScale
  let above := below + 1
  match readsBack number place below, readsBack number place above with
  | false, false => none
  | true, false => some below
  | false, true => some above
  | true, true =>
    let under := exact - below * decimalScale
    let excess := above * decimalScale - exact
    if under < excess || (under = excess && below % 2 = 0) then some below else some above

/-- The first grid with a hit, of those with at least `digits` and at most
`digits + fuel` digits. -/
def search (number : Binary64) (leading : Int) : Nat → Nat → Decimal
  | 0, digits => ⟨0, leading - digits⟩
  | fuel + 1, digits =>
    match onGrid? number (leading - digits) with
    | some coefficient => ⟨coefficient, leading - digits⟩
    | none => search number leading fuel (digits + 1)

end Shortest

/-- The shortest decimal that reads back as a finite positive number. -/
def shortest (number : Binary64) : Decimal :=
  Shortest.search number (Shortest.leadingPlace number) 18 0

end Binary64

end ResultCache
