import ResultCache.Text
import ResultCache.Binary64.Shortest

/-!
Contract: the literals of JSON text, as they are written.

Owns:
- `Digit` and `NumberLiteral`, the parts of a number as spelled;
- `StringPiece`, one position of a string as spelled: a plain character, a short
  escape, a four-digit code unit, or an octet that is no text;
- the text that the pieces of a string stand for, which they have only when
  every surrogate is paired and no octet is stray;
- the spelling that a writer chooses for a text and for a number.

Does not own: the numeric value of a number literal, and the tokens around them.
-/

namespace ResultCache

namespace Json

abbrev Digit := Fin 10

namespace Digit

def ofChar? (scalar : Char) : Option Digit :=
  if bounds : 48 ≤ scalar.toNat ∧ scalar.toNat < 58 then some ⟨scalar.toNat - 48, by omega⟩ else none

def toChar (digit : Digit) : Char := Char.ofNat (48 + digit.val)

/-- Digits of a natural number from the last one on, for as many as the fuel. -/
def lastFirst : Nat → Nat → List Digit
  | 0, _ => []
  | fuel + 1, number =>
    ⟨number % 10, Nat.mod_lt _ (by decide)⟩ ::
      (if number / 10 = 0 then [] else lastFirst fuel (number / 10))

/-- The decimal digits of a natural number, without leading zeros. -/
def ofNat (number : Nat) : List Digit := (lastFirst (number + 1) number).reverse

/-- The number that digits spell, after a number spelled before them. -/
def spell (before : Nat) (digits : List Digit) : Nat :=
  digits.foldl (fun number digit => number * 10 + digit.val) before

end Digit

/-- A number as spelled. -/
structure NumberLiteral where
  /-- A minus sign is written. -/
  negative : Bool
  /-- The digits before the point. -/
  whole : List Digit
  /-- The digits after the point; none when no point is written. -/
  fraction : List Digit
  /-- The sign and the digits of the exponent, when one is written. -/
  exponent : Option (Bool × List Digit)
  deriving DecidableEq, Repr

namespace NumberLiteral

def ofInt (number : Int) : NumberLiteral :=
  ⟨number < 0, Digit.ofNat number.natAbs, [], none⟩

def trimZeros (digits : List Digit) : List Digit :=
  (digits.reverse.dropWhile fun digit => digit = 0).reverse

/-- The spelling of a positive decimal: positional while its leading digit
stands between the fifth place after the point and the sixteenth before it, and
then always with a fraction; scientific with a signed exponent otherwise. -/
def ofDecimal (negative : Bool) (decimal : Binary64.Decimal) : NumberLiteral :=
  let all := Digit.ofNat decimal.coefficient
  let place : Int := decimal.exponent + all.length - 1
  let digits := trimZeros all
  if place < -5 || 15 < place then
    ⟨negative, digits.take 1, digits.drop 1, some (place < 0, Digit.ofNat place.natAbs)⟩
  else if place < 0 then
    ⟨negative, [0], List.replicate (-place - 1).toNat 0 ++ digits, none⟩
  else
    let lead := place.toNat + 1
    let whole := digits.take lead ++ List.replicate (lead - digits.length) 0
    let fraction := if digits.length ≤ lead then [0] else digits.drop lead
    ⟨negative, whole, fraction, none⟩

/-- The spelling of a finite double: the shortest decimal that reads back. -/
def ofBinary64 (number : Binary64) : NumberLiteral :=
  if number.isZero then ⟨number.isNegative, [0], [0], none⟩
  else ofDecimal number.isNegative number.shortest

def chars (literal : NumberLiteral) : List Char :=
  (if literal.negative then ['-'] else []) ++
    literal.whole.map Digit.toChar ++
    (if literal.fraction = [] then [] else '.' :: literal.fraction.map Digit.toChar) ++
    (match literal.exponent with
      | none => []
      | some (negative, digits) =>
        'e' :: (if negative then '-' else '+') :: digits.map Digit.toChar)

end NumberLiteral

/-- One position of a string as spelled. -/
inductive StringPiece where
  /-- A character that stands for itself. -/
  | plain (scalar : Char)
  /-- A backslash and a letter, for the character given. -/
  | short (scalar : Char)
  /-- A backslash, the letter u and four hexadecimal digits, for a code unit. -/
  | code (codeUnit : Nat)
  /-- An octet that is part of no character. -/
  | stray
  deriving DecidableEq, Repr

namespace StringPiece

def letter? : Char → Option Char
  | '"' => some '"'
  | '\\' => some '\\'
  | '/' => some '/'
  | '\x08' => some 'b'
  | '\x0c' => some 'f'
  | '\n' => some 'n'
  | '\r' => some 'r'
  | '\t' => some 't'
  | _ => none

/-- The character that a short escape with this letter stands for. -/
def ofLetter? : Char → Option Char
  | '"' => some '"'
  | '\\' => some '\\'
  | '/' => some '/'
  | 'b' => some '\x08'
  | 'f' => some '\x0c'
  | 'n' => some '\n'
  | 'r' => some '\r'
  | 't' => some '\t'
  | _ => none

/-- The spelling a writer chooses for a character: short escapes for the quote,
the backslash and the five named control characters, a code unit for every other
control character, and the character itself otherwise. -/
def ofChar (scalar : Char) : StringPiece :=
  if scalar = '/' then .plain scalar
  else if (letter? scalar).isSome then .short scalar
  else if scalar.toNat < 0x20 then .code scalar.toNat
  else .plain scalar

def hexDigit (value : Nat) : Char :=
  if value < 10 then Char.ofNat (48 + value) else Char.ofNat (87 + value)

def chars : StringPiece → List Char
  | .plain scalar => [scalar]
  | .short scalar => ['\\', (letter? scalar).getD scalar]
  | .code codeUnit =>
    ['\\', 'u', hexDigit (codeUnit / 4096 % 16), hexDigit (codeUnit / 256 % 16),
      hexDigit (codeUnit / 16 % 16), hexDigit (codeUnit % 16)]
  | .stray => []

/-- The text of pieces, given the characters before them in reverse. A high
surrogate is read together with the low one behind it. -/
def textOnto : List Char → List StringPiece → Option (List Char)
  | done, [] => some done.reverse
  | done, .plain scalar :: rest => textOnto (scalar :: done) rest
  | done, .short scalar :: rest => textOnto (scalar :: done) rest
  | _, .stray :: _ => none
  | done, .code first :: rest =>
    if first < 0xD800 || 0xE000 ≤ first then textOnto (Char.ofNat first :: done) rest
    else if 0xDC00 ≤ first then none
    else
      match rest with
      | .code second :: behind =>
        if 0xDC00 ≤ second && second < 0xE000 then
          textOnto (Char.ofNat ((first - 0xD800) * 1024 + (second - 0xDC00) + 0x10000) :: done) behind
        else none
      | _ => none

/-- The text that the pieces of a string stand for. -/
def text? (pieces : List StringPiece) : Option String :=
  (textOnto [] pieces).map String.ofList

def ofText (text : String) : List StringPiece := text.toList.map ofChar

end StringPiece

end Json

end ResultCache
