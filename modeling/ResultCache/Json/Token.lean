import ResultCache.Json.Literal

/-!
Contract: the tokens of JSON text.

Owns:
- `Token`, with literals kept as they are spelled;
- `Token.read?`, the next token of a symbol sequence and the symbols behind it;
- `Token.scan?`, all tokens of a text with blanks left out;
- `Token.chars`, the characters of a token.

Blanks are the space, the tab, the line feed and the carriage return. A stray
octet is refused everywhere except inside a string, where it becomes a piece
that stands for no text.
-/

namespace ResultCache

namespace Json

/-- A token of JSON text. -/
inductive Token where
  | openArray
  | closeArray
  | openObject
  | closeObject
  | comma
  | colon
  | null
  | bool (value : Bool)
  | number (literal : NumberLiteral)
  | string (pieces : List StringPiece)
  deriving DecidableEq, Repr

namespace Token

def isBlank (scalar : Char) : Bool :=
  scalar = ' ' || scalar = '\t' || scalar = '\n' || scalar = '\r'

/-- The digits at the front, after those already found, and the symbols behind. -/
def takeDigits (found : List Digit) : List Symbol → List Digit × List Symbol
  | some scalar :: rest =>
    match Digit.ofChar? scalar with
    | some digit => takeDigits (digit :: found) rest
    | none => (found.reverse, some scalar :: rest)
  | rest => (found.reverse, rest)

/-- The fraction at the front: a point and at least one digit, or nothing. -/
def takeFraction? : List Symbol → Option (List Digit × List Symbol)
  | some '.' :: rest =>
    match takeDigits [] rest with
    | ([], _) => none
    | found => some found
  | rest => some ([], rest)

def takeExponentDigits? (negative : Bool) (rest : List Symbol) :
    Option (Option (Bool × List Digit) × List Symbol) :=
  match takeDigits [] rest with
  | ([], _) => none
  | (digits, behind) => some (some (negative, digits), behind)

/-- The exponent at the front, or nothing. -/
def takeExponent? : List Symbol → Option (Option (Bool × List Digit) × List Symbol)
  | some 'e' :: some '-' :: rest => takeExponentDigits? true rest
  | some 'E' :: some '-' :: rest => takeExponentDigits? true rest
  | some 'e' :: some '+' :: rest => takeExponentDigits? false rest
  | some 'E' :: some '+' :: rest => takeExponentDigits? false rest
  | some 'e' :: rest => takeExponentDigits? false rest
  | some 'E' :: rest => takeExponentDigits? false rest
  | rest => some (none, rest)

/-- The number behind its sign: digits without a leading zero, then fraction and
exponent. -/
def readUnsigned? (negative : Bool) (symbols : List Symbol) :
    Option (NumberLiteral × List Symbol) :=
  match takeDigits [] symbols with
  | ([], _) => none
  | (0 :: _ :: _, _) => none
  | (whole, rest) =>
    match takeFraction? rest with
    | none => none
    | some (fraction, rest) =>
      match takeExponent? rest with
      | none => none
      | some (exponent, rest) => some (⟨negative, whole, fraction, exponent⟩, rest)

def readNumber? : List Symbol → Option (NumberLiteral × List Symbol)
  | some '-' :: rest => readUnsigned? true rest
  | symbols => readUnsigned? false symbols

def hexValue? (scalar : Char) : Option Nat :=
  let code := scalar.toNat
  if 48 ≤ code && code < 58 then some (code - 48)
  else if 97 ≤ code && code < 103 then some (code - 87)
  else if 65 ≤ code && code < 71 then some (code - 55)
  else none

def codeUnit? : Symbol → Symbol → Symbol → Symbol → Option Nat
  | some first, some second, some third, some fourth => do
    let high ← hexValue? first
    let upper ← hexValue? second
    let lower ← hexValue? third
    let low ← hexValue? fourth
    some (high * 4096 + upper * 256 + lower * 16 + low)
  | _, _, _, _ => none

/-- The pieces of a string up to its closing quote, after those already found,
and the symbols behind the quote. -/
def readString? (found : List StringPiece) :
    List Symbol → Option (List StringPiece × List Symbol)
  | [] => none
  | none :: rest => readString? (.stray :: found) rest
  | some '"' :: rest => some (found.reverse, rest)
  | some '\\' :: some 'u' :: first :: second :: third :: fourth :: rest =>
    match codeUnit? first second third fourth with
    | some codeUnit => readString? (.code codeUnit :: found) rest
    | none => none
  | some '\\' :: some letter :: rest =>
    match StringPiece.ofLetter? letter with
    | some scalar => readString? (.short scalar :: found) rest
    | none => none
  | some '\\' :: _ => none
  | some scalar :: rest =>
    if scalar.toNat < 0x20 then none else readString? (.plain scalar :: found) rest

/-- The token at the front of symbols that start with no blank. -/
def read? : List Symbol → Option (Token × List Symbol)
  | some '[' :: rest => some (.openArray, rest)
  | some ']' :: rest => some (.closeArray, rest)
  | some '\x7b' :: rest => some (.openObject, rest)
  | some '\x7d' :: rest => some (.closeObject, rest)
  | some ',' :: rest => some (.comma, rest)
  | some ':' :: rest => some (.colon, rest)
  | some '"' :: rest => (readString? [] rest).map fun (pieces, behind) => (.string pieces, behind)
  | some 'n' :: some 'u' :: some 'l' :: some 'l' :: rest => some (.null, rest)
  | some 't' :: some 'r' :: some 'u' :: some 'e' :: rest => some (.bool true, rest)
  | some 'f' :: some 'a' :: some 'l' :: some 's' :: some 'e' :: rest => some (.bool false, rest)
  | symbols => (readNumber? symbols).map fun (literal, behind) => (.number literal, behind)

/-- The tokens of symbols, after those already found. The fuel bounds the symbols left. -/
def scanOnto : Nat → List Token → List Symbol → Option (List Token)
  | _, found, [] => some found.reverse
  | 0, _, _ :: _ => none
  | fuel + 1, found, symbol :: rest =>
    if symbol.any isBlank then scanOnto fuel found rest
    else
      match read? (symbol :: rest) with
      | some (token, behind) => scanOnto fuel (token :: found) behind
      | none => none

def scan? (symbols : List Symbol) : Option (List Token) := scanOnto symbols.length [] symbols

def chars : Token → List Char
  | .openArray => ['[']
  | .closeArray => [']']
  | .openObject => ['\x7b']
  | .closeObject => ['\x7d']
  | .comma => [',']
  | .colon => [':']
  | .null => ['n', 'u', 'l', 'l']
  | .bool true => ['t', 'r', 'u', 'e']
  | .bool false => ['f', 'a', 'l', 's', 'e']
  | .number literal => literal.chars
  | .string pieces => '"' :: (pieces.flatMap StringPiece.chars ++ ['"'])

end Token

end Json

end ResultCache
