/-!
Contract: the characters of YAML text.

Owns:
- which characters a text may hold, and the one form of its line breaks;
- blanks, breaks, and the markers that stand between documents;
- `Mark`, a place in a text.
-/

namespace ResultCache

namespace Yaml

/-- Whether a character may stand in a text at all. -/
def isPrintable (scalar : Char) : Bool :=
  let code := scalar.toNat
  code = 0x09 || code = 0x0A || code = 0x0D || (0x20 ≤ code && code ≤ 0x7E) || code = 0x85 ||
    (0xA0 ≤ code && code ≤ 0xD7FF) || (0xE000 ≤ code && code ≤ 0xFFFD && code ≠ 0xFEFF) ||
    0x10000 ≤ code

/-- The characters with every break of one line but the two separators of Unicode
written as a line feed. -/
def unifyBreaks : List Char → List Char
  | [] => []
  | '\r' :: '\n' :: rest => '\n' :: unifyBreaks rest
  | '\r' :: rest => '\n' :: unifyBreaks rest
  | '\x85' :: rest => '\n' :: unifyBreaks rest
  | scalar :: rest => scalar :: unifyBreaks rest

/-- The characters of a text, without a byte order mark in front, when all of them
may stand in it. -/
def characters? (text : String) : Option (List Char) :=
  let chars :=
    match text.toList with
    | '\uFEFF' :: rest => rest
    | chars => chars
  if chars.all isPrintable then some (unifyBreaks chars) else none

def isBlank (scalar : Char) : Bool := scalar = ' ' || scalar = '\t'

def isBreak (scalar : Char) : Bool := scalar = '\n' || scalar = '\u2028' || scalar = '\u2029'

/-- Whether a text is at a blank, at a break or at its end. -/
def atGap : List Char → Bool
  | [] => true
  | scalar :: _ => isBlank scalar || isBreak scalar

/-- Whether a text is at a break or at its end. -/
def atLineEnd : List Char → Bool
  | [] => true
  | scalar :: _ => isBreak scalar

/-- Characters that have a meaning of their own inside flow collections. -/
def isFlowIndicator (scalar : Char) : Bool :=
  [',', '[', ']', '\x7b', '\x7d'].contains scalar

/-- Whether a text is at the marker that starts a document. -/
def atDocumentStart : List Char → Bool
  | '-' :: '-' :: '-' :: rest => atGap rest
  | _ => false

/-- Whether a text is at the marker that ends a document. -/
def atDocumentEnd : List Char → Bool
  | '.' :: '.' :: '.' :: rest => atGap rest
  | _ => false

/-- A place in a text. -/
structure Mark where
  index : Nat
  line : Nat
  column : Nat
  deriving DecidableEq, Repr

namespace Mark

def start : Mark := ⟨0, 0, 0⟩

def after (mark : Mark) (scalar : Char) : Mark :=
  if isBreak scalar then ⟨mark.index + 1, mark.line + 1, 0⟩
  else ⟨mark.index + 1, mark.line, mark.column + 1⟩

def afterAll (mark : Mark) (chars : List Char) : Mark := chars.foldl after mark

end Mark

def atMarker (mark : Mark) (chars : List Char) : Bool :=
  mark.column = 0 && (atDocumentStart chars || atDocumentEnd chars)

end Yaml

end ResultCache
