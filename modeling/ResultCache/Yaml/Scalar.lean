import ResultCache.Yaml.Character

/-!
Contract: the three ways to write a scalar in YAML.

Owns:
- plain scalars, which end where the text around them goes on;
- quoted scalars, with their escapes;
- block scalars, literal and folded, with their chomping and their indentation;
- how lines of one scalar are folded together.

Every reader gives the text of the scalar, the place behind it, and the characters
behind it.
-/

namespace ResultCache

namespace Yaml

/-- A scalar that has been read. -/
structure ReadScalar where
  text : String
  mark : Mark
  rest : List Char
  /-- Whether the characters behind it are on a later line. -/
  crossed : Bool

/-- Blanks and breaks in the middle of a scalar. -/
structure Gap where
  /-- Blanks before any break, the latest first. -/
  blanks : List Char
  /-- Whether a line has ended. -/
  crossed : Bool
  /-- The break that ended it, unless it was escaped. -/
  first : Option Char
  /-- The breaks after it, the latest first. -/
  further : List Char

namespace Gap

def none : Gap := ⟨[], false, .none, []⟩

def escaped : Gap := ⟨[], true, .none, []⟩

def isNone (gap : Gap) : Bool := gap.blanks.isEmpty && !gap.crossed

/-- The gap with one more blank; blanks at the start of a line do not count. -/
def blank (gap : Gap) (scalar : Char) : Gap :=
  if gap.crossed then gap else { gap with blanks := scalar :: gap.blanks }

def lineEnd (gap : Gap) (scalar : Char) : Gap :=
  if gap.crossed then { gap with further := scalar :: gap.further }
  else ⟨[], true, some scalar, []⟩

/-- What a gap stands for: one break is a space, several lose the first. -/
def text (gap : Gap) : List Char :=
  match gap.crossed, gap.first with
  | false, _ => gap.blanks.reverse
  | true, .none => gap.further.reverse
  | true, some '\n' => if gap.further.isEmpty then [' '] else gap.further.reverse
  | true, some scalar => scalar :: gap.further.reverse

/-- Text read so far, the latest first, with a gap behind it. -/
def onto (gap : Gap) (done : List Char) : List Char := gap.text.reverse ++ done

end Gap

/-! ### Plain scalars -/

/-- Whether a plain scalar ends at a character that is no blank and no break. -/
def endsPlain (inFlow : Bool) (scalar : Char) (behind : List Char) : Bool :=
  (scalar = ':' && atGap behind) || (inFlow && isFlowIndicator scalar)

/-- Whether a colon stands where a plain scalar in a flow collection cannot have it. -/
def strayColon (inFlow : Bool) (scalar : Char) (behind : List Char) : Bool :=
  inFlow && scalar = ':' && behind.head?.any fun next => next = '?' || isFlowIndicator next

/-- A plain scalar. In a block its further lines have to be indented by `indent`. -/
def readPlain? (indent : Int) (inFlow : Bool) (done : List Char) (gap : Gap) (mark : Mark) :
    List Char → Option ReadScalar
  | [] => some ⟨String.ofList done.reverse, mark, [], gap.crossed⟩
  | scalar :: rest =>
    if isBlank scalar then
      if gap.crossed && (mark.column : Int) < indent && scalar = '\t' then none
      else readPlain? indent inFlow done (gap.blank scalar) (mark.after scalar) rest
    else if isBreak scalar then
      readPlain? indent inFlow done (gap.lineEnd scalar) (mark.after scalar) rest
    else if !gap.isNone && ((!inFlow && (mark.column : Int) < indent) ||
        atMarker mark (scalar :: rest) || scalar = '#') then
      some ⟨String.ofList done.reverse, mark, scalar :: rest, gap.crossed⟩
    else if strayColon inFlow scalar rest then none
    else if endsPlain inFlow scalar rest then
      some ⟨String.ofList done.reverse, mark, scalar :: rest, gap.crossed⟩
    else readPlain? indent inFlow (scalar :: gap.onto done) .none (mark.after scalar) rest

/-! ### Quoted scalars -/

/-- The character that an escape of one letter stands for. -/
def escapedChar? : Char → Option Char
  | '0' => some '\x00'
  | 'a' => some '\x07'
  | 'b' => some '\x08'
  | 't' => some '\t'
  | '\t' => some '\t'
  | 'n' => some '\n'
  | 'v' => some '\x0B'
  | 'f' => some '\x0C'
  | 'r' => some '\r'
  | 'e' => some '\x1B'
  | ' ' => some ' '
  | '"' => some '"'
  | '/' => some '/'
  | '\\' => some '\\'
  | 'N' => some '\x85'
  | '_' => some '\xA0'
  | 'L' => some '\u2028'
  | 'P' => some '\u2029'
  | _ => none

/-- The number of digits behind the letter of a numeric escape. -/
def escapeDigits? : Char → Option Nat
  | 'x' => some 2
  | 'u' => some 4
  | 'U' => some 8
  | _ => none

def hexDigit? (scalar : Char) : Option Nat :=
  if '0' ≤ scalar ∧ scalar ≤ '9' then some (scalar.toNat - '0'.toNat)
  else if 'a' ≤ scalar ∧ scalar ≤ 'f' then some (scalar.toNat - 'a'.toNat + 10)
  else if 'A' ≤ scalar ∧ scalar ≤ 'F' then some (scalar.toNat - 'A'.toNat + 10)
  else none

def charOfCode? (code : Nat) : Option Char :=
  if code.isValidChar then some (Char.ofNat code) else none

/-- Where a reader of quoted scalars is. -/
inductive Quoting where
  | plain
  /-- Behind the backslash of an escape. -/
  | escape
  /-- Inside a numeric escape: digits to come, and the value so far. -/
  | digits (left code : Nat)
  /-- Behind a quote of a single-quoted scalar, which ends it or is one of two. -/
  | quote

/-- A quoted scalar, read from behind its first quote. -/
def readQuoted? (single : Bool) (state : Quoting) (done : List Char) (gap : Gap) (mark : Mark) :
    List Char → Option ReadScalar
  | [] =>
    match state with
    | .quote => some ⟨String.ofList done.reverse, mark, [], false⟩
    | _ => none
  | scalar :: rest =>
    match state with
    | .quote =>
      if scalar = '\'' then
        readQuoted? single .plain ('\'' :: done) .none (mark.after scalar) rest
      else some ⟨String.ofList done.reverse, mark, scalar :: rest, false⟩
    | .escape =>
      if isBreak scalar then readQuoted? single .plain done .escaped (mark.after scalar) rest
      else
        match escapedChar? scalar, escapeDigits? scalar with
        | some meant, _ => readQuoted? single .plain (meant :: done) .none (mark.after scalar) rest
        | none, some left => readQuoted? single (.digits left 0) done .none (mark.after scalar) rest
        | none, none => none
    | .digits left code =>
      match hexDigit? scalar with
      | none => none
      | some digit =>
        let code := code * 16 + digit
        if left ≤ 1 then
          match charOfCode? code with
          | none => none
          | some meant => readQuoted? single .plain (meant :: done) .none (mark.after scalar) rest
        else readQuoted? single (.digits (left - 1) code) done .none (mark.after scalar) rest
    | .plain =>
      if isBlank scalar then
        readQuoted? single .plain done (gap.blank scalar) (mark.after scalar) rest
      else if isBreak scalar then
        readQuoted? single .plain done (gap.lineEnd scalar) (mark.after scalar) rest
      else if atMarker mark (scalar :: rest) then none
      else
        let done := gap.onto done
        if single then
          if scalar = '\'' then readQuoted? single .quote done .none (mark.after scalar) rest
          else readQuoted? single .plain (scalar :: done) .none (mark.after scalar) rest
        else if scalar = '"' then
          some ⟨String.ofList done.reverse, mark.after scalar, rest, false⟩
        else if scalar = '\\' then
          readQuoted? single .escape done .none (mark.after scalar) rest
        else readQuoted? single .plain (scalar :: done) .none (mark.after scalar) rest

/-! ### Block scalars -/

/-- What happens to the breaks at the end of a block scalar. -/
inductive Chomping where
  | clip
  | strip
  | keep
  deriving DecidableEq, Repr

def chomping? : Char → Option Chomping
  | '-' => some .strip
  | '+' => some .keep
  | _ => none

/-- The indentation that an indicator asks for; zero is refused. -/
def indentation? (scalar : Char) : Option (Option Nat) :=
  if '0' ≤ scalar ∧ scalar ≤ '9' then
    if scalar = '0' then some none else some (some (scalar.toNat - '0'.toNat))
  else none

/-- The indicators of a block scalar in either order, and the characters behind them. -/
def blockHeader? : List Char → Option (Chomping × Nat × List Char)
  | [] => some (.clip, 0, [])
  | first :: rest =>
    match chomping? first, indentation? first with
    | some chomping, _ =>
      match rest with
      | [] => some (chomping, 0, [])
      | second :: behind =>
        match indentation? second with
        | some none => none
        | some (some indentation) => some (chomping, indentation, behind)
        | none => some (chomping, 0, rest)
    | none, some none => none
    | none, some (some indentation) =>
      match rest with
      | [] => some (.clip, indentation, [])
      | second :: behind =>
        match chomping? second with
        | some chomping => some (chomping, indentation, behind)
        | none => some (.clip, indentation, rest)
    | none, none => some (.clip, 0, first :: rest)

/-- The rest of the line behind the indicators, which holds nothing but a comment. -/
def behindHeader? (chars : List Char) : Option (List Char) :=
  let behind := chars.dropWhile isBlank
  let behind :=
    match behind with
    | '#' :: _ => behind.dropWhile fun scalar => !isBreak scalar
    | _ => behind
  if atLineEnd behind then some behind else none

/-- Breaks between the lines of a block scalar, the latest first, with the deepest
indentation met, the place behind them and the characters behind them. An
indentation of zero is one that is not known yet. -/
def blockBreaks? (indent deepest : Nat) (breaks : List Char) (mark : Mark) :
    List Char → Option (List Char × Nat × Mark × List Char)
  | [] => some (breaks, max deepest mark.column, mark, [])
  | scalar :: rest =>
    let inside := indent = 0 || mark.column < indent
    if inside && scalar = ' ' then blockBreaks? indent deepest breaks (mark.after scalar) rest
    else if inside && scalar = '\t' then none
    else if isBreak scalar then
      blockBreaks? indent (max deepest mark.column) (scalar :: breaks) (mark.after scalar) rest
    else some (breaks, max deepest mark.column, mark, scalar :: rest)

/-- What stands between two lines of a block scalar. A single break between lines
that start with no blank is folded to a space. -/
def betweenLines (literal blankBefore blankAfter : Bool) (first : Option Char)
    (further : List Char) : List Char :=
  if !literal && first = some '\n' && !blankBefore && !blankAfter then
    if further.isEmpty then [' '] else further.reverse
  else first.toList ++ further.reverse

/-- The lines of a block scalar, and its end. The fuel bounds the lines left. -/
def blockLines? (literal : Bool) (chomping : Chomping) (indent : Nat) :
    Nat → (blankBefore : Bool) → (first : Option Char) → (further done : List Char) → Mark →
      List Char → Option ReadScalar
  | 0, _, _, _, _, _, _ => none
  | fuel + 1, blankBefore, first, further, done, mark, chars =>
    match chars with
    | scalar :: _ =>
      if mark.column = indent then
        let blankAfter := isBlank scalar
        let line := chars.takeWhile fun scalar => !isBreak scalar
        let behind := chars.dropWhile fun scalar => !isBreak scalar
        let between := betweenLines literal blankBefore blankAfter first further
        let done := line.reverse ++ (between.reverse ++ done)
        let mark := mark.afterAll line
        let (ended, mark, behind) :=
          match behind with
          | [] => (none, mark, [])
          | lineEnd :: rest => (some lineEnd, mark.after lineEnd, rest)
        match blockBreaks? indent 0 [] mark behind with
        | none => none
        | some (further, _, mark, behind) =>
          blockLines? literal chomping indent fuel blankAfter ended further done mark behind
      else finish done first further mark chars
    | [] => finish done first further mark []
where
  /-- The scalar with the breaks at its end chomped. -/
  finish (done : List Char) (first : Option Char) (further : List Char) (mark : Mark)
      (rest : List Char) : Option ReadScalar :=
    let tail :=
      match chomping with
      | .strip => []
      | .clip => first.toList
      | .keep => first.toList ++ further.reverse
    some ⟨String.ofList (done.reverse ++ tail), mark, rest, true⟩

/-- A block scalar, read from behind its first indicator. -/
def readBlock? (literal : Bool) (parentIndent : Int) (mark : Mark) (chars : List Char) :
    Option ReadScalar := do
  let (chomping, increment, behind) ← blockHeader? chars
  let behind ← behindHeader? behind
  let mark := mark.afterAll (chars.take (chars.length - behind.length))
  let (mark, behind) :=
    match behind with
    | [] => (mark, [])
    | lineEnd :: rest => (mark.after lineEnd, rest)
  let known := if increment = 0 then 0 else (max parentIndent 0).toNat + increment
  let (further, deepest, mark, behind) ← blockBreaks? known 0 [] mark behind
  let indent := if known = 0 then max (max deepest (parentIndent + 1).toNat) 1 else known
  blockLines? literal chomping indent (behind.length + 1) false none further [] mark behind

end Yaml

end ResultCache
