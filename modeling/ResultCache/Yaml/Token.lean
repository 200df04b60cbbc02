import ResultCache.Yaml.Scalar

/-!
Contract: the tokens of YAML text.

Owns:
- `Token`, with tokens for where blocks start and end, which the text marks by
  indentation alone;
- `Scanner`, a place in a text with the open blocks, the open flow collections and
  what might still turn out to be a key;
- the tokens of a text.

A scalar is known to be a key only when the colon behind it is met. The token that
announces it is then put in front of it, among tokens that are there already.
-/

namespace ResultCache

namespace Yaml

/-- How a scalar is written. -/
inductive Style where
  | plain
  | quoted
  | literal
  | folded
  deriving DecidableEq, Repr

/-- A token. -/
inductive Token where
  | version (major minor : Nat)
  | tagDirective (handle base : String)
  | documentStart
  | documentEnd
  | blockSequenceStart
  | blockMappingStart
  | blockEnd
  | flowSequenceStart
  | flowSequenceEnd
  | flowMappingStart
  | flowMappingEnd
  | blockEntry
  | flowEntry
  | key
  | value
  | alias (name : String)
  | anchor (name : String)
  | tag (handle ending : String)
  | scalar (style : Style) (text : String)
  deriving DecidableEq, Repr

/-- What might turn out to be a key. -/
structure KeyCandidate where
  mark : Mark
  /-- The number of tokens in front of it. -/
  position : Nat
  /-- Whether the block around it leaves it nothing else to be. -/
  required : Bool
  deriving DecidableEq, Repr

/-- A place in a text. -/
structure Scanner where
  mark : Mark
  rest : List Char
  tokens : Array Token
  /-- The column of the innermost open block, and -1 outside of all. -/
  indent : Int
  /-- The columns of the blocks around it. -/
  outer : List Int
  /-- Whether a key may start here. -/
  keyAllowed : Bool
  /-- What might be a key outside of flow collections. -/
  candidate : Option KeyCandidate
  /-- What might be a key, for every open flow collection, the innermost first. -/
  flows : List (Option KeyCandidate)

namespace Scanner

def start (chars : List Char) : Scanner := ⟨.start, chars, #[], -1, [], true, none, []⟩

def inFlow (scanner : Scanner) : Bool := !scanner.flows.isEmpty

def push (scanner : Scanner) (token : Token) : Scanner :=
  { scanner with tokens := scanner.tokens.push token }

def skip (scanner : Scanner) : Scanner :=
  match scanner.rest with
  | [] => scanner
  | scalar :: rest => { scanner with mark := scanner.mark.after scalar, rest }

def skipMany (scanner : Scanner) (count : Nat) : Scanner :=
  { scanner with
    mark := scanner.mark.afterAll (scanner.rest.take count)
    rest := scanner.rest.drop count }

/-! ### Candidates for keys -/

def currentCandidate (scanner : Scanner) : Option KeyCandidate :=
  match scanner.flows with
  | [] => scanner.candidate
  | candidate :: _ => candidate

def setCandidate (scanner : Scanner) (candidate : Option KeyCandidate) : Scanner :=
  match scanner.flows with
  | [] => { scanner with candidate }
  | _ :: flows => { scanner with flows := candidate :: flows }

/-- Gives up the current candidate, which is refused when it is required. -/
def dropCandidate? (scanner : Scanner) : Option Scanner :=
  if scanner.currentCandidate.any KeyCandidate.required then none
  else some (scanner.setCandidate none)

def noteCandidate? (scanner : Scanner) : Option Scanner :=
  if scanner.keyAllowed then do
    let required := !scanner.inFlow && scanner.indent = (scanner.mark.column : Int)
    let dropped ← scanner.dropCandidate?
    return dropped.setCandidate (some ⟨scanner.mark, scanner.tokens.size, required⟩)
  else some scanner

/-- The greatest distance between the start of a key and its colon. -/
def longestKey : Nat := 1024

/-- Whether a candidate is on this line and near enough. -/
def inReach (mark : Mark) (candidate : KeyCandidate) : Bool :=
  candidate.mark.line = mark.line && mark.index ≤ candidate.mark.index + longestKey

/-- A candidate when it is still in reach; a required one has to be. -/
def keepCandidate? (mark : Mark) : Option KeyCandidate → Option (Option KeyCandidate)
  | none => some none
  | some candidate =>
    if inReach mark candidate then some (some candidate)
    else if candidate.required then none
    else some none

def dropStale? (scanner : Scanner) : Option Scanner := do
  let candidate ← keepCandidate? scanner.mark scanner.candidate
  let flows ← scanner.flows.mapM (keepCandidate? scanner.mark)
  return { scanner with candidate, flows }

/-! ### Indentation -/

/-- Opens a block at a column deeper than the innermost one, with its token at a
position among the tokens. -/
def openBlock (scanner : Scanner) (column position : Nat) (token : Token) : Scanner :=
  if !scanner.inFlow && scanner.indent < (column : Int) then
    { scanner with
      outer := scanner.indent :: scanner.outer
      indent := column
      tokens := scanner.tokens.insertIdxIfInBounds position token }
  else scanner

/-- Closes the blocks deeper than a column, given the columns around the innermost. -/
def closeBlocks (column : Int) (scanner : Scanner) : List Int → Scanner
  | [] => scanner
  | around :: outer =>
    if column < scanner.indent then
      closeBlocks column
        { scanner with indent := around, outer, tokens := scanner.tokens.push .blockEnd } outer
    else scanner

/-- Closes the blocks deeper than a column; flow collections ignore indentation. -/
def unroll (scanner : Scanner) (column : Int) : Scanner :=
  if scanner.inFlow then scanner else closeBlocks column scanner scanner.outer

/-! ### Between tokens -/

/-- Where a scanner for the next token is in a line. -/
def skipGapFrom (inFlow : Bool) (keyAllowed comment : Bool) (mark : Mark) :
    List Char → Bool × Mark × List Char
  | [] => (keyAllowed, mark, [])
  | scalar :: rest =>
    if isBreak scalar then
      skipGapFrom inFlow (keyAllowed || !inFlow) false (mark.after scalar) rest
    else if comment || scalar = ' ' || ((inFlow || !keyAllowed) && scalar = '\t') then
      skipGapFrom inFlow keyAllowed comment (mark.after scalar) rest
    else if scalar = '#' then skipGapFrom inFlow keyAllowed true (mark.after scalar) rest
    else (keyAllowed, mark, scalar :: rest)

/-- Passes over blanks, comments and breaks. A tab may not stand where a key may. -/
def skipGap (scanner : Scanner) : Scanner :=
  let (keyAllowed, mark, rest) :=
    skipGapFrom scanner.inFlow scanner.keyAllowed false scanner.mark scanner.rest
  { scanner with keyAllowed, mark, rest }

/-! ### Tokens -/

def outside? (scanner : Scanner) : Option Scanner := do
  let scanner ← (scanner.unroll (-1)).dropCandidate?
  return { scanner with keyAllowed := false }

def marker? (scanner : Scanner) (token : Token) : Option Scanner := do
  let scanner ← scanner.outside?
  return (scanner.skipMany 3).push token

def openFlow? (scanner : Scanner) (token : Token) : Option Scanner := do
  let scanner ← scanner.noteCandidate?
  return { scanner.skip with
    tokens := scanner.tokens.push token, keyAllowed := true, flows := none :: scanner.flows }

def closeFlow? (scanner : Scanner) (token : Token) : Option Scanner := do
  let scanner ← scanner.dropCandidate?
  return { scanner.skip with
    tokens := scanner.tokens.push token, keyAllowed := false, flows := scanner.flows.tail }

def flowEntry? (scanner : Scanner) : Option Scanner := do
  let scanner ← scanner.dropCandidate?
  return { scanner.skip with tokens := scanner.tokens.push .flowEntry, keyAllowed := true }

/-- Opens a block here for an indicator that stands where a key might. -/
def openHere? (scanner : Scanner) (token : Token) : Option Scanner :=
  if scanner.inFlow then some scanner
  else if scanner.keyAllowed then
    some (scanner.openBlock scanner.mark.column scanner.tokens.size token)
  else none

def blockEntry? (scanner : Scanner) : Option Scanner := do
  let scanner ← scanner.openHere? .blockSequenceStart
  let scanner ← scanner.dropCandidate?
  return { scanner.skip with tokens := scanner.tokens.push .blockEntry, keyAllowed := true }

def key? (scanner : Scanner) : Option Scanner := do
  let scanner ← scanner.openHere? .blockMappingStart
  let scanner ← scanner.dropCandidate?
  return { scanner.skip with
    tokens := scanner.tokens.push .key, keyAllowed := !scanner.inFlow }

def value? (scanner : Scanner) : Option Scanner :=
  match scanner.currentCandidate with
  | some candidate =>
    let announced :=
      { scanner with tokens := scanner.tokens.insertIdxIfInBounds candidate.position .key }
    let opened := announced.openBlock candidate.mark.column candidate.position .blockMappingStart
    let settled := opened.setCandidate none
    some { settled.skip with tokens := settled.tokens.push .value, keyAllowed := false }
  | none => do
    let scanner ← scanner.openHere? .blockMappingStart
    return { scanner.skip with
      tokens := scanner.tokens.push .value, keyAllowed := !scanner.inFlow }

def isNameChar (scalar : Char) : Bool := scalar.isAlphanum || scalar = '_' || scalar = '-'

/-- Whether a name may end in front of some characters. -/
def endsName (chars : List Char) : Bool :=
  atGap chars || chars.head?.any fun scalar =>
    ['?', ':', ',', ']', '\x7d', '%', '@', '\x60'].contains scalar

def named? (scanner : Scanner) (make : String → Token) : Option Scanner := do
  let noted ← scanner.noteCandidate?
  let inside := noted.skip
  let name := inside.rest.takeWhile isNameChar
  let behind := inside.skipMany name.length
  if name.isEmpty || !endsName behind.rest then none
  else return { behind.push (make (String.ofList name)) with keyAllowed := false }

/-- Characters of tags; those that end flow entries only between angle brackets. -/
def isTagChar (bracketed : Bool) (scalar : Char) : Bool :=
  isNameChar scalar || [';', '/', '?', ':', '@', '&', '=', '+', '$', '.', '%', '!', '~', '*', '\'',
    '(', ')'].contains scalar || (bracketed && [',', '[', ']'].contains scalar)

/-- Whether a tag may end in front of some characters. -/
def endsTag (inFlow : Bool) (chars : List Char) : Bool :=
  atGap chars || (inFlow && chars.head? = some ',')

/-- The handle and the ending of a tag, and how many characters it has, read from
behind its exclamation mark. -/
def tagParts? (chars : List Char) : Option (String × String × Nat) :=
  match chars with
  | '<' :: rest =>
    let uri := rest.takeWhile (isTagChar true)
    match rest.drop uri.length with
    | '>' :: _ => if uri.isEmpty then none else some ("", String.ofList uri, uri.length + 2)
    | _ => none
  | _ =>
    let name := chars.takeWhile isNameChar
    match chars.drop name.length with
    | '!' :: rest =>
      let ending := rest.takeWhile (isTagChar false)
      if ending.isEmpty then none
      else
        some ("!" ++ String.ofList name ++ "!", String.ofList ending,
          name.length + 1 + ending.length)
    | _ =>
      let ending := chars.takeWhile (isTagChar false)
      if ending.isEmpty then some ("", "!", 0)
      else some ("!", String.ofList ending, ending.length)

def tag? (scanner : Scanner) : Option Scanner := do
  let noted ← scanner.noteCandidate?
  let inside := noted.skip
  let (handle, ending, length) ← tagParts? inside.rest
  let behind := inside.skipMany length
  if endsTag scanner.inFlow behind.rest then
    return { behind.push (.tag handle ending) with keyAllowed := false }
  else none

def behindScalar (scanner : Scanner) (style : Style) (read : ReadScalar) : Scanner :=
  { scanner with
    mark := read.mark
    rest := read.rest
    tokens := scanner.tokens.push (.scalar style read.text)
    keyAllowed := read.crossed }

def block? (scanner : Scanner) (style : Style) : Option Scanner := do
  let scanner ← scanner.dropCandidate?
  let inside := scanner.skip
  let read ← readBlock? (style = .literal) scanner.indent inside.mark inside.rest
  return scanner.behindScalar style read

def quoted? (scanner : Scanner) (single : Bool) : Option Scanner := do
  let scanner ← scanner.noteCandidate?
  let inside := scanner.skip
  let read ← readQuoted? single .plain [] .none inside.mark inside.rest
  return scanner.behindScalar .quoted read

def plain? (scanner : Scanner) : Option Scanner := do
  let scanner ← scanner.noteCandidate?
  let read ← readPlain? (scanner.indent + 1) scanner.inFlow [] .none scanner.mark scanner.rest
  return scanner.behindScalar .plain read

/-! ### Directives -/

/-- A number at the front, of at most nine digits. -/
def number? (chars : List Char) : Option (Nat × List Char) :=
  let digits := chars.takeWhile Char.isDigit
  if digits.isEmpty || 9 < digits.length then none
  else
    some (digits.foldl (fun number digit => number * 10 + (digit.toNat - '0'.toNat)) 0,
      chars.drop digits.length)

def version? (chars : List Char) : Option (Token × List Char) := do
  let (major, behind) ← number? (chars.dropWhile isBlank)
  match behind with
  | '.' :: rest => do
    let (minor, behind) ← number? rest
    return (.version major minor, behind)
  | _ => none

def handle? : List Char → Option (List Char × List Char)
  | '!' :: rest =>
    let name := rest.takeWhile isNameChar
    match rest.drop name.length with
    | '!' :: behind => some ('!' :: name ++ ['!'], behind)
    | behind => if name.isEmpty then some (['!'], behind) else none
  | _ => none

def tagDirective? (chars : List Char) : Option (Token × List Char) := do
  let (handle, behind) ← handle? (chars.dropWhile isBlank)
  match behind with
  | blank :: rest =>
    if isBlank blank then
      let rest := rest.dropWhile isBlank
      let base := rest.takeWhile (isTagChar true)
      if base.isEmpty then none
      else return (.tagDirective (String.ofList handle) (String.ofList base), rest.drop base.length)
    else none
  | [] => none

/-- A directive, with nothing but a comment behind it on its line. -/
def directive? (scanner : Scanner) : Option Scanner := do
  let scanner ← scanner.outside?
  let inside := scanner.skip
  let name := inside.rest.takeWhile isNameChar
  let behind := inside.rest.drop name.length
  if !behind.head?.any isBlank then none
  let (token, behind) ←
    if name = "YAML".toList then version? behind
    else if name = "TAG".toList then tagDirective? behind
    else none
  if !atGap behind then none
  let behind ← behindHeader? behind
  return (scanner.skipMany (scanner.rest.length - behind.length)).push token

/-! ### The whole text -/

/-- The next token at a character that is no blank and no break. -/
def fetch? (scanner : Scanner) (first : Char) (behind : List Char) : Option Scanner :=
  let atColumnZero := scanner.mark.column = 0
  if atColumnZero && first = '%' then scanner.directive?
  else if atColumnZero && atDocumentStart scanner.rest then scanner.marker? .documentStart
  else if atColumnZero && atDocumentEnd scanner.rest then scanner.marker? .documentEnd
  else if first = '[' then scanner.openFlow? .flowSequenceStart
  else if first = '\x7b' then scanner.openFlow? .flowMappingStart
  else if first = ']' then scanner.closeFlow? .flowSequenceEnd
  else if first = '\x7d' then scanner.closeFlow? .flowMappingEnd
  else if first = ',' then scanner.flowEntry?
  else if first = '-' && atGap behind then scanner.blockEntry?
  else if first = '?' && (scanner.inFlow || atGap behind) then scanner.key?
  else if first = ':' && (scanner.inFlow || atGap behind) then scanner.value?
  else if first = '*' then scanner.named? .alias
  else if first = '&' then scanner.named? .anchor
  else if first = '!' then scanner.tag?
  else if first = '|' && !scanner.inFlow then scanner.block? .literal
  else if first = '>' && !scanner.inFlow then scanner.block? .folded
  else if first = '\'' then scanner.quoted? true
  else if first = '"' then scanner.quoted? false
  else if isBlank first || ['#', '|', '>', '%', '@', '\x60'].contains first then none
  else scanner.plain?

/-- The scanner behind the last token, with every block closed. -/
def finish? (scanner : Scanner) : Option Scanner :=
  (scanner.unroll (-1)).dropCandidate?

/-- The scanner behind every token. The fuel bounds the tokens left to find. -/
def scan? : Nat → Scanner → Option Scanner
  | 0, _ => none
  | fuel + 1, scanner => do
    let scanner ← scanner.skipGap.dropStale?
    let scanner := scanner.unroll scanner.mark.column
    match scanner.rest with
    | [] => scanner.finish?
    | first :: behind => do
      let scanner ← scanner.fetch? first behind
      scan? fuel scanner

end Scanner

def tokens? (text : String) : Option (List Token) := do
  let chars ← characters? text
  let scanner ← Scanner.scan? (chars.length + 1) (.start chars)
  return scanner.tokens.toList

end Yaml

end ResultCache
