import ResultCache.Codec.Record
import ResultCache.Payload

/-!
Contract: payloads as JSON documents.

Owns:
- the document of a value of each payload type: records as objects with their
  fields in declared order, bare alternatives as their names and others as
  one-member objects, integer keys as strings, absent values and the unit as
  null, and doubles that are not finite as null;
- the value of a document at a payload type: records also from arrays of exactly
  their fields, integers only from integer literals in range, doubles also from
  integers, integer keys only from plain integer literals;
- the one value without a document: a map that is not empty and whose keys are
  neither texts nor integers.
-/

namespace ResultCache

namespace Codec

namespace Json

open ResultCache.Json

/-! ### Writing -/

def ofInt (number : Int) : Document := .number (NumberLiteral.ofInt number)

def ofText (text : String) : Document := .string (StringPiece.ofText text)

def member (name : String) (document : Document) : List StringPiece × Document :=
  (StringPiece.ofText name, document)

def ofScore : Option Binary64 → Document
  | none => .null
  | some number => Value.documentOfBinary64 number

def ofRow (row : Row) : Document :=
  .object [member "id" (ofInt row.id.val), member "name" (ofText row.name),
    member "score" (ofScore row.score)]

def ofStatus : Status → Document
  | .idle => ofText "Idle"
  | .level value => .object [member "Level" (ofInt value.val)]
  | .pair value label => .object [member "Pair" (.array [ofInt value.val, ofText label])]
  | .box width height =>
    .object [member "Box" (.object [member "w" (ofInt width.val), member "h" (ofInt height.val)])]

/-- The name that a key is written as, when its type has one. -/
def nameOfIndex? : (index : IndexType) → index.Value → Option (List StringPiece)
  | .text, (text : String) => some (StringPiece.ofText text)
  | .integer, (number : Int64) => some ((NumberLiteral.ofInt number.toInt).chars.map .plain)
  | .integerPair, _ => none

/-- The document of a value, when it has one. -/
def encode? : (element : ElementType) → element.Value → Option Document
  | .unit, _ => some .null
  | .bool, (value : Bool) => some (.bool value)
  | .integer _, value => some (ofInt value.val)
  | .double, (value : Binary64) => some (Value.documentOfBinary64 value)
  | .char, (value : Char) => some (ofText (String.singleton value))
  | .text, (value : String) => some (ofText value)
  | .json, (value : ResultCache.Json.Value) => some value.toDocument
  | .row, (value : Row) => some (ofRow value)
  | .status, (value : Status) => some (ofStatus value)
  | .option _, none => some .null
  | .option item, some value => encode? item value
  | .list item, (values : List item.Value) => (values.mapM (encode? item)).map .array
  | .map index item, (map : SortedMap index.Value item.Value) =>
    (map.entries.mapM fun (entry : index.Value × item.Value) => do
      let name ← nameOfIndex? index entry.1
      let document ← encode? item entry.2
      return (name, document)).map .object

def encodeParallel? : (elements : List ElementType) → ParallelValue elements → Option (List Document)
  | [], _ => some []
  | element :: rest, (value, values) => do
    let document ← encode? element value
    let documents ← encodeParallel? rest values
    return document :: documents

/-- The document of a payload value, when it has one. -/
def encodePayload? : (type : PayloadType) → type.Value → Option Document
  | .single element, value => encode? element value
  | .parallel elements, values => (encodeParallel? elements values).map .array

/-! ### Reading -/

/-- The integer of a document, when it is one of the format. -/
def toInteger? (format : IntegerFormat) : Document → Option format.Value
  | .number literal =>
    match Number.ofLiteral? literal with
    | some (.integer number) => format.ofInt? number
    | _ => none
  | _ => none

/-- The double of a document: of a number, an integer included. -/
def toDouble? : Document → Option Binary64
  | .number literal =>
    match Number.ofLiteral? literal with
    | some (.integer number) => some (Binary64.ofInt number)
    | some (.double number) => some number
    | none => none
  | _ => none

def toText? : Document → Option String
  | .string pieces => StringPiece.text? pieces
  | _ => none

/-- An optional double: null is none. -/
def toScore? : Document → Option (Option Binary64)
  | .null => some none
  | document => (toDouble? document).map some

/-- The members of an object under the texts of their names. -/
def fieldsOf? (members : List (List StringPiece × Document)) : Option (List (String × Document)) :=
  members.mapM fun entry => (StringPiece.text? entry.1).map fun name => (name, entry.2)

/-- The row of a document. A score that is not given is none. -/
def toRow? : Document → Option Row
  | .object members => do
    let fields ← fieldsOf? members
    let id ← toInteger? .i64 (← Record.required? fields "id")
    let name ← toText? (← Record.required? fields "name")
    match ← Record.field? fields "score" with
    | none => return ⟨id, name, none⟩
    | some document => return ⟨id, name, ← toScore? document⟩
  | .array [id, name, score] => do
    return ⟨← toInteger? .i64 id, ← toText? name, ← toScore? score⟩
  | _ => none

def toBox? : Document → Option Status
  | .object members => do
    let fields ← fieldsOf? members
    let width ← toInteger? .u32 (← Record.required? fields "w")
    let height ← toInteger? .u32 (← Record.required? fields "h")
    return .box width height
  | .array [width, height] => do return .box (← toInteger? .u32 width) (← toInteger? .u32 height)
  | _ => none

/-- The alternative of a name, from the document of what it holds. -/
def toAlternative? (name : String) (document : Document) : Option Status :=
  if name = "Idle" then
    match document with
    | .null => some .idle
    | _ => none
  else if name = "Level" then (toInteger? .i64 document).map .level
  else if name = "Pair" then
    match document with
    | .array [value, label] => do return .pair (← toInteger? .i64 value) (← toText? label)
    | _ => none
  else if name = "Box" then toBox? document
  else none

def toStatus? : Document → Option Status
  | .string pieces => if StringPiece.text? pieces = some "Idle" then some .idle else none
  | .object [(name, document)] => do toAlternative? (← StringPiece.text? name) document
  | _ => none

def plainOf? : StringPiece → Option Char
  | .plain scalar => some scalar
  | _ => none

def integerOfName? (pieces : List StringPiece) : Option Int64 := do
  let chars ← pieces.mapM plainOf?
  let (literal, behind) ← Token.readNumber? (chars.map some)
  if behind.isEmpty then
    match Number.ofLiteral? literal with
    | some (.integer number) =>
      (IntegerFormat.i64.ofInt? number).map fun value => Int64.ofInt value.val
    | _ => none
  else none

def indexOfName? : (index : IndexType) → List StringPiece → Option index.Value
  | .text, pieces => StringPiece.text? pieces
  | .integer, pieces => integerOfName? pieces
  | .integerPair, _ => none

def decode? : (element : ElementType) → Document → Option element.Value
  | .unit, .null => some ()
  | .unit, _ => none
  | .bool, .bool value => some value
  | .bool, _ => none
  | .integer format, document => toInteger? format document
  | .double, document => toDouble? document
  | .char, document =>
    match (toText? document).map String.toList with
    | some [scalar] => some scalar
    | _ => none
  | .text, document => toText? document
  | .json, document => Value.ofDocument? document
  | .row, document => toRow? document
  | .status, document => toStatus? document
  | .option _, .null => some none
  | .option item, document => (decode? item document).map some
  | .list item, .array items => items.mapM (decode? item)
  | .list _, _ => none
  | .map index item, .object members =>
    (members.mapM fun (entry : List StringPiece × Document) => do
      let name ← indexOfName? index entry.1
      let value ← decode? item entry.2
      return (name, value)).map SortedMap.ofPairs
  | .map _ _, _ => none

/-- The values of exactly as many documents as there are parallel elements. -/
def decodeParallel? : (elements : List ElementType) → List Document → Option (ParallelValue elements)
  | [], [] => some ()
  | element :: rest, document :: documents => do
    let value ← decode? element document
    let values ← decodeParallel? rest documents
    return (value, values)
  | _, _ => none

def decodePayload? : (type : PayloadType) → Document → Option type.Value
  | .single element, document => decode? element document
  | .parallel elements, .array items => decodeParallel? elements items
  | .parallel _, _ => none

end Json

end Codec

end ResultCache
