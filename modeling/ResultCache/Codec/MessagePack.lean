import ResultCache.Codec.MessagePackNode
import ResultCache.Codec.Record
import ResultCache.Payload

/-!
Contract: payloads as MessagePack.

Owns:
- the node of a value of each payload type: records as maps from field names,
  bare alternatives as their names and others as one-entry maps, absent values
  and the unit as nil, integers without a sign unless negative;
- the value of a node at a payload type: records also from arrays of exactly
  their fields, field and alternative names also as binary or as their number,
  texts also from binary, lists also from binary octet by octet, doubles also
  from singles and integers.

Octets behind the value are left alone.
-/

namespace ResultCache

namespace Codec

namespace MessagePack

open ResultCache.Json (Value Number)

/-! ### Writing -/

def ofInt (number : Int) : Node := if number < 0 then .signed number else .unsigned number.toNat

def ofText (text : String) : Node := .text (Text.toBytes text)

mutual

def ofJson : Value → Node
  | .null => .nil
  | .bool value => .bool value
  | .number (.integer value) => ofInt value
  | .number (.double value) => .double value
  | .string value => ofText value
  | .array items => .array (ofJsonItems items)
  | .object members => .map (ofJsonMembers members)

def ofJsonItems : List Value → List Node
  | [] => []
  | item :: items => ofJson item :: ofJsonItems items

def ofJsonMembers : List (String × Value) → List (Node × Node)
  | [] => []
  | (name, value) :: members => (ofText name, ofJson value) :: ofJsonMembers members

end

def ofScore : Option Binary64 → Node
  | none => .nil
  | some number => .double number

def ofRow (row : Row) : Node :=
  .map [(ofText "id", ofInt row.id.val), (ofText "name", ofText row.name),
    (ofText "score", ofScore row.score)]

def ofStatus : Status → Node
  | .idle => ofText "Idle"
  | .level value => .map [(ofText "Level", ofInt value.val)]
  | .pair value label => .map [(ofText "Pair", .array [ofInt value.val, ofText label])]
  | .box width height =>
    .map [(ofText "Box", .map [(ofText "w", ofInt width.val), (ofText "h", ofInt height.val)])]

def ofIndex : (index : IndexType) → index.Value → Node
  | .text, (text : String) => ofText text
  | .integer, (number : Int64) => ofInt number.toInt
  | .integerPair, ((first, second) : Int64 × Int64) => .array [ofInt first.toInt, ofInt second.toInt]

def encode : (element : ElementType) → element.Value → Node
  | .unit, _ => .nil
  | .bool, (value : Bool) => .bool value
  | .integer _, value => ofInt value.val
  | .double, (value : Binary64) => .double value
  | .char, (value : Char) => ofText (String.singleton value)
  | .text, (value : String) => ofText value
  | .json, (value : Value) => ofJson value
  | .row, (value : Row) => ofRow value
  | .status, (value : Status) => ofStatus value
  | .option _, none => .nil
  | .option item, some value => encode item value
  | .list item, (values : List item.Value) => .array (values.map (encode item))
  | .map index item, (map : SortedMap index.Value item.Value) =>
    .map (map.entries.map fun (entry : index.Value × item.Value) =>
      (ofIndex index entry.1, encode item entry.2))

def encodeParallel : (elements : List ElementType) → ParallelValue elements → List Node
  | [], _ => []
  | element :: rest, (value, values) => encode element value :: encodeParallel rest values

def encodePayload : (type : PayloadType) → type.Value → Node
  | .single element, value => encode element value
  | .parallel elements, values => .array (encodeParallel elements values)

/-! ### Reading -/

/-- The integer of a node, when it is one of the format. -/
def toInteger? (format : IntegerFormat) : Node → Option format.Value
  | .unsigned number => format.ofInt? number
  | .signed number => format.ofInt? number
  | _ => none

def toDouble? : Node → Option Binary64
  | .unsigned number => some (Binary64.ofNat number)
  | .signed number => some (Binary64.ofInt number)
  | .single bits => some (Binary64.ofSingle bits)
  | .double number => some number
  | _ => none

def toText? : Node → Option String
  | .text bytes => Text.ofBytes? bytes
  | .binary bytes => Text.ofBytes? bytes
  | _ => none

def toPlainText? : Node → Option String
  | .text bytes => Text.ofBytes? bytes
  | _ => none

/-- An optional double: nil is none. -/
def toScore? : Node → Option (Option Binary64)
  | .nil => some none
  | node => (toDouble? node).map some

/-- The name that a node stands for among those that are numbered: a name itself,
or a number. Numbers beyond the names stand for a name that nobody asks for. -/
def toName? (numbered : List String) : Node → Option String
  | .unsigned number => some (numbered.getD number "")
  | node => toText? node

/-- Entries of a map under the names of numbered fields. -/
def fieldsOf? (numbered : List String) (entries : List (Node × Node)) :
    Option (List (String × Node)) :=
  entries.mapM fun entry => (toName? numbered entry.1).map fun name => (name, entry.2)

/-- The row of a node. A score that is not given is none. -/
def toRow? : Node → Option Row
  | .map entries => do
    let fields ← fieldsOf? ["id", "name", "score"] entries
    let id ← toInteger? .i64 (← Record.required? fields "id")
    let name ← toText? (← Record.required? fields "name")
    match ← Record.field? fields "score" with
    | none => return ⟨id, name, none⟩
    | some node => return ⟨id, name, ← toScore? node⟩
  | .array [id, name, score] => do
    return ⟨← toInteger? .i64 id, ← toText? name, ← toScore? score⟩
  | _ => none

def toBox? : Node → Option Status
  | .map entries => do
    let fields ← fieldsOf? ["w", "h"] entries
    let width ← toInteger? .u32 (← Record.required? fields "w")
    let height ← toInteger? .u32 (← Record.required? fields "h")
    return .box width height
  | .array [width, height] => do return .box (← toInteger? .u32 width) (← toInteger? .u32 height)
  | _ => none

/-- The names of alternatives, as they are numbered. -/
def alternatives : List String := ["Idle", "Level", "Pair", "Box"]

/-- The alternative of a name, from the node of what it holds. -/
def toAlternative? (name : String) (node : Node) : Option Status :=
  if name = "Idle" then
    match node with
    | .nil => some .idle
    | _ => none
  else if name = "Level" then (toInteger? .i64 node).map .level
  else if name = "Pair" then
    match node with
    | .array [value, label] => do return .pair (← toInteger? .i64 value) (← toText? label)
    | _ => none
  else if name = "Box" then toBox? node
  else none

def toStatus? : Node → Option Status
  | .map [(name, node)] => do toAlternative? (← toName? alternatives name) node
  | .map _ => none
  | node => if toName? alternatives node = some "Idle" then some .idle else none

def toIndex? : (index : IndexType) → Node → Option index.Value
  | .text, node => toText? node
  | .integer, node => (toInteger? .i64 node).map fun value => Int64.ofInt value.val
  | .integerPair, .array [first, second] => do
    let first ← toInteger? .i64 first
    let second ← toInteger? .i64 second
    return (Int64.ofInt first.val, Int64.ofInt second.val)
  | .integerPair, .binary [first, second] =>
    some (Int64.ofNat first.toNat, Int64.ofNat second.toNat)
  | .integerPair, _ => none

/-- A double inside a JSON value: null when it is not finite. -/
def jsonOfDouble (number : Binary64) : Value :=
  if number.isFinite then .number (.double number) else .null

mutual

def toJson? : Node → Option Value
  | .nil => some .null
  | .bool value => some (.bool value)
  | .unsigned number => some (.number (.integer number))
  | .signed number => some (.number (.integer number))
  | .single bits => some (jsonOfDouble (Binary64.ofSingle bits))
  | .double number => some (jsonOfDouble number)
  | .text bytes => (Text.ofBytes? bytes).map .string
  | .binary _ => none
  | .array items => (toJsonItems? items).map .array
  | .map entries => (toJsonMembers? [] entries).map .object
  | .extension _ _ => none

def toJsonItems? : List Node → Option (List Value)
  | [] => some []
  | item :: items =>
    match toJson? item with
    | none => none
    | some value => (toJsonItems? items).map (value :: ·)

/-- The members of a JSON object, added to those already read. -/
def toJsonMembers? (read : List (String × Value)) :
    List (Node × Node) → Option (List (String × Value))
  | [] => some read
  | (key, node) :: entries =>
    match toPlainText? key with
    | none => none
    | some name =>
      match toJson? node with
      | none => none
      | some value => toJsonMembers? (Value.setMember name value read) entries

end

def decode? : (element : ElementType) → Node → Option element.Value
  | .unit, .nil => some ()
  | .unit, _ => none
  | .bool, .bool value => some value
  | .bool, _ => none
  | .integer format, node => toInteger? format node
  | .double, node => toDouble? node
  | .char, node =>
    match (toPlainText? node).map String.toList with
    | some [scalar] => some scalar
    | _ => none
  | .text, node => toText? node
  | .json, node => toJson? node
  | .row, node => toRow? node
  | .status, node => toStatus? node
  | .option _, .nil => some none
  | .option item, node => (decode? item node).map some
  | .list item, .array items => items.mapM (decode? item)
  | .list item, .binary bytes => bytes.mapM fun octet => decode? item (.unsigned octet.toNat)
  | .list _, _ => none
  | .map index item, .map entries =>
    (entries.mapM fun (entry : Node × Node) => do
      let key ← toIndex? index entry.1
      let value ← decode? item entry.2
      return (key, value)).map SortedMap.ofPairs
  | .map _ _, _ => none

/-- The values of exactly as many nodes as there are parallel elements. -/
def decodeParallel? : (elements : List ElementType) → List Node → Option (ParallelValue elements)
  | [], [] => some ()
  | element :: rest, node :: nodes => do
    let value ← decode? element node
    let values ← decodeParallel? rest nodes
    return (value, values)
  | _, _ => none

def decodePayload? : (type : PayloadType) → Node → Option type.Value
  | .single element, node => decode? element node
  | .parallel elements, .array items => decodeParallel? elements items
  | .parallel _, _ => none

end MessagePack

end Codec

end ResultCache
