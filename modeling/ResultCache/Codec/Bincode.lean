import ResultCache.Codec.MessagePackNode
import ResultCache.Payload

/-!
Contract: payloads as bincode, a format without any marks of type.

Owns:
- variable-length integers: one octet up to 250, else a marker and two, four or
  eight octets, least significant first; signed ones are folded onto naturals
  first; integers of one octet stand for themselves;
- the octets of a value of each payload type: a length before texts, lists and
  maps, one octet before optional values, a number before alternatives, nothing
  around tuples and records;
- the reader of each payload type, which refuses markers wider than the type and
  accepts longer forms than needed, and leaves octets behind the value alone.

A JSON value has octets and no reader: nothing in them says what comes next.
-/

namespace ResultCache

namespace Codec

namespace Bincode

open ResultCache.Json (Value Number)

/-! ### Integers -/

/-- A number in so many octets, least significant first. -/
def littleEndian : Nat → Nat → Bytes
  | 0, _ => []
  | count + 1, number => number.toUInt8 :: littleEndian count (number / 256)

/-- The number in so many octets at the front, least significant first. -/
def takeLittleEndian? : Nat → Bytes → Option (Nat × Bytes)
  | 0, bytes => some (0, bytes)
  | _ + 1, [] => none
  | count + 1, octet :: rest =>
    match takeLittleEndian? count rest with
    | some (number, behind) => some (octet.toNat + 256 * number, behind)
    | none => none

def writeVarint (number : Nat) : Bytes :=
  if number < 251 then [number.toUInt8]
  else if number < 0x10000 then 251 :: littleEndian 2 number
  else if number < 0x100000000 then 252 :: littleEndian 4 number
  else 253 :: littleEndian 8 number

/-- The variable-length number at the front, of a type of so many octets. -/
def takeVarint? (width : Nat) : Bytes → Option (Nat × Bytes)
  | [] => none
  | marker :: rest =>
    if marker < 251 then some (marker.toNat, rest)
    else if marker = 251 && 2 ≤ width then takeLittleEndian? 2 rest
    else if marker = 252 && 4 ≤ width then takeLittleEndian? 4 rest
    else if marker = 253 && 8 ≤ width then takeLittleEndian? 8 rest
    else none

/-- Integers folded onto naturals: the negative ones to the odd numbers. -/
def fold (number : Int) : Nat :=
  if number < 0 then 2 * number.natAbs - 1 else 2 * number.natAbs

def unfold (number : Nat) : Int :=
  if number % 2 = 0 then (number / 2 : Nat) else -((number / 2 : Nat) : Int) - 1

def writeInteger (format : IntegerFormat) (number : Int) : Bytes :=
  if format.width = .w8 then [(number % 256).toNat.toUInt8]
  else if format.signed then writeVarint (fold number)
  else writeVarint number.toNat

def takeInteger? (format : IntegerFormat) (bytes : Bytes) : Option (format.Value × Bytes) :=
  if format.width = .w8 then
    match bytes with
    | [] => none
    | octet :: rest =>
      let number := if format.signed then MessagePack.asSigned 8 octet.toNat else octet.toNat
      (format.ofInt? number).map fun value => (value, rest)
  else
    match takeVarint? (format.width.bits / 8) bytes with
    | none => none
    | some (number, rest) =>
      (format.ofInt? (if format.signed then unfold number else number)).map fun value =>
        (value, rest)

def writeLength (length : Nat) : Bytes := writeVarint length

def takeLength? (bytes : Bytes) : Option (Nat × Bytes) := takeVarint? 8 bytes

/-! ### Writing -/

def writeText (text : String) : Bytes :=
  let bytes := Text.toBytes text
  writeLength bytes.length ++ bytes

def writeDouble (number : Binary64) : Bytes := littleEndian 8 number.bits.toNat

mutual

/-- The octets of a JSON value in reverse, in front of those given. -/
def writeJsonOnto (done : Bytes) : Value → Bytes
  | .null => done
  | .bool value => (if value then 1 else 0) :: done
  | .number (.integer value) =>
    (writeInteger (if value < 0 then .i64 else .u64) value).reverseAux done
  | .number (.double value) => (writeDouble value).reverseAux done
  | .string value => (writeText value).reverseAux done
  | .array items => writeJsonItemsOnto ((writeLength items.length).reverseAux done) items
  | .object members => writeJsonMembersOnto ((writeLength members.length).reverseAux done) members

/-- The octets of JSON items in reverse, in front of those given. -/
def writeJsonItemsOnto (done : Bytes) : List Value → Bytes
  | [] => done
  | item :: items => writeJsonItemsOnto (writeJsonOnto done item) items

/-- The octets of JSON members in reverse, in front of those given. -/
def writeJsonMembersOnto (done : Bytes) : List (String × Value) → Bytes
  | [] => done
  | (name, value) :: members =>
    writeJsonMembersOnto (writeJsonOnto ((writeText name).reverseAux done) value) members

end

def writeRow (row : Row) : Bytes :=
  writeInteger .i64 row.id.val ++ writeText row.name ++
    match row.score with
    | none => [0]
    | some number => 1 :: writeDouble number

def writeStatus : Status → Bytes
  | .idle => writeVarint 0
  | .level value => writeVarint 1 ++ writeInteger .i64 value.val
  | .pair value label => writeVarint 2 ++ (writeInteger .i64 value.val ++ writeText label)
  | .box width height =>
    writeVarint 3 ++ (writeInteger .u32 width.val ++ writeInteger .u32 height.val)

def writeIndex : (index : IndexType) → index.Value → Bytes
  | .text, (text : String) => writeText text
  | .integer, (number : Int64) => writeInteger .i64 number.toInt
  | .integerPair, ((first, second) : Int64 × Int64) =>
    writeInteger .i64 first.toInt ++ writeInteger .i64 second.toInt

def encode : (element : ElementType) → element.Value → Bytes
  | .unit, _ => []
  | .bool, (value : Bool) => [if value then 1 else 0]
  | .integer format, value => writeInteger format value.val
  | .double, (value : Binary64) => writeDouble value
  | .char, (value : Char) => Text.toBytes (String.singleton value)
  | .text, (value : String) => writeText value
  | .json, (value : Value) => (writeJsonOnto [] value).reverse
  | .row, (value : Row) => writeRow value
  | .status, (value : Status) => writeStatus value
  | .option _, none => [0]
  | .option item, some value => 1 :: encode item value
  | .list item, (values : List item.Value) =>
    writeLength values.length ++ values.flatMap (encode item)
  | .map index item, (map : SortedMap index.Value item.Value) =>
    writeLength map.entries.length ++
      map.entries.flatMap fun (entry : index.Value × item.Value) =>
        writeIndex index entry.1 ++ encode item entry.2

def encodeParallel : (elements : List ElementType) → ParallelValue elements → Bytes
  | [], _ => []
  | element :: rest, (value, values) => encode element value ++ encodeParallel rest values

def encodePayload : (type : PayloadType) → type.Value → Bytes
  | .single element, value => encode element value
  | .parallel elements, values => encodeParallel elements values

/-! ### Reading -/

def takeText? (bytes : Bytes) : Option (String × Bytes) :=
  match takeLength? bytes with
  | none => none
  | some (length, rest) =>
    match MessagePack.takeBytes? length rest with
    | none => none
    | some (taken, behind) => (Text.ofBytes? taken).map fun text => (text, behind)

def takeDouble? (bytes : Bytes) : Option (Binary64 × Bytes) :=
  (takeLittleEndian? 8 bytes).map fun (number, rest) => (⟨number.toUInt64⟩, rest)

def takeRow? (bytes : Bytes) : Option (Row × Bytes) := do
  let (id, bytes) ← takeInteger? .i64 bytes
  let (name, bytes) ← takeText? bytes
  match bytes with
  | 0 :: rest => return (⟨id, name, none⟩, rest)
  | 1 :: rest =>
    let (score, rest) ← takeDouble? rest
    return (⟨id, name, some score⟩, rest)
  | _ => none

def takeStatus? (bytes : Bytes) : Option (Status × Bytes) := do
  let (alternative, bytes) ← takeVarint? 4 bytes
  match alternative with
  | 0 => return (.idle, bytes)
  | 1 =>
    let (value, bytes) ← takeInteger? .i64 bytes
    return (.level value, bytes)
  | 2 =>
    let (value, bytes) ← takeInteger? .i64 bytes
    let (label, bytes) ← takeText? bytes
    return (.pair value label, bytes)
  | 3 =>
    let (width, bytes) ← takeInteger? .u32 bytes
    let (height, bytes) ← takeInteger? .u32 bytes
    return (.box width height, bytes)
  | _ => none

def takeInt64? (bytes : Bytes) : Option (Int64 × Bytes) :=
  (takeInteger? .i64 bytes).map fun (value, rest) => (Int64.ofInt value.val, rest)

def takeIndex? : (index : IndexType) → Bytes → Option (index.Value × Bytes)
  | .text, bytes => takeText? bytes
  | .integer, bytes => takeInt64? bytes
  | .integerPair, bytes => do
    let (first, bytes) ← takeInt64? bytes
    let (second, bytes) ← takeInt64? bytes
    return ((first, second), bytes)

/-- So many values at the front, after those already read. -/
def takeMany? {Item : Type} (take? : Bytes → Option (Item × Bytes)) (read : List Item) :
    Nat → Bytes → Option (List Item × Bytes)
  | 0, bytes => some (read.reverse, bytes)
  | count + 1, bytes =>
    match take? bytes with
    | none => none
    | some (item, rest) => takeMany? take? (item :: read) count rest

def decode? : (element : ElementType) → Bytes → Option (element.Value × Bytes)
  | .unit, bytes => some ((), bytes)
  | .bool, 0 :: rest => some (false, rest)
  | .bool, 1 :: rest => some (true, rest)
  | .bool, _ => none
  | .integer format, bytes => takeInteger? format bytes
  | .double, bytes => takeDouble? bytes
  | .char, bytes => Text.takeChar? bytes
  | .text, bytes => takeText? bytes
  | .json, _ => none
  | .row, bytes => takeRow? bytes
  | .status, bytes => takeStatus? bytes
  | .option _, 0 :: rest => some (none, rest)
  | .option item, 1 :: rest => (decode? item rest).map fun (value, behind) => (some value, behind)
  | .option _, _ => none
  | .list item, bytes =>
    match takeLength? bytes with
    | none => none
    | some (length, rest) => takeMany? (decode? item) [] length rest
  | .map index item, bytes =>
    match takeLength? bytes with
    | none => none
    | some (length, rest) =>
      let takeEntry? (bytes : Bytes) : Option ((index.Value × item.Value) × Bytes) := do
        let (key, bytes) ← takeIndex? index bytes
        let (value, bytes) ← decode? item bytes
        return ((key, value), bytes)
      (takeMany? takeEntry? [] length rest).map fun (entries, behind) =>
        (SortedMap.ofPairs entries, behind)

def decodeParallel? : (elements : List ElementType) → Bytes →
    Option (ParallelValue elements × Bytes)
  | [], bytes => some ((), bytes)
  | element :: rest, bytes => do
    let (value, bytes) ← decode? element bytes
    let (values, bytes) ← decodeParallel? rest bytes
    return ((value, values), bytes)

def decodePayload? : (type : PayloadType) → Bytes → Option (type.Value × Bytes)
  | .single element, bytes => decode? element bytes
  | .parallel elements, bytes => decodeParallel? elements bytes

end Bincode

end Codec

end ResultCache
