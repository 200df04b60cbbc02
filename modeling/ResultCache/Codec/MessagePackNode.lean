import ResultCache.Binary64.Basic
import ResultCache.Text

/-!
Contract: MessagePack as trees.

Owns:
- `MessagePack.Node`, a value with the distinctions that its first octet makes;
- `Node.write`, which picks the shortest form of every integer, and of every length as far as
  thirty-two bits hold it;
- `Node.read?`, the value at the front of an octet sequence and the octets behind
  it, by a stack of the containers still open;
- the limit on nested containers.

Does not own: how payloads are put into nodes.
-/

namespace ResultCache

namespace Codec

namespace MessagePack

/-- A MessagePack value. -/
inductive Node where
  | nil
  | bool (value : Bool)
  /-- An integer in one of the forms without a sign. -/
  | unsigned (value : Nat)
  /-- An integer in one of the forms with a sign. -/
  | signed (value : Int)
  | single (bits : UInt32)
  | double (value : Binary64)
  | text (bytes : Bytes)
  | binary (bytes : Bytes)
  | array (items : List Node)
  | map (entries : List (Node × Node))
  | extension (kind : UInt8) (bytes : Bytes)
  deriving Repr

/-! ### Octets of numbers -/

/-- The last octets of a number, most significant first, in front of those given. -/
def bigEndianOnto (behind : Bytes) : Nat → Nat → Bytes
  | 0, _ => behind
  | count + 1, number => bigEndianOnto (number.toUInt8 :: behind) count (number / 256)

/-- A number in so many octets, most significant first. -/
def bigEndian (count number : Nat) : Bytes := bigEndianOnto [] count number

/-- The number in so many octets at the front, after the number read before them. -/
def takeBigEndianFrom? (before : Nat) : Nat → Bytes → Option (Nat × Bytes)
  | 0, bytes => some (before, bytes)
  | _ + 1, [] => none
  | count + 1, octet :: rest => takeBigEndianFrom? (before * 256 + octet.toNat) count rest

def takeBigEndian? (count : Nat) (bytes : Bytes) : Option (Nat × Bytes) :=
  takeBigEndianFrom? 0 count bytes

def takeBytes? (count : Nat) (bytes : Bytes) : Option (Bytes × Bytes) :=
  let taken := bytes.take count
  if taken.length = count then some (taken, bytes.drop count) else none

def asSigned (bits number : Nat) : Int :=
  if Nat.pow 2 (bits - 1) ≤ number then (number : Int) - (Nat.pow 2 bits : Nat) else number

/-! ### Writing -/

namespace Node

def writeUnsigned (number : Nat) : Bytes :=
  if number < 0x80 then [number.toUInt8]
  else if number < 0x100 then 0xcc :: bigEndian 1 number
  else if number < 0x10000 then 0xcd :: bigEndian 2 number
  else if number < 0x100000000 then 0xce :: bigEndian 4 number
  else 0xcf :: bigEndian 8 number

/-- The shortest form of an integer among those with a sign. -/
def writeSigned (number : Int) : Bytes :=
  let word (bits : Nat) : Nat := (number % (Nat.pow 2 bits : Nat)).toNat
  if -32 ≤ number ∧ number < 0 then [(word 8).toUInt8]
  else if -0x80 ≤ number ∧ number < 0x80 then 0xd0 :: bigEndian 1 (word 8)
  else if -0x8000 ≤ number ∧ number < 0x8000 then 0xd1 :: bigEndian 2 (word 16)
  else if -0x80000000 ≤ number ∧ number < 0x80000000 then 0xd2 :: bigEndian 4 (word 32)
  else 0xd3 :: bigEndian 8 (word 64)

/-- The part of a length that headers have room for: its last thirty-two bits. -/
def announced (length : Nat) : Nat := length % 0x100000000

def writeTextHeader (length : Nat) : Bytes :=
  if length < 32 then [(0xa0 + length).toUInt8]
  else if length < 0x100 then 0xd9 :: bigEndian 1 length
  else if length < 0x10000 then 0xda :: bigEndian 2 length
  else 0xdb :: bigEndian 4 length

def writeBinaryHeader (length : Nat) : Bytes :=
  if length < 0x100 then 0xc4 :: bigEndian 1 length
  else if length < 0x10000 then 0xc5 :: bigEndian 2 length
  else 0xc6 :: bigEndian 4 length

def writeArrayHeader (length : Nat) : Bytes :=
  if length < 16 then [(0x90 + length).toUInt8]
  else if length < 0x10000 then 0xdc :: bigEndian 2 length
  else 0xdd :: bigEndian 4 length

def writeMapHeader (length : Nat) : Bytes :=
  if length < 16 then [(0x80 + length).toUInt8]
  else if length < 0x10000 then 0xde :: bigEndian 2 length
  else 0xdf :: bigEndian 4 length

mutual

/-- The octets of a node in reverse, in front of those given. -/
def writeOnto (done : Bytes) : Node → Bytes
  | nil => 0xc0 :: done
  | bool false => 0xc2 :: done
  | bool true => 0xc3 :: done
  | unsigned value => (writeUnsigned value).reverseAux done
  | signed value => (writeSigned value).reverseAux done
  | single bits => (0xca :: bigEndian 4 bits.toNat).reverseAux done
  | double value => (0xcb :: bigEndian 8 value.bits.toNat).reverseAux done
  | text bytes => bytes.reverseAux ((writeTextHeader (announced bytes.length)).reverseAux done)
  | binary bytes => bytes.reverseAux ((writeBinaryHeader (announced bytes.length)).reverseAux done)
  | array items =>
    writeItemsOnto ((writeArrayHeader (announced items.length)).reverseAux done) items
  | map entries =>
    writeEntriesOnto ((writeMapHeader (announced entries.length)).reverseAux done) entries
  | extension kind bytes =>
    bytes.reverseAux ((0xc9 :: bigEndian 4 bytes.length ++ [kind]).reverseAux done)

/-- The octets of items in reverse, in front of those given. -/
def writeItemsOnto (done : Bytes) : List Node → Bytes
  | [] => done
  | item :: items => writeItemsOnto (writeOnto done item) items

/-- The octets of entries in reverse, in front of those given. -/
def writeEntriesOnto (done : Bytes) : List (Node × Node) → Bytes
  | [] => done
  | (key, value) :: entries => writeEntriesOnto (writeOnto (writeOnto done key) value) entries

end

def write (node : Node) : Bytes := (writeOnto [] node).reverse

end Node

/-! ### Reading -/

/-- What the front of an octet sequence announces. -/
inductive Head where
  /-- A complete value. -/
  | value (node : Node)
  /-- An array of so many items. -/
  | array (count : Nat)
  /-- A map of so many entries. -/
  | map (count : Nat)
  deriving Repr

namespace Head

/-- A length of so many octets, and what it announces. -/
def counted? (width : Nat) (announce : Nat → Head) (bytes : Bytes) : Option (Head × Bytes) :=
  (takeBigEndian? width bytes).map fun (count, rest) => (announce count, rest)

/-- A number of so many octets, and the value it is. -/
def number? (width : Nat) (make : Nat → Node) (bytes : Bytes) : Option (Head × Bytes) :=
  (takeBigEndian? width bytes).map fun (number, rest) => (.value (make number), rest)

/-- So many octets, and the value they are. -/
def bytes? (count : Nat) (make : Bytes → Node) (bytes : Bytes) : Option (Head × Bytes) :=
  (takeBytes? count bytes).map fun (taken, rest) => (.value (make taken), rest)

/-- A length of so many octets, that many octets, and the value they are. -/
def sized? (width : Nat) (make : Bytes → Node) (bytes : Bytes) : Option (Head × Bytes) :=
  match takeBigEndian? width bytes with
  | some (count, rest) => bytes? count make rest
  | none => none

def extension? (count : Nat) : Bytes → Option (Head × Bytes)
  | [] => none
  | kind :: rest => bytes? count (.extension kind) rest

/-- A length of so many octets, and an extension of that many octets. -/
def sizedExtension? (width : Nat) (bytes : Bytes) : Option (Head × Bytes) :=
  match takeBigEndian? width bytes with
  | some (count, rest) => extension? count rest
  | none => none

/-- What the first octet announces, from the octets behind it. -/
def ofMarker? (marker : UInt8) (rest : Bytes) : Option (Head × Bytes) :=
  if marker < 0x80 then some (.value (.unsigned marker.toNat), rest)
  else if marker < 0x90 then some (.map (marker.toNat - 0x80), rest)
  else if marker < 0xa0 then some (.array (marker.toNat - 0x90), rest)
  else if marker < 0xc0 then bytes? (marker.toNat - 0xa0) .text rest
  else if 0xe0 ≤ marker then some (.value (.signed (asSigned 8 marker.toNat)), rest)
  else
    match marker.toNat with
    | 0xc0 => some (.value .nil, rest)
    | 0xc2 => some (.value (.bool false), rest)
    | 0xc3 => some (.value (.bool true), rest)
    | 0xc4 => sized? 1 .binary rest
    | 0xc5 => sized? 2 .binary rest
    | 0xc6 => sized? 4 .binary rest
    | 0xc7 => sizedExtension? 1 rest
    | 0xc8 => sizedExtension? 2 rest
    | 0xc9 => sizedExtension? 4 rest
    | 0xca => number? 4 (fun number => .single number.toUInt32) rest
    | 0xcb => number? 8 (fun number => .double ⟨number.toUInt64⟩) rest
    | 0xcc => number? 1 .unsigned rest
    | 0xcd => number? 2 .unsigned rest
    | 0xce => number? 4 .unsigned rest
    | 0xcf => number? 8 .unsigned rest
    | 0xd0 => number? 1 (fun number => .signed (asSigned 8 number)) rest
    | 0xd1 => number? 2 (fun number => .signed (asSigned 16 number)) rest
    | 0xd2 => number? 4 (fun number => .signed (asSigned 32 number)) rest
    | 0xd3 => number? 8 (fun number => .signed (asSigned 64 number)) rest
    | 0xd4 => extension? 1 rest
    | 0xd5 => extension? 2 rest
    | 0xd6 => extension? 4 rest
    | 0xd7 => extension? 8 rest
    | 0xd8 => extension? 16 rest
    | 0xd9 => sized? 1 .text rest
    | 0xda => sized? 2 .text rest
    | 0xdb => sized? 4 .text rest
    | 0xdc => counted? 2 .array rest
    | 0xdd => counted? 4 .array rest
    | 0xde => counted? 2 .map rest
    | 0xdf => counted? 4 .map rest
    | _ => none

/-- What the front of an octet sequence announces, and the octets behind it. -/
def take? : Bytes → Option (Head × Bytes)
  | [] => none
  | marker :: rest => ofMarker? marker rest

end Head

/-- A container still open: how much is missing, and what it holds in reverse. -/
inductive Frame where
  | array (missing : Nat) (items : List Node)
  | map (missing : Nat) (entries : List (Node × Node))
  /-- A map that awaits the value of the key given; the entry counts as missing. -/
  | keyed (missing : Nat) (entries : List (Node × Node)) (key : Node)
  deriving Repr

/-- What a value completes: the whole, or a part of the containers still open. -/
inductive Placed where
  | whole (node : Node)
  | within (frames : List Frame)
  deriving Repr

/-- A complete value put into the containers around it, closing those it fills. -/
def place (node : Node) : List Frame → Placed
  | [] => .whole node
  | .array missing items :: frames =>
    if missing ≤ 1 then place (.array (node :: items).reverse) frames
    else .within (.array (missing - 1) (node :: items) :: frames)
  | .map missing entries :: frames => .within (.keyed missing entries node :: frames)
  | .keyed missing entries key :: frames =>
    if missing ≤ 1 then place (.map ((key, node) :: entries).reverse) frames
    else .within (.map (missing - 1) ((key, node) :: entries) :: frames)

/-- How many containers may be open at once, plus one. -/
def nestingLimit : Nat := 1024

def enter? (frames : List Frame) : Head → Option Placed
  | .value node => some (place node frames)
  | .array count =>
    if nestingLimit ≤ frames.length + 1 then none
    else if count = 0 then some (place (.array []) frames)
    else some (.within (.array count [] :: frames))
  | .map count =>
    if nestingLimit ≤ frames.length + 1 then none
    else if count = 0 then some (place (.map []) frames)
    else some (.within (.map count [] :: frames))

/-- The rest of a value inside open containers. The fuel bounds the octets left. -/
def readWithin? : Nat → List Frame → Bytes → Option (Node × Bytes)
  | 0, _, _ => none
  | fuel + 1, frames, bytes =>
    match Head.take? bytes with
    | none => none
    | some (head, rest) =>
      match enter? frames head with
      | none => none
      | some (.whole node) => some (node, rest)
      | some (.within frames) => readWithin? fuel frames rest

/-- The value at the front of an octet sequence, and the octets behind it. -/
def Node.read? (bytes : Bytes) : Option (Node × Bytes) := readWithin? bytes.length [] bytes

end MessagePack

end Codec

end ResultCache
