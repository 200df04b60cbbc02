import ResultCache.Codec.Bincode
import ResultCache.Codec.Json
import ResultCache.Codec.MessagePack
import ResultCache.Content
import ResultCache.Error

/-!
Contract: the passage between payloads and stored content.

Owns:
- `Format`, the formats that a cache can be configured with, and their names;
- `Serializer`, the pair of directions that a persistent tier works with, which
  is a parameter of the tier and not a fixed choice;
- the serializer of every format, with the check that content read under the list
  hint starts as an array where the format is text;
- serializers whose storage class is fixed or one of whose directions refuses,
  for callers that bring their own.

Does not own: the encodings themselves, or compression.
-/

namespace ResultCache

/-- A serialization format. -/
inductive Format where
  | json
  | messagePack
  | bincode
  deriving DecidableEq, Repr

namespace Format

def all : List Format := [json, messagePack, bincode]

def name : Format → String
  | json => "json"
  | messagePack => "msgpack"
  | bincode => "bincode"

def title : Format → String
  | json => "Json"
  | messagePack => "Msgpack"
  | bincode => "Bincode"

/-- The format of a name; MessagePack has two. -/
def ofName? (name : String) : Option Format :=
  if name = "messagepack" then some messagePack else all.find? fun format => format.name = name

def supportsText : Format → Bool
  | json => true
  | messagePack | bincode => false

end Format

/-- Both directions between payloads and stored content. Reading is told the type
to read and whether the shape of the entry is a list. -/
structure Serializer where
  supportsText : Bool
  serialize : Payload → (asText : Bool) → Except CacheError StoredContent
  deserialize : (type : PayloadType) → StoredContent → (asList : Bool) →
    Except CacheError type.Value

namespace Serializer

/-- Octets that are passed over in front of a document. -/
def isBlankOctet (octet : UInt8) : Bool :=
  octet = 0x20 || octet = 0x09 || octet = 0x0A || octet = 0x0C || octet = 0x0D

/-- Whether the first octet that is no blank opens an array. -/
def startsAsArray (bytes : Bytes) : Bool :=
  match bytes.dropWhile isBlankOctet with
  | [] => false
  | first :: _ => first = 0x5B

def jsonText (payload : Payload) : Except CacheError String :=
  match Codec.Json.encodePayload? payload.type payload.value with
  | some document => .ok document.text
  | none => .error (.unsupportedType "a key that is neither a text nor an integer")

/-- A payload in JSON, stored as text or as octets. -/
def writeJson (payload : Payload) (asText : Bool) : Except CacheError StoredContent := do
  let text ← jsonText payload
  return if asText then .text text else .binary (Text.toBytes text)

/-- A value from JSON; a list has to start as an array. -/
def readJson (type : PayloadType) (content : StoredContent) (asList : Bool) :
    Except CacheError type.Value :=
  if asList && !startsAsArray content.bytes then .error (.serialization .notAnArray)
  else
    match (Json.Document.read? (Text.symbols content.bytes)).bind (Codec.Json.decodePayload? type) with
    | some value => .ok value
    | none => .error (.serialization .undecodable)

def json : Serializer where
  supportsText := true
  serialize := writeJson
  deserialize := readJson

/-- A serializer that makes octets only. Octets behind a complete value are
passed over when they are read. -/
def octetsOnly (title : String) (write : Payload → Bytes)
    (read? : (type : PayloadType) → Bytes → Option (type.Value × Bytes)) : Serializer where
  supportsText := false
  serialize payload asText :=
    if asText then .error (.configuration (.formatNotText title)) else .ok (.binary (write payload))
  deserialize type content _ :=
    match read? type content.bytes with
    | some (value, _) => .ok value
    | none => .error (.serialization .undecodable)

def messagePack : Serializer :=
  octetsOnly Format.messagePack.title
    (fun payload => (Codec.MessagePack.encodePayload payload.type payload.value).write)
    fun type bytes => do
      let (node, rest) ← Codec.MessagePack.Node.read? bytes
      let value ← Codec.MessagePack.decodePayload? type node
      return (value, rest)

def bincode : Serializer :=
  octetsOnly Format.bincode.title
    (fun payload => Codec.Bincode.encodePayload payload.type payload.value)
    Codec.Bincode.decodePayload?

def ofFormat : Format → Serializer
  | .json => json
  | .messagePack => messagePack
  | .bincode => bincode

/-! ### Serializers with a will of their own -/

/-- JSON in one storage class, whichever is asked for. -/
def jsonAlways (asText : Bool) : Serializer where
  supportsText := true
  serialize payload _ := writeJson payload asText
  deserialize := readJson

def refusingToWrite (failure : CacheError) : Serializer where
  supportsText := true
  serialize _ _ := .error failure
  deserialize := readJson

def refusingToRead (failure : CacheError) : Serializer where
  supportsText := true
  serialize payload _ := writeJson payload true
  deserialize _ _ _ := .error failure

end Serializer

end ResultCache
