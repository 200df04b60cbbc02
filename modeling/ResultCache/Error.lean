import ResultCache.KeyMap

/-!
Contract: the failures of cache operations.

Owns:
- `CacheError`, one constructor per kind of failure, with the causes that the
  library itself distinguishes as constructors of their own types;
- the message of every failure;
- which failures are mistakes of configuration.

A cause `other` carries words of a collaborator: a serializer, a fetch, or a
provider of nodes.
-/

namespace ResultCache

/-- Why a configuration is refused. -/
inductive ConfigurationFault where
  /-- A tier that stores text was given a serializer that makes none. -/
  | textNeedsTextSerializer
  /-- A tier that stores text was asked to compress. -/
  | compressionNeedsBinaryTier
  /-- The path of a database is a directory. -/
  | pathIsDirectory (path : String)
  /-- A section names a provider that does not exist. -/
  | unknownProvider (provider : String)
  /-- A section stores text in a format that makes none. -/
  | sectionFormatNotText (format : String)
  /-- A section stores text and asks for compression. -/
  | sectionCompressionNeedsBinary
  /-- Text was asked of a format that makes none. -/
  | formatNotText (format : String)
  | other (words : String)
  deriving DecidableEq, Repr

/-- Why an operation cannot be carried out. -/
inductive OperationFault where
  /-- A persistent put without a payload. -/
  | putWithoutPayload (key : Key)
  /-- A stream of content that is not text. -/
  | binaryNotStreamable
  /-- A stream of an expired entry. -/
  | entryExpired (key : Key)
  /-- A stream of an entry that is not there. -/
  | entryMissing (key : Key)
  /-- A stream of an entry without a row. -/
  | contentMissing (key : Key)
  /-- A stream of a cache that keeps nothing but memory. -/
  | memoryNotStreamable
  | other (words : String)
  deriving DecidableEq, Repr

/-- Why stored content does not decode. -/
inductive SerializationFault where
  /-- A list was expected and the document is no array. -/
  | notAnArray
  /-- The content is not a value of the type asked for. -/
  | undecodable
  | other (words : String)
  deriving DecidableEq, Repr

/-- Why a compressed payload does not decode. -/
inductive CompressionFault where
  /-- A frame without even a tag. -/
  | emptyFrame
  /-- A tag of no algorithm. -/
  | unknownTag (tag : UInt8)
  /-- A body that its algorithm cannot expand, or data it cannot compress. -/
  | corruptBody
  | other (words : String)
  deriving DecidableEq, Repr

/-- Failures of files and sinks. -/
inductive IoFault where
  | writeZero
  | brokenPipe
  | interrupted
  | storageFull
  | notFound
  | alreadyExists
  | notADirectory
  | invalidData
  | other (words : String)
  deriving DecidableEq, Repr

/-- A failed cache operation. -/
inductive CacheError where
  | duplicateSignature (name : String)
  | unknownSignature (name : String)
  | configuration (fault : ConfigurationFault)
  | unsupportedExpression (kind : String)
  | unsupportedType (words : String)
  | invalidOperation (fault : OperationFault)
  | serialization (fault : SerializationFault)
  | compression (fault : CompressionFault)
  | database
  | io (fault : IoFault)
  | cancelled (bytesWritten : Nat)
  deriving DecidableEq, Repr

namespace ConfigurationFault

def words : ConfigurationFault → String
  | textNeedsTextSerializer => "text format requires a serializer that produces text"
  | compressionNeedsBinaryTier => "compression is only supported with binary format"
  | pathIsDirectory path => "cache path " ++ path ++ " is a directory"
  | unknownProvider provider => "unknown persistent provider '" ++ provider ++ "'"
  | sectionFormatNotText format => "format " ++ format ++ " cannot produce text content"
  | sectionCompressionNeedsBinary => "compression requires binary content"
  | formatNotText format => format ++ " cannot produce text content"
  | other words => words

end ConfigurationFault

namespace OperationFault

def words : OperationFault → String
  | putWithoutPayload key => "persistent put for key " ++ toString key.toInt ++ " has no payload"
  | binaryNotStreamable => "binary content cannot be streamed"
  | entryExpired key => "cache entry " ++ toString key.toInt ++ " has expired"
  | entryMissing key => "cache entry " ++ toString key.toInt ++ " does not exist"
  | contentMissing key => "no persisted content for cache entry " ++ toString key.toInt
  | memoryNotStreamable => "memory-only caches do not support streaming"
  | other words => words

end OperationFault

namespace SerializationFault

def words : SerializationFault → String
  | notAnArray => "expected a JSON array for a list-shaped entry"
  | undecodable => "stored content is not a value of the requested type"
  | other words => words

end SerializationFault

namespace CompressionFault

def words : CompressionFault → String
  | emptyFrame => "empty framed payload"
  | unknownTag tag => "unknown frame tag " ++ toString tag.toNat
  | corruptBody => "corrupt compressed body"
  | other words => words

end CompressionFault

namespace IoFault

def words : IoFault → String
  | writeZero => "write zero"
  | brokenPipe => "broken pipe"
  | interrupted => "operation interrupted"
  | storageFull => "no storage space"
  | notFound => "entity not found"
  | alreadyExists => "entity already exists"
  | notADirectory => "not a directory"
  | invalidData => "invalid data"
  | other words => words

def kind : IoFault → String
  | writeZero => "WriteZero"
  | brokenPipe => "BrokenPipe"
  | interrupted => "Interrupted"
  | storageFull => "StorageFull"
  | notFound => "NotFound"
  | alreadyExists => "AlreadyExists"
  | notADirectory => "NotADirectory"
  | invalidData => "InvalidData"
  | other _ => "Other"

end IoFault

namespace CacheError

def kind : CacheError → String
  | duplicateSignature _ => "DuplicateSignature"
  | unknownSignature _ => "UnknownSignature"
  | configuration _ => "Configuration"
  | unsupportedExpression _ => "UnsupportedExpression"
  | unsupportedType _ => "UnsupportedType"
  | invalidOperation _ => "InvalidOperation"
  | serialization _ => "Serialization"
  | compression _ => "Compression"
  | database => "Database"
  | io _ => "Io"
  | cancelled _ => "Cancelled"

/-- The failure that a collaborator reports by the name of its kind and its own words. -/
def reported? (kind words : String) : Option CacheError :=
  [duplicateSignature words, unknownSignature words, configuration (.other words),
    unsupportedExpression words, unsupportedType words, invalidOperation (.other words),
    serialization (.other words), compression (.other words), database, io (.other words),
    cancelled (words.toNat?.getD 0)].find? fun failure => failure.kind = kind

def message : CacheError → String
  | duplicateSignature name => "Duplicate signature: " ++ name
  | unknownSignature name => "Unknown signature: " ++ name
  | configuration fault => "Configuration error: " ++ fault.words
  | unsupportedExpression kind => "Unsupported expression shape: " ++ kind
  | unsupportedType words => "Unsupported payload type: " ++ words
  | invalidOperation fault => "Invalid operation: " ++ fault.words
  | serialization fault => "Serialization error: " ++ fault.words
  | compression fault => "Compression error: " ++ fault.words
  | database => "Database error"
  | io fault => "I/O error: " ++ fault.words
  | cancelled bytesWritten => "Stream cancelled after " ++ toString bytesWritten ++ " bytes"

/-- Whether a failure is a mistake in how caches are named or set up. -/
def isConfiguration : CacheError → Bool
  | duplicateSignature _ | unknownSignature _ | configuration _ => true
  | _ => false

end CacheError

end ResultCache
