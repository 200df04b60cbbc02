import ResultCache.Config.Basic
import ResultCache.Yaml.Typed

/-!
Contract: configurations from YAML documents.

Owns: the fields of every section, what is left out, and what is refused; and the
failures of reading a configuration from a file.
-/

namespace ResultCache

namespace Config

open Yaml

/-- The logging section; both of its fields have to be given. -/
def Logging.ofNode? (document : Document) (node : Node) : Option Logging := do
  let fields ← document.fields? node
  let level ← required? fields "level" document.text?
  let format ← required? fields "format" document.text?
  return ⟨level, format⟩

/-- A persistent section; all of its fields may be left out. -/
def Section.ofNode? (document : Document) (node : Node) : Option Section := do
  let fields ← document.fields? node
  let provider ← optional? fields "provider" standard.provider document.text?
  let path ← optional? fields "path" standard.path (document.option? document.text?)
  let textFormat ← optional? fields "text_format" standard.textFormat document.bool?
  let format ← optional? fields "format" standard.format (document.alternative? Format.ofName?)
  let compression ← optional? fields "compression" standard.compression
    (document.alternative? Compression.Algorithm.ofName?)
  let journalMode ← optional? fields "journal_mode" standard.journalMode
    (document.alternative? Persistent.JournalMode.ofName?)
  let synchronous ← optional? fields "synchronous" standard.synchronous
    (document.alternative? Persistent.Synchronous.ofName?)
  let pageSize ← optional? fields "page_size" standard.pageSize (document.natural? 0xffffffff)
  let cacheSize ← optional? fields "cache_size" standard.cacheSize
    (document.integer? (-0x8000000000000000) 0x7fffffffffffffff)
  let exclusiveLocking ← optional? fields "exclusive_locking" standard.exclusiveLocking
    document.bool?
  return {
    provider, path, textFormat, format, compression, journalMode, synchronous, pageSize,
    cacheSize, exclusiveLocking }

/-- A signature; its name has to be given. -/
def Signature.ofNode? (document : Document) (node : Node) : Option Signature := do
  let fields ← document.fields? node
  let name ← required? fields "name" document.text?
  let absent := memory name
  let timeToLiveSeconds ← optional? fields "ttl_secs" absent.timeToLiveSeconds
    (document.natural? 0xffffffffffffffff)
  let includeLiterals ← optional? fields "include_literal_values" absent.includeLiterals
    document.bool?
  let replacement ← optional? fields "standalone_replacement" absent.replacement
    (document.alternative? ReplacementPolicy.ofName?)
  let persistent ← optional? fields "persistent" absent.persistent
    (document.option? (Section.ofNode? document))
  return ⟨name, timeToLiveSeconds, includeLiterals, replacement, persistent⟩

/-- Why a configuration cannot be read from a file. -/
inductive LoadFault where
  /-- The file is not there, or is not text. -/
  | io (fault : IoFault)
  /-- The text is no document of a configuration. -/
  | document
  deriving DecidableEq, Repr

end Config

namespace CacheConfig

open Yaml

/-- The configuration of a document; one without content says nothing. -/
def ofDocument? (document : Document) : Option CacheConfig :=
  match document.root with
  | none => some standard
  | some root => do
    let fields ← document.fields? root
    let logging ← optional? fields "logging" standard.logging (Config.Logging.ofNode? document)
    let signatures ← optional? fields "signatures" standard.signatures
      (document.list? (Config.Signature.ofNode? document))
    return ⟨logging, signatures⟩

def ofText? (text : String) : Option CacheConfig := (Document.ofText? text).bind ofDocument?

/-- The configuration in a file, given what the file holds if it is there. -/
def ofFile : Option Bytes → Except Config.LoadFault CacheConfig
  | none => .error (.io .notFound)
  | some octets =>
    match Text.ofBytes? octets with
    | none => .error (.io .invalidData)
    | some text =>
      match ofText? text with
      | none => .error .document
      | some config => .ok config

end CacheConfig

end ResultCache
