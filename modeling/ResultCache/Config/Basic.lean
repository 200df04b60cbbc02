import ResultCache.MemoryTier
import ResultCache.Persistent.Settings
import ResultCache.Serializer

/-!
Contract: configurations of a registry.

Owns:
- `CacheConfig`, its logging section, its signatures and their persistent sections,
  with the values that hold where a section says nothing;
- the settings of the tier that a persistent section asks for, or the reason why
  the section asks for none that exists.

Does not own: the document that a configuration is read from.
-/

namespace ResultCache

namespace Config

/-- What is logged, and how. -/
structure Logging where
  level : String
  format : String
  deriving DecidableEq, Repr

def Logging.standard : Logging := ⟨"info", "json"⟩

/-- The persistent section of a signature. -/
structure Section extends Persistent.Tuning where
  provider : String
  format : Format
  compression : Compression.Algorithm
  deriving DecidableEq, Repr

namespace Section

def knownProvider : String := "sqlite"

def standard : Section := ⟨.standard, knownProvider, .json, .none⟩

/-- The settings of the tier that a section asks for. -/
def toSettings (config : Section) : Except CacheError Persistent.Settings :=
  if config.provider.map Char.toLower ≠ knownProvider then
    .error (.configuration (.unknownProvider config.provider))
  else if config.textFormat && !config.format.supportsText then
    .error (.configuration (.sectionFormatNotText config.format.title))
  else if config.textFormat && config.compression ≠ .none then
    .error (.configuration .sectionCompressionNeedsBinary)
  else .ok ⟨config.toTuning, .ofAlgorithm config.compression⟩

end Section

/-- One database signature. -/
structure Signature where
  name : String
  timeToLiveSeconds : Nat
  includeLiterals : Bool
  /-- What a put does to a present entry when there is no persistent section. -/
  replacement : ReplacementPolicy
  persistent : Option Section
  deriving DecidableEq, Repr

namespace Signature

def memory (name : String) : Signature :=
  ⟨name, Duration.day.wholeSeconds, true, .stripPayload, none⟩

/-- The time to live of the entries of a signature. -/
def timeToLive (signature : Signature) : Duration := .ofSeconds signature.timeToLiveSeconds

end Signature

end Config

/-- A configuration: logging, and signatures in the order they are built in. -/
structure CacheConfig where
  logging : Config.Logging
  signatures : List Config.Signature
  deriving DecidableEq, Repr

namespace CacheConfig

def standard : CacheConfig := ⟨.standard, []⟩

def signature? (config : CacheConfig) (name : String) : Option Config.Signature :=
  config.signatures.find? fun signature => signature.name = name

end CacheConfig

end ResultCache
