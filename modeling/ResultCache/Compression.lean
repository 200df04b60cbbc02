import ResultCache.Binary64.Basic
import ResultCache.Error
import ResultCache.Text

/-!
Contract: the compression stage between serialization and storage.

Owns:
- `Algorithm`, its names, and the tag that each writes in front of a frame;
- `BlockCodec`, compression and expansion of one octet sequence, which is a
  parameter: frames are right whatever undoes its own compression;
- `Compressor`, which frames every payload when an algorithm is chosen, leaves
  small payloads uncompressed inside their frame, and passes everything through
  unframed when none is chosen;
- the ratio of two sizes.

Does not own: how well a codec compresses. The sealed codec that the library
brings stores the octets behind their digest, so that it refuses any body that it
did not write.
-/

namespace ResultCache

namespace Compression

/-- A choice of compression. -/
inductive Algorithm where
  | none
  | lz4
  | zstd
  deriving DecidableEq, Repr

namespace Algorithm

def all : List Algorithm := [none, lz4, zstd]

def name : Algorithm → String
  | none => "none"
  | lz4 => "lz4"
  | zstd => "zstd"

def ofName? (name : String) : Option Algorithm := all.find? fun algorithm => algorithm.name = name

def tag : Algorithm → UInt8
  | none => 0
  | lz4 => 1
  | zstd => 2

def ofTag? (tag : UInt8) : Option Algorithm := all.find? fun algorithm => algorithm.tag = tag

end Algorithm

/-- What a compressor is set to. -/
structure Settings where
  algorithm : Algorithm
  /-- Payloads with fewer octets stay uncompressed. -/
  leastSize : Nat
  /-- How hard the stronger algorithm tries. -/
  level : Int
  deriving DecidableEq, Repr

/-- The settings of a section that names an algorithm and nothing else. -/
def Settings.ofAlgorithm (algorithm : Algorithm) : Settings := ⟨algorithm, 1024, 3⟩

/-- Compression at a level, and expansion. Either may fail. -/
structure BlockCodec where
  compress : (level : Int) → Bytes → Option Bytes
  expand : Bytes → Option Bytes

namespace BlockCodec

def sealOf (bytes : Bytes) : Bytes :=
  let digest := Text.digestBytes bytes
  ([56, 48, 40, 32, 24, 16, 8, 0] : List UInt64).map fun shift => (digest >>> shift).toUInt8

def sealed : BlockCodec where
  compress _ bytes := some (sealOf bytes ++ bytes)
  expand body :=
    let bytes := body.drop 8
    if body.take 8 = sealOf bytes then some bytes else Option.none

theorem sealOf_length (bytes : Bytes) : (sealOf bytes).length = 8 := by simp [sealOf]

/-- The sealed codec undoes its own compression. -/
theorem sealed_expand_compress (level : Int) (bytes body : Bytes)
    (compressed : sealed.compress level bytes = some body) : sealed.expand body = some bytes := by
  simp only [sealed, Option.some.injEq] at compressed ⊢
  subst compressed
  simp [sealOf_length]

end BlockCodec

/-- A compressor: settings, and the codec of each algorithm. -/
structure Compressor where
  settings : Settings
  lz4 : BlockCodec
  zstd : BlockCodec

namespace Compressor

/-- The compressor of some settings with the codecs of the library. -/
def ofSettings (settings : Settings) : Compressor := ⟨settings, .sealed, .sealed⟩

def isEnabled (compressor : Compressor) : Bool := compressor.settings.algorithm ≠ .none

def algorithmFor (compressor : Compressor) (size : Nat) : Algorithm :=
  if size < compressor.settings.leastSize then .none else compressor.settings.algorithm

def compress? (compressor : Compressor) : Algorithm → Bytes → Option Bytes
  | .none, bytes => some bytes
  | .lz4, bytes => compressor.lz4.compress 4 bytes
  | .zstd, bytes => compressor.zstd.compress compressor.settings.level bytes

def expand? (compressor : Compressor) : Algorithm → Bytes → Option Bytes
  | .none, body => some body
  | .lz4, body => compressor.lz4.expand body
  | .zstd, body => compressor.zstd.expand body

def encode (compressor : Compressor) (bytes : Bytes) : Except CacheError Bytes :=
  if compressor.isEnabled then
    let algorithm := compressor.algorithmFor bytes.length
    match compressor.compress? algorithm bytes with
    | some body => .ok (algorithm.tag :: body)
    | none => .error (.compression .corruptBody)
  else .ok bytes

def decode (compressor : Compressor) (stored : Bytes) : Except CacheError Bytes :=
  if compressor.isEnabled then
    match stored with
    | [] => .error (.compression .emptyFrame)
    | tag :: body =>
      match Algorithm.ofTag? tag with
      | none => .error (.compression (.unknownTag tag))
      | some algorithm =>
        match compressor.expand? algorithm body with
        | some bytes => .ok bytes
        | none => .error (.compression .corruptBody)
  else .ok stored

end Compressor

/-- The ratio of a plain size to a compressed size, and one when nothing is left. -/
def ratio (plain compressed : Nat) : Binary64 :=
  if compressed = 0 then .ofNat 1 else (Binary64.ofNat plain).divide (.ofNat compressed)

end Compression

end ResultCache
