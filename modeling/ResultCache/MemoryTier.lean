import ResultCache.Envelope
import ResultCache.KeyMap

/-!
Contract: the tier that keeps entries in memory.

Owns:
- `MemoryTier`, entries under their keys, the time to live that every put stamps,
  the policy on overwriting, and the counters;
- puts, typed reads, reads for a refresh, expiry, removal and purging.

A typed read finds a payload only when the entry has one, is fresh, and holds a
value of exactly the type asked for. Every operation takes the present instant.
-/

namespace ResultCache

/-- What a put does to an entry that is already there. -/
inductive ReplacementPolicy where
  /-- Only the provenance of the new entry is kept. -/
  | stripPayload
  /-- The new entry is kept whole. -/
  | keepPayload
  deriving DecidableEq, Repr

namespace ReplacementPolicy

def all : List ReplacementPolicy := [stripPayload, keepPayload]

def name : ReplacementPolicy → String
  | stripPayload => "strip_payload"
  | keepPayload => "keep_payload"

def ofName? (name : String) : Option ReplacementPolicy := all.find? fun policy => policy.name = name

end ReplacementPolicy

/-- What a memory tier counts. -/
structure Counters where
  hits : Nat
  misses : Nat
  /-- Misses on an entry that is expired or has no payload. -/
  staleMisses : Nat
  /-- Misses on an entry of another payload type. -/
  typeMismatches : Nat
  puts : Nat
  replacements : Nat
  invalidations : Nat
  deriving DecidableEq, Repr

namespace Counters

def zero : Counters := ⟨0, 0, 0, 0, 0, 0, 0⟩

/-- The share of reads that found something, and zero before the first. -/
def hitRate (counters : Counters) : Binary64 :=
  let reads := counters.hits + counters.misses
  if reads = 0 then .zero else (Binary64.ofNat counters.hits).divide (.ofNat reads)

end Counters

/-- Entries in memory. -/
structure MemoryTier where
  timeToLive : Duration
  policy : ReplacementPolicy
  entries : KeyMap (Envelope Payload)
  counters : Counters

namespace MemoryTier

/-- The empty tier; a time to live beyond the longest span is cut to it. -/
def create (timeToLive : Duration) (policy : ReplacementPolicy) : MemoryTier :=
  ⟨timeToLive.clamped, policy, .empty, .zero⟩

/-- The empty tier with the settings of a tier that asks for none in particular. -/
def standard : MemoryTier := create .day .stripPayload

def count (tier : MemoryTier) (change : Counters → Counters) : MemoryTier :=
  { tier with counters := change tier.counters }

def expiryFrom (tier : MemoryTier) (now : Instant) : Instant := now.later tier.timeToLive

/-- The envelope as a put stores it: stamped, and stripped where it replaces an
entry of a tier that strips. -/
def stored (tier : MemoryTier) (now : Instant) (key : Key) (envelope : Envelope Payload) :
    Envelope Payload :=
  let stamped := { envelope with expires := some (tier.expiryFrom now) }
  if tier.entries.contains key && tier.policy = .stripPayload then stamped.metadataOnly else stamped

def put (tier : MemoryTier) (now : Instant) (key : Key) (envelope : Envelope Payload) :
    MemoryTier :=
  let replaced := if tier.entries.contains key then 1 else 0
  { tier with
    entries := tier.entries.insert key (tier.stored now key envelope)
    counters :=
      { tier.counters with
        puts := tier.counters.puts + 1
        replacements := tier.counters.replacements + replaced } }

/-- A typed read: the fresh envelope of a key at a payload type. -/
def getEnvelope (tier : MemoryTier) (now : Instant) (key : Key) (type : PayloadType) :
    Option (Envelope type.Value) × MemoryTier :=
  match tier.entries.get? key with
  | none => (none, tier.count fun counters => { counters with misses := counters.misses + 1 })
  | some envelope =>
    if envelope.payload.isSome && envelope.isFreshAt now then
      if envelope.payload.all fun payload => payload.is type then
        (envelope.downcast? type,
          tier.count fun counters => { counters with hits := counters.hits + 1 })
      else
        (none, tier.count fun counters =>
          { counters with
            misses := counters.misses + 1
            typeMismatches := counters.typeMismatches + 1 })
    else
      (none, tier.count fun counters =>
        { counters with
          misses := counters.misses + 1
          staleMisses := counters.staleMisses + 1 })

def getTyped (tier : MemoryTier) (now : Instant) (key : Key) (type : PayloadType) :
    Option type.Value × MemoryTier :=
  let (envelope, tier) := tier.getEnvelope now key type
  (envelope.bind Envelope.payload, tier)

/-- The tier after a typed read that a tier built on it refused for its type. -/
def recordTypeMismatch (tier : MemoryTier) : MemoryTier :=
  tier.count fun counters =>
    { counters with
      misses := counters.misses + 1
      typeMismatches := counters.typeMismatches + 1 }

/-- The envelope of a key, expired or without payload as it may be. -/
def getForRefresh (tier : MemoryTier) (key : Key) : Option (Envelope Payload) :=
  tier.entries.get? key

def contains (tier : MemoryTier) (key : Key) : Bool := tier.entries.contains key

/-- Ends the freshness of an entry and keeps its provenance. -/
def expire (tier : MemoryTier) (now : Instant) (key : Key) : Bool × MemoryTier :=
  match tier.entries.get? key with
  | none => (false, tier)
  | some envelope =>
    (true, { tier with entries := tier.entries.insert key { envelope with expires := some now } })

def invalidate (tier : MemoryTier) (key : Key) : Bool × MemoryTier :=
  if tier.entries.contains key then
    (true,
      { tier with
        entries := tier.entries.erase key
        counters := { tier.counters with invalidations := tier.counters.invalidations + 1 } })
  else (false, tier)

def clear (tier : MemoryTier) : MemoryTier := { tier with entries := .empty }

/-- The instant that entries must expire after to outlive a purge. -/
def cutoff (now : Instant) (grace : Duration) : Instant := now.earlier grace.clamped

def outlives (cutoff : Instant) (envelope : Envelope Payload) : Bool :=
  match envelope.expires with
  | none => false
  | some expires => cutoff.before expires

/-- Removes entries that expired longer ago than a grace window; how many it removed. -/
def purgeExpired (tier : MemoryTier) (now : Instant) (grace : Duration) : Nat × MemoryTier :=
  let kept := tier.entries.filter fun _ envelope => outlives (cutoff now grace) envelope
  (tier.entries.size - kept.size, { tier with entries := kept })

def size (tier : MemoryTier) : Nat := tier.entries.size

/-- The number of entries and every counter, as a report lists them. -/
def report (tier : MemoryTier) : List Nat :=
  [tier.size, tier.counters.hits, tier.counters.misses, tier.counters.staleMisses,
    tier.counters.typeMismatches, tier.counters.puts, tier.counters.replacements,
    tier.counters.invalidations]

end MemoryTier

end ResultCache
