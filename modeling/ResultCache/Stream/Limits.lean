import ResultCache.Stream

/-!
Contract: sinks that are described by their limits.

Owns: `SinkLimits`, after how many octets or at which write a sink stops taking
octets and how; the sink of some limits; and the requests to stop that go with them.

A write never takes octets beyond a limit, so that what a sink holds when it stops
is exactly what the limit says. Writes are counted from one.
-/

namespace ResultCache

/-- Where a sink stops. -/
structure SinkLimits where
  /-- The most octets that one write takes. -/
  largestWrite : Option Nat
  /-- The octets held from which on writes fail. -/
  failsAt : Option Nat
  /-- The octets held from which on writes take nothing. -/
  takesNothingAt : Option Nat
  /-- The octets held from which on writes stay pending until the request to stop
  that comes with them. -/
  pendsAt : Option Nat
  /-- The write that is interrupted. -/
  interruptedWrite : Option Nat
  /-- The write behind which there is a request to stop. -/
  cancellingWrite : Option Nat
  failsToFlush : Bool
  deriving DecidableEq, Repr

namespace SinkLimits

def reached (limit : Option Nat) (held : Nat) : Bool := limit.any fun limit => limit ≤ held

/-- The number of octets that is left of a number offered. -/
def cut (held offered : Nat) (limit : Option Nat) : Nat :=
  match limit with
  | none => offered
  | some limit => min offered (limit - held)

/-- The answer to a write that is neither interrupted nor pending. -/
def answer (limits : SinkLimits) (held offered : Nat) : Answer :=
  if reached limits.failsAt held then .fails .brokenPipe
  else if reached limits.takesNothingAt held then .accepts 0
  else
    let offered := cut 0 offered limits.largestWrite
    .accepts ([limits.failsAt, limits.takesNothingAt, limits.pendsAt].foldl (cut held) offered)

def sink (limits : SinkLimits) : Sink where
  answer _ held offered := limits.answer held offered
  interruptions := (limits.interruptedWrite.map fun write => write - 1).toList
  flushFault := if limits.failsToFlush then some .storageFull else none

/-- The requests to stop of some limits, or one that is there from the start. -/
def cancellation (limits : SinkLimits) (fromStart : Bool) : Cancellation where
  requested moment calls held :=
    fromStart || limits.cancellingWrite.any (fun write => max write 1 ≤ calls) ||
      (moment = .duringWrite && reached limits.pendsAt held)

end SinkLimits

end ResultCache
