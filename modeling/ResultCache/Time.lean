/-!
Contract: instants, durations, and saturating arithmetic between them.

Owns:
- `Duration`, a length of time counted in nanoseconds, and the largest length
  that a time to live or a grace window is ever taken as;
- `Instant`, a point of civil time in seconds and nanoseconds, ordered
  lexicographically so that a leap second sorts inside its minute;
- addition and subtraction that stay within the representable range.

Does not own: the clock. Every operation that depends on time takes the present
instant as an argument.
-/

namespace ResultCache

/-- A length of time in nanoseconds. -/
structure Duration where
  nanoseconds : Nat
  deriving DecidableEq, Repr

namespace Duration

def perSecond : Nat := 1000000000

def ofParts (seconds nanoseconds : Nat) : Duration := ⟨seconds * perSecond + nanoseconds⟩

def ofSeconds (seconds : Nat) : Duration := ofParts seconds 0

def wholeSeconds (duration : Duration) : Nat := duration.nanoseconds / perSecond

def subsecond (duration : Duration) : Nat := duration.nanoseconds % perSecond

/-- The longest signed span of time: as many milliseconds as a signed 64-bit
word counts. -/
def longestSpan : Duration := ofParts 9223372036854775 807000000

/-- The duration as a signed span: cut to the longest one. -/
def clamped (duration : Duration) : Duration :=
  if duration.nanoseconds ≤ longestSpan.nanoseconds then duration else longestSpan

def day : Duration := ofSeconds (24 * 60 * 60)

end Duration

/-- A point in time: seconds since the epoch and nanoseconds within the second.
The nanoseconds reach a second or more only inside a leap second. -/
structure Instant where
  seconds : Int
  nanoseconds : Nat
  deriving DecidableEq, Repr

namespace Instant

def earliest : Instant := ⟨-8334601228800, 0⟩

/-- The latest representable instant outside a leap second. -/
def latest : Instant := ⟨8210266876799, 999999999⟩

/-- Strictly earlier: by seconds first, by nanoseconds within one second. -/
def before (first second : Instant) : Bool :=
  first.seconds < second.seconds ||
    (first.seconds == second.seconds && first.nanoseconds < second.nanoseconds)

def sinceEpoch (instant : Instant) : Int :=
  instant.seconds * (Duration.perSecond : Int) + instant.nanoseconds

def ofSinceEpoch (nanoseconds : Int) : Instant :=
  ⟨Int.fdiv nanoseconds Duration.perSecond, (Int.fmod nanoseconds Duration.perSecond).toNat⟩

/-- The instant a span later, when it is representable. -/
def later? (instant : Instant) (span : Duration) : Option Instant :=
  let moved := ofSinceEpoch (instant.sinceEpoch + span.nanoseconds)
  if latest.before moved then none else some moved

/-- The instant a span earlier, when it is representable. -/
def earlier? (instant : Instant) (span : Duration) : Option Instant :=
  let moved := ofSinceEpoch (instant.sinceEpoch - span.nanoseconds)
  if moved.before earliest then none else some moved

/-- The instant a span later, or the latest one. -/
def later (instant : Instant) (span : Duration) : Instant := (instant.later? span).getD latest

/-- The instant a span earlier, or the earliest one. -/
def earlier (instant : Instant) (span : Duration) : Instant :=
  (instant.earlier? span).getD earliest

end Instant

end ResultCache
