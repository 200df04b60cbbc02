import ResultCache.Error
import ResultCache.Text

/-!
Contract: copying content to a sink.

Owns:
- `Sink`, what a receiver of octets answers to writes and to the final flush;
- `Cancellation`, when a request to stop takes effect;
- the blocking copy, which makes up for interrupted writes;
- the cancellable copy, which offers content piece by piece and looks for a
  request to stop before a piece, while it is fetched, before every write, and
  while a write is pending;
- `Delivery`, what the copy came to and what the sink holds afterwards.

Does not own: which content may be copied. A copy moves octets and never looks
into them, so characters may be split between writes.
-/

namespace ResultCache

/-- What a sink answers to a write. -/
inductive Answer where
  /-- It takes so many of the octets offered, or all when there are fewer. -/
  | accepts (count : Nat)
  /-- It takes nothing and fails. -/
  | fails (fault : IoFault)
  deriving DecidableEq, Repr

/-- A receiver of octets. -/
structure Sink where
  /-- The answer to a write, from the number of writes before it, the octets held
  and the octets offered. -/
  answer : (calls held offered : Nat) → Answer
  /-- The writes, counted from zero, that are interrupted before they take anything. -/
  interruptions : List Nat
  /-- Why the final flush fails, if it does. -/
  flushFault : Option IoFault

/-- The moments at which a cancellable copy looks for a request to stop. -/
inductive Moment where
  | beforePiece
  | duringFetch
  | beforeWrite
  | duringWrite
  deriving DecidableEq, Repr

/-- Requests to stop. -/
structure Cancellation where
  /-- Whether the request is there at a moment, after so many writes, with so many
  octets held by the sink. -/
  requested : Moment → (calls held : Nat) → Bool

def Cancellation.never : Cancellation := ⟨fun _ _ _ => false⟩

/-- What a copy came to. -/
structure Delivery where
  /-- The octets written, when all of them were and the flush succeeded. -/
  outcome : Except CacheError Nat
  /-- What the sink holds. -/
  received : Bytes
  /-- How often the sink was flushed. -/
  flushes : Nat

def Delivery.refused (failure : CacheError) : Delivery := ⟨.error failure, [], 0⟩

/-- A copy under way. -/
structure Transfer where
  /-- Writes so far. -/
  calls : Nat
  /-- The number of octets that the sink holds. -/
  held : Nat
  /-- The octets that the sink holds, the latest first. -/
  taken : Bytes

namespace Transfer

def start : Transfer := ⟨0, 0, []⟩

def called (transfer : Transfer) : Transfer := { transfer with calls := transfer.calls + 1 }

def took (transfer : Transfer) (octets : Bytes) : Transfer :=
  ⟨transfer.calls + 1, transfer.held + octets.length, octets.reverseAux transfer.taken⟩

/-- The end of a copy: a flush when nothing stopped it. -/
def finish (transfer : Transfer) (sink : Sink) (stopped : Option CacheError) : Delivery :=
  match stopped, sink.flushFault with
  | some failure, _ => ⟨.error failure, transfer.taken.reverse, 0⟩
  | none, some fault => ⟨.error (.io fault), transfer.taken.reverse, 1⟩
  | none, none => ⟨.ok transfer.held, transfer.taken.reverse, 1⟩

/-! ### The blocking copy -/

/-- Writes so many octets from the front of those given. An interrupted write is
made again; each interruption is met once. -/
def writeAll (sink : Sink) (interruptions : List Nat) (transfer : Transfer) (left : Nat)
    (octets : Bytes) : Transfer × Option CacheError :=
  if left = 0 then (transfer, none)
  else if transfer.calls ∈ interruptions then
    writeAll sink (interruptions.erase transfer.calls) transfer.called left octets
  else
    match sink.answer transfer.calls transfer.held left with
    | .fails fault => (transfer.called, some (.io fault))
    | .accepts count =>
      let size := min count left
      if size = 0 then (transfer.called, some (.io .writeZero))
      else
        writeAll sink interruptions (transfer.took (octets.take size)) (left - size)
          (octets.drop size)
termination_by left + interruptions.length
decreasing_by
  · rename_i met
    have shorter := List.length_erase_of_mem met
    have present := List.length_pos_of_mem met
    omega
  · omega

def copy (sink : Sink) (content : Bytes) : Delivery :=
  let (transfer, stopped) := writeAll sink sink.interruptions start content.length content
  transfer.finish sink stopped

/-! ### The cancellable copy -/

/-- The number of octets that one piece has at most. -/
def pieceSize : Nat := 64 * 1024

/-- The piece of content at an offset: a full one, or what is left of the content. -/
def pieceAt (content : Bytes) (offset : Nat) : Bytes := (content.drop offset).take pieceSize

/-- Writes so many octets from the front of those given, unless a request to stop
comes between. A write that is pending when the request comes has taken nothing. -/
def writePiece (sink : Sink) (cancellation : Cancellation) (transfer : Transfer) (left : Nat)
    (octets : Bytes) : Transfer × Option CacheError :=
  if left = 0 then (transfer, none)
  else if cancellation.requested .beforeWrite transfer.calls transfer.held then
    (transfer, some (.cancelled transfer.held))
  else if transfer.calls ∈ sink.interruptions then (transfer.called, some (.io .interrupted))
  else if cancellation.requested .duringWrite transfer.calls transfer.held then
    (transfer.called, some (.cancelled transfer.held))
  else
    match sink.answer transfer.calls transfer.held left with
    | .fails fault => (transfer.called, some (.io fault))
    | .accepts count =>
      let size := min count left
      if size = 0 then (transfer.called, some (.io .writeZero))
      else
        writePiece sink cancellation (transfer.took (octets.take size)) (left - size)
          (octets.drop size)
termination_by left

/-- Octets that were all written are all held. -/
theorem held_writePiece {sink : Sink} {cancellation : Cancellation} {transfer : Transfer}
    {left : Nat} {octets : Bytes} (enough : left ≤ octets.length)
    (unstopped : (writePiece sink cancellation transfer left octets).2 = none) :
    (writePiece sink cancellation transfer left octets).1.held = transfer.held + left := by
  fun_induction writePiece sink cancellation transfer left octets with
  | case1 => rfl
  | case2 | case3 | case4 | case5 | case6 => cases unstopped
  | case7 transfer left octets _ _ _ _ count _ size _ inductionHypothesis =>
      have rest : left - size ≤ (octets.drop size).length := by
        rw [List.length_drop]
        omega
      have taken : (octets.take size).length = size := by
        rw [List.length_take]
        omega
      rw [inductionHypothesis rest unstopped, took, taken]
      change transfer.held + size + (left - size) = transfer.held + left
      omega

/-- Fetches and writes pieces of content from the offset that the copy has reached,
as long as octets are missing, unless a request to stop comes between. -/
def writeFrom (sink : Sink) (cancellation : Cancellation) (content : Bytes)
    (transfer : Transfer) : Transfer × Option CacheError :=
  if cancellation.requested .beforePiece transfer.calls transfer.held ||
      cancellation.requested .duringFetch transfer.calls transfer.held then
    (transfer, some (.cancelled transfer.held))
  else
    let piece := pieceAt content transfer.held
    if piece.length = 0 then (transfer, none)
    else
      let written := writePiece sink cancellation transfer piece.length piece
      if written.2 = none ∧ written.1.held < content.length then
        writeFrom sink cancellation content written.1
      else written
termination_by content.length - transfer.held
decreasing_by
  rename_i some missing
  have further : written.1.held = transfer.held + piece.length :=
    held_writePiece (Nat.le_refl _) missing.1
  change content.length - written.1.held < content.length - transfer.held
  omega

def copyCancellable (sink : Sink) (cancellation : Cancellation) (content : Bytes) : Delivery :=
  let (transfer, stopped) := writeFrom sink cancellation content start
  transfer.finish sink stopped

end Transfer

end ResultCache
