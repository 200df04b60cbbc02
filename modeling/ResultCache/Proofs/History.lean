import Mathlib.Data.List.ReduceOption
import ResultCache.Proofs.Time.Order

/-!
Contract: runs of operations that are made at instants.

Owns:
- `History`, operations with their instants, and when their clock never goes back;
- the state that a run ends in, the trace of what is observed on the way, and the notes
  that a witness takes on the way, and what holds of each operation in the state it meets;
- the induction from one step to a whole run: for an invariant of one system, for a
  relation between a system and the notes on it, for one between two systems that are run
  side by side, and for what both show;
- `History.only`, a history with operations left out, as a system that passes over them.

Does not own: any system. A system is its step function.
-/

namespace ResultCache

/-- Operations in the order they are made in, each with its instant. -/
abbrev History (Operation : Type) := List (Instant × Operation)

namespace History

variable {Operation State First Second Observation : Type}

/-- The clock of a history never goes back. -/
def IsOrdered (history : History Operation) : Prop :=
  history.Pairwise fun earlier later => earlier.1 ≤ later.1

instance (history : History Operation) : Decidable history.IsOrdered :=
  inferInstanceAs (Decidable (history.Pairwise _))

/-- When a history starts: at its first operation, or now. -/
def start (history : History Operation) (now : Instant) : Instant :=
  (history.head?.map Prod.fst).getD now

/-- There is an instant that no operation comes after. -/
theorem exists_end (history : History Operation) : ∃ now, ∀ event ∈ history, event.1 ≤ now := by
  induction history with
  | nil => exact ⟨.earliest, by simp⟩
  | cons event rest inductionHypothesis =>
      obtain ⟨now, ended⟩ := inductionHypothesis
      refine ⟨max event.1 now, ?_⟩
      intro other member
      rcases List.mem_cons.1 member with rfl | later
      · exact le_max_left _ _
      · exact (ended other later).trans (le_max_right _ _)

/-- The state that a history leads to. -/
def run (perform : State → Instant → Operation → State) : State → History Operation → State
  | state, [] => state
  | state, (now, operation) :: rest => run perform (perform state now operation) rest

/-- What is observed of every operation, in order. -/
def trace (perform : State → Instant → Operation → State)
    (observe : State → Instant → Operation → Observation) :
    State → History Operation → List Observation
  | _, [] => []
  | state, (now, operation) :: rest =>
    observe state now operation :: trace perform observe (perform state now operation) rest

/-- What a witness of a history notes down: a record of its own, that it brings up to date
at every operation in view of the state that the operation meets. -/
def follow {Note : Type} (perform : State → Instant → Operation → State)
    (update : State → Instant → Note → Operation → Note) :
    State → Note → History Operation → Note
  | _, note, [] => note
  | state, note, (now, operation) :: rest =>
    follow perform update (perform state now operation) (update state now note operation) rest

/-- What is said of operations holds of each operation of a history, in the state it meets. -/
def Each (perform : State → Instant → Operation → State)
    (Says : State → Instant → Operation → Prop) : State → History Operation → Prop
  | _, [] => True
  | state, (now, operation) :: rest =>
    Says state now operation ∧ Each perform Says (perform state now operation) rest

/-- What every step preserves, a run preserves. -/
theorem run_preserves {perform : State → Instant → Operation → State} {Holds : State → Prop}
    (step : ∀ state now operation, Holds state → Holds (perform state now operation))
    (history : History Operation) {state : State} (holds : Holds state) :
    Holds (run perform state history) := by
  induction history generalizing state with
  | nil => exact holds
  | cons event rest inductionHypothesis =>
      exact inductionHypothesis (step state event.1 event.2 holds)

section Invariant

variable {perform : State → Instant → Operation → State} {Holds : State → Prop}
  {Allowed : Instant → Operation → Prop}
  (step : ∀ state now operation, Allowed now operation → Holds state →
    Holds (perform state now operation))

include step

/-- What every allowed step preserves, a run of such steps preserves. -/
theorem run_preserves_of_allowed {history : History Operation}
    (allowed : ∀ event ∈ history, Allowed event.1 event.2) {state : State} (holds : Holds state) :
    Holds (run perform state history) := by
  induction history generalizing state with
  | nil => exact holds
  | cons event rest inductionHypothesis =>
      have here := step state event.1 event.2 (allowed event List.mem_cons_self) holds
      exact inductionHypothesis (fun other member => allowed other (.tail _ member)) here

/-- What the invariant says of every allowed operation holds of each in its turn. -/
theorem each_of_invariant {Says : State → Instant → Operation → Prop}
    (told : ∀ state now operation, Allowed now operation → Holds state →
      Says state now operation)
    {history : History Operation} (allowed : ∀ event ∈ history, Allowed event.1 event.2)
    {state : State} (holds : Holds state) : Each perform Says state history := by
  induction history generalizing state with
  | nil => trivial
  | cons event rest inductionHypothesis =>
      have allowedNow := allowed event List.mem_cons_self
      have here := step state event.1 event.2 allowedNow holds
      exact ⟨told state event.1 event.2 allowedNow holds,
        inductionHypothesis (fun other member => allowed other (.tail _ member)) here⟩

end Invariant

/-- What every step preserves between a state and the notes on it, a run preserves. -/
theorem follow_preserves {Note : Type} {perform : State → Instant → Operation → State}
    {update : State → Instant → Note → Operation → Note} {Holds : State → Note → Prop}
    (step : ∀ state now note operation, Holds state note →
      Holds (perform state now operation) (update state now note operation))
    (history : History Operation) {state : State} {note : Note} (holds : Holds state note) :
    Holds (run perform state history) (follow perform update state note history) := by
  induction history generalizing state note with
  | nil => exact holds
  | cons event rest inductionHypothesis =>
      exact inductionHypothesis (step state event.1 note event.2 holds)

/-- Two systems that every step keeps related, and that show the same whenever they are
related, show the same all along, whatever the clock does. -/
theorem trace_eq {performFirst : First → Instant → Operation → First}
    {performSecond : Second → Instant → Operation → Second}
    {observeFirst : First → Instant → Operation → Observation}
    {observeSecond : Second → Instant → Operation → Observation} {Related : First → Second → Prop}
    (step : ∀ now first second operation, Related first second →
      Related (performFirst first now operation) (performSecond second now operation))
    (observed : ∀ now first second operation, Related first second →
      observeFirst first now operation = observeSecond second now operation)
    (history : History Operation) {first : First} {second : Second}
    (related : Related first second) :
    trace performFirst observeFirst first history =
      trace performSecond observeSecond second history := by
  induction history generalizing first second with
  | nil => rfl
  | cons event rest inductionHypothesis =>
      simp only [trace]
      rw [observed _ _ _ event.2 related, inductionHypothesis (step _ _ _ event.2 related)]

section Related

variable {performFirst : First → Instant → Operation → First}
  {performSecond : Second → Instant → Operation → Second}
  {Related : Instant → First → Second → Prop} {Allowed : Instant → Operation → Prop}

/-- A relation between two systems that time does not break, and that both keep,
holds at the end of a common history when it holds at its start. -/
theorem run_related
    (wait : ∀ past now first second, past ≤ now → Related past first second →
      Related now first second)
    (step : ∀ now first second operation, Allowed now operation → Related now first second →
      Related now (performFirst first now operation) (performSecond second now operation))
    {history : History Operation} (ordered : history.IsOrdered)
    (allowed : ∀ event ∈ history, Allowed event.1 event.2)
    {now : Instant} (ended : ∀ event ∈ history, event.1 ≤ now)
    {first : First} {second : Second} (related : Related (history.start now) first second) :
    Related now (run performFirst first history) (run performSecond second history) := by
  induction history generalizing first second with
  | nil => exact related
  | cons event rest inductionHypothesis =>
      have parts := List.pairwise_cons.1 ordered
      have endedLater : ∀ other ∈ rest, other.1 ≤ now := by
        intro other member
        exact ended other (List.mem_cons_of_mem _ member)
      -- The relation waits from this event for the next one, or for the end.
      have forward : event.1 ≤ start rest now := by
        cases rest with
        | nil => exact ended event List.mem_cons_self
        | cons next later => exact parts.1 next List.mem_cons_self
      apply inductionHypothesis parts.2
      · intro other member
        exact allowed other (List.mem_cons_of_mem _ member)
      · exact endedLater
      · exact wait _ _ _ _ forward
          (step _ _ _ event.2 (allowed event List.mem_cons_self) related)

/-- Two systems that are related all along, and show the same whenever they are
related, show the same all along. -/
theorem trace_eq_of_related
    {observeFirst : First → Instant → Operation → Observation}
    {observeSecond : Second → Instant → Operation → Observation}
    (wait : ∀ past now first second, past ≤ now → Related past first second →
      Related now first second)
    (step : ∀ now first second operation, Allowed now operation → Related now first second →
      Related now (performFirst first now operation) (performSecond second now operation))
    (observed : ∀ now first second operation, Allowed now operation →
      Related now first second →
      observeFirst first now operation = observeSecond second now operation)
    {history : History Operation} (ordered : history.IsOrdered)
    (allowed : ∀ event ∈ history, Allowed event.1 event.2)
    {first : First} {second : Second}
    (related : ∀ event ∈ history.head?, Related event.1 first second) :
    trace performFirst observeFirst first history =
      trace performSecond observeSecond second history := by
  induction history generalizing first second with
  | nil => rfl
  | cons event rest inductionHypothesis =>
      have parts := List.pairwise_cons.1 ordered
      have allowedNow := allowed event List.mem_cons_self
      have atEvent : Related event.1 first second := related event rfl
      have next : ∀ other ∈ rest.head?, Related other.1
          (performFirst first event.1 event.2) (performSecond second event.1 event.2) := by
        intro other member
        exact wait _ _ _ _ (parts.1 other (List.mem_of_mem_head? member))
          (step _ _ _ event.2 allowedNow atEvent)
      have allowedLater : ∀ other ∈ rest, Allowed other.1 other.2 := by
        intro other member
        exact allowed other (List.mem_cons_of_mem _ member)
      simp only [trace]
      rw [observed _ _ _ event.2 allowedNow atEvent, inductionHypothesis parts.2 allowedLater next]

end Related

/-! ### Operations left out -/

/-- The operations of a history that are kept. -/
def only (keep : Operation → Bool) (history : History Operation) : History Operation :=
  history.filter fun event => keep event.2

theorem only_cons (keep : Operation → Bool) (now : Instant) (operation : Operation)
    (rest : History Operation) :
    only keep ((now, operation) :: rest) =
      if keep operation then (now, operation) :: only keep rest else only keep rest :=
  List.filter_cons

/-- The system that passes over the operations that are not kept. -/
def passing (keep : Operation → Bool) (perform : State → Instant → Operation → State)
    (state : State) (now : Instant) (operation : Operation) : State :=
  if keep operation then perform state now operation else state

/-- Leaving operations out of a history is passing over them. -/
theorem run_only (keep : Operation → Bool) (perform : State → Instant → Operation → State)
    (history : History Operation) (state : State) :
    run perform state (only keep history) = run (passing keep perform) state history := by
  induction history generalizing state with
  | nil => rfl
  | cons event rest inductionHypothesis =>
      obtain ⟨now, operation⟩ := event
      rw [only_cons]
      by_cases kept : keep operation = true
      · simp only [run, passing, if_pos kept]
        exact inductionHypothesis _
      · simp only [run, passing, if_neg kept]
        exact inductionHypothesis _

/-- Nor does it show in what is observed, when nothing is observed of what is left out. -/
theorem trace_only {keep : Operation → Bool} {perform : State → Instant → Operation → State}
    {observe : State → Instant → Operation → Option Observation}
    (silent : ∀ state now operation, keep operation ≠ true → observe state now operation = none)
    (history : History Operation) (state : State) :
    (trace perform observe state (only keep history)).reduceOption =
      (trace (passing keep perform) observe state history).reduceOption := by
  induction history generalizing state with
  | nil => rfl
  | cons event rest inductionHypothesis =>
      obtain ⟨now, operation⟩ := event
      rw [only_cons]
      by_cases kept : keep operation = true
      · simp only [trace, passing, if_pos kept]
        cases observe state now operation with
        | none => exact inductionHypothesis _
        | some observation => exact congrArg (observation :: ·) (inductionHypothesis _)
      · simp only [trace, passing, if_neg kept, silent state now operation kept]
        exact inductionHypothesis _

/-- Operations do not show when a system that makes them stays related to one that passes
over them, and both show the same whenever they are related. -/
theorem only_alike {keep : Operation → Bool} {perform : State → Instant → Operation → State}
    {observe : State → Instant → Operation → Option Observation}
    {Related : Instant → State → State → Prop} {Allowed : Instant → Operation → Prop}
    (wait : ∀ past now first second, past ≤ now → Related past first second →
      Related now first second)
    (step : ∀ now first second operation, Allowed now operation → Related now first second →
      Related now (perform first now operation) (passing keep perform second now operation))
    (observed : ∀ now first second operation, Allowed now operation →
      Related now first second → observe first now operation = observe second now operation)
    (silent : ∀ state now operation, keep operation ≠ true → observe state now operation = none)
    {history : History Operation} (ordered : history.IsOrdered)
    (allowed : ∀ event ∈ history, Allowed event.1 event.2) {state : State}
    (related : ∀ now, Related now state state) :
    (trace perform observe state history).reduceOption =
        (trace perform observe state (only keep history)).reduceOption ∧
      ∃ now, Related now (run perform state history) (run perform state (only keep history)) := by
  constructor
  · rw [trace_only silent]
    apply congrArg List.reduceOption
    exact trace_eq_of_related wait step observed ordered allowed fun event _ => related event.1
  · obtain ⟨now, ended⟩ := history.exists_end
    refine ⟨now, ?_⟩
    rw [run_only]
    exact run_related wait step ordered allowed ended (related _)

end History

end ResultCache
