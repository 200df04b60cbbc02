import Mathlib.Data.List.Forall2
import Mathlib.Data.Option.Basic
import ResultCache.Payload
import ResultCache.Proofs.Json.Value

/-!
Contract: values of payload types, looked at as a whole.

Owns:
- that the integers of every format have at most sixty-four bits;
- `PayloadType.covered`, the payload types that caches are used with;
- conditions on all doubles and all JSON values that a value holds, and the four that the
  formats ask about: that the value is as its type has it, that it holds no double, that its
  JSON values are not too deep for a reader, and that its doubles are settled;
- when two values are alike: equal up to the payloads of NaNs;
- which types tell an absent value apart from a present one when both are written as null;
- how many containers stand around the parts of a value, a limit on the lengths inside one, and
  which types are free of JSON values.

Does not own: how values are written.
-/

namespace ResultCache

/-- Equality of doubles that takes all NaNs as equal. -/
def Binary64.Alike (first second : Binary64) : Prop :=
  first = second ∨ first.isNaN = true ∧ second.isNaN = true

/-- Pairs whose indices are in order are the entries of their map. -/
theorem SortedMap.entries_ofPairs {Index Value : Type} [Ord Index] [Std.TransOrd Index]
    [Std.LawfulEqOrd Index] {pairs : List (Index × Value)}
    (sorted : (pairs.map Prod.fst).Pairwise fun first second => compare first second = .lt) :
    (ofPairs pairs).entries = pairs :=
  congrArg entries (ofPairs_entries ⟨pairs, List.pairwise_map.1 sorted⟩)

namespace IntegerFormat

theorem bounds (format : IntegerFormat) :
    -0x8000000000000000 ≤ format.least ∧ format.greatest ≤ 0xffffffffffffffff := by
  obtain ⟨signed, width⟩ := format
  cases signed <;> cases width <;> decide

/-- The integers of every format are among those of JSON values. -/
theorem fitsWord {format : IntegerFormat} (value : format.Value) :
    Json.Number.FitsWord value.val :=
  ⟨format.bounds.1.trans value.property.1, value.property.2.trans format.bounds.2⟩

/-- A machine integer as a value of its format. -/
def ofInt64 (number : Int64) : i64.Value :=
  ⟨number.toInt, Int64.le_toInt number, Int.le_sub_one_of_lt (Int64.toInt_lt number)⟩

end IntegerFormat

namespace ElementType

/-- A condition on the doubles and one on the JSON values that a value holds. -/
def Each (double : Binary64 → Prop) (json : Json.Value → Prop) :
    (element : ElementType) → element.Value → Prop
  | .double, (value : Binary64) => double value
  | .json, (value : Json.Value) => json value
  | .row, (value : Row) => ∀ score ∈ value.score, double score
  | .option item, (value : Option item.Value) => ∀ held ∈ value, item.Each double json held
  | .list item, (values : List item.Value) => ∀ value ∈ values, item.Each double json value
  | .map index item, (values : SortedMap index.Value item.Value) =>
    ∀ entry ∈ values.entries, item.Each double json (entry : index.Value × item.Value).2
  | .unit, _ | .bool, _ | .integer _, _ | .char, _ | .text, _ | .status, _ => True

theorem Each.mono {double double' : Binary64 → Prop} {json json' : Json.Value → Prop}
    (doubles : ∀ number, double number → double' number) (values : ∀ value, json value → json' value)
    {element : ElementType} {value : element.Value} (each : element.Each double json value) :
    element.Each double' json' value := by
  induction element with
  | double => exact doubles _ each
  | json => exact values _ each
  | row => exact fun score held => doubles score (each score held)
  | option item inductionHypothesis => exact fun held present => inductionHypothesis (each held present)
  | list item inductionHypothesis => exact fun held member => inductionHypothesis (each held member)
  | map index item inductionHypothesis =>
      exact fun entry member => inductionHypothesis (each entry member)
  | unit | bool | integer | char | text | status => trivial

/-- Equality up to the payloads of NaNs. A JSON value holds none. -/
def Alike : (element : ElementType) → element.Value → element.Value → Prop
  | .double => fun first second : Binary64 => first.Alike second
  | .row => fun first second : Row => first.id = second.id ∧ first.name = second.name ∧
      Option.Rel Binary64.Alike first.score second.score
  | .option item => fun first second : Option item.Value => Option.Rel item.Alike first second
  | .list item => fun first second : List item.Value => List.Forall₂ item.Alike first second
  | .map index item => fun first second : SortedMap index.Value item.Value =>
      List.Forall₂ (fun entry other => entry.1 = other.1 ∧ item.Alike entry.2 other.2)
        first.entries second.entries
  | .unit | .bool | .integer _ | .char | .text | .json | .status => Eq

theorem Alike.refl {element : ElementType} (value : element.Value) : element.Alike value value := by
  induction element with
  | double => exact .inl rfl
  | row =>
      refine ⟨rfl, rfl, ?_⟩
      cases Row.score value with
      | none => exact .none
      | some score => exact .some (.inl rfl)
  | option item inductionHypothesis =>
      cases (value : Option item.Value) with
      | none => exact .none
      | some held => exact .some (inductionHypothesis held)
  | list item inductionHypothesis =>
      exact List.forall₂_same.2 fun held _ => inductionHypothesis held
  | map index item inductionHypothesis =>
      exact List.forall₂_same.2 fun entry _ => ⟨rfl, inductionHypothesis entry.2⟩
  | unit | bool | integer | char | text | json | status => rfl

/-- A type none of whose values is written as null. -/
def neverNull : ElementType → Bool
  | .unit | .double | .json | .option _ => false
  | .bool | .integer _ | .char | .text | .row | .status | .list _ | .map _ _ => true

/-- A type whose absent values are the only ones that are written as null where they may be
absent. -/
def tellsNull : ElementType → Bool
  | .option item => item.neverNull && item.tellsNull
  | .list item | .map _ item => item.tellsNull
  | .unit | .bool | .integer _ | .double | .char | .text | .json | .row | .status => true

/-- How many lists and maps stand around the innermost parts of values. -/
def height : ElementType → Nat
  | .option item => item.height
  | .list item | .map _ item => item.height + 1
  | .unit | .bool | .integer _ | .double | .char | .text | .json | .row | .status => 0

/-- A type whose values hold no JSON values. -/
def freeOfJson : ElementType → Bool
  | .json => false
  | .option item | .list item | .map _ item => item.freeOfJson
  | .unit | .bool | .integer _ | .double | .char | .text | .row | .status => true

end ElementType

def Status.ShorterThan (limit : Nat) : Status → Prop
  | .pair _ label => Text.ShorterThan limit label
  | .idle | .level _ | .box _ _ => True

def IndexType.ShorterThan (limit : Nat) : (index : IndexType) → index.Value → Prop
  | .text, (key : String) => Text.ShorterThan limit key
  | .integer, _ | .integerPair, _ => True

/-- No text, list or map of the value is as long as the limit. -/
def ElementType.ShorterThan (limit : Nat) : (element : ElementType) → element.Value → Prop
  | .text, (value : String) => Text.ShorterThan limit value
  | .json, (value : Json.Value) => value.ShorterThan limit
  | .row, (value : Row) => Text.ShorterThan limit value.name
  | .status, (value : Status) => value.ShorterThan limit
  | .option item, (value : Option item.Value) => ∀ held ∈ value, item.ShorterThan limit held
  | .list item, (values : List item.Value) =>
    values.length < limit ∧ ∀ value ∈ values, item.ShorterThan limit value
  | .map index item, (values : SortedMap index.Value item.Value) =>
    values.entries.length < limit ∧
      ∀ entry ∈ values.entries, index.ShorterThan limit (entry : index.Value × item.Value).1 ∧
        item.ShorterThan limit (entry : index.Value × item.Value).2
  | .unit, _ | .bool, _ | .integer _, _ | .double, _ | .char, _ => True

namespace ParallelValue

def Each (double : Binary64 → Prop) (json : Json.Value → Prop) :
    (elements : List ElementType) → ParallelValue elements → Prop
  | [], _ => True
  | element :: rest, (value, values) => element.Each double json value ∧ Each double json rest values

theorem Each.mono {double double' : Binary64 → Prop} {json json' : Json.Value → Prop}
    (doubles : ∀ number, double number → double' number) (values : ∀ value, json value → json' value)
    {elements : List ElementType} {held : ParallelValue elements} (each : Each double json elements held) :
    Each double' json' elements held := by
  induction elements with
  | nil => trivial
  | cons element rest inductionHypothesis =>
      exact ⟨each.1.mono doubles values, inductionHypothesis each.2⟩

def Alike : (elements : List ElementType) → ParallelValue elements → ParallelValue elements → Prop
  | [], _, _ => True
  | element :: rest, (first, firsts), (second, seconds) =>
    element.Alike first second ∧ Alike rest firsts seconds

theorem Alike.refl {elements : List ElementType} (values : ParallelValue elements) :
    Alike elements values values := by
  induction elements with
  | nil => trivial
  | cons element rest inductionHypothesis => exact ⟨.refl values.1, inductionHypothesis values.2⟩

def ShorterThan (limit : Nat) : (elements : List ElementType) → ParallelValue elements → Prop
  | [], _ => True
  | element :: rest, (value, values) =>
    element.ShorterThan limit value ∧ ShorterThan limit rest values

end ParallelValue

namespace PayloadType

/-- The payload types that caches are used with. -/
def covered : List PayloadType :=
  [.single .unit, .single .bool, .single (.integer .u8), .single (.integer .u16),
    .single (.integer .u32), .single (.integer .u64), .single (.integer .i8),
    .single (.integer .i16), .single (.integer .i32), .single (.integer .i64), .single .double,
    .single .char, .single .text, .single (.option (.integer .i64)), .single (.option .text),
    .single (.list (.integer .u8)), .single (.list (.integer .u32)),
    .single (.list (.integer .i64)), .single (.list .double), .single (.list .text),
    .single (.list (.list (.integer .u8))), .single (.list .row), .single (.list .status),
    .single .row, .single .status, .single (.map .text (.integer .i64)),
    .single (.map .integer .text), .single (.map .integerPair (.integer .i64)),
    .parallel [.list .row, .list (.integer .u32)],
    .parallel [.list (.integer .i64), .list .text, .list .bool],
    .parallel [.integer .i64, .text, .option (.integer .i64), .list (.integer .u32)],
    .parallel [.bool, .integer .u8, .integer .i32, .text, .list (.integer .i64)],
    .parallel [.integer .i64, .integer .i64, .integer .u32, .integer .u64, .text, .option .text],
    .parallel [.integer .u8, .integer .u16, .integer .u32, .integer .u64, .text,
      .list (.integer .i32), .option (.integer .i64)],
    .single .json]

def Each (double : Binary64 → Prop) (json : Json.Value → Prop) :
    (type : PayloadType) → type.Value → Prop
  | .single element, value => element.Each double json value
  | .parallel elements, values => ParallelValue.Each double json elements values

theorem Each.mono {double double' : Binary64 → Prop} {json json' : Json.Value → Prop}
    (doubles : ∀ number, double number → double' number) (values : ∀ value, json value → json' value)
    {type : PayloadType} {value : type.Value} (each : type.Each double json value) :
    type.Each double' json' value := by
  cases type with
  | single element => exact ElementType.Each.mono doubles values each
  | parallel elements => exact ParallelValue.Each.mono doubles values each

/-- Equality up to the payloads of NaNs. -/
def Alike : (type : PayloadType) → type.Value → type.Value → Prop
  | .single element, first, second => element.Alike first second
  | .parallel elements, firsts, seconds => ParallelValue.Alike elements firsts seconds

theorem Alike.refl {type : PayloadType} (value : type.Value) : type.Alike value value := by
  cases type with
  | single element => exact ElementType.Alike.refl value
  | parallel elements => exact ParallelValue.Alike.refl value

def tellsNull : PayloadType → Bool
  | .single element => element.tellsNull
  | .parallel elements => elements.all ElementType.tellsNull

theorem tellsNull_of_covered : ∀ type ∈ covered, type.tellsNull = true := by decide

/-- What a payload is made of. -/
def elements : PayloadType → List ElementType
  | .single element => [element]
  | .parallel elements => elements

def freeOfJson (type : PayloadType) : Bool := type.elements.all ElementType.freeOfJson

/-- No text, list or map of the value is as long as the limit. -/
def ShorterThan (limit : Nat) : (type : PayloadType) → type.Value → Prop
  | .single element, value => element.ShorterThan limit value
  | .parallel elements, values => ParallelValue.ShorterThan limit elements values

/-- A value as its type has it: its JSON values are well formed. -/
abbrev WellFormed (type : PayloadType) (value : type.Value) : Prop :=
  type.Each (fun _ => True) Json.Value.WellFormed value

/-- A well-formed value without any double. -/
abbrev FreeOfDoubles (type : PayloadType) (value : type.Value) : Prop :=
  type.Each (fun _ => False) (Json.Value.Formed fun _ => False) value

/-- A value whose JSON values nest fewer containers than a JSON reader takes. -/
abbrev Shallow (type : PayloadType) (value : type.Value) : Prop :=
  type.Each (fun _ => True) (fun json => json.depth < Json.Value.nestingLimit) value

/-- A value all of whose doubles have a spelling that reads as the double itself. -/
abbrev Settled (type : PayloadType) (value : type.Value) : Prop :=
  type.Each Json.Number.Settled (Json.Value.Formed Json.Number.Settled) value

/-- Where there are no doubles, all of them are settled. -/
theorem settled_of_free {type : PayloadType} {value : type.Value} (free : type.FreeOfDoubles value) :
    type.Settled value :=
  Each.mono (fun _ absurdity => absurdity.elim)
    (fun _ formed => formed.mono fun _ absurdity => absurdity.elim) free

theorem wellFormed_of_free {type : PayloadType} {value : type.Value}
    (free : type.FreeOfDoubles value) : type.WellFormed value :=
  Each.mono (fun _ _ => trivial) (fun _ formed => formed.mono fun _ absurdity => absurdity.elim) free

end PayloadType

end ResultCache
