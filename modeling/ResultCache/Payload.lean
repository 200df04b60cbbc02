import ResultCache.Json.Value
import ResultCache.SortedMap

/-!
Contract: the types and values that a cache can hold.

Owns:
- `IntegerFormat`, the fixed-width integer types;
- `ElementType` and `PayloadType`, the names of payload types, and `Value`, the
  values of each;
- `Payload`, a value together with its type, which is what an entry keeps once
  the type of a fetch is out of sight;
- `Payload.as?`, which gives the value back at exactly the type it has.

Two payload types are the same only when their names are: an integer list of one
width never reads as a list of another.
-/

namespace ResultCache

/-- Widths of integers, in bits. -/
inductive Width where
  | w8
  | w16
  | w32
  | w64
  deriving DecidableEq, Repr

def Width.bits : Width → Nat
  | .w8 => 8
  | .w16 => 16
  | .w32 => 32
  | .w64 => 64

/-- A fixed-width integer type. -/
structure IntegerFormat where
  signed : Bool
  width : Width
  deriving DecidableEq, Repr

namespace IntegerFormat

def least (format : IntegerFormat) : Int :=
  if format.signed then -(Nat.pow 2 (format.width.bits - 1) : Nat) else 0

def greatest (format : IntegerFormat) : Int :=
  if format.signed then (Nat.pow 2 (format.width.bits - 1) : Nat) - 1
  else (Nat.pow 2 format.width.bits : Nat) - 1

def Holds (format : IntegerFormat) (number : Int) : Prop :=
  format.least ≤ number ∧ number ≤ format.greatest

instance (format : IntegerFormat) (number : Int) : Decidable (format.Holds number) :=
  inferInstanceAs (Decidable (_ ∧ _))

abbrev Value (format : IntegerFormat) : Type := { number : Int // format.Holds number }

/-- An integer as a value of a format, when it is one. -/
def ofInt? (format : IntegerFormat) (number : Int) : Option format.Value :=
  if holds : format.Holds number then some ⟨number, holds⟩ else none

theorem ofInt?_val (format : IntegerFormat) (value : format.Value) :
    format.ofInt? value.val = some value := by
  simp [ofInt?, value.property]

def u8 : IntegerFormat := ⟨false, .w8⟩
def u16 : IntegerFormat := ⟨false, .w16⟩
def u32 : IntegerFormat := ⟨false, .w32⟩
def u64 : IntegerFormat := ⟨false, .w64⟩
def i8 : IntegerFormat := ⟨true, .w8⟩
def i16 : IntegerFormat := ⟨true, .w16⟩
def i32 : IntegerFormat := ⟨true, .w32⟩
def i64 : IntegerFormat := ⟨true, .w64⟩

end IntegerFormat

/-- One row of a result. -/
structure Row where
  id : IntegerFormat.i64.Value
  name : String
  score : Option Binary64
  deriving DecidableEq

/-- A state with alternatives of every form: bare, with one value, with a pair,
and with named fields. -/
inductive Status where
  | idle
  | level (value : IntegerFormat.i64.Value)
  | pair (value : IntegerFormat.i64.Value) (label : String)
  | box (width height : IntegerFormat.u32.Value)
  deriving DecidableEq

/-- The types of map keys. -/
inductive IndexType where
  | text
  | integer
  /-- Pairs of integers. -/
  | integerPair
  deriving DecidableEq, Repr

namespace IndexType

/-- Pairs of integers are ordered by their first parts, then by their second. -/
instance : Ord (Int64 × Int64) := lexOrd

def Value : IndexType → Type
  | text => String
  | integer => Int64
  | integerPair => Int64 × Int64

instance (index : IndexType) : Ord index.Value :=
  match index with
  | text => inferInstanceAs (Ord String)
  | integer => inferInstanceAs (Ord Int64)
  | integerPair => inferInstanceAs (Ord (Int64 × Int64))

instance (index : IndexType) : Std.TransOrd index.Value :=
  match index with
  | text => inferInstanceAs (Std.TransOrd String)
  | integer => inferInstanceAs (Std.TransOrd Int64)
  | integerPair => inferInstanceAs (Std.TransOrd (Int64 × Int64))

instance (index : IndexType) : Std.LawfulEqOrd index.Value :=
  match index with
  | text => inferInstanceAs (Std.LawfulEqOrd String)
  | integer => inferInstanceAs (Std.LawfulEqOrd Int64)
  | integerPair => inferInstanceAs (Std.LawfulEqOrd (Int64 × Int64))

end IndexType

/-- The types of single payloads and of what they are made of. -/
inductive ElementType where
  | unit
  | bool
  | integer (format : IntegerFormat)
  | double
  | char
  | text
  | json
  | row
  | status
  | option (item : ElementType)
  | list (item : ElementType)
  | map (index : IndexType) (item : ElementType)
  deriving DecidableEq, Repr

namespace ElementType

def Value : ElementType → Type
  | unit => Unit
  | bool => Bool
  | integer format => format.Value
  | double => Binary64
  | char => Char
  | text => String
  | json => Json.Value
  | row => Row
  | status => Status
  | option item => Option item.Value
  | list item => List item.Value
  | map index item => SortedMap index.Value item.Value

end ElementType

/-- The types of payloads: one element, or several in parallel. -/
inductive PayloadType where
  | single (element : ElementType)
  | parallel (elements : List ElementType)
  deriving DecidableEq, Repr

def ParallelValue : List ElementType → Type
  | [] => Unit
  | element :: rest => element.Value × ParallelValue rest

namespace PayloadType

def Value : PayloadType → Type
  | single element => element.Value
  | parallel elements => ParallelValue elements

end PayloadType

/-- A value with its type. -/
structure Payload where
  type : PayloadType
  value : type.Value

namespace Payload

def is (payload : Payload) (type : PayloadType) : Bool := payload.type = type

/-- The value of a payload at a type, when the payload is of that type. -/
def as? (payload : Payload) (type : PayloadType) : Option type.Value :=
  if same : payload.type = type then some (same ▸ payload.value) else none

@[simp] theorem as?_self (payload : Payload) : payload.as? payload.type = some payload.value := by
  simp [as?]

theorem as?_eq_none {payload : Payload} {type : PayloadType} (differs : payload.type ≠ type) :
    payload.as? type = none := by
  simp [as?, differs]

/-- A payload read at a type is the value of that type it was made from. -/
theorem as?_eq_some_iff {payload : Payload} {type : PayloadType} {value : type.Value} :
    payload.as? type = some value ↔ payload = ⟨type, value⟩ := by
  obtain ⟨present, held⟩ := payload
  by_cases same : present = type
  · subst same
    simp [as?]
  · simp only [as?, dif_neg same, Payload.mk.injEq]
    constructor
    · intro absurdity
      cases absurdity
    · intro both
      exact absurd both.1 same

end Payload

end ResultCache
