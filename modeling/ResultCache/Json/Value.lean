import ResultCache.Json.Document
import ResultCache.Json.Number

/-!
Contract: JSON values.

Owns:
- `Value`, with the members of an object in the order of their names and each
  name once;
- the value of a document, where the last of repeated members stays, containers
  nest fewer than 128 deep, and every literal has a meaning;
- the document of a value, and through it the compact text, in which a double
  that is not finite is written as null.

The compact text is canonical: member order, blanks, escapes and repeated
members of the text a value was read from leave no trace in it.
-/

namespace ResultCache

namespace Json

/-- A JSON value. -/
inductive Value where
  | null
  | bool (value : Bool)
  | number (value : Number)
  | string (value : String)
  | array (items : List Value)
  | object (members : List (String × Value))
  deriving Repr

namespace Value

/-- The members with one more, in its place; a present name takes the new value. -/
def setMember (name : String) (value : Value) : List (String × Value) → List (String × Value)
  | [] => [(name, value)]
  | (present, old) :: rest =>
    match compare name present with
    | .lt => (name, value) :: (present, old) :: rest
    | .eq => (name, value) :: rest
    | .gt => (present, old) :: setMember name value rest

/-- How many containers may be open at once, plus one. -/
def nestingLimit : Nat := 128

mutual

/-- The value of a document that may hold fewer than `room` nested containers. -/
def ofDocumentWithin? : Nat → Document → Option Value
  | _, .null => some .null
  | _, .bool value => some (.bool value)
  | _, .number literal => (Number.ofLiteral? literal).map .number
  | _, .string pieces => (StringPiece.text? pieces).map .string
  | room, .array items =>
    if room ≤ 1 then none else (itemsWithin? (room - 1) items).map .array
  | room, .object members =>
    if room ≤ 1 then none else (membersWithin? (room - 1) [] members).map .object

def itemsWithin? : Nat → List Document → Option (List Value)
  | _, [] => some []
  | room, item :: items =>
    match ofDocumentWithin? room item with
    | none => none
    | some value => (itemsWithin? room items).map (value :: ·)

/-- The members of an object, added to those already read. -/
def membersWithin? : Nat → List (String × Value) → List (List StringPiece × Document) →
    Option (List (String × Value))
  | _, read, [] => some read
  | room, read, (name, document) :: members =>
    match StringPiece.text? name with
    | none => none
    | some name =>
      match ofDocumentWithin? room document with
      | none => none
      | some value => membersWithin? room (setMember name value read) members

end

def ofDocument? (document : Document) : Option Value := ofDocumentWithin? nestingLimit document

def read? (symbols : List Symbol) : Option Value := (Document.read? symbols).bind ofDocument?

def ofText? (text : String) : Option Value := read? (Text.symbolsOf text)

/-- The document of a double: its shortest spelling, or null when it is not finite. -/
def documentOfBinary64 (number : Binary64) : Document :=
  if number.isFinite then .number (NumberLiteral.ofBinary64 number) else .null

mutual

def toDocument : Value → Document
  | .null => .null
  | .bool value => .bool value
  | .number (.integer value) => .number (NumberLiteral.ofInt value)
  | .number (.double value) => documentOfBinary64 value
  | .string value => .string (StringPiece.ofText value)
  | .array items => .array (documentsOf items)
  | .object members => .object (memberDocumentsOf members)

def documentsOf : List Value → List Document
  | [] => []
  | item :: items => toDocument item :: documentsOf items

def memberDocumentsOf : List (String × Value) → List (List StringPiece × Document)
  | [] => []
  | (name, value) :: members =>
    (StringPiece.ofText name, toDocument value) :: memberDocumentsOf members

end

def compact (value : Value) : String := value.toDocument.text

end Value

end Json

end ResultCache
