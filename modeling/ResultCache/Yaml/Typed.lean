import ResultCache.Codec.Record
import ResultCache.Yaml.Node

/-!
Contract: typed values of YAML nodes.

Owns:
- texts, truth values, integers and names of alternatives as scalars;
- values that may be left out;
- lists, and records with named fields, of which unknown ones are passed over.

Only plain scalars are read as anything but text. A plain scalar of nothing counts
as an empty list and as a record without fields.
-/

namespace ResultCache

namespace Yaml

namespace Document

variable (document : Document)

def isBlankNode : Node → Bool
  | .scalar .plain _ "" => true
  | _ => false

def text? (node : Node) : Option String :=
  match document.resolve node with
  | some (.scalar _ _ text) => some text
  | _ => none

def standardTag (name : String) : String := "tag:yaml.org,2002:" ++ name

/-- A plain scalar, or a literal one with the tag of the type. -/
def plainText? (type : String) (node : Node) : Option String :=
  match document.resolve node with
  | some (.scalar .plain _ text) => some text
  | some (.scalar .literal (some tag) text) => if tag = standardTag type then some text else none
  | _ => none

/-- A truth value, in one of its three spellings. -/
def bool? (node : Node) : Option Bool :=
  match document.plainText? "bool" node with
  | none => none
  | some text =>
    if ["true", "True", "TRUE"].contains text then some true
    else if ["false", "False", "FALSE"].contains text then some false
    else none

/-! ### Integers -/

/-- The value of a digit in a base of at most sixteen. -/
def digit? (base : Nat) (scalar : Char) : Option Nat :=
  (hexDigit? scalar).filter fun digit => digit < base

def digits? (base : Nat) : List Char → Option Nat
  | [] => none
  | chars => chars.foldlM (fun number scalar => (digit? base scalar).map (number * base + ·)) 0

/-- A number of digits in base ten; a zero in front of other digits is refused. -/
def decimal? (chars : List Char) : Option Nat :=
  match chars with
  | '0' :: _ :: _ => none
  | _ => digits? 10 chars

def magnitude? : List Char → Option Nat
  | '0' :: 'x' :: rest => digits? 16 rest
  | '0' :: 'o' :: rest => digits? 8 rest
  | '0' :: 'b' :: rest => digits? 2 rest
  | chars => decimal? chars

def literal? (text : String) : Option Int :=
  match text.toList with
  | '+' :: rest => (magnitude? rest).map Int.ofNat
  | '-' :: rest => (magnitude? rest).map fun magnitude => -Int.ofNat magnitude
  | chars => (magnitude? chars).map Int.ofNat

/-- An integer from zero up to a bound; not even a zero may have a minus. -/
def natural? (greatest : Nat) (node : Node) : Option Nat := do
  let text ← document.plainText? "int" node
  let number ← literal? text
  if text.startsWith "-" || (greatest : Int) < number then none
  else some number.toNat

def integer? (least greatest : Int) (node : Node) : Option Int := do
  let number ← literal? (← document.plainText? "int" node)
  if number < least || greatest < number then none else some number

/-! ### Alternatives, options, lists, records -/

def isNullText (text : String) : Bool := ["null", "Null", "NULL", "~"].contains text

def isNothing (node : Node) : Bool :=
  match document.resolve node with
  | some (.scalar .plain _ text) => text.isEmpty || isNullText text
  | _ => false

/-- An alternative by its name: the text of a scalar, or a tag on nothing. -/
def alternative? {Held : Type} (ofName? : String → Option Held) (node : Node) : Option Held :=
  match document.resolve node with
  | some (.scalar style (some tag) text) =>
    match tag.toList with
    | '!' :: first :: rest =>
      if style = .plain && (text.isEmpty || isNullText text) then
        ofName? (String.ofList (first :: rest))
      else none
    | _ => ofName? text
  | some (.scalar _ none text) => ofName? text
  | _ => none

/-- A value that may be left out: nothing, or a value. A tag says which. -/
def option? {Held : Type} (read? : Node → Option Held) (node : Node) : Option (Option Held) :=
  match document.resolve node with
  | some (.scalar .plain none text) =>
    if text.isEmpty || isNullText text then some none else (read? node).map some
  | some (.scalar .plain (some tag) text) =>
    if tag = standardTag "null" then if isNullText text then some none else none
    else (read? node).map some
  | _ => (read? node).map some

def list? {Held : Type} (read? : Node → Option Held) (node : Node) : Option (List Held) :=
  match document.resolve node with
  | some (.sequence items) => items.mapM read?
  | some node => if isBlankNode node then some [] else none
  | none => none

def fields? (node : Node) : Option (List (String × Node)) :=
  match document.resolve node with
  | some (.mapping entries) =>
    entries.mapM fun (key, value) => (document.text? key).map fun name => (name, value)
  | some node => if isBlankNode node then some [] else none
  | none => none

end Document

/-- A field that has to be given, read. -/
def required? {Held : Type} (fields : List (String × Node)) (name : String)
    (read? : Node → Option Held) : Option Held :=
  (Codec.Record.required? fields name).bind read?

/-- A field that may be left out, read. -/
def optional? {Held : Type} (fields : List (String × Node)) (name : String) (absent : Held)
    (read? : Node → Option Held) : Option Held :=
  match Codec.Record.field? fields name with
  | none => none
  | some none => some absent
  | some (some node) => read? node

end Yaml

end ResultCache
