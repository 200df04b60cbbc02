import ResultCache.Binary64.Basic
import ResultCache.Time

/-!
Contract: expression trees of filters and selectors.

Owns:
- `Constant`, the literal values that an expression embeds, and their type names;
- `Expression`, the tree that a query builder makes of a predicate;
- the stable code of each kind of node;
- `Expression.equal`, equality of trees in which floats compare as numbers.

The library walks these trees and keeps them; it never evaluates them. Equality
of the Lean types is finer than `Expression.equal`: it compares floats by bits.
-/

namespace ResultCache

/-- An operator on one operand. -/
inductive UnaryOperator where
  | not
  | negate
  | convert
  | quote
  deriving DecidableEq, Repr

/-- An operator on two operands. -/
inductive BinaryOperator where
  | equal
  | notEqual
  | lessThan
  | lessThanOrEqual
  | greaterThan
  | greaterThanOrEqual
  | andAlso
  | orElse
  | add
  | subtract
  | multiply
  | divide
  | modulo
  | coalesce
  deriving DecidableEq, Repr

namespace UnaryOperator

/-- Every operator on one operand, in the order of the codes. -/
def all : List UnaryOperator := [not, negate, convert, quote]

/-- The number of an operator among those on one operand. -/
def code : UnaryOperator → UInt64
  | not => 0
  | negate => 1
  | convert => 2
  | quote => 3

def name : UnaryOperator → String
  | not => "Not"
  | negate => "Negate"
  | convert => "Convert"
  | quote => "Quote"

def ofName? (name : String) : Option UnaryOperator := all.find? fun operator => operator.name = name

end UnaryOperator

namespace BinaryOperator

/-- Every operator on two operands, in the order of the codes. -/
def all : List BinaryOperator :=
  [equal, notEqual, lessThan, lessThanOrEqual, greaterThan, greaterThanOrEqual, andAlso, orElse,
    add, subtract, multiply, divide, modulo, coalesce]

/-- The number of an operator among those on two operands. -/
def code : BinaryOperator → UInt64
  | equal => 0
  | notEqual => 1
  | lessThan => 2
  | lessThanOrEqual => 3
  | greaterThan => 4
  | greaterThanOrEqual => 5
  | andAlso => 6
  | orElse => 7
  | add => 8
  | subtract => 9
  | multiply => 10
  | divide => 11
  | modulo => 12
  | coalesce => 13

def name : BinaryOperator → String
  | equal => "Equal"
  | notEqual => "NotEqual"
  | lessThan => "LessThan"
  | lessThanOrEqual => "LessThanOrEqual"
  | greaterThan => "GreaterThan"
  | greaterThanOrEqual => "GreaterThanOrEqual"
  | andAlso => "AndAlso"
  | orElse => "OrElse"
  | add => "Add"
  | subtract => "Subtract"
  | multiply => "Multiply"
  | divide => "Divide"
  | modulo => "Modulo"
  | coalesce => "Coalesce"

def ofName? (name : String) : Option BinaryOperator := all.find? fun operator => operator.name = name

end BinaryOperator

/-- A literal value inside an expression. -/
inductive Constant where
  | null
  | bool (value : Bool)
  | int (value : Int64)
  | float (value : Binary64)
  | text (value : String)
  | timestamp (value : Instant)
  deriving DecidableEq, Repr

namespace Constant

def typeName : Constant → String
  | null => "null"
  | bool _ => "bool"
  | int _ => "int"
  | float _ => "float"
  | text _ => "text"
  | timestamp _ => "timestamp"

/-- Equality of constants, floats compared as numbers. -/
def equal : Constant → Constant → Bool
  | null, null => true
  | bool first, bool second => first = second
  | int first, int second => first = second
  | float first, float second => first.equal second
  | text first, text second => first = second
  | timestamp first, timestamp second => first = second
  | _, _ => false

def equalOption : Option Constant → Option Constant → Bool
  | none, none => true
  | some first, some second => first.equal second
  | _, _ => false

end Constant

/-- A node of a filter or selector. -/
inductive Expression where
  | unary (operator : UnaryOperator) (operand : Expression)
  | binary (operator : BinaryOperator) (left right : Expression)
  | constant (value : Constant)
  | member (name : String) (target : Option Expression)
  | call (method : String) (target : Option Expression) (arguments : List Expression)
  | lambda (body : Expression) (parameters : List String)
  | parameter (name : String)
  /-- A value built from arguments, folded to a constant when it could be. -/
  | construct (typeName : String) (arguments : List Expression) (value : Option Constant)
  /-- A node of one provider alone, which has no fingerprint. -/
  | extension (kind : String)
  deriving Repr

namespace Expression

/-- The code of the kind of a node, which stands before its children in a fingerprint. -/
def kindCode : Expression → UInt64
  | unary operator _ => 0x100 + operator.code
  | binary operator _ _ => 0x200 + operator.code
  | constant _ => 0x300
  | member _ _ => 0x400
  | call _ _ _ => 0x500
  | lambda _ _ => 0x600
  | parameter _ => 0x700
  | construct _ _ _ => 0x800
  | extension _ => 0xF00

mutual

/-- Equality of expressions, floats compared as numbers. -/
def equal : Expression → Expression → Bool
  | unary firstOperator first, unary secondOperator second =>
    firstOperator = secondOperator && equal first second
  | binary firstOperator firstLeft firstRight, binary secondOperator secondLeft secondRight =>
    firstOperator = secondOperator && equal firstLeft secondLeft && equal firstRight secondRight
  | constant first, constant second => first.equal second
  | member firstName firstTarget, member secondName secondTarget =>
    firstName = secondName && equalOption firstTarget secondTarget
  | call firstMethod firstTarget firstArguments, call secondMethod secondTarget secondArguments =>
    firstMethod = secondMethod && equalOption firstTarget secondTarget &&
      equalList firstArguments secondArguments
  | lambda firstBody firstParameters, lambda secondBody secondParameters =>
    equal firstBody secondBody && firstParameters = secondParameters
  | parameter first, parameter second => first = second
  | construct firstName firstArguments firstValue, construct secondName secondArguments secondValue =>
    firstName = secondName && equalList firstArguments secondArguments &&
      Constant.equalOption firstValue secondValue
  | extension first, extension second => first = second
  | _, _ => false

def equalOption : Option Expression → Option Expression → Bool
  | none, none => true
  | some first, some second => equal first second
  | _, _ => false

/-- Equality of expression lists, position by position. -/
def equalList : List Expression → List Expression → Bool
  | [], [] => true
  | first :: firstRest, second :: secondRest => equal first second && equalList firstRest secondRest
  | _, _ => false

end

/-- A node wrapped in so many nodes of one operator. -/
def nest (operator : UnaryOperator) : Nat → Expression → Expression
  | 0, inner => inner
  | count + 1, inner => nest operator count (unary operator inner)

/-- A node joined so many times with one right operand, growing to the left. -/
def chain (operator : BinaryOperator) (right : Expression) : Nat → Expression → Expression
  | 0, inner => inner
  | count + 1, inner => chain operator right count (binary operator inner right)

end Expression

end ResultCache
