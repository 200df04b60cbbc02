/-!
Contract: the shape of a fetch.

Owns: `ResultShape`, its stable codes and names, and the three questions that
the rest of the library asks of it: is it issued from expressions, is its payload
a sequence, and how many parallel results does it carry.
-/

namespace ResultCache

/-- How a fetch is issued and what it returns. -/
inductive ResultShape where
  /-- A command without results. -/
  | execute
  | oneByQuery
  | oneByExpression
  | listByQuery
  | listByExpression
  | tuple2ByQuery
  | tuple3ByQuery
  | tuple4ByQuery
  | tuple5ByQuery
  | tuple6ByQuery
  | tuple7ByQuery
  deriving DecidableEq, Repr

namespace ResultShape

def code : ResultShape → UInt64
  | execute => 0
  | oneByQuery => 1
  | oneByExpression => 2
  | listByQuery => 3
  | listByExpression => 4
  | tuple2ByQuery => 5
  | tuple3ByQuery => 6
  | tuple4ByQuery => 7
  | tuple5ByQuery => 8
  | tuple6ByQuery => 9
  | tuple7ByQuery => 10

def name : ResultShape → String
  | execute => "Execute"
  | oneByQuery => "FetchOneByQuery"
  | oneByExpression => "FetchOneByExpression"
  | listByQuery => "FetchListByQuery"
  | listByExpression => "FetchListByExpression"
  | tuple2ByQuery => "FetchTuple2ByQuery"
  | tuple3ByQuery => "FetchTuple3ByQuery"
  | tuple4ByQuery => "FetchTuple4ByQuery"
  | tuple5ByQuery => "FetchTuple5ByQuery"
  | tuple6ByQuery => "FetchTuple6ByQuery"
  | tuple7ByQuery => "FetchTuple7ByQuery"

/-- Every shape, in the order of the codes. -/
def all : List ResultShape :=
  [execute, oneByQuery, oneByExpression, listByQuery, listByExpression, tuple2ByQuery,
    tuple3ByQuery, tuple4ByQuery, tuple5ByQuery, tuple6ByQuery, tuple7ByQuery]

def ofName? (name : String) : Option ResultShape := all.find? fun shape => shape.name = name

/-- Entries issued from filter and selector expressions rather than query text. -/
def isExpressionBased : ResultShape → Bool
  | oneByExpression | listByExpression => true
  | _ => false

/-- Whether the payload is a sequence: a list, or a tuple of parallel results. -/
def isListShaped : ResultShape → Bool
  | execute | oneByQuery | oneByExpression => false
  | _ => true

def tupleArity? : ResultShape → Option Nat
  | tuple2ByQuery => some 2
  | tuple3ByQuery => some 3
  | tuple4ByQuery => some 4
  | tuple5ByQuery => some 5
  | tuple6ByQuery => some 6
  | tuple7ByQuery => some 7
  | _ => none

/-- The tuple shape with so many parallel results, from two to seven. -/
def ofArity? : Nat → Option ResultShape
  | 2 => some tuple2ByQuery
  | 3 => some tuple3ByQuery
  | 4 => some tuple4ByQuery
  | 5 => some tuple5ByQuery
  | 6 => some tuple6ByQuery
  | 7 => some tuple7ByQuery
  | _ => none

end ResultShape

end ResultCache
