import ResultCache.Error
import ResultCache.Expression
import ResultCache.Json.Value
import ResultCache.Shape
import ResultCache.Text

/-!
Contract: the derivation of keys from fetches.

Owns:
- the components of a text, a constant, an expression and a parameter value: the
  64-bit words that stand for it in a fingerprint, in walk order;
- the accumulator step, the seed, and the final avalanche;
- `KeyDeriver`, which turns a fetch into a key or refuses an expression with a
  node that has no components.

A fingerprint is the fold of one component sequence. Which sequences belong to
which fetch is therefore a question about lists, apart from the arithmetic.
-/

namespace ResultCache

namespace Fingerprint

abbrev Component := UInt64

def seed : UInt64 := 5381

def factor : UInt64 := 397

def selectorMarker : Component := 0x5E1EC702

def mix (accumulator : UInt64) (component : Component) : UInt64 :=
  accumulator * factor ^^^ component

def mixAll (accumulator : UInt64) (components : List Component) : UInt64 :=
  components.foldl mix accumulator

def avalanche (accumulator : UInt64) : UInt64 :=
  let first := (accumulator ^^^ (accumulator >>> 30)) * 0xbf58476d1ce4e5b9
  let second := (first ^^^ (first >>> 27)) * 0x94d049bb133111eb
  second ^^^ (second >>> 31)

def finish (accumulator : UInt64) : Key := (avalanche accumulator).toInt64

def keyOf (components : List Component) : Key := finish (mixAll seed components)

/-! ### Components -/

/-- The components of a text: how many characters it has, and their digest. -/
def ofText (text : String) : List Component :=
  let chars := text.toList
  [chars.length.toUInt64, Text.digestChars chars]

def ofConstantValue : Constant → List Component
  | .null => [0]
  | .bool value => [if value then 2 else 1]
  | .int value => [value.toUInt64]
  | .float value => [value.bits]
  | .text value => ofText value
  | .timestamp value => [(Int64.ofInt value.seconds).toUInt64, value.nanoseconds.toUInt64]

/-- The components of a constant: its value, then the name of its type. -/
def ofConstant (constant : Constant) : List Component :=
  ofConstantValue constant ++ ofText constant.typeName

mutual

/-- The components of an expression, or the kind of the first node without any.
With literal values left out, a constructed value counts by its type name and its
arguments alone. -/
def ofExpression (includeLiterals : Bool) : Expression → Except String (List Component)
  | expression@(.unary _ operand) => do
    let operand ← ofExpression includeLiterals operand
    return expression.kindCode :: operand
  | expression@(.binary _ left right) => do
    let left ← ofExpression includeLiterals left
    let right ← ofExpression includeLiterals right
    return expression.kindCode :: (left ++ right)
  | expression@(.constant value) => return expression.kindCode :: ofConstant value
  | expression@(.member name target) => do
    let target ← ofOption includeLiterals target
    return expression.kindCode :: (ofText name ++ target)
  | expression@(.call method target arguments) => do
    let target ← ofOption includeLiterals target
    let components ← ofList includeLiterals arguments
    return expression.kindCode ::
      (ofText method ++ (target ++ (arguments.length.toUInt64 :: components)))
  | expression@(.lambda body parameters) => do
    let body ← ofExpression includeLiterals body
    return expression.kindCode :: (body ++ parameters.flatMap ofText)
  | expression@(.parameter name) => return expression.kindCode :: ofText name
  | expression@(.construct typeName arguments value) =>
    match value, includeLiterals with
    | some value, true => return expression.kindCode :: ofConstant value
    | _, _ => do
      let components ← ofList includeLiterals arguments
      return expression.kindCode :: (ofText typeName ++ components)
  | .extension kind => throw kind

/-- The components of an optional expression: none for none. -/
def ofOption (includeLiterals : Bool) : Option Expression → Except String (List Component)
  | none => return []
  | some expression => ofExpression includeLiterals expression

/-- The components of expressions, one behind the other. -/
def ofList (includeLiterals : Bool) : List Expression → Except String (List Component)
  | [] => return []
  | expression :: rest => do
    let first ← ofExpression includeLiterals expression
    let others ← ofList includeLiterals rest
    return first ++ others

end

/-- The components of a selector, with the marker in front. -/
def ofSelector (includeLiterals : Bool) : Option Expression → Except String (List Component)
  | none => return []
  | some selector => do
    let components ← ofExpression includeLiterals selector
    return selectorMarker :: components

/-- The components of parameters: those of their compact text. -/
def ofParameters : Option Json.Value → List Component
  | none => []
  | some parameters => ofText parameters.compact

def ofQuery (shape : ResultShape) (query : String) (parameters : Option Json.Value) :
    List Component :=
  shape.code :: (ofText query ++ ofParameters parameters)

/-- The components of a fetch issued from a filter and an optional selector. -/
def ofFetch (includeLiterals : Bool) (shape : ResultShape) (filter : Expression)
    (selector : Option Expression) (parameters : Option Json.Value) :
    Except String (List Component) := do
  let filter ← ofExpression includeLiterals filter
  let selector ← ofSelector includeLiterals selector
  return shape.code :: (filter ++ (selector ++ ofParameters parameters))

end Fingerprint

/-- Derives the keys of one cache. -/
structure KeyDeriver where
  /-- Whether the folded values of constructed nodes enter keys. -/
  includeLiterals : Bool
  deriving DecidableEq, Repr

namespace KeyDeriver

/-- The deriver of a cache that asks for none in particular. -/
def standard : KeyDeriver := ⟨true⟩

/-- The key of a fetch issued from query or procedure text. -/
def queryKey (shape : ResultShape) (query : String) (parameters : Option Json.Value) : Key :=
  Fingerprint.keyOf (Fingerprint.ofQuery shape query parameters)

/-- The key of a fetch issued from a filter and an optional selector. -/
def expressionKey (deriver : KeyDeriver) (shape : ResultShape) (filter : Expression)
    (selector : Option Expression) (parameters : Option Json.Value) : Except CacheError Key :=
  match Fingerprint.ofFetch deriver.includeLiterals shape filter selector parameters with
  | .ok components => .ok (Fingerprint.keyOf components)
  | .error kind => .error (.unsupportedExpression kind)

end KeyDeriver

end ResultCache
