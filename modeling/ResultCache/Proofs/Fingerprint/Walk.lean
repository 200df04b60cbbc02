import ResultCache.Fingerprint
import ResultCache.Proofs.Time.Order

/-!
Contract: the walk of an expression as a total function.

Owns:
- `Expression.Head`, what the kind code of a node says, and that it says all of it;
- `Expression.walked`, the nodes that a walk enters, and `Expression.nodes`, all of
  them;
- `Fingerprint.walk`, the components of a tree as a total function, equal to
  `Fingerprint.ofExpression` on every tree whose walk meets no extension.
-/

namespace ResultCache

namespace Expression

/-! ### Heads -/

/-- What a node is apart from its children and its data. -/
inductive Head where
  | unary (operator : UnaryOperator)
  | binary (operator : BinaryOperator)
  | constant
  | member
  | call
  | lambda
  | parameter
  | construct
  | extension
  deriving DecidableEq, Repr

namespace Head

/-- Every head, in the order of the codes. -/
def all : List Head :=
  UnaryOperator.all.map unary ++ BinaryOperator.all.map binary ++
    [constant, member, call, lambda, parameter, construct, extension]

/-- The code of a head. -/
def code : Head → UInt64
  | unary operator => 0x100 + operator.code
  | binary operator => 0x200 + operator.code
  | constant => 0x300
  | member => 0x400
  | call => 0x500
  | lambda => 0x600
  | parameter => 0x700
  | construct => 0x800
  | extension => 0xF00

/-- The head of a code. -/
def ofCode? (code : UInt64) : Option Head := all.find? fun head => head.code = code

theorem mem_all (head : Head) : head ∈ all := by
  cases head with
  | unary operator => cases operator <;> decide
  | binary operator => cases operator <;> decide
  | _ => decide

theorem ofCode?_code (head : Head) : ofCode? head.code = some head := by
  have each : ∀ head ∈ all, ofCode? head.code = some head := by decide
  exact each head (mem_all head)

theorem code_injective : Function.Injective code := by
  intro first second same
  have both := ofCode?_code first
  rw [same, ofCode?_code second] at both
  exact (Option.some.inj both).symm

end Head

/-- The head of a node. -/
def head : Expression → Head
  | unary operator _ => .unary operator
  | binary operator _ _ => .binary operator
  | constant _ => .constant
  | member _ _ => .member
  | call _ _ _ => .call
  | lambda _ _ => .lambda
  | parameter _ => .parameter
  | construct _ _ _ => .construct
  | extension _ => .extension

theorem kindCode_eq_code (expression : Expression) : expression.kindCode = expression.head.code := by
  cases expression <;> rfl

/-- The kind code of a node tells its head. -/
theorem head_eq_of_kindCode_eq {first second : Expression}
    (same : first.kindCode = second.kindCode) : first.head = second.head := by
  rw [kindCode_eq_code, kindCode_eq_code] at same
  exact Head.code_injective same

/-! ### Nodes -/

mutual

/-- The nodes that a walk enters, each as the tree under it, in walk order. A folded
value hides the arguments that it was built from where literal values are included. -/
def walked (includeLiterals : Bool) : Expression → List Expression
  | expression@(.unary _ operand) => expression :: walked includeLiterals operand
  | expression@(.binary _ left right) =>
    expression :: (walked includeLiterals left ++ walked includeLiterals right)
  | expression@(.constant _) => [expression]
  | expression@(.member _ target) => expression :: walkedOption includeLiterals target
  | expression@(.call _ target arguments) =>
    expression :: (walkedOption includeLiterals target ++ walkedList includeLiterals arguments)
  | expression@(.lambda body _) => expression :: walked includeLiterals body
  | expression@(.parameter _) => [expression]
  | expression@(.construct _ arguments value) =>
    match value, includeLiterals with
    | some _, true => [expression]
    | _, _ => expression :: walkedList includeLiterals arguments
  | expression@(.extension _) => [expression]

/-- The nodes that a walk enters in an optional tree. -/
def walkedOption (includeLiterals : Bool) : Option Expression → List Expression
  | none => []
  | some expression => walked includeLiterals expression

/-- The nodes that a walk enters in trees, one behind the other. -/
def walkedList (includeLiterals : Bool) : List Expression → List Expression
  | [] => []
  | expression :: rest => walked includeLiterals expression ++ walkedList includeLiterals rest

end

/-- Every node of a tree: where literal values are left out, a walk enters all. -/
def nodes (expression : Expression) : List Expression := walked false expression

theorem walked_false_construct (typeName : String) (arguments : List Expression)
    (value : Option Constant) :
    walked false (construct typeName arguments value) =
      construct typeName arguments value :: walkedList false arguments := by
  cases value <;> simp only [walked]

private theorem append_subset_append {first second firstMore secondMore : List Expression}
    (firstSubset : first ⊆ firstMore) (secondSubset : second ⊆ secondMore) :
    first ++ second ⊆ firstMore ++ secondMore :=
  List.append_subset.2 ⟨List.subset_append_of_subset_left _ firstSubset,
    List.subset_append_of_subset_right _ secondSubset⟩

mutual

theorem walked_subset_nodes (includeLiterals : Bool) : ∀ expression : Expression,
    expression.walked includeLiterals ⊆ expression.nodes
  | .unary _ operand =>
      List.cons_subset_cons _ (walked_subset_nodes includeLiterals operand)
  | .binary _ left right =>
      List.cons_subset_cons _ (append_subset_append (walked_subset_nodes includeLiterals left)
        (walked_subset_nodes includeLiterals right))
  | .constant _ => fun _ member => member
  | .member _ target =>
      List.cons_subset_cons _ (walkedOption_subset includeLiterals target)
  | .call _ target arguments =>
      List.cons_subset_cons _ (append_subset_append (walkedOption_subset includeLiterals target)
        (walkedList_subset includeLiterals arguments))
  | .lambda body _ => List.cons_subset_cons _ (walked_subset_nodes includeLiterals body)
  | .parameter _ => fun _ member => member
  | .construct typeName arguments value => by
      have fewer := walkedList_subset includeLiterals arguments
      rw [nodes, walked_false_construct]
      cases value with
      | none =>
          simp only [walked]
          exact List.cons_subset_cons _ fewer
      | some value =>
          cases includeLiterals with
          | true => exact List.cons_subset_cons _ (List.nil_subset _)
          | false => exact List.cons_subset_cons _ fewer
  | .extension _ => fun _ member => member

theorem walkedOption_subset (includeLiterals : Bool) : ∀ optional : Option Expression,
    walkedOption includeLiterals optional ⊆ walkedOption false optional
  | none => fun _ member => member
  | some expression => walked_subset_nodes includeLiterals expression

theorem walkedList_subset (includeLiterals : Bool) : ∀ expressions : List Expression,
    walkedList includeLiterals expressions ⊆ walkedList false expressions
  | [] => fun _ member => member
  | expression :: rest =>
      append_subset_append (walked_subset_nodes includeLiterals expression)
        (walkedList_subset includeLiterals rest)

end

theorem walkedList_append (includeLiterals : Bool) (first second : List Expression) :
    walkedList includeLiterals (first ++ second) =
      walkedList includeLiterals first ++ walkedList includeLiterals second := by
  induction first with
  | nil => rfl
  | cons expression rest inductionHypothesis =>
      rw [List.cons_append, walkedList, walkedList, inductionHypothesis, List.append_assoc]

/-- The arguments of a constructed value are entered where no folded value hides them. -/
theorem walked_construct_of_entered {includeLiterals : Bool} {value : Option Constant}
    (entered : value = none ∨ includeLiterals = false) (typeName : String)
    (arguments : List Expression) :
    walked includeLiterals (construct typeName arguments value) =
      construct typeName arguments value :: walkedList includeLiterals arguments := by
  rcases entered with rfl | rfl
  · simp only [walked]
  · exact walked_false_construct typeName arguments value

/-- Whether a node is one of a provider alone. -/
def isExtension : Expression → Bool
  | extension _ => true
  | _ => false

end Expression

namespace Fingerprint

open Expression

/-! ### Components of a tree -/

mutual

/-- The components of an expression, where extensions count for nothing. -/
def walk (includeLiterals : Bool) : Expression → List Component
  | expression@(.unary _ operand) => expression.kindCode :: walk includeLiterals operand
  | expression@(.binary _ left right) =>
    expression.kindCode :: (walk includeLiterals left ++ walk includeLiterals right)
  | expression@(.constant value) => expression.kindCode :: ofConstant value
  | expression@(.member name target) =>
    expression.kindCode :: (ofText name ++ walkOption includeLiterals target)
  | expression@(.call method target arguments) =>
    expression.kindCode :: (ofText method ++ (walkOption includeLiterals target ++
      (arguments.length.toUInt64 :: walkList includeLiterals arguments)))
  | expression@(.lambda body parameters) =>
    expression.kindCode :: (walk includeLiterals body ++ parameters.flatMap ofText)
  | expression@(.parameter name) => expression.kindCode :: ofText name
  | expression@(.construct typeName arguments value) =>
    match value, includeLiterals with
    | some value, true => expression.kindCode :: ofConstant value
    | _, _ => expression.kindCode :: (ofText typeName ++ walkList includeLiterals arguments)
  | .extension _ => []

/-- The components of an optional expression: none for none. -/
def walkOption (includeLiterals : Bool) : Option Expression → List Component
  | none => []
  | some expression => walk includeLiterals expression

/-- The components of expressions, one behind the other. -/
def walkList (includeLiterals : Bool) : List Expression → List Component
  | [] => []
  | expression :: rest => walk includeLiterals expression ++ walkList includeLiterals rest

end

theorem walkList_append (includeLiterals : Bool) (first second : List Expression) :
    walkList includeLiterals (first ++ second) =
      walkList includeLiterals first ++ walkList includeLiterals second := by
  induction first with
  | nil => rfl
  | cons expression rest inductionHypothesis =>
      rw [List.cons_append, walkList, walkList, inductionHypothesis, List.append_assoc]

theorem walk_construct_of_entered {includeLiterals : Bool} {value : Option Constant}
    (entered : value = none ∨ includeLiterals = false) (typeName : String)
    (arguments : List Expression) :
    walk includeLiterals (construct typeName arguments value) =
      Head.construct.code :: (ofText typeName ++ walkList includeLiterals arguments) := by
  rcases entered with rfl | rfl
  · rfl
  · cases value <;> rfl

theorem ofExpression_construct_of_entered {includeLiterals : Bool} {value : Option Constant}
    (entered : value = none ∨ includeLiterals = false) (typeName : String)
    (arguments : List Expression) :
    ofExpression includeLiterals (construct typeName arguments value) =
      (ofList includeLiterals arguments).map fun components =>
        Head.construct.code :: (ofText typeName ++ components) := by
  rcases entered with rfl | rfl
  · rfl
  · cases value <;> rfl

mutual

/-- A walk that meets no extension succeeds. -/
theorem ofExpression_eq_ok (includeLiterals : Bool) : ∀ expression : Expression,
    (∀ node ∈ expression.walked includeLiterals, node.isExtension = false) →
      ofExpression includeLiterals expression = .ok (walk includeLiterals expression)
  | .unary _ operand, free => by
      simp only [walked, List.forall_mem_cons] at free
      rw [ofExpression, ofExpression_eq_ok includeLiterals operand free.2]
      rfl
  | .binary _ left right, free => by
      simp only [walked, List.forall_mem_cons, List.forall_mem_append] at free
      rw [ofExpression, ofExpression_eq_ok includeLiterals left free.2.1,
        ofExpression_eq_ok includeLiterals right free.2.2]
      rfl
  | .constant _, _ => rfl
  | .member _ target, free => by
      simp only [walked, List.forall_mem_cons] at free
      rw [ofExpression, ofOption_eq_ok includeLiterals target free.2]
      rfl
  | .call _ target arguments, free => by
      simp only [walked, List.forall_mem_cons, List.forall_mem_append] at free
      rw [ofExpression, ofOption_eq_ok includeLiterals target free.2.1,
        ofList_eq_ok includeLiterals arguments free.2.2]
      rfl
  | .lambda body _, free => by
      simp only [walked, List.forall_mem_cons] at free
      rw [ofExpression, ofExpression_eq_ok includeLiterals body free.2]
      rfl
  | .parameter _, _ => rfl
  | .construct typeName arguments value, free => by
      -- The arguments are walked unless a folded value stands for them.
      have walkedArguments
          (enters : ∀ node ∈ walkedList includeLiterals arguments, node.isExtension = false) :
          ofList includeLiterals arguments = .ok (walkList includeLiterals arguments) :=
        ofList_eq_ok includeLiterals arguments enters
      cases value with
      | none =>
          simp only [walked, List.forall_mem_cons] at free
          rw [ofExpression, walkedArguments free.2]
          · rfl
          · intro _ _ folded
            cases folded
      | some value =>
          cases includeLiterals with
          | true => rfl
          | false =>
              simp only [walked, List.forall_mem_cons] at free
              rw [ofExpression, walkedArguments free.2]
              · rfl
              · intro _ _ _ included
                cases included
  | .extension kind, free => by
      simp [walked, isExtension] at free

theorem ofOption_eq_ok (includeLiterals : Bool) : ∀ optional : Option Expression,
    (∀ node ∈ walkedOption includeLiterals optional, node.isExtension = false) →
      ofOption includeLiterals optional = .ok (walkOption includeLiterals optional)
  | none, _ => rfl
  | some expression, free => by
      rw [ofOption, walkOption]
      exact ofExpression_eq_ok includeLiterals expression free

theorem ofList_eq_ok (includeLiterals : Bool) : ∀ expressions : List Expression,
    (∀ node ∈ walkedList includeLiterals expressions, node.isExtension = false) →
      ofList includeLiterals expressions = .ok (walkList includeLiterals expressions)
  | [], _ => rfl
  | expression :: rest, free => by
      simp only [walkedList, List.forall_mem_append] at free
      rw [ofList, ofExpression_eq_ok includeLiterals expression free.1,
        ofList_eq_ok includeLiterals rest free.2]
      rfl

end

end Fingerprint

end ResultCache
