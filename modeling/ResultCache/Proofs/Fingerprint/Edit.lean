import ResultCache.Proofs.Fingerprint.Accumulator
import ResultCache.Proofs.Fingerprint.Sections

/-!
Contract: an edit of one component changes the key.

Owns:
- `Expression.ChangedAt`, a change of one node that a walk enters, at any depth, with
  everything around it left as it was;
- that such a change stays inside one window of the component sequence, and meets an
  extension only where the tree before it did;
- `Edited`, the edits of a fetch that replace one component: its shape, one operator, or one
  literal of a single word;
- that every such edit changes the key.

Does not own: edits of texts and of timestamps, which replace more than one component.
-/

namespace ResultCache

/-! ### Changes of one node -/

namespace Expression

/-- A change of one node that a walk enters, with everything around it left as it was. -/
inductive ChangedAt (includeLiterals : Bool) (change : Expression → Expression → Prop) :
    Expression → Expression → Prop
  | here {first second : Expression} (changed : change first second) :
      ChangedAt includeLiterals change first second
  | operand (operator : UnaryOperator) {first second : Expression}
      (inner : ChangedAt includeLiterals change first second) :
      ChangedAt includeLiterals change (unary operator first) (unary operator second)
  | left (operator : BinaryOperator) (right : Expression) {first second : Expression}
      (inner : ChangedAt includeLiterals change first second) :
      ChangedAt includeLiterals change (binary operator first right) (binary operator second right)
  | right (operator : BinaryOperator) (left : Expression) {first second : Expression}
      (inner : ChangedAt includeLiterals change first second) :
      ChangedAt includeLiterals change (binary operator left first) (binary operator left second)
  | owner (name : String) {first second : Expression}
      (inner : ChangedAt includeLiterals change first second) :
      ChangedAt includeLiterals change (member name (some first)) (member name (some second))
  | receiver (method : String) (arguments : List Expression) {first second : Expression}
      (inner : ChangedAt includeLiterals change first second) :
      ChangedAt includeLiterals change (call method (some first) arguments)
        (call method (some second) arguments)
  | argument (method : String) (target : Option Expression) (before after : List Expression)
      {first second : Expression} (inner : ChangedAt includeLiterals change first second) :
      ChangedAt includeLiterals change (call method target (before ++ first :: after))
        (call method target (before ++ second :: after))
  | body (parameters : List String) {first second : Expression}
      (inner : ChangedAt includeLiterals change first second) :
      ChangedAt includeLiterals change (lambda first parameters) (lambda second parameters)
  /-- A folded value hides the arguments that it was built from where literal values are
  included. -/
  | part (typeName : String) (before after : List Expression) {value : Option Constant}
      (entered : value = none ∨ includeLiterals = false) {first second : Expression}
      (inner : ChangedAt includeLiterals change first second) :
      ChangedAt includeLiterals change (construct typeName (before ++ first :: after) value)
        (construct typeName (before ++ second :: after) value)

/-- A change of the literal value of a node: of a constant, or of the folded value of a
constructed node where literal values are included. -/
inductive Relabelled (includeLiterals : Bool) (altered : Constant → Constant → Prop) :
    Expression → Expression → Prop
  | constant {first second : Constant} (values : altered first second) :
      Relabelled includeLiterals altered (constant first) (constant second)
  | folded (included : includeLiterals = true) (typeName : String) (arguments : List Expression)
      {first second : Constant} (values : altered first second) :
      Relabelled includeLiterals altered (construct typeName arguments (some first))
        (construct typeName arguments (some second))

/-- Whether a walk meets no extension. -/
def IsWalkable (includeLiterals : Bool) (expression : Expression) : Prop :=
  ∀ node ∈ expression.walked includeLiterals, node.isExtension = false

variable {includeLiterals : Bool} {first second : Expression}

theorem Relabelled.isWalkable {altered : Constant → Constant → Prop}
    (relabelled : Relabelled includeLiterals altered first second) :
    second.IsWalkable includeLiterals := by
  cases relabelled with
  | constant values => simp [IsWalkable, walked, isExtension]
  | folded included typeName arguments values =>
      subst included
      simp [IsWalkable, walked, isExtension]

/-- A change that brings no extension into its own subtree brings none into the tree. -/
theorem ChangedAt.isWalkable {change : Expression → Expression → Prop}
    (keeps : ∀ {first second}, change first second → first.IsWalkable includeLiterals →
      second.IsWalkable includeLiterals)
    (changed : ChangedAt includeLiterals change first second)
    (free : first.IsWalkable includeLiterals) : second.IsWalkable includeLiterals := by
  unfold IsWalkable at *
  induction changed with
  | here changed => exact keeps changed free
  | operand operator _ inductionHypothesis =>
      simp only [walked, List.forall_mem_cons] at free ⊢
      exact ⟨rfl, inductionHypothesis free.2⟩
  | left operator right _ inductionHypothesis =>
      simp only [walked, List.forall_mem_cons, List.forall_mem_append] at free ⊢
      exact ⟨rfl, inductionHypothesis free.2.1, free.2.2⟩
  | right operator left _ inductionHypothesis =>
      simp only [walked, List.forall_mem_cons, List.forall_mem_append] at free ⊢
      exact ⟨rfl, free.2.1, inductionHypothesis free.2.2⟩
  | owner name _ inductionHypothesis =>
      simp only [walked, walkedOption, List.forall_mem_cons] at free ⊢
      exact ⟨rfl, inductionHypothesis free.2⟩
  | receiver method arguments _ inductionHypothesis =>
      simp only [walked, walkedOption, List.forall_mem_cons, List.forall_mem_append] at free ⊢
      exact ⟨rfl, inductionHypothesis free.2.1, free.2.2⟩
  | argument method target before after _ inductionHypothesis =>
      simp only [walked, walkedList_append, walkedList, List.forall_mem_cons,
        List.forall_mem_append] at free ⊢
      obtain ⟨_, ofTarget, ofBefore, ofChanged, ofAfter⟩ := free
      exact ⟨rfl, ofTarget, ofBefore, inductionHypothesis ofChanged, ofAfter⟩
  | body parameters _ inductionHypothesis =>
      simp only [walked, List.forall_mem_cons] at free ⊢
      exact ⟨rfl, inductionHypothesis free.2⟩
  | part typeName before after entered _ inductionHypothesis =>
      simp only [walked_construct_of_entered entered, walkedList_append, walkedList,
        List.forall_mem_cons, List.forall_mem_append] at free ⊢
      obtain ⟨_, ofBefore, ofChanged, ofAfter⟩ := free
      exact ⟨rfl, ofBefore, inductionHypothesis ofChanged, ofAfter⟩

end Expression

namespace Fingerprint

open Expression

/-! ### Windows of component sequences -/

/-- Sequences that are alike around a window, where they are related. -/
def DifferIn (related : List Component → List Component → Prop)
    (first second : List Component) : Prop :=
  ∃ before window window' after, related window window' ∧
    first = before ++ (window ++ after) ∧ second = before ++ (window' ++ after)

namespace DifferIn

variable {related : List Component → List Component → Prop} {first second : List Component}

theorem whole (here : related first second) : DifferIn related first second :=
  ⟨[], first, second, [], here, by simp, by simp⟩

theorem behind (front : List Component) (differ : DifferIn related first second) :
    DifferIn related (front ++ first) (front ++ second) := by
  obtain ⟨before, window, window', after, here, rfl, rfl⟩ := differ
  exact ⟨front ++ before, window, window', after, here, by simp, by simp⟩

theorem before (rest : List Component) (differ : DifferIn related first second) :
    DifferIn related (first ++ rest) (second ++ rest) := by
  obtain ⟨front, window, window', after, here, rfl, rfl⟩ := differ
  exact ⟨front, window, window', after ++ rest, here, by simp, by simp⟩

end DifferIn

section

variable {includeLiterals : Bool} {related : List Component → List Component → Prop}
  {first second : Expression}

/-- The components of a literal value stand in front of the name of its type. -/
theorem walk_of_relabelled {altered : Constant → Constant → Prop}
    (named : ∀ {value other}, altered value other → value.typeName = other.typeName)
    (values : ∀ {value other}, altered value other →
      related (ofConstantValue value) (ofConstantValue other))
    (relabelled : Relabelled includeLiterals altered first second) :
    DifferIn related (walk includeLiterals first) (walk includeLiterals second) := by
  have constants {value other : Constant} (here : altered value other) :
      DifferIn related (ofConstant value) (ofConstant other) := by
    rw [ofConstant, ofConstant, named here]
    exact (DifferIn.whole (values here)).before _
  cases relabelled with
  | constant here => exact (constants here).behind [_]
  | folded included typeName arguments here =>
      subst included
      exact (constants here).behind [_]

/-- The components around those of a changed node stay as they were. -/
theorem walk_of_changedAt {change : Expression → Expression → Prop}
    (window : ∀ {first second}, change first second →
      DifferIn related (walk includeLiterals first) (walk includeLiterals second))
    (changed : ChangedAt includeLiterals change first second) :
    DifferIn related (walk includeLiterals first) (walk includeLiterals second) := by
  induction changed with
  | here changed => exact window changed
  | operand operator _ inductionHypothesis => exact inductionHypothesis.behind [_]
  | left operator right _ inductionHypothesis =>
      exact (inductionHypothesis.before _).behind [_]
  | right operator left _ inductionHypothesis =>
      exact (inductionHypothesis.behind _).behind [_]
  | owner name _ inductionHypothesis =>
      exact (inductionHypothesis.behind (ofText name)).behind [_]
  | receiver method arguments _ inductionHypothesis =>
      exact ((inductionHypothesis.before _).behind (ofText method)).behind [_]
  | argument method target before after _ inductionHypothesis =>
      -- The number of arguments stands in front of them, and is the same.
      simp only [walk, walkList_append, walkList, List.length_append, List.length_cons]
      have arguments := (inductionHypothesis.before (walkList includeLiterals after)).behind
        (walkList includeLiterals before)
      exact (((arguments.behind [_]).behind (walkOption includeLiterals target)).behind
        (ofText method)).behind [_]
  | body parameters _ inductionHypothesis => exact (inductionHypothesis.before _).behind [_]
  | part typeName before after entered _ inductionHypothesis =>
      simp only [walk_construct_of_entered entered, walkList_append, walkList]
      have arguments := (inductionHypothesis.before (walkList includeLiterals after)).behind
        (walkList includeLiterals before)
      exact (arguments.behind (ofText typeName)).behind [_]

end

/-! ### Changes of one section -/

namespace Sections

/-- A change of one node of the filter or of the selector. -/
inductive ChangedAt (includeLiterals : Bool) (change : Expression → Expression → Prop) :
    Sections → Sections → Prop
  | filter {first second : Expression}
      (inner : Expression.ChangedAt includeLiterals change first second)
      (selector : Option Expression) (parameters : Option Json.Value) :
      ChangedAt includeLiterals change ⟨first, selector, parameters⟩ ⟨second, selector, parameters⟩
  | selector (filter : Expression) {first second : Expression}
      (inner : Expression.ChangedAt includeLiterals change first second)
      (parameters : Option Json.Value) :
      ChangedAt includeLiterals change ⟨filter, some first, parameters⟩
        ⟨filter, some second, parameters⟩

/-- Whether the walks of a fetch meet no extension. -/
def IsWalkable (includeLiterals : Bool) (sections : Sections) : Prop :=
  ∀ node ∈ sections.nodes includeLiterals, node.isExtension = false

instance (includeLiterals : Bool) (sections : Sections) :
    Decidable (sections.IsWalkable includeLiterals) :=
  inferInstanceAs (Decidable (∀ node ∈ sections.nodes includeLiterals, node.isExtension = false))

/-- The key that a deriver gives a fetch. -/
def key (deriver : KeyDeriver) (shape : ResultShape) (sections : Sections) :
    Except CacheError Key :=
  deriver.expressionKey shape sections.filter sections.selector sections.parameters

variable {includeLiterals : Bool} {first second sections : Sections}

theorem key_eq_ok {deriver : KeyDeriver} (free : sections.IsWalkable deriver.includeLiterals)
    (shape : ResultShape) :
    sections.key deriver shape =
      .ok (keyOf (shape.code :: sections.walk deriver.includeLiterals)) := by
  have components := components_eq_ok_of_free free shape
  unfold Sections.components at components
  rw [key, KeyDeriver.expressionKey, components]

theorem ChangedAt.isWalkable {change : Expression → Expression → Prop}
    (keeps : ∀ {first second}, change first second → first.IsWalkable includeLiterals →
      second.IsWalkable includeLiterals)
    (changed : ChangedAt includeLiterals change first second)
    (free : first.IsWalkable includeLiterals) : second.IsWalkable includeLiterals := by
  unfold IsWalkable nodes at *
  cases changed with
  | filter inner selector parameters =>
      rw [List.forall_mem_append] at free ⊢
      exact ⟨inner.isWalkable keeps free.1, free.2⟩
  | selector filter inner parameters =>
      rw [List.forall_mem_append] at free ⊢
      exact ⟨free.1, inner.isWalkable keeps free.2⟩

theorem walk_of_changedAt {change : Expression → Expression → Prop}
    {related : List Component → List Component → Prop}
    (window : ∀ {first second}, change first second →
      DifferIn related (Fingerprint.walk includeLiterals first)
        (Fingerprint.walk includeLiterals second))
    (changed : ChangedAt includeLiterals change first second) :
    DifferIn related (first.walk includeLiterals) (second.walk includeLiterals) := by
  cases changed with
  | filter inner selector parameters => exact (Fingerprint.walk_of_changedAt window inner).before _
  | selector filter inner parameters =>
      have changed := Fingerprint.walk_of_changedAt window inner
      exact ((changed.behind [selectorMarker]).before _).behind _

/-- Fetches whose components are alike around one window have keys, which are the same exactly
when both windows leave the same accumulator behind. -/
theorem exists_keys_of_differIn {deriver : KeyDeriver}
    {related : List Component → List Component → Prop}
    (differ : DifferIn related (first.walk deriver.includeLiterals)
      (second.walk deriver.includeLiterals))
    (free : first.IsWalkable deriver.includeLiterals)
    (free' : second.IsWalkable deriver.includeLiterals) (shape : ResultShape) :
    ∃ before window window' after key key', related window window' ∧
      first.components deriver.includeLiterals shape = .ok (before ++ (window ++ after)) ∧
      second.components deriver.includeLiterals shape = .ok (before ++ (window' ++ after)) ∧
      first.key deriver shape = .ok key ∧ second.key deriver shape = .ok key' ∧
      (key = key' ↔ mixAll (mixAll seed before) window = mixAll (mixAll seed before) window') := by
  obtain ⟨before, window, window', after, here, walked, walked'⟩ := differ.behind [shape.code]
  refine ⟨before, window, window', after, _, _, here, ?_, ?_, ?_, ?_,
    keyOf_eq_iff before window window' after⟩
  · rw [← walked]
    exact components_eq_ok_of_free free shape
  · rw [← walked']
    exact components_eq_ok_of_free free' shape
  · rw [← walked]
    exact key_eq_ok free shape
  · rw [← walked']
    exact key_eq_ok free' shape

end Sections

/-! ### Edits of one component -/

/-- Literals of one type with different values that are each a single word. -/
inductive Replaced : Constant → Constant → Prop
  | bool {first second : Bool} (different : first ≠ second) : Replaced (.bool first) (.bool second)
  | int {first second : Int64} (different : first ≠ second) : Replaced (.int first) (.int second)
  | float {first second : Binary64} (different : first ≠ second) :
      Replaced (.float first) (.float second)

/-- A node with another operator on as many operands, or with another literal. -/
inductive NodeEdited (includeLiterals : Bool) : Expression → Expression → Prop
  | unary {first second : UnaryOperator} (different : first ≠ second) (operand : Expression) :
      NodeEdited includeLiterals (.unary first operand) (.unary second operand)
  | binary {first second : BinaryOperator} (different : first ≠ second)
      (left right : Expression) :
      NodeEdited includeLiterals (.binary first left right) (.binary second left right)
  | literal {first second : Expression}
      (relabelled : Relabelled includeLiterals Replaced first second) :
      NodeEdited includeLiterals first second

/-- A fetch by expression with another shape, or with one node of it edited. -/
inductive Edited (includeLiterals : Bool) :
    ResultShape → Sections → ResultShape → Sections → Prop
  | shape {first second : ResultShape} (different : first ≠ second) (sections : Sections) :
      Edited includeLiterals first sections second sections
  | node (shape : ResultShape) {first second : Sections}
      (changed : Sections.ChangedAt includeLiterals (NodeEdited includeLiterals) first second) :
      Edited includeLiterals shape first shape second

/-- Windows of one component each, which differ. -/
def OneWord (window window' : List Component) : Prop :=
  ∃ word word', word ≠ word' ∧ window = [word] ∧ window' = [word']

/-- One component that differs gives another key. -/
theorem keyOf_ne_of_differIn {first second : List Component}
    (differ : DifferIn OneWord first second) : keyOf first ≠ keyOf second := by
  obtain ⟨before, _, _, after, ⟨word, word', different, rfl, rfl⟩, rfl, rfl⟩ := differ
  rw [Ne, keyOf_eq_iff]
  exact fun same => different ((mix_right_inj _).1 same)

theorem shape_code_injective : Function.Injective ResultShape.code := by
  intro first second same
  cases first <;> cases second <;> first | rfl | exact absurd same (by decide)

theorem oneWord_of_replaced {first second : Constant} (replaced : Replaced first second) :
    OneWord (ofConstantValue first) (ofConstantValue second) := by
  cases replaced with
  | @bool first second different =>
      refine ⟨_, _, ?_, rfl, rfl⟩
      cases first <;> cases second <;> first | exact absurd rfl different | decide
  | int different =>
      refine ⟨_, _, fun same => different ?_, rfl, rfl⟩
      exact congrArg UInt64.toInt64 same
  | @float first second different =>
      refine ⟨_, _, fun same => different ?_, rfl, rfl⟩
      cases first
      cases second
      exact congrArg Binary64.mk same

variable {includeLiterals : Bool}

theorem walk_of_nodeEdited {first second : Expression}
    (edited : NodeEdited includeLiterals first second) :
    DifferIn OneWord (walk includeLiterals first) (walk includeLiterals second) := by
  have heads {first second : Head} (different : first ≠ second) :
      DifferIn OneWord [first.code] [second.code] :=
    .whole ⟨_, _, fun same => different (Head.code_injective same), rfl, rfl⟩
  cases edited with
  | @unary first second different operand =>
      exact (heads fun same => different (Head.unary.inj same)).before _
  | @binary first second different left right =>
      exact (heads fun same => different (Head.binary.inj same)).before _
  | literal relabelled =>
      refine walk_of_relabelled ?_ oneWord_of_replaced relabelled
      intro value other replaced
      cases replaced <;> rfl

theorem isWalkable_of_nodeEdited {first second : Expression}
    (edited : NodeEdited includeLiterals first second)
    (free : first.IsWalkable includeLiterals) : second.IsWalkable includeLiterals := by
  cases edited with
  | unary different operand =>
      simp only [IsWalkable, walked, List.forall_mem_cons] at free ⊢
      exact ⟨rfl, free.2⟩
  | binary different left right =>
      simp only [IsWalkable, walked, List.forall_mem_cons] at free ⊢
      exact ⟨rfl, free.2⟩
  | literal relabelled => exact relabelled.isWalkable

/-- Both fetches have keys, and the edit tells them apart. A query text under two shapes has
two keys as well. -/
theorem key_ne_of_edited (deriver : KeyDeriver) {shape shape' : ResultShape}
    {first second : Sections}
    (edited : Edited deriver.includeLiterals shape first shape' second)
    (free : first.IsWalkable deriver.includeLiterals) :
    (∃ key key', first.key deriver shape = .ok key ∧ second.key deriver shape' = .ok key' ∧
      key ≠ key') ∧
    ∀ (other other' : ResultShape), other ≠ other' →
      ∀ (query : String) (parameters : Option Json.Value),
        KeyDeriver.queryKey other query parameters ≠ KeyDeriver.queryKey other' query parameters := by
  have shapes {first second : ResultShape} (different : first ≠ second)
      (rest : List Component) : DifferIn OneWord (first.code :: rest) (second.code :: rest) := by
    have codes : DifferIn OneWord [first.code] [second.code] :=
      .whole ⟨_, _, fun same => different (shape_code_injective same), rfl, rfl⟩
    exact codes.before rest
  constructor
  · cases edited with
    | shape different sections =>
        exact ⟨_, _, Sections.key_eq_ok free _, Sections.key_eq_ok free _,
          keyOf_ne_of_differIn (shapes different _)⟩
    | node changed =>
        have walks := Sections.walk_of_changedAt walk_of_nodeEdited changed
        exact ⟨_, _, Sections.key_eq_ok free _,
          Sections.key_eq_ok (changed.isWalkable isWalkable_of_nodeEdited free) _,
          keyOf_ne_of_differIn (walks.behind [_])⟩
  · intro other other' different query parameters
    exact keyOf_ne_of_differIn (shapes different _)

/-- The rows with an identity. -/
def idEquals (id : Int64) : Sections :=
  ⟨.lambda (.binary .equal (.member "id" (some (.parameter "row"))) (.constant (.int id))) ["row"],
    none, none⟩

theorem idEquals_one_key_ne_two :
    Edited true .oneByExpression (idEquals 1) .oneByExpression (idEquals 2) ∧
      (idEquals 1).IsWalkable true ∧
      (∃ key key', (idEquals 1).key .standard .oneByExpression = .ok key ∧
        (idEquals 2).key .standard .oneByExpression = .ok key' ∧ key ≠ key') ∧
      ∀ (other other' : ResultShape), other ≠ other' →
        ∀ (query : String) (parameters : Option Json.Value),
          KeyDeriver.queryKey other query parameters ≠
            KeyDeriver.queryKey other' query parameters := by
  have literal : NodeEdited true (.constant (.int 1)) (.constant (.int 2)) :=
    .literal (.constant (.int (by decide)))
  have edited : Edited true .oneByExpression (idEquals 1) .oneByExpression (idEquals 2) :=
    .node _ (.filter (.body _ (.right _ _ (.here literal))) _ _)
  have free : (idEquals 1).IsWalkable true := by decide
  exact ⟨edited, free, key_ne_of_edited .standard edited free⟩

end Fingerprint

end ResultCache
