import Mathlib.Data.List.Lex
import ResultCache.Proofs.Fingerprint.Edit

/-!
Contract: which fetches have no key, and what is said about them.

Owns:
- `Expression.children` and positions in a tree, in walk order;
- `Expression.Exposes`, an extension at a position with no folded value over it that stands
  for what it was built from;
- that a walk fails exactly where an extension is exposed, with the kind of the first one, and
  that keys follow.

Does not own: what a walk that succeeds yields.
-/

namespace ResultCache

namespace Expression

variable {includeLiterals : Bool}

/-! ### Positions -/

/-- The nodes right under a node, in walk order: a target comes before arguments, and left
before right. -/
def children : Expression → List Expression
  | unary _ operand => [operand]
  | binary _ left right => [left, right]
  | constant _ => []
  | member _ target => target.toList
  | call _ target arguments => target.toList ++ arguments
  | lambda body _ => [body]
  | parameter _ => []
  | construct _ arguments _ => arguments
  | extension _ => []

/-- Whether a node is a constructed value that was folded. -/
def isFolded : Expression → Bool
  | construct _ _ value => value.isSome
  | _ => false

/-- The node at a position, which names the child to go to at each node on the way. -/
def at? : Expression → List Nat → Option Expression
  | expression, [] => some expression
  | expression, index :: rest => expression.children[index]?.bind (·.at? rest)

/-- An extension at a position, where no node on the way is a folded one whose value stands
for its arguments. -/
structure Exposes (includeLiterals : Bool) (expression : Expression) (position : List Nat)
    (kind : String) : Prop where
  here : expression.at? position = some (extension kind)
  entered : includeLiterals = true → ∀ outer node, outer <+: position →
    expression.at? outer = some node → node.isFolded = false

/-- An extension that one of the trees exposes, its position behind the index of the tree. -/
inductive ExposesIn (includeLiterals : Bool) (trees : List Expression) :
    List Nat → String → Prop
  | tree {index : Nat} {tree : Expression} {position : List Nat} {kind : String}
      (tree_at : trees[index]? = some tree) (exposes : tree.Exposes includeLiterals position kind) :
      ExposesIn includeLiterals trees (index :: position) kind

/-- The first of what stands at positions: all else stands behind it. -/
structure IsFirst (stands : List Nat → String → Prop) (position : List Nat) (kind : String) :
    Prop where
  here : stands position kind
  behind : ∀ other kind', stands other kind' →
    (other = position ∧ kind' = kind) ∨ List.Lex (· < ·) position other

theorem IsFirst.kind_eq {stands : List Nat → String → Prop} {position position' : List Nat}
    {kind kind' : String} (first : IsFirst stands position kind)
    (first' : IsFirst stands position' kind') : kind' = kind := by
  rcases first.behind position' kind' first'.here with ⟨_, same⟩ | before
  · exact same
  · rcases first'.behind position kind first.here with ⟨_, same⟩ | before'
    · exact same.symm
    · exact absurd before' (asymm before)

mutual

/-- Induction over a tree, from all children of a node to the node. -/
theorem induction_children {motive : Expression → Prop}
    (node : ∀ expression : Expression, (∀ child ∈ expression.children, motive child) →
      motive expression) : ∀ expression : Expression, motive expression
  | .unary _ operand => node _ (List.forall_mem_singleton.2 (induction_children node operand))
  | .binary _ left right =>
      node _ (List.forall_mem_cons.2 ⟨induction_children node left,
        List.forall_mem_singleton.2 (induction_children node right)⟩)
  | .constant _ => node _ (List.forall_mem_nil _)
  | .member _ target => node _ (induction_childrenOption node target)
  | .call _ target arguments =>
      node _ (List.forall_mem_append.2 ⟨induction_childrenOption node target,
        induction_childrenList node arguments⟩)
  | .lambda body _ => node _ (List.forall_mem_singleton.2 (induction_children node body))
  | .parameter _ => node _ (List.forall_mem_nil _)
  | .construct _ arguments _ => node _ (induction_childrenList node arguments)
  | .extension _ => node _ (List.forall_mem_nil _)

theorem induction_childrenOption {motive : Expression → Prop}
    (node : ∀ expression : Expression, (∀ child ∈ expression.children, motive child) →
      motive expression) : ∀ target : Option Expression, ∀ child ∈ target.toList, motive child
  | none => List.forall_mem_nil _
  | some target => List.forall_mem_singleton.2 (induction_children node target)

theorem induction_childrenList {motive : Expression → Prop}
    (node : ∀ expression : Expression, (∀ child ∈ expression.children, motive child) →
      motive expression) : ∀ arguments : List Expression, ∀ child ∈ arguments, motive child
  | [] => List.forall_mem_nil _
  | argument :: rest =>
      List.forall_mem_cons.2 ⟨induction_children node argument, induction_childrenList node rest⟩

end

/-! ### Exposed extensions, level by level -/

/-- The children that a walk goes on to. -/
def entered (includeLiterals : Bool) (expression : Expression) : List Expression :=
  if includeLiterals = true ∧ expression.isFolded = true then [] else expression.children

theorem entered_subset (includeLiterals : Bool) (expression : Expression) :
    expression.entered includeLiterals ⊆ expression.children := by
  unfold entered
  split
  · exact List.nil_subset _
  · exact List.Subset.refl _

theorem entered_of_not_folded {expression : Expression} (unfolded : expression.isFolded = false) :
    expression.entered includeLiterals = expression.children := by
  unfold entered
  rw [if_neg]
  rintro ⟨_, folded⟩
  rw [unfolded] at folded
  cases folded

theorem exposes_nil {expression : Expression} {kind : String} :
    expression.Exposes includeLiterals [] kind ↔ expression = extension kind := by
  constructor
  · intro exposes
    exact Option.some.inj exposes.here
  · rintro rfl
    refine ⟨rfl, fun _ outer node front found => ?_⟩
    cases List.prefix_nil.1 front
    cases found
    rfl

theorem exposes_cons {expression : Expression} {index : Nat} {position : List Nat}
    {kind : String} :
    expression.Exposes includeLiterals (index :: position) kind ↔
      ExposesIn includeLiterals (expression.entered includeLiterals) (index :: position) kind := by
  constructor
  · intro exposes
    -- The node itself is on the way.
    have shown : ¬ (includeLiterals = true ∧ expression.isFolded = true) := by
      rintro ⟨included, folded⟩
      have unfolded := exposes.entered included [] expression (List.nil_prefix) rfl
      rw [folded] at unfolded
      cases unfolded
    obtain ⟨child, child_at, here⟩ := Option.bind_eq_some_iff.1 exposes.here
    refine .tree ?_ ⟨here, fun included outer node front found => ?_⟩
    · rw [entered, if_neg shown]
      exact child_at
    · have found' : expression.at? (index :: outer) = some node := by
        rw [at?, child_at]
        exact found
      exact exposes.entered included _ node ((List.prefix_cons_inj index).2 front) found'
  · rintro ⟨child_at, exposes⟩
    unfold entered at child_at
    split at child_at
    case isTrue => cases child_at
    case isFalse shown =>
      refine ⟨?_, fun included outer node front found => ?_⟩
      · rw [at?, child_at]
        exact exposes.here
      · rcases List.prefix_cons_iff.1 front with rfl | ⟨behind, rfl, inside⟩
        · cases found
          exact Bool.eq_false_iff.2 fun folded => shown ⟨included, folded⟩
        · rw [at?, child_at] at found
          exact exposes.entered included behind node inside found

/-- What trees expose is exposed by the first of them or by the others. -/
theorem exposesIn_cons {tree : Expression} {rest : List Expression} {position : List Nat}
    {kind : String} :
    ExposesIn includeLiterals (tree :: rest) position kind ↔
      (∃ inner, position = 0 :: inner ∧ tree.Exposes includeLiterals inner kind) ∨
        ∃ index inner, position = (index + 1) :: inner ∧
          ExposesIn includeLiterals rest (index :: inner) kind := by
  constructor
  · rintro ⟨tree_at, exposes⟩
    rename_i index other inner
    cases index with
    | zero =>
        cases tree_at
        exact .inl ⟨inner, rfl, exposes⟩
    | succ index => exact .inr ⟨index, inner, rfl, .tree tree_at exposes⟩
  · rintro (⟨inner, rfl, exposes⟩ | ⟨index, inner, rfl, exposes⟩)
    · exact .tree rfl exposes
    · obtain ⟨tree_at, exposes⟩ := exposes
      exact .tree tree_at exposes

/-- What the first tree exposes stands in front of what the others do. -/
theorem IsFirst.head {tree : Expression} {position : List Nat} {kind : String}
    (first : IsFirst (tree.Exposes includeLiterals) position kind) (rest : List Expression) :
    IsFirst (ExposesIn includeLiterals (tree :: rest)) (0 :: position) kind := by
  refine ⟨exposesIn_cons.2 (.inl ⟨position, rfl, first.here⟩), fun other kind' exposes => ?_⟩
  rcases exposesIn_cons.1 exposes with ⟨inner, rfl, inFirst⟩ | ⟨index, inner, rfl, _⟩
  · rcases first.behind inner kind' inFirst with ⟨rfl, rfl⟩ | before
    · exact .inl ⟨rfl, rfl⟩
    · exact .inr (.cons before)
  · exact .inr (.rel (Nat.succ_pos index))

/-- Where the first tree exposes nothing, the first of the others is the first of all. -/
theorem IsFirst.tail {tree : Expression} {rest : List Expression} {index : Nat}
    {position : List Nat} {kind : String}
    (first : IsFirst (ExposesIn includeLiterals rest) (index :: position) kind)
    (free : ∀ position kind, ¬ tree.Exposes includeLiterals position kind) :
    IsFirst (ExposesIn includeLiterals (tree :: rest)) ((index + 1) :: position) kind := by
  refine ⟨exposesIn_cons.2 (.inr ⟨index, position, rfl, first.here⟩), fun other kind' exposes => ?_⟩
  rcases exposesIn_cons.1 exposes with ⟨inner, rfl, inFirst⟩ | ⟨index', inner, rfl, inRest⟩
  · exact absurd inFirst (free inner kind')
  · rcases first.behind _ kind' inRest with ⟨same, rfl⟩ | before
    · cases same
      exact .inl ⟨rfl, rfl⟩
    · right
      cases before with
      | cons before => exact .cons before
      | rel before => exact .rel (Nat.succ_lt_succ before)

/-- An extension has no positions but its own. -/
theorem isFirst_extension {kind : String} :
    IsFirst ((extension kind).Exposes includeLiterals) [] kind := by
  refine ⟨exposes_nil.2 rfl, fun other kind' exposes => ?_⟩
  cases other with
  | nil =>
      cases exposes_nil.1 exposes
      exact .inl ⟨rfl, rfl⟩
  | cons index rest => exact .inr .nil

/-- What a node other than an extension exposes, its entered children expose. -/
theorem exposes_iff_exposesIn {expression : Expression} (inner : expression.isExtension = false)
    (position : List Nat) (kind : String) :
    expression.Exposes includeLiterals position kind ↔
      ExposesIn includeLiterals (expression.entered includeLiterals) position kind := by
  cases position with
  | nil =>
      rw [exposes_nil]
      constructor
      · rintro rfl
        cases inner
      · intro exposes
        cases exposes
  | cons index position => exact exposes_cons

end Expression

namespace Fingerprint

open Expression

/-! ### Failed walks -/

/-- The kind that a walk failed with. -/
def rejected : Except String (List Component) → Option String
  | .ok _ => none
  | .error kind => some kind

theorem rejected_bind (walked : Except String (List Component))
    (next : List Component → Except String (List Component))
    (answer : Option String) (same : ∀ components, rejected (next components) = answer) :
    rejected (walked >>= next) = (rejected walked).or answer := by
  cases walked with
  | ok components => exact same components
  | error kind => rfl

/-- What is done with the components of a walk does not make it fail. -/
theorem rejected_bind_pure (walked : Except String (List Component))
    (next : List Component → List Component) :
    rejected (walked >>= fun components => pure (next components)) = rejected walked := by
  rw [rejected_bind walked _ none fun _ => rfl, Option.or_none]

section

variable {includeLiterals : Bool}

/-- Trees are walked in their order. -/
theorem rejected_ofList_cons (tree : Expression) (rest : List Expression) :
    rejected (ofList includeLiterals (tree :: rest)) =
      (rejected (ofExpression includeLiterals tree)).or
        (rejected (ofList includeLiterals rest)) := by
  rw [ofList]
  exact rejected_bind _ _ _ fun components => rejected_bind_pure _ _

theorem rejected_ofList_append (first second : List Expression) :
    rejected (ofList includeLiterals (first ++ second)) =
      (rejected (ofList includeLiterals first)).or
        (rejected (ofList includeLiterals second)) := by
  induction first with
  | nil => rfl
  | cons tree rest inductionHypothesis =>
      rw [List.cons_append, rejected_ofList_cons, rejected_ofList_cons, inductionHypothesis,
        Option.or_assoc]

theorem rejected_ofList_singleton (tree : Expression) :
    rejected (ofList includeLiterals [tree]) = rejected (ofExpression includeLiterals tree) := by
  rw [rejected_ofList_cons]
  exact Option.or_none

theorem rejected_ofOption (optional : Option Expression) :
    rejected (ofOption includeLiterals optional) =
      rejected (ofList includeLiterals optional.toList) := by
  cases optional with
  | none => rfl
  | some tree => exact (rejected_ofList_singleton tree).symm

/-- A walk of a node other than an extension fails as that of its entered children does. -/
theorem rejected_ofExpression {expression : Expression} (inner : expression.isExtension = false) :
    rejected (ofExpression includeLiterals expression) =
      rejected (ofList includeLiterals (expression.entered includeLiterals)) := by
  cases expression with
  | unary operator operand =>
      rw [entered_of_not_folded rfl, children, rejected_ofList_singleton, ofExpression]
      exact rejected_bind_pure _ _
  | binary operator left right =>
      rw [entered_of_not_folded rfl, children, rejected_ofList_cons, rejected_ofList_singleton,
        ofExpression]
      exact rejected_bind _ _ _ fun _ => rejected_bind_pure _ _
  | constant value => rw [entered_of_not_folded rfl]; rfl
  | member name target =>
      rw [entered_of_not_folded rfl, children, ← rejected_ofOption, ofExpression]
      exact rejected_bind_pure _ _
  | call method target arguments =>
      rw [entered_of_not_folded rfl, children, rejected_ofList_append, ← rejected_ofOption,
        ofExpression]
      exact rejected_bind _ _ _ fun _ => rejected_bind_pure _ _
  | lambda body parameters =>
      rw [entered_of_not_folded rfl, children, rejected_ofList_singleton, ofExpression]
      exact rejected_bind_pure _ _
  | parameter name => rw [entered_of_not_folded rfl]; rfl
  | construct typeName arguments value =>
      by_cases folded : includeLiterals = true ∧ value.isSome = true
      · obtain ⟨rfl, folded⟩ := folded
        obtain ⟨value, rfl⟩ := Option.isSome_iff_exists.1 folded
        rfl
      · -- No folded value stands for the arguments.
        have shown : value = none ∨ includeLiterals = false := by
          cases value with
          | none => exact .inl rfl
          | some value => exact .inr (Bool.eq_false_iff.2 fun included => folded ⟨included, rfl⟩)
        have arguments_entered :
            (construct typeName arguments value).entered includeLiterals = arguments :=
          if_neg folded
        rw [ofExpression_construct_of_entered shown, arguments_entered]
        exact rejected_bind_pure _ _
  | extension kind => cases inner

end

/-- The answer to a search for what stands at positions: none when there is nothing, and
otherwise the kind of the first. -/
inductive Finds (stands : List Nat → String → Prop) : Option String → Prop
  | nothing (free : ∀ position kind, ¬ stands position kind) : Finds stands none
  | first {position : List Nat} {kind : String} (first : IsFirst stands position kind) :
      Finds stands (some kind)

namespace Finds

variable {stands stands' : List Nat → String → Prop} {answer : Option String}

theorem congr (same : ∀ position kind, stands position kind ↔ stands' position kind)
    (finds : Finds stands answer) : Finds stands' answer := by
  have equal : stands = stands' := funext₂ fun position kind => propext (same position kind)
  rwa [← equal]

/-- There is an answer exactly when something stands somewhere. -/
theorem isSome_iff (finds : Finds stands answer) :
    answer.isSome = true ↔ ∃ position kind, stands position kind := by
  cases finds with
  | nothing free =>
      refine ⟨fun impossible => absurd impossible Bool.false_ne_true, ?_⟩
      rintro ⟨position, kind, here⟩
      exact absurd here (free position kind)
  | first first => exact ⟨fun _ => ⟨_, _, first.here⟩, fun _ => rfl⟩

/-- The answer is the kind of the first. -/
theorem eq_some_iff (finds : Finds stands answer) {kind : String} :
    answer = some kind ↔ ∃ position, IsFirst stands position kind := by
  constructor
  · rintro rfl
    cases finds with
    | first first => exact ⟨_, first⟩
  · rintro ⟨position, first⟩
    cases finds with
    | nothing free => exact absurd first.here (free position kind)
    | first first' => rw [first.kind_eq first']

end Finds

variable {includeLiterals : Bool}

/-- A search through the trees of a list, from the searches of each of them. -/
theorem finds_ofList {trees : List Expression}
    (each : ∀ tree ∈ trees, Finds (tree.Exposes includeLiterals)
      (rejected (ofExpression includeLiterals tree))) :
    Finds (ExposesIn includeLiterals trees) (rejected (ofList includeLiterals trees)) := by
  induction trees with
  | nil =>
      refine .nothing fun position kind exposes => ?_
      obtain ⟨tree_at, _⟩ := exposes
      cases tree_at
  | cons tree rest inductionHypothesis =>
      have here := each tree List.mem_cons_self
      have others := inductionHypothesis fun tree member =>
        each tree (List.mem_cons_of_mem _ member)
      rw [rejected_ofList_cons]
      generalize rejected (ofExpression includeLiterals tree) = answer at here ⊢
      generalize rejected (ofList includeLiterals rest) = answers at others ⊢
      cases here with
      | first first => exact .first (first.head rest)
      | nothing free =>
          cases others with
          | first first =>
              obtain ⟨tree_at, exposes⟩ := first.here
              exact .first (first.tail free)
          | nothing freeRest =>
              refine .nothing fun position kind exposes => ?_
              rcases exposesIn_cons.1 exposes with ⟨inner, _, inFirst⟩ | ⟨_, _, _, inRest⟩
              · exact free inner kind inFirst
              · exact freeRest _ kind inRest

/-- The walk of a tree searches it for exposed extensions. -/
theorem finds_ofExpression (expression : Expression) :
    Finds (expression.Exposes includeLiterals)
      (rejected (ofExpression includeLiterals expression)) := by
  induction expression using induction_children with
  | node expression inductionHypothesis =>
      cases shape : expression.isExtension with
      | true =>
          cases expression with
          | extension kind => exact .first isFirst_extension
          | _ => cases shape
      | false =>
          have searched : Finds (ExposesIn includeLiterals (expression.entered includeLiterals))
              (rejected (ofList includeLiterals (expression.entered includeLiterals))) :=
            finds_ofList fun child member =>
              inductionHypothesis child (entered_subset includeLiterals expression member)
          rw [rejected_ofExpression shape]
          exact searched.congr fun position kind => (exposes_iff_exposesIn shape position kind).symm

/-! ### Keys -/

namespace Sections

variable {sections : Sections}

/-- An extension that a fetch exposes: those of the filter stand in front of those of the
selector. -/
inductive Exposes (includeLiterals : Bool) (sections : Sections) : List Nat → String → Prop
  | filter {position : List Nat} {kind : String}
      (exposes : sections.filter.Exposes includeLiterals position kind) :
      Exposes includeLiterals sections (0 :: position) kind
  | selector {selector : Expression} {position : List Nat} {kind : String}
      (chosen : sections.selector = some selector)
      (exposes : selector.Exposes includeLiterals position kind) :
      Exposes includeLiterals sections (1 :: position) kind

theorem exposes_iff_exposesIn (position : List Nat) (kind : String) :
    sections.Exposes includeLiterals position kind ↔
      ExposesIn includeLiterals (sections.filter :: sections.selector.toList) position kind := by
  constructor
  · rintro (exposes | ⟨chosen, exposes⟩)
    · exact .tree rfl exposes
    · refine .tree ?_ exposes
      rw [chosen]
      rfl
  · intro exposes
    rcases exposesIn_cons.1 exposes with ⟨inner, rfl, inFilter⟩ | ⟨index, inner, rfl, inSelector⟩
    · exact .filter inFilter
    · obtain ⟨tree_at, exposed⟩ := inSelector
      cases chosen : sections.selector with
      | none =>
          rw [chosen] at tree_at
          cases tree_at
      | some selector =>
          rw [chosen] at tree_at
          cases index with
          | zero =>
              cases tree_at
              exact .selector chosen exposed
          | succ index => cases tree_at

theorem exists_exposes_iff :
    (∃ position kind, sections.Exposes includeLiterals position kind) ↔
      ∃ tree, (tree = sections.filter ∨ sections.selector = some tree) ∧
        ∃ position kind, tree.Exposes includeLiterals position kind := by
  constructor
  · rintro ⟨_, kind, exposes | ⟨chosen, exposes⟩⟩
    · exact ⟨_, .inl rfl, _, kind, exposes⟩
    · exact ⟨_, .inr chosen, _, kind, exposes⟩
  · rintro ⟨tree, rfl | chosen, position, kind, exposes⟩
    · exact ⟨_, kind, .filter exposes⟩
    · exact ⟨_, kind, .selector chosen exposes⟩

/-- The walks of a fetch fail as that of its filter, and then as that of its selector. -/
theorem rejected_components (shape : ResultShape) (sections : Sections) :
    rejected (sections.components includeLiterals shape) =
      rejected (ofList includeLiterals (sections.filter :: sections.selector.toList)) := by
  have selected : rejected (ofSelector includeLiterals sections.selector) =
      rejected (ofList includeLiterals sections.selector.toList) := by
    cases sections.selector with
    | none => rfl
    | some selector =>
        rw [Option.toList_some, rejected_ofList_singleton]
        exact rejected_bind_pure _ _
  rw [components, ofFetch, rejected_ofList_cons, ← selected]
  exact rejected_bind _ _ _ fun _ => rejected_bind_pure _ _

theorem finds_components (includeLiterals : Bool) (shape : ResultShape) (sections : Sections) :
    Finds (sections.Exposes includeLiterals)
      (rejected (sections.components includeLiterals shape)) := by
  rw [rejected_components]
  refine (finds_ofList fun tree _ => finds_ofExpression tree).congr fun position kind => ?_
  exact (exposes_iff_exposesIn position kind).symm

theorem key_eq_error_iff {deriver : KeyDeriver} {shape : ResultShape} {failure : CacheError} :
    sections.key deriver shape = .error failure ↔
      ∃ kind, rejected (sections.components deriver.includeLiterals shape) = some kind ∧
        failure = .unsupportedExpression kind := by
  rw [key, KeyDeriver.expressionKey, components]
  cases ofFetch deriver.includeLiterals shape sections.filter sections.selector
    sections.parameters with
  | ok components =>
      constructor
      · intro impossible
        cases impossible
      · rintro ⟨_, impossible, _⟩
        cases impossible
  | error kind =>
      constructor
      · intro same
        cases same
        exact ⟨kind, rfl, rfl⟩
      · rintro ⟨_, same, rfl⟩
        cases same
        rfl

end Sections

/-- A fetch has no key exactly when its filter or its selector exposes an extension: one with
no folded value over it, or any one where literal values are left out. The error is that of
the first exposed extension in walk order, and there is no other. -/
theorem key_fails_iff_exposes (deriver : KeyDeriver) (shape : ResultShape) (sections : Sections) :
    ((∃ failure, sections.key deriver shape = .error failure) ↔
      ∃ tree, (tree = sections.filter ∨ sections.selector = some tree) ∧
        ∃ position kind, tree.Exposes deriver.includeLiterals position kind) ∧
    ∀ failure, sections.key deriver shape = .error failure ↔
      ∃ position kind, IsFirst (sections.Exposes deriver.includeLiterals) position kind ∧
        failure = .unsupportedExpression kind := by
  have finds := Sections.finds_components deriver.includeLiterals shape sections
  constructor
  · rw [← Sections.exists_exposes_iff, ← finds.isSome_iff, Option.isSome_iff_exists]
    constructor
    · rintro ⟨failure, failed⟩
      obtain ⟨kind, found, _⟩ := Sections.key_eq_error_iff.1 failed
      exact ⟨kind, found⟩
    · rintro ⟨kind, found⟩
      exact ⟨_, Sections.key_eq_error_iff.2 ⟨kind, found, rfl⟩⟩
  · intro failure
    rw [Sections.key_eq_error_iff]
    constructor
    · rintro ⟨kind, found, named⟩
      obtain ⟨position, first⟩ := finds.eq_some_iff.1 found
      exact ⟨position, kind, first, named⟩
    · rintro ⟨position, kind, first, named⟩
      exact ⟨kind, finds.eq_some_iff.2 ⟨position, first⟩, named⟩

/-- The rows created after an instant of the provider's own, which was folded. -/
private def foldedInstant : Sections :=
  ⟨.binary .greaterThan (.member "created" (some (.parameter "row")))
    (.construct "DateTime" [.extension "now"] (some (.timestamp ⟨1704067200, 0⟩))),
    some (.extension "columns"), none⟩

-- The folded value hides the extension in the filter, not the one in the selector.
example : foldedInstant.key ⟨true⟩ .listByExpression = .error (.unsupportedExpression "columns") ∧
    foldedInstant.key ⟨false⟩ .listByExpression = .error (.unsupportedExpression "now") :=
  ⟨rfl, rfl⟩

end Fingerprint

end ResultCache
