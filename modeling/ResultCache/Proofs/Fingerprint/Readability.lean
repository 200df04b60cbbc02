import Mathlib.Algebra.Group.Nat.Defs
import ResultCache.Proofs.Fingerprint.Walk

/-!
Contract: how far the components of an expression determine it.

Owns:
- the texts of a tree, and the numbers of children that its walk leaves uncounted:
  whether a member or a call has a target, how many parameters a lambda has, and how
  many arguments a constructed value has;
- unique readability: component sequences with the same uncounted numbers are read
  back as one tree. Without those numbers they are not, since a target may pass from
  one node to the next and leave the sequence as it was.

Does not own: collisions of the arithmetic that folds a sequence into a key.
-/

namespace ResultCache

namespace Constant

/-- The texts that a constant embeds. -/
def texts : Constant → List String
  | text value => [value]
  | _ => []

/-- Whether a timestamp is on the calendar. -/
def IsRepresentable : Constant → Prop
  | timestamp value => value.IsCivil
  | _ => True

instance (constant : Constant) : Decidable constant.IsRepresentable := by
  cases constant <;> unfold IsRepresentable <;> infer_instance

end Constant

namespace Expression

/-- The texts that a node itself contributes to a walk. -/
def ownTexts : Expression → List String
  | constant value => value.texts
  | member name _ => [name]
  | call method _ _ => [method]
  | lambda _ parameters => parameters
  | parameter name => [name]
  | construct typeName _ _ => [typeName]
  | _ => []

/-- Whether a node is neither an extension nor a folded value. -/
def isPlain : Expression → Bool
  | extension _ => false
  | construct _ _ value => value.isNone
  | _ => true

/-- Whether the data of a node are within the bounds of their machine types. -/
def IsRepresentable : Expression → Prop
  | constant value => value.IsRepresentable
  | call _ _ arguments => arguments.length < 2 ^ 64
  | _ => True

instance (expression : Expression) : Decidable expression.IsRepresentable := by
  cases expression <;> unfold IsRepresentable <;> infer_instance

/-- The numbers of children of a node that its walk leaves uncounted. -/
def uncounted : Expression → List Nat
  | member _ target => [target.toList.length]
  | call _ target _ => [target.toList.length]
  | lambda _ parameters => [parameters.length]
  | construct _ arguments _ => [arguments.length]
  | _ => []

/-- The numbers of children that the walk of a tree leaves uncounted, in walk order. -/
def arities (expression : Expression) : List Nat := expression.nodes.flatMap uncounted

theorem arities_binary (operator : BinaryOperator) (left right : Expression) :
    (binary operator left right).arities = left.arities ++ right.arities := by
  simp [arities, nodes, walked, uncounted]

theorem arities_call (method : String) (target : Option Expression)
    (arguments : List Expression) :
    (call method target arguments).arities =
      target.toList.length :: ((walkedOption false target).flatMap uncounted ++
        (walkedList false arguments).flatMap uncounted) := by
  simp [arities, nodes, walked, uncounted]

theorem arities_construct (typeName : String) (arguments : List Expression)
    (value : Option Constant) :
    (construct typeName arguments value).arities =
      arguments.length :: (walkedList false arguments).flatMap uncounted := by
  rw [arities, nodes, walked_false_construct]
  rfl

theorem mem_nodes_self (expression : Expression) : expression ∈ expression.nodes := by
  cases expression with
  | construct typeName arguments value =>
      rw [nodes, walked_false_construct]
      exact List.mem_cons_self
  | _ => simp [nodes, walked]

end Expression

namespace Fingerprint

open Expression

variable {behind beyond : List Component}

/-! ### Texts and constants -/

private theorem ofText_inj {first second : String}
    (distinguished : ofText first = ofText second → first = second)
    (same : ofText first ++ behind = ofText second ++ beyond) : first = second ∧ behind = beyond := by
  obtain ⟨components, rest⟩ := List.append_inj same rfl
  exact ⟨distinguished components, rest⟩

private theorem ofTexts_inj : ∀ {first second : List String},
    first.length = second.length →
    (∀ text ∈ first, ∀ other ∈ second, ofText text = ofText other → text = other) →
    first.flatMap ofText ++ behind = second.flatMap ofText ++ beyond →
    first = second ∧ behind = beyond
  | [], [], _, _, same => ⟨rfl, same⟩
  | text :: first, other :: second, lengths, distinguished, same => by
      simp only [List.flatMap_cons, List.append_assoc] at same
      obtain ⟨rfl, tails⟩ := ofText_inj
        (distinguished text List.mem_cons_self other List.mem_cons_self) same
      obtain ⟨rfl, rest⟩ := ofTexts_inj (Nat.succ.inj lengths)
        (fun name inFirst name' inSecond =>
          distinguished name (List.mem_cons_of_mem _ inFirst) name'
            (List.mem_cons_of_mem _ inSecond)) tails
      exact ⟨rfl, rest⟩

@[simp] theorem ofConstant_null : ofConstant .null = [0, 4, 6601085983368743140] := by
  decide

@[simp] theorem ofConstant_bool (value : Bool) :
    ofConstant (.bool value) = [if value then 2 else 1, 4, 14785269867199075517] := by
  cases value <;> decide

@[simp] theorem ofConstant_int (value : Int64) :
    ofConstant (.int value) = [value.toUInt64, 3, 3143511548502526014] := by
  have name : ofText "int" = [3, 3143511548502526014] := by decide
  rw [ofConstant, Constant.typeName, name]
  rfl

@[simp] theorem ofConstant_float (value : Binary64) :
    ofConstant (.float value) = [value.bits, 5, 11532138274943533413] := by
  have name : ofText "float" = [5, 11532138274943533413] := by decide
  rw [ofConstant, Constant.typeName, name]
  rfl

@[simp] theorem ofConstant_text (value : String) :
    ofConstant (.text value) =
      [value.toList.length.toUInt64, Text.digestChars value.toList, 4,
        18015793717152399486] := by
  have name : ofText "text" = [4, 18015793717152399486] := by decide
  rw [ofConstant, Constant.typeName, name]
  rfl

@[simp] theorem ofConstant_timestamp (value : Instant) :
    ofConstant (.timestamp value) =
      [(Int64.ofInt value.seconds).toUInt64, value.nanoseconds.toUInt64, 9,
        6763441490543064067] := by
  have name : ofText "timestamp" = [9, 6763441490543064067] := by decide
  rw [ofConstant, Constant.typeName, name]
  rfl

private theorem toUInt64_inj {first second : Nat} (firstSmall : first < 2 ^ 64)
    (secondSmall : second < 2 ^ 64) (same : first.toUInt64 = second.toUInt64) :
    first = second := by
  have values : (UInt64.ofNat first).toNat = (UInt64.ofNat second).toNat :=
    congrArg UInt64.toNat same
  rwa [UInt64.toNat_ofNat_of_lt' firstSmall, UInt64.toNat_ofNat_of_lt' secondSmall] at values

private theorem seconds_inj {first second : Instant} (firstCivil : first.IsCivil)
    (secondCivil : second.IsCivil)
    (same : (Int64.ofInt first.seconds).toUInt64 = (Int64.ofInt second.seconds).toUInt64) :
    first.seconds = second.seconds := by
  have signed : Int64.ofInt first.seconds = Int64.ofInt second.seconds := by
    rw [← Int64.toInt64_toUInt64 (Int64.ofInt first.seconds), same, Int64.toInt64_toUInt64]
  have ofFirst := firstCivil.notBefore
  have toFirst := firstCivil.notAfter
  have ofSecond := secondCivil.notBefore
  have toSecond := secondCivil.notAfter
  simp only [Instant.earliest, Instant.latest] at ofFirst toFirst ofSecond toSecond
  rw [← Int64.toInt_ofInt_of_le (n := first.seconds) (by omega) (by omega), signed,
    Int64.toInt_ofInt_of_le (by omega) (by omega)]

/-- A constant is read off the front of a component sequence: the word or words of its
value stand before the name of its type, whose digest is no count of characters. -/
private theorem ofConstant_inj {first second : Constant}
    (firstCivil : first.IsRepresentable) (secondCivil : second.IsRepresentable)
    (distinguished : ∀ text ∈ first.texts, ∀ other ∈ second.texts,
      ofText text = ofText other → text = other)
    (same : ofConstant first ++ behind = ofConstant second ++ beyond) :
    first = second ∧ behind = beyond := by
  cases first with
  | null =>
      cases second with
      | null => simpa using same
      | _ => simp at same
  | bool value =>
      cases second with
      | bool other =>
          cases value <;> cases other <;> simp at same <;> simp [same]
      | _ => simp at same
  | int value =>
      cases second with
      | int other =>
          simp only [ofConstant_int, List.cons_append, List.nil_append, List.cons.injEq,
            true_and] at same
          have values : value = other := by
            rw [← Int64.toInt64_toUInt64 value, same.1, Int64.toInt64_toUInt64]
          exact ⟨congrArg Constant.int values, same.2⟩
      | _ => simp at same
  | float value =>
      cases second with
      | float other =>
          simp only [ofConstant_float, List.cons_append, List.nil_append, List.cons.injEq,
            true_and] at same
          cases value
          cases other
          exact ⟨by simpa using same.1, same.2⟩
      | _ => simp at same
  | text value =>
      cases second with
      | text other =>
          simp only [ofConstant_text, List.cons_append, List.nil_append, List.cons.injEq,
            true_and] at same
          have values : value = other := by
            refine distinguished value (by simp [Constant.texts]) other (by simp [Constant.texts]) ?_
            simp [ofText, same.1, same.2.1]
          exact ⟨congrArg Constant.text values, same.2.2⟩
      | _ => simp at same
  | timestamp value =>
      cases second with
      | timestamp other =>
          simp only [ofConstant_timestamp, List.cons_append, List.nil_append, List.cons.injEq,
            true_and] at same
          have seconds := seconds_inj firstCivil secondCivil same.1
          have bound : 2 * Duration.perSecond < 2 ^ 64 := by decide
          have nanoseconds := toUInt64_inj (firstCivil.subsecond.trans bound)
            (secondCivil.subsecond.trans bound) same.2.1
          cases value
          cases other
          exact ⟨by simp_all, same.2.2⟩
      | _ => simp at same

/-! ### Reading two sequences side by side -/

/-- Nodes of two trees that components can tell apart: no extension and no folded value
is among them, their data are representable, and texts of the one are told from texts
of the other by their number of characters and their digest. -/
structure Comparable (first second : List Expression) : Prop where
  plainFirst : ∀ node ∈ first, node.isPlain = true
  plainSecond : ∀ node ∈ second, node.isPlain = true
  representableFirst : ∀ node ∈ first, node.IsRepresentable
  representableSecond : ∀ node ∈ second, node.IsRepresentable
  distinguished : ∀ text ∈ first.flatMap ownTexts, ∀ other ∈ second.flatMap ownTexts,
    ofText text = ofText other → text = other

theorem Comparable.mono {first second fewerFirst fewerSecond : List Expression}
    (comparable : Comparable first second) (subFirst : fewerFirst ⊆ first)
    (subSecond : fewerSecond ⊆ second) : Comparable fewerFirst fewerSecond where
  plainFirst node member := comparable.plainFirst node (subFirst member)
  plainSecond node member := comparable.plainSecond node (subSecond member)
  representableFirst node member := comparable.representableFirst node (subFirst member)
  representableSecond node member := comparable.representableSecond node (subSecond member)
  distinguished text inFirst other inSecond := by
    obtain ⟨node, nodeMember, inNode⟩ := List.mem_flatMap.1 inFirst
    obtain ⟨node', nodeMember', inNode'⟩ := List.mem_flatMap.1 inSecond
    exact comparable.distinguished text (List.mem_flatMap.2 ⟨node, subFirst nodeMember, inNode⟩)
      other (List.mem_flatMap.2 ⟨node', subSecond nodeMember', inNode'⟩)

/-- What two comparable nodes themselves contribute is told apart. -/
private theorem Comparable.own {first second : Expression} {firstRest secondRest : List Expression}
    (comparable : Comparable (first :: firstRest) (second :: secondRest)) :
    ∀ text ∈ first.ownTexts, ∀ other ∈ second.ownTexts,
      ofText text = ofText other → text = other := by
  intro text inFirst other inSecond
  exact comparable.distinguished text (by simp [inFirst]) other (by simp [inSecond])

private theorem Comparable.rest {first second : Expression}
    {firstRest secondRest : List Expression}
    (comparable : Comparable (first :: firstRest) (second :: secondRest)) :
    Comparable firstRest secondRest :=
  comparable.mono (List.subset_cons_self _ _) (List.subset_cons_self _ _)

private theorem Comparable.left {firstLeft firstRight secondLeft secondRight : List Expression}
    (comparable : Comparable (firstLeft ++ firstRight) (secondLeft ++ secondRight)) :
    Comparable firstLeft secondLeft :=
  comparable.mono (List.subset_append_left _ _) (List.subset_append_left _ _)

private theorem Comparable.right {firstLeft firstRight secondLeft secondRight : List Expression}
    (comparable : Comparable (firstLeft ++ firstRight) (secondLeft ++ secondRight)) :
    Comparable firstRight secondRight :=
  comparable.mono (List.subset_append_right _ _) (List.subset_append_right _ _)

/-- A plain tree contributes its kind code first. -/
private theorem walk_eq_cons (includeLiterals : Bool) {expression : Expression}
    (plain : expression.isPlain = true) :
    ∃ rest, walk includeLiterals expression = expression.kindCode :: rest := by
  cases expression with
  | construct typeName arguments value =>
      cases value with
      | none => exact ⟨_, rfl⟩
      | some value => simp [isPlain] at plain
  | extension kind => simp [isPlain] at plain
  | _ => exact ⟨_, rfl⟩

private theorem head_eq_of_walk {includeLiterals : Bool} {first second : Expression}
    (comparable : Comparable first.nodes second.nodes)
    (same : walk includeLiterals first ++ behind = walk includeLiterals second ++ beyond) :
    first.head = second.head := by
  obtain ⟨firstRest, firstWalk⟩ := walk_eq_cons includeLiterals
    (comparable.plainFirst first (mem_nodes_self first))
  obtain ⟨secondRest, secondWalk⟩ := walk_eq_cons includeLiterals
    (comparable.plainSecond second (mem_nodes_self second))
  rw [firstWalk, secondWalk] at same
  exact head_eq_of_kindCode_eq (List.cons.inj same).1

mutual

/-- Two trees whose component sequences start alike, and whose uncounted numbers start
alike, are one tree, and what stands behind them is the same. The induction is on the
first tree: the kind code in front gives the second its head, a text and a constant are
read off by their lengths, and the uncounted numbers say how many children follow. -/
theorem walk_inj (includeLiterals : Bool) : ∀ (first second : Expression)
    {behind beyond : List Component} {more others : List Nat},
    Comparable first.nodes second.nodes →
    walk includeLiterals first ++ behind = walk includeLiterals second ++ beyond →
    first.arities ++ more = second.arities ++ others →
    first = second ∧ behind = beyond ∧ more = others
  | .unary operator operand, second, _, _, _, _, comparable, same, counts => by
      have heads := head_eq_of_walk comparable same
      cases second with
      | unary operator' operand' =>
          obtain rfl : operator = operator' := Head.unary.inj heads
          obtain ⟨rfl, rest⟩ := walk_inj includeLiterals operand operand' comparable.rest
            (List.cons.inj same).2 counts
          exact ⟨rfl, rest⟩
      | _ => simp [head] at heads
  | .binary operator left right, second, _, _, _, _, comparable, same, counts => by
      have heads := head_eq_of_walk comparable same
      cases second with
      | binary operator' left' right' =>
          obtain rfl : operator = operator' := Head.binary.inj heads
          have children : Comparable (left.nodes ++ right.nodes) (left'.nodes ++ right'.nodes) :=
            comparable.rest
          simp only [walk, List.cons_append, List.append_assoc, List.cons.injEq] at same
          simp only [arities_binary, List.append_assoc] at counts
          obtain ⟨rfl, tails, fewer⟩ := walk_inj includeLiterals left left' children.left
            same.2 counts
          obtain ⟨rfl, rest⟩ := walk_inj includeLiterals right right' children.right tails fewer
          exact ⟨rfl, rest⟩
      | _ => simp [head] at heads
  | .constant value, second, _, _, _, _, comparable, same, counts => by
      have heads := head_eq_of_walk comparable same
      cases second with
      | constant value' =>
          obtain ⟨rfl, rest⟩ := ofConstant_inj
            (comparable.representableFirst _ (mem_nodes_self _))
            (comparable.representableSecond _ (mem_nodes_self _))
            comparable.own (List.cons.inj same).2
          exact ⟨rfl, rest, counts⟩
      | _ => simp [head] at heads
  | .member name target, second, _, _, _, _, comparable, same, counts => by
      have heads := head_eq_of_walk comparable same
      cases second with
      | member name' target' =>
          simp only [walk, List.cons_append, List.append_assoc, List.cons.injEq] at same
          obtain ⟨count, fewer⟩ := List.cons.inj counts
          obtain ⟨rfl, tails⟩ := ofText_inj
            (comparable.own name List.mem_cons_self name' List.mem_cons_self) same.2
          obtain ⟨rfl, rest⟩ := walkOption_inj includeLiterals target target' count
            comparable.rest tails fewer
          exact ⟨rfl, rest⟩
      | _ => simp [head] at heads
  | .call method target arguments, second, _, _, _, _, comparable, same, counts => by
      have heads := head_eq_of_walk comparable same
      cases second with
      | call method' target' arguments' =>
          have children : Comparable (walkedOption false target ++ walkedList false arguments)
              (walkedOption false target' ++ walkedList false arguments') :=
            comparable.rest
          simp only [walk, List.cons_append, List.append_assoc, List.cons.injEq] at same
          simp only [arities_call, List.cons_append, List.append_assoc, List.cons.injEq] at counts
          obtain ⟨rfl, afterName⟩ := ofText_inj
            (comparable.own method List.mem_cons_self method' List.mem_cons_self) same.2
          obtain ⟨rfl, afterTarget, fewer⟩ := walkOption_inj includeLiterals target target'
            counts.1 children.left afterName counts.2
          -- The number of arguments is a component of its own.
          obtain ⟨number, tails⟩ := List.cons.inj afterTarget
          have lengths : arguments.length = arguments'.length :=
            toUInt64_inj (comparable.representableFirst _ (mem_nodes_self _))
              (comparable.representableSecond _ (mem_nodes_self _)) number
          obtain ⟨rfl, rest⟩ := walkList_inj includeLiterals arguments arguments' lengths
            children.right tails fewer
          exact ⟨rfl, rest⟩
      | _ => simp [head] at heads
  | .lambda body parameters, second, _, _, _, _, comparable, same, counts => by
      have heads := head_eq_of_walk comparable same
      cases second with
      | lambda body' parameters' =>
          simp only [walk, List.cons_append, List.append_assoc, List.cons.injEq] at same
          obtain ⟨count, fewer⟩ := List.cons.inj counts
          obtain ⟨rfl, tails, fewest⟩ := walk_inj includeLiterals body body' comparable.rest
            same.2 fewer
          obtain ⟨rfl, rest⟩ := ofTexts_inj count comparable.own tails
          exact ⟨rfl, rest, fewest⟩
      | _ => simp [head] at heads
  | .parameter name, second, _, _, _, _, comparable, same, counts => by
      have heads := head_eq_of_walk comparable same
      cases second with
      | parameter name' =>
          obtain ⟨rfl, rest⟩ := ofText_inj
            (comparable.own name List.mem_cons_self name' List.mem_cons_self) (List.cons.inj same).2
          exact ⟨rfl, rest, counts⟩
      | _ => simp [head] at heads
  | .construct typeName arguments value, second, _, _, _, _, comparable, same, counts => by
      have heads := head_eq_of_walk comparable same
      cases second with
      | construct typeName' arguments' value' =>
          have unfolded := comparable.plainFirst _ (mem_nodes_self _)
          have unfolded' := comparable.plainSecond _ (mem_nodes_self _)
          obtain rfl : value = none := Option.isNone_iff_eq_none.1 unfolded
          obtain rfl : value' = none := Option.isNone_iff_eq_none.1 unfolded'
          simp only [walk, List.cons_append, List.append_assoc, List.cons.injEq] at same
          simp only [arities_construct, List.cons_append, List.cons.injEq] at counts
          obtain ⟨rfl, tails⟩ := ofText_inj
            (comparable.own typeName List.mem_cons_self typeName' List.mem_cons_self) same.2
          obtain ⟨rfl, rest⟩ := walkList_inj includeLiterals arguments arguments' counts.1
            comparable.rest tails counts.2
          exact ⟨rfl, rest⟩
      | _ => simp [head] at heads
  | .extension kind, _, _, _, _, _, comparable, _, _ => by
      have plain := comparable.plainFirst _ (mem_nodes_self _)
      simp [isPlain] at plain

theorem walkOption_inj (includeLiterals : Bool) : ∀ (first second : Option Expression)
    {behind beyond : List Component} {more others : List Nat},
    first.toList.length = second.toList.length →
    Comparable (walkedOption false first) (walkedOption false second) →
    walkOption includeLiterals first ++ behind = walkOption includeLiterals second ++ beyond →
    (walkedOption false first).flatMap uncounted ++ more =
      (walkedOption false second).flatMap uncounted ++ others →
    first = second ∧ behind = beyond ∧ more = others
  | none, none, _, _, _, _, _, _, same, counts => ⟨rfl, same, counts⟩
  | some first, some second, _, _, _, _, _, comparable, same, counts => by
      obtain ⟨rfl, rest⟩ := walk_inj includeLiterals first second comparable same counts
      exact ⟨rfl, rest⟩

theorem walkList_inj (includeLiterals : Bool) : ∀ (first second : List Expression)
    {behind beyond : List Component} {more others : List Nat},
    first.length = second.length →
    Comparable (walkedList false first) (walkedList false second) →
    walkList includeLiterals first ++ behind = walkList includeLiterals second ++ beyond →
    (walkedList false first).flatMap uncounted ++ more =
      (walkedList false second).flatMap uncounted ++ others →
    first = second ∧ behind = beyond ∧ more = others
  | [], [], _, _, _, _, _, _, same, counts => ⟨rfl, same, counts⟩
  | first :: rest, second :: rest', _, _, _, _, lengths, comparable, same, counts => by
      have children : Comparable (first.nodes ++ walkedList false rest)
          (second.nodes ++ walkedList false rest') := comparable
      simp only [walkList, List.append_assoc] at same
      simp only [walkedList, List.flatMap_append, List.append_assoc] at counts
      obtain ⟨rfl, tails, fewer⟩ := walk_inj includeLiterals first second children.left
        same counts
      obtain ⟨rfl, behind⟩ := walkList_inj includeLiterals rest rest' (Nat.succ.inj lengths)
        children.right tails fewer
      exact ⟨rfl, behind⟩

end

/-! ### Unique readability -/

private theorem ofExpression_eq_ok_of_plain (includeLiterals : Bool) {expression : Expression}
    (plain : ∀ node ∈ expression.nodes, node.isPlain = true) :
    ofExpression includeLiterals expression = .ok (walk includeLiterals expression) := by
  apply ofExpression_eq_ok
  intro node member
  have plainNode := plain node (walked_subset_nodes includeLiterals expression member)
  cases node <;> simp_all [isPlain, isExtension]

/-- Both walks give components, and where these are the same the trees are one tree
exactly when the walks left the same numbers of children uncounted. -/
theorem eq_iff_arities_eq_of_components_eq (includeLiterals : Bool) {first second : Expression}
    (comparable : Comparable first.nodes second.nodes) :
    ∃ firstComponents secondComponents,
      ofExpression includeLiterals first = .ok firstComponents ∧
      ofExpression includeLiterals second = .ok secondComponents ∧
      (firstComponents = secondComponents →
        (first = second ↔ first.arities = second.arities)) := by
  refine ⟨walk includeLiterals first, walk includeLiterals second,
    ofExpression_eq_ok_of_plain includeLiterals comparable.plainFirst,
    ofExpression_eq_ok_of_plain includeLiterals comparable.plainSecond, fun same => ?_⟩
  constructor
  · exact congrArg arities
  · intro counts
    exact (walk_inj includeLiterals first second comparable
      (congrArg (· ++ []) same) (congrArg (· ++ []) counts)).1

/-- The filter `Parent = p.Owner`. -/
def bareParent : Expression :=
  .binary .equal (.member "Parent" none) (.member "Owner" (some (.parameter "p")))

/-- The filter `Owner.Parent = p`. -/
def ownedParent : Expression :=
  .binary .equal (.member "Parent" (some (.member "Owner" none))) (.parameter "p")

private theorem comparable_bareParent_ownedParent :
    Comparable bareParent.nodes ownedParent.nodes where
  plainFirst := by decide
  plainSecond := by decide
  representableFirst := by decide
  representableSecond := by decide
  distinguished := by decide

theorem bareParent_ownedParent_arities :
    Comparable bareParent.nodes ownedParent.nodes ∧
      ∃ firstComponents secondComponents,
        ofExpression true bareParent = .ok firstComponents ∧
        ofExpression true ownedParent = .ok secondComponents ∧
        (firstComponents = secondComponents →
          (bareParent = ownedParent ↔ bareParent.arities = ownedParent.arities)) :=
  ⟨comparable_bareParent_ownedParent,
    eq_iff_arities_eq_of_components_eq true comparable_bareParent_ownedParent⟩

/-- A target that passes from one member to the next leaves the components as they were,
so that the two filters have one key whatever else they are fetched with. -/
theorem bareParent_shares_key_with_ownedParent :
    Comparable bareParent.nodes ownedParent.nodes ∧ bareParent ≠ ownedParent ∧
      (∀ includeLiterals, ofExpression includeLiterals bareParent =
        ofExpression includeLiterals ownedParent) ∧
      ∀ (deriver : KeyDeriver) (shape : ResultShape) (selector : Option Expression)
        (parameters : Option Json.Value),
        deriver.expressionKey shape bareParent selector parameters =
          deriver.expressionKey shape ownedParent selector parameters := by
  have same : ∀ includeLiterals,
      ofExpression includeLiterals bareParent = ofExpression includeLiterals ownedParent := by
    intro includeLiterals
    rfl
  refine ⟨comparable_bareParent_ownedParent, ?_, same, ?_⟩
  · intro equal
    simp [bareParent, ownedParent] at equal
  · intro deriver shape selector parameters
    unfold KeyDeriver.expressionKey ofFetch
    rw [same]

end Fingerprint

end ResultCache
