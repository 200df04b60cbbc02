import ResultCache.Proofs.Fingerprint.Readability

/-!
Contract: how far the components of a fetch tell its sections apart.

Owns:
- `Fingerprint.Sections`, a filter, an optional selector and optional parameters;
- `Fingerprint.landmarks`, a scan of a component sequence that knows nothing of trees: it
  steps over nodes, and finds the marker of a selector and the texts that stand by
  themselves;
- the scan of a walk with the rest of the sequence behind it, for every tree whose numbers
  are not taken for nodes;
- that such sequences always tell whether there is a selector, and tell whether there are
  parameters exactly when as many texts of the trees stand by themselves.

A text stands by itself when nothing in front of it announces it. The texts of parameters
do, as do the names of the parameters of a lambda, whose number no walk mixes in.
-/

namespace ResultCache

namespace Fingerprint

open Expression

/-! ### Scanning -/

/-- What a scan finds. -/
inductive Landmark where
  | selector
  | text
  deriving DecidableEq

/-- The digests of the type names of constants whose value is one component. -/
def wordTypeDigests : List Component :=
  ["null", "bool", "int", "float"].map fun name => Text.digestChars name.toList

/-- Whether components start with a value of one component and the name of its type. -/
def startsWordConstant : List Component → Bool
  | _ :: _ :: digest :: _ => wordTypeDigests.contains digest
  | _ => false

/-- How many components behind the code of a head are data of its node, whatever comes
next: those of a name, or of a constant. -/
def dataLength (behind : List Component) : Head → Nat
  | .unary _ | .binary _ | .lambda | .extension => 0
  | .member | .call | .parameter => 2
  | .constant => if startsWordConstant behind then 3 else 4
  | .construct => if startsWordConstant behind then 3 else 2

/-- Whether two components that no node starts with are a text, and not the number of the
arguments of a call with what follows it. -/
def startsText (count digest : Component) : Bool :=
  if count = 0 then digest = Text.digestOffset else (Head.ofCode? digest).isNone

/-- The landmarks of components. Two components at the end are too few for a node. -/
def landmarks : List Component → List Landmark
  | [] | [_] => []
  | [count, digest] => if count = 0 ∧ digest ≠ Text.digestOffset then [] else [.text]
  | first :: second :: third :: rest =>
    match Head.ofCode? first with
    | some head =>
      let behind := second :: third :: rest
      landmarks (behind.drop (dataLength behind head))
    | none =>
      if first = selectorMarker then .selector :: landmarks (second :: third :: rest)
      else if startsText first second then .text :: landmarks (third :: rest)
      else landmarks (second :: third :: rest)
termination_by components => components.length
decreasing_by all_goals simp only [List.length_drop, List.length_cons]; omega

/-- Components that nothing announces are counts: no digest starts them. -/
def Follows (rest : List Component) : Prop := ∀ first ∈ rest.head?, first.toNat < 2 ^ 61

@[simp] theorem landmarks_nil : landmarks [] = [] := by rw [landmarks]

@[simp] theorem landmarks_single (component : Component) : landmarks [component] = [] := by
  rw [landmarks]

theorem landmarks_pair (count digest : Component) :
    landmarks [count, digest] =
      if count = 0 ∧ digest ≠ Text.digestOffset then [] else [.text] := by
  rw [landmarks]

theorem landmarks_code (head : Head) {behind : List Component} (long : 2 ≤ behind.length) :
    landmarks (head.code :: behind) = landmarks (behind.drop (dataLength behind head)) := by
  match behind, long with
  | second :: third :: rest, _ =>
      rw [landmarks]
      simp only [Head.ofCode?_code]

/-- The data of a node are stepped over. -/
theorem landmarks_data (head : Head) (data behind : List Component)
    (measured : dataLength (data ++ behind) head = data.length)
    (long : 2 ≤ data.length + behind.length) :
    landmarks (head.code :: (data ++ behind)) = landmarks behind := by
  rw [landmarks_code head (by simpa using long), measured, List.drop_left]

/-- A node without data of its own is its code. -/
theorem landmarks_bare (head : Head) {behind : List Component}
    (bare : dataLength behind head = 0) (long : 2 ≤ behind.length) :
    landmarks (head.code :: behind) = landmarks behind := by
  rw [landmarks_code head long, bare, List.drop_zero]

theorem landmarks_selectorMarker {behind : List Component} (long : 2 ≤ behind.length) :
    landmarks (selectorMarker :: behind) = .selector :: landmarks behind := by
  match behind, long with
  | second :: third :: rest, _ =>
      have noHead : Head.ofCode? selectorMarker = none := by decide
      rw [landmarks]
      simp only [noHead, if_true]

theorem landmarks_text {count digest : Component} (notCode : Head.ofCode? count = none)
    (notMarker : count ≠ selectorMarker) (starts : startsText count digest = true)
    (rest : List Component) :
    landmarks (count :: digest :: rest) = .text :: landmarks rest := by
  cases rest with
  | nil =>
      rw [landmarks_pair, landmarks_nil, if_neg]
      rintro ⟨zero, differs⟩
      rw [startsText, if_pos zero] at starts
      exact differs (of_decide_eq_true starts)
  | cons third more =>
      rw [landmarks]
      simp only [notCode]
      rw [if_neg notMarker, if_pos starts]

/-! ### Numbers that are not taken for nodes -/

/-- A number of arguments or of characters that is taken for no code. Its bound is below
the digests that a scan goes by. -/
structure IsCount (number : Nat) : Prop where
  small : number < 2 ^ 61
  notCode : Head.ofCode? number.toUInt64 = none
  notMarker : number.toUInt64 ≠ selectorMarker

instance (number : Nat) : Decidable (IsCount number) :=
  decidable_of_iff
    (number < 2 ^ 61 ∧ Head.ofCode? number.toUInt64 = none ∧ number.toUInt64 ≠ selectorMarker)
    ⟨fun all => ⟨all.1, all.2.1, all.2.2⟩, fun count => ⟨count.1, count.2, count.3⟩⟩

theorem toNat_toUInt64_of_lt {number : Nat} (small : number < 2 ^ 61) :
    number.toUInt64.toNat = number :=
  UInt64.toNat_ofNat_of_lt' (small.trans (by decide))

/-- A text without characters has the digest that every digest starts from. -/
theorem digestChars_of_count_eq_zero {text : String} (small : text.toList.length < 2 ^ 61)
    (zero : text.toList.length.toUInt64 = 0) :
    Text.digestChars text.toList = Text.digestOffset := by
  have empty : text.toList.length = 0 := by
    rw [← toNat_toUInt64_of_lt small, zero]
    rfl
  rw [List.length_eq_zero_iff.1 empty]
  rfl

theorem Follows.nil : Follows [] := by simp [Follows]

theorem Follows.cons {first : Component} (small : first.toNat < 2 ^ 61) (rest : List Component) :
    Follows (first :: rest) := by
  simpa [Follows] using small

theorem Follows.number {number : Nat} (small : number < 2 ^ 61) (rest : List Component) :
    Follows (number.toUInt64 :: rest) := by
  apply Follows.cons
  rw [toNat_toUInt64_of_lt small]
  exact small

theorem Follows.code (head : Head) (rest : List Component) : Follows (head.code :: rest) := by
  have each : ∀ head ∈ Head.all, head.code.toNat < 2 ^ 61 := by decide
  exact Follows.cons (each head (Head.mem_all head)) rest

/-- The number of the arguments of a call is stepped over: an argument follows it, or it is
zero and no digest follows. -/
theorem landmarks_number {number : Nat} (count : IsCount number) {rest : List Component}
    (follows : Follows rest)
    (argument : number ≠ 0 → ∃ head behind, rest = Head.code head :: behind ∧ 1 ≤ behind.length) :
    landmarks (number.toUInt64 :: rest) = landmarks rest := by
  have notOffset : ∀ first ∈ rest.head?, first ≠ Text.digestOffset := by
    intro first member same
    have small := follows first member
    rw [same] at small
    exact absurd small (by decide)
  by_cases zero : number = 0
  · subst zero
    match rest, notOffset with
    | [], _ => rw [landmarks_single, landmarks_nil]
    | [first], notOffset =>
        have differs := notOffset first rfl
        rw [landmarks_pair, if_pos ⟨rfl, differs⟩, landmarks_single]
    | first :: second :: more, notOffset =>
        have differs := notOffset first rfl
        have noText : startsText (Nat.toUInt64 0) first = false := by
          simpa [startsText] using differs
        rw [landmarks]
        simp only [count.notCode]
        rw [if_neg count.notMarker, noText]
        rfl
  · obtain ⟨head, behind, rfl, long⟩ := argument zero
    match behind, long with
    | second :: more, _ =>
        have nonzero : number.toUInt64 ≠ 0 := by
          intro same
          have value := toNat_toUInt64_of_lt count.small
          rw [same] at value
          exact zero value.symm
        have noText : startsText number.toUInt64 head.code = false := by
          rw [startsText, if_neg nonzero, Head.ofCode?_code]
          rfl
        rw [landmarks]
        simp only [count.notCode]
        rw [if_neg count.notMarker, noText]
        rfl

end Fingerprint

namespace Expression

/-- Whether the numbers of a node are taken for nothing else by a scan: the number of the
arguments of a call, and the lengths and digests of the names of a lambda. -/
def IsLegible : Expression → Prop
  | call _ _ arguments => Fingerprint.IsCount arguments.length
  | lambda _ parameters =>
    ∀ name ∈ parameters, Fingerprint.IsCount name.toList.length ∧
      Head.ofCode? (Text.digestChars name.toList) = none
  | extension _ => False
  | _ => True

instance : (expression : Expression) → Decidable expression.IsLegible
  | call _ _ arguments => inferInstanceAs (Decidable (Fingerprint.IsCount arguments.length))
  | lambda _ parameters =>
    inferInstanceAs (Decidable (∀ name ∈ parameters, Fingerprint.IsCount name.toList.length ∧
      Head.ofCode? (Text.digestChars name.toList) = none))
  | extension _ => instDecidableFalse
  | unary _ _ | binary _ _ _ | constant _ | member _ _ | parameter _ | construct _ _ _ =>
    instDecidableTrue

/-- How many texts of a node stand by themselves: the names of the parameters of a lambda,
and the name of the type of a folded value of two components. -/
def looseTextsOf (includeLiterals : Bool) : Expression → Nat
  | lambda _ parameters => parameters.length
  | construct _ _ (some (.text _)) | construct _ _ (some (.timestamp _)) =>
    if includeLiterals then 1 else 0
  | _ => 0

end Expression

namespace Fingerprint

open Expression

/-- How many texts of nodes stand by themselves. -/
def looseTexts (includeLiterals : Bool) : List Expression → Nat
  | [] => 0
  | node :: nodes => looseTextsOf includeLiterals node + looseTexts includeLiterals nodes

@[simp] theorem looseTexts_nil (includeLiterals : Bool) : looseTexts includeLiterals [] = 0 := rfl

@[simp] theorem looseTexts_cons (includeLiterals : Bool) (node : Expression)
    (nodes : List Expression) :
    looseTexts includeLiterals (node :: nodes) =
      looseTextsOf includeLiterals node + looseTexts includeLiterals nodes := rfl

@[simp] theorem looseTexts_append (includeLiterals : Bool) (first second : List Expression) :
    looseTexts includeLiterals (first ++ second) =
      looseTexts includeLiterals first + looseTexts includeLiterals second := by
  induction first with
  | nil => rw [List.nil_append, looseTexts_nil, Nat.zero_add]
  | cons node nodes inductionHypothesis =>
      rw [List.cons_append, looseTexts_cons, looseTexts_cons, inductionHypothesis, Nat.add_assoc]

/-! ### Scanning a walk -/

/-- A walk without an extension starts with the code of its head, and is no shorter than
three components. -/
theorem exists_walk_eq (includeLiterals : Bool) : ∀ expression : Expression,
    (∀ node ∈ expression.walked includeLiterals, node.IsLegible) →
      ∃ behind, walk includeLiterals expression = expression.head.code :: behind ∧
        2 ≤ behind.length
  | .unary _ operand, legible => by
      simp only [walked, List.forall_mem_cons] at legible
      obtain ⟨behind, walks, long⟩ := exists_walk_eq includeLiterals operand legible.2
      refine ⟨_, rfl, ?_⟩
      rw [walks, List.length_cons]
      omega
  | .binary _ left right, legible => by
      simp only [walked, List.forall_mem_cons, List.forall_mem_append] at legible
      obtain ⟨behind, walks, long⟩ := exists_walk_eq includeLiterals left legible.2.1
      refine ⟨_, rfl, ?_⟩
      rw [walks, List.length_append, List.length_cons]
      omega
  | .constant value, _ => by
      refine ⟨_, rfl, ?_⟩
      cases value <;> simp
  | .member _ _, _ => ⟨_, rfl, by simp [ofText]⟩
  | .call _ _ _, _ => ⟨_, rfl, by simp [ofText]⟩
  | .lambda body _, legible => by
      simp only [walked, List.forall_mem_cons] at legible
      obtain ⟨behind, walks, long⟩ := exists_walk_eq includeLiterals body legible.2
      refine ⟨_, rfl, ?_⟩
      rw [walks, List.length_append, List.length_cons]
      omega
  | .parameter _, _ => ⟨_, rfl, by simp [ofText]⟩
  | .construct typeName arguments value, _ => by
      cases value with
      | none => exact ⟨_, rfl, by simp [ofText]⟩
      | some value =>
          cases includeLiterals with
          | false => exact ⟨_, rfl, by simp [ofText]⟩
          | true =>
              refine ⟨_, rfl, ?_⟩
              cases value <;> simp
  | .extension _, legible => by
      simp [walked, IsLegible] at legible

theorem two_le_length_walk {includeLiterals : Bool} {expression : Expression}
    (legible : ∀ node ∈ expression.walked includeLiterals, node.IsLegible)
    (rest : List Component) : 2 ≤ (walk includeLiterals expression ++ rest).length := by
  obtain ⟨behind, walks, long⟩ := exists_walk_eq includeLiterals expression legible
  rw [walks, List.length_append, List.length_cons]
  omega

theorem Follows.walk {includeLiterals : Bool} {expression : Expression}
    (legible : ∀ node ∈ expression.walked includeLiterals, node.IsLegible)
    (rest : List Component) : Follows (walk includeLiterals expression ++ rest) := by
  obtain ⟨behind, walks, _⟩ := exists_walk_eq includeLiterals expression legible
  rw [walks]
  exact Follows.code _ _

theorem Follows.walkList {includeLiterals : Bool} {expressions : List Expression}
    (legible : ∀ node ∈ walkedList includeLiterals expressions, node.IsLegible)
    {rest : List Component} (follows : Follows rest) :
    Follows (walkList includeLiterals expressions ++ rest) := by
  cases expressions with
  | nil => exact follows
  | cons expression others =>
      simp only [walkedList, List.forall_mem_append] at legible
      rw [Fingerprint.walkList, List.append_assoc]
      exact Follows.walk legible.1 _

theorem Follows.texts {names : List String}
    (counted : ∀ name ∈ names, IsCount name.toList.length) {rest : List Component}
    (follows : Follows rest) : Follows (names.flatMap ofText ++ rest) := by
  cases names with
  | nil => exact follows
  | cons name others => exact Follows.number (counted name List.mem_cons_self).small _

/-- Names that stand by themselves are found one by one. -/
theorem landmarks_texts {names : List String}
    (legible : ∀ name ∈ names, IsCount name.toList.length ∧
      Head.ofCode? (Text.digestChars name.toList) = none) (rest : List Component) :
    landmarks (names.flatMap ofText ++ rest) =
      List.replicate names.length .text ++ landmarks rest := by
  induction names with
  | nil => rfl
  | cons name others inductionHypothesis =>
      obtain ⟨⟨count, notCode⟩, legibleOthers⟩ := List.forall_mem_cons.1 legible
      have starts : startsText name.toList.length.toUInt64 (Text.digestChars name.toList) := by
        unfold startsText
        split
        · rename_i zero
          exact decide_eq_true (digestChars_of_count_eq_zero count.small zero)
        · rw [notCode]
          rfl
      rw [List.flatMap_cons, List.append_assoc, List.length_cons, List.replicate_succ,
        List.cons_append, ← inductionHypothesis legibleOthers]
      exact landmarks_text count.notCode count.notMarker starts _

theorem wordTypeDigests_eq :
    wordTypeDigests = [6601085983368743140, 14785269867199075517, 3143511548502526014,
      11532138274943533413] := by
  decide

/-- The number of components of a constant shows in the third of them. -/
theorem startsWordConstant_ofConstant (value : Constant) (rest : List Component) :
    startsWordConstant (ofConstant value ++ rest) =
      match value with
      | .text _ | .timestamp _ => false
      | _ => true := by
  cases value <;> simp [startsWordConstant, wordTypeDigests_eq]

theorem startsWordConstant_ofText (name : String) {rest : List Component}
    (follows : Follows rest) : startsWordConstant (ofText name ++ rest) = false := by
  cases rest with
  | nil => rfl
  | cons first more =>
      have large : ∀ digest ∈ wordTypeDigests, 2 ^ 61 ≤ digest.toNat := by
        simp [wordTypeDigests_eq]
      have small := follows first rfl
      simp only [ofText, List.cons_append, List.nil_append, startsWordConstant]
      rw [List.contains_eq_mem, decide_eq_false_iff_not]
      intro member
      exact absurd (large first member) (Nat.not_le.2 small)

/-- The type name of a constructed value that is not folded is stepped over. -/
theorem landmarks_typeName (typeName : String) {rest : List Component} (follows : Follows rest) :
    landmarks (Head.construct.code :: (ofText typeName ++ rest)) = landmarks rest := by
  have measured : dataLength (ofText typeName ++ rest) .construct = (ofText typeName).length := by
    simp only [dataLength, startsWordConstant_ofText typeName follows]
    rfl
  exact landmarks_data .construct (ofText typeName) rest measured (by simp [ofText])

theorem landmarks_constant (value : Constant) (rest : List Component) :
    landmarks (Head.constant.code :: (ofConstant value ++ rest)) = landmarks rest := by
  rw [landmarks_code .constant (by cases value <;> simp)]
  unfold dataLength
  rw [startsWordConstant_ofConstant]
  cases value <;> simp

/-- The name of the type of a folded value of two components is taken for a text. -/
theorem landmarks_folded (typeName : String) (arguments : List Expression) (value : Constant)
    (rest : List Component) :
    landmarks (Head.construct.code :: (ofConstant value ++ rest)) =
      List.replicate (looseTextsOf true (.construct typeName arguments (some value))) .text ++
        landmarks rest := by
  rw [landmarks_code .construct (by cases value <;> simp)]
  unfold dataLength
  rw [startsWordConstant_ofConstant]
  cases value with
  | text value =>
      simp only [ofConstant_text]
      exact landmarks_text (by decide) (by decide) (by decide) rest
  | timestamp value =>
      simp only [ofConstant_timestamp]
      exact landmarks_text (by decide) (by decide) (by decide) rest
  | _ => simp [looseTextsOf]

theorem exists_walkList_eq {includeLiterals : Bool} {expressions : List Expression}
    (legible : ∀ node ∈ walkedList includeLiterals expressions, node.IsLegible)
    (rest : List Component) (some : expressions.length ≠ 0) :
    ∃ head behind, walkList includeLiterals expressions ++ rest = Head.code head :: behind ∧
      1 ≤ behind.length := by
  cases expressions with
  | nil => exact absurd rfl some
  | cons expression others =>
      simp only [walkedList, List.forall_mem_append] at legible
      obtain ⟨behind, walks, long⟩ := exists_walk_eq includeLiterals expression legible.1
      rw [Fingerprint.walkList, walks]
      refine ⟨_, behind ++ walkList includeLiterals others ++ rest, rfl, ?_⟩
      rw [List.length_append, List.length_append]
      omega

mutual

/-- A scan steps over a walk, whatever stands behind it, and finds the texts that stand by
themselves. The induction is on the tree: the code in front says how much to step over, and
the walks of the children follow one another. -/
theorem landmarks_walk (includeLiterals : Bool) : ∀ (expression : Expression)
    {rest : List Component},
    (∀ node ∈ expression.walked includeLiterals, node.IsLegible) → Follows rest →
    landmarks (walk includeLiterals expression ++ rest) =
      List.replicate (looseTexts includeLiterals (expression.walked includeLiterals)) .text ++
        landmarks rest
  | .unary operator operand, rest, legible, follows => by
      simp only [walked, List.forall_mem_cons] at legible
      have stepped := landmarks_bare (.unary operator) rfl (two_le_length_walk legible.2 rest)
      have operands := landmarks_walk includeLiterals operand legible.2 follows
      simp only [walked, looseTexts_cons, looseTextsOf, Nat.zero_add]
      exact stepped.trans operands
  | .binary operator left right, rest, legible, follows => by
      simp only [walked, List.forall_mem_cons, List.forall_mem_append] at legible
      have stepped := landmarks_bare (.binary operator) rfl
        (two_le_length_walk legible.2.1 (walk includeLiterals right ++ rest))
      have lefts := landmarks_walk includeLiterals left legible.2.1
        (Follows.walk legible.2.2 rest)
      have rights := landmarks_walk includeLiterals right legible.2.2 follows
      simp only [walk, walked, looseTexts_cons, looseTexts_append, looseTextsOf, Nat.zero_add,
        List.cons_append, List.append_assoc, ← List.replicate_append_replicate]
      rw [← rights, ← lefts]
      exact stepped
  | .constant value, rest, _, _ => by
      simp only [walked, looseTexts_cons, looseTexts_nil, looseTextsOf]
      exact landmarks_constant value rest
  | .member name target, rest, legible, follows => by
      simp only [walked, List.forall_mem_cons] at legible
      have stepped := landmarks_data .member (ofText name)
        (walkOption includeLiterals target ++ rest) rfl (by simp [ofText])
      have targets := landmarks_walkOption includeLiterals target legible.2 follows
      simp only [walk, walked, looseTexts_cons, looseTextsOf, Nat.zero_add, List.cons_append,
        List.append_assoc]
      exact stepped.trans targets
  | .call method target arguments, rest, legible, follows => by
      simp only [walked, List.forall_mem_cons, List.forall_mem_append] at legible
      obtain ⟨count, legibleTarget, legibleArguments⟩ := legible
      have stepped := landmarks_data .call (ofText method)
        (walkOption includeLiterals target ++
          (arguments.length.toUInt64 :: (walkList includeLiterals arguments ++ rest))) rfl
        (by simp [ofText])
      have targets := landmarks_walkOption includeLiterals target legibleTarget
        (Follows.number count.small (walkList includeLiterals arguments ++ rest))
      have numbers := landmarks_number count (Follows.walkList legibleArguments follows)
        (exists_walkList_eq legibleArguments rest)
      have each := landmarks_walkList includeLiterals arguments legibleArguments follows
      simp only [walk, walked, looseTexts_cons, looseTexts_append, looseTextsOf, Nat.zero_add,
        List.cons_append, List.append_assoc, ← List.replicate_append_replicate]
      rw [← each, ← numbers, ← targets]
      exact stepped
  | .lambda body parameters, rest, legible, follows => by
      simp only [walked, List.forall_mem_cons] at legible
      obtain ⟨names, legibleBody⟩ := legible
      have stepped := landmarks_bare .lambda rfl
        (two_le_length_walk legibleBody (parameters.flatMap ofText ++ rest))
      have bodies := landmarks_walk includeLiterals body legibleBody
        (Follows.texts (fun name member => (names name member).1) follows)
      have texts := landmarks_texts names rest
      simp only [walk, walked, looseTexts_cons, looseTextsOf, List.cons_append, List.append_assoc]
      rw [Nat.add_comm, ← List.replicate_append_replicate, List.append_assoc, ← texts, ← bodies]
      exact stepped
  | .parameter name, rest, _, _ => by
      simp only [walked, looseTexts_cons, looseTexts_nil, looseTextsOf]
      exact landmarks_data .parameter (ofText name) rest rfl (by simp [ofText])
  | .construct typeName arguments value, rest, legible, follows => by
      have unfolded (enters : ∀ node ∈ walkedList includeLiterals arguments, node.IsLegible) :
          landmarks (Head.construct.code ::
              (ofText typeName ++ (walkList includeLiterals arguments ++ rest))) =
            List.replicate (looseTexts includeLiterals (walkedList includeLiterals arguments))
              .text ++ landmarks rest := by
        have stepped := landmarks_typeName typeName (Follows.walkList enters follows)
        exact stepped.trans (landmarks_walkList includeLiterals arguments enters follows)
      cases value with
      | none =>
          simp only [walked, List.forall_mem_cons] at legible
          simp only [walk, walked, looseTexts_cons, looseTextsOf, Nat.zero_add, List.cons_append,
            List.append_assoc]
          exact unfolded legible.2
      | some value =>
          cases includeLiterals with
          | true =>
              simp only [walked, looseTexts_cons, looseTexts_nil, Nat.add_zero]
              exact landmarks_folded typeName arguments value rest
          | false =>
              simp only [walked, List.forall_mem_cons] at legible
              have none : looseTextsOf false (.construct typeName arguments (some value)) = 0 := by
                cases value <;> rfl
              simp only [walk, walked, looseTexts_cons, none, Nat.zero_add, List.cons_append,
                List.append_assoc]
              exact unfolded legible.2
  | .extension _, _, legible, _ => by
      simp [walked, IsLegible] at legible

theorem landmarks_walkOption (includeLiterals : Bool) : ∀ (optional : Option Expression)
    {rest : List Component},
    (∀ node ∈ walkedOption includeLiterals optional, node.IsLegible) → Follows rest →
    landmarks (walkOption includeLiterals optional ++ rest) =
      List.replicate (looseTexts includeLiterals (walkedOption includeLiterals optional)) .text ++
        landmarks rest
  | none, _, _, _ => rfl
  | some expression, _, legible, follows =>
      landmarks_walk includeLiterals expression legible follows

theorem landmarks_walkList (includeLiterals : Bool) : ∀ (expressions : List Expression)
    {rest : List Component},
    (∀ node ∈ walkedList includeLiterals expressions, node.IsLegible) → Follows rest →
    landmarks (walkList includeLiterals expressions ++ rest) =
      List.replicate (looseTexts includeLiterals (walkedList includeLiterals expressions)) .text ++
        landmarks rest
  | [], _, _, _ => rfl
  | expression :: others, rest, legible, follows => by
      simp only [walkedList, List.forall_mem_append] at legible
      have first := landmarks_walk includeLiterals expression legible.1
        (Follows.walkList legible.2 follows)
      have each := landmarks_walkList includeLiterals others legible.2 follows
      simp only [walkList, walkedList, looseTexts_append, List.append_assoc,
        ← List.replicate_append_replicate]
      rw [← each, ← first]

end

/-! ### Sections of a fetch -/

/-- What the key of a fetch is derived from, apart from its shape. -/
structure Sections where
  filter : Expression
  selector : Option Expression
  parameters : Option Json.Value

namespace Sections

variable {includeLiterals : Bool} {sections first second : Sections}

/-- The nodes that are walked for a key. -/
def nodes (includeLiterals : Bool) (sections : Sections) : List Expression :=
  sections.filter.walked includeLiterals ++ walkedOption includeLiterals sections.selector

def components (includeLiterals : Bool) (shape : ResultShape) (sections : Sections) :
    Except String (List Component) :=
  ofFetch includeLiterals shape sections.filter sections.selector sections.parameters

/-- Sections whose numbers are not taken for nodes, none of them an extension. -/
structure IsLegible (includeLiterals : Bool) (sections : Sections) : Prop where
  nodes : ∀ node ∈ sections.nodes includeLiterals, node.IsLegible
  parameters : ∀ value ∈ sections.parameters, value.compact.toList.length < 2 ^ 61

/-- The components behind the shape. -/
def walk (includeLiterals : Bool) (sections : Sections) : List Component :=
  Fingerprint.walk includeLiterals sections.filter ++
    ((sections.selector.map fun selector =>
        selectorMarker :: Fingerprint.walk includeLiterals selector).getD [] ++
      ofParameters sections.parameters)

theorem components_eq_ok_of_free
    (free : ∀ node ∈ sections.nodes includeLiterals, node.isExtension = false)
    (shape : ResultShape) :
    sections.components includeLiterals shape =
      .ok (shape.code :: sections.walk includeLiterals) := by
  obtain ⟨filter, selector, parameters⟩ := sections
  simp only [nodes, List.forall_mem_append] at free
  have filters := ofExpression_eq_ok includeLiterals filter free.1
  unfold components ofFetch
  cases selector with
  | none =>
      rw [filters]
      rfl
  | some selector =>
      have selectors := ofExpression_eq_ok includeLiterals selector free.2
      simp only [ofSelector, filters, selectors]
      rfl

theorem components_eq_ok (legible : sections.IsLegible includeLiterals) (shape : ResultShape) :
    sections.components includeLiterals shape =
      .ok (shape.code :: sections.walk includeLiterals) := by
  apply components_eq_ok_of_free
  intro node member
  have legibleNode := legible.nodes node member
  cases node with
  | extension kind => exact legibleNode.elim
  | _ => rfl

/-- The text of parameters stands by itself, at the end. -/
theorem landmarks_ofParameters {parameters : Option Json.Value}
    (small : ∀ value ∈ parameters, value.compact.toList.length < 2 ^ 61) :
    landmarks (ofParameters parameters) = List.replicate parameters.toList.length .text := by
  cases parameters with
  | none => exact landmarks_nil
  | some value =>
      have written : landmarks (ofText value.compact) = [.text] := by
        unfold ofText
        rw [landmarks_pair, if_neg]
        rintro ⟨zero, differs⟩
        exact differs (digestChars_of_count_eq_zero (small value rfl) zero)
      exact written

theorem follows_ofParameters {parameters : Option Json.Value}
    (small : ∀ value ∈ parameters, value.compact.toList.length < 2 ^ 61) :
    Follows (ofParameters parameters) := by
  cases parameters with
  | none => exact Follows.nil
  | some value => exact Follows.number (small value rfl) _

/-- A scan finds the texts of the filter, then the selector with its own texts, and then
the text of the parameters. -/
theorem landmarks_walk (legible : sections.IsLegible includeLiterals) :
    landmarks (sections.walk includeLiterals) =
      List.replicate (looseTexts includeLiterals (sections.filter.walked includeLiterals)) .text ++
        ((sections.selector.map fun selector => Landmark.selector ::
            List.replicate (looseTexts includeLiterals (selector.walked includeLiterals))
              .text).getD [] ++
          List.replicate sections.parameters.toList.length .text) := by
  obtain ⟨filter, selector, parameters⟩ := sections
  have texts := landmarks_ofParameters legible.parameters
  have follows := follows_ofParameters legible.parameters
  have legibleNodes := legible.nodes
  simp only [nodes, List.forall_mem_append] at legibleNodes
  cases selector with
  | none =>
      have filters := Fingerprint.landmarks_walk includeLiterals filter legibleNodes.1 follows
      rw [texts] at filters
      exact filters
  | some selector =>
      have marked : Follows (selectorMarker ::
          (Fingerprint.walk includeLiterals selector ++ ofParameters parameters)) :=
        Follows.cons (by decide) _
      have filters := Fingerprint.landmarks_walk includeLiterals filter legibleNodes.1 marked
      have selectors := Fingerprint.landmarks_walk includeLiterals selector legibleNodes.2 follows
      rw [landmarks_selectorMarker (two_le_length_walk legibleNodes.2 _), selectors, texts]
        at filters
      exact filters

/-- How many texts of the nodes stand by themselves. -/
def looseTexts (includeLiterals : Bool) (sections : Sections) : Nat :=
  Fingerprint.looseTexts includeLiterals (sections.nodes includeLiterals)

theorem count_selector (legible : sections.IsLegible includeLiterals) :
    (landmarks (sections.walk includeLiterals)).count .selector =
      sections.selector.toList.length := by
  rw [landmarks_walk legible]
  cases sections.selector <;> simp [List.count_replicate]

theorem count_text (legible : sections.IsLegible includeLiterals) :
    (landmarks (sections.walk includeLiterals)).count .text =
      sections.looseTexts includeLiterals + sections.parameters.toList.length := by
  rw [landmarks_walk legible, looseTexts, nodes, looseTexts_append]
  cases sections.selector <;> simp [walkedOption, Nat.add_assoc]

/-- Legible sections give components, and where these are the same, both fetches have a
selector or neither has; and both have parameters or neither has exactly when as many texts
of the nodes stand by themselves. -/
theorem parameters_alike_iff (shape : ResultShape) (legible : first.IsLegible includeLiterals)
    (legible' : second.IsLegible includeLiterals) :
    ∃ firstComponents secondComponents,
      first.components includeLiterals shape = .ok firstComponents ∧
      second.components includeLiterals shape = .ok secondComponents ∧
      (firstComponents = secondComponents →
        first.selector.isSome = second.selector.isSome ∧
        (first.parameters.isSome = second.parameters.isSome ↔
          first.looseTexts includeLiterals = second.looseTexts includeLiterals)) := by
  refine ⟨_, _, components_eq_ok legible shape, components_eq_ok legible' shape, fun same => ?_⟩
  have found : landmarks (first.walk includeLiterals) = landmarks (second.walk includeLiterals) :=
    congrArg landmarks (List.cons.inj same).2
  have selectors := congrArg (List.count .selector) found
  have texts := congrArg (List.count .text) found
  rw [count_selector legible, count_selector legible'] at selectors
  rw [count_text legible, count_text legible'] at texts
  have isSome_iff {Value : Type} (optional other : Option Value) :
      optional.isSome = other.isSome ↔ optional.toList.length = other.toList.length := by
    cases optional <;> cases other <;> simp
  rw [isSome_iff, isSome_iff]
  omega

/-- A lambda whose parameter bears the name of a JSON text. -/
def namedNull : Sections := ⟨.lambda (.parameter "x") ["null"], none, none⟩

/-- A lambda without parameters, fetched with that JSON text as its parameters. -/
def passedNull : Sections := ⟨.lambda (.parameter "x") [], none, some .null⟩

theorem namedNull_passedNull_parameters :
    namedNull.IsLegible true ∧ passedNull.IsLegible true ∧
      ∃ firstComponents secondComponents,
        namedNull.components true .oneByExpression = .ok firstComponents ∧
        passedNull.components true .oneByExpression = .ok secondComponents ∧
        (firstComponents = secondComponents →
          namedNull.selector.isSome = passedNull.selector.isSome ∧
          (namedNull.parameters.isSome = passedNull.parameters.isSome ↔
            namedNull.looseTexts true = passedNull.looseTexts true)) := by
  have named : namedNull.IsLegible true := ⟨by decide, by decide⟩
  have passed : passedNull.IsLegible true := ⟨by decide, by decide⟩
  exact ⟨named, passed, parameters_alike_iff .oneByExpression named passed⟩

/-- The name of a parameter of the filter passes for the parameters of the fetch. -/
theorem namedNull_shares_key_with_passedNull :
    namedNull.parameters.isSome ≠ passedNull.parameters.isSome ∧
      (∀ sections ∈ [namedNull, passedNull], ∀ includeLiterals,
        ∀ node ∈ sections.nodes includeLiterals, node.isExtension = false) ∧
      (∀ includeLiterals shape, ∃ components,
        namedNull.components includeLiterals shape = .ok components ∧
        passedNull.components includeLiterals shape = .ok components) ∧
      ∀ (deriver : KeyDeriver) (shape : ResultShape),
        deriver.expressionKey shape namedNull.filter namedNull.selector namedNull.parameters =
          deriver.expressionKey shape passedNull.filter passedNull.selector
            passedNull.parameters := by
  refine ⟨by decide, by decide, fun includeLiterals shape => ⟨_, rfl, rfl⟩, ?_⟩
  intro deriver shape
  rfl

end Sections

end Fingerprint

end ResultCache
