import ResultCache.Proofs.Fingerprint.Edit

/-!
Contract: leaving literal values out of keys is forgetting them.

Owns:
- `Expression.erased`, a tree without the folded values of its constructed nodes;
- that a walk without literal values is the walk with them of the erased tree, whether it
  succeeds or fails, and that keys follow;
- that everything else of a tree still has its components in the sequence: a part that is
  exchanged for another one, at any place, is a window of it.

Does not own: which windows leave one accumulator behind.
-/

namespace ResultCache

namespace Expression

mutual

/-- The tree with the folded values of its constructed nodes forgotten. -/
def erased : Expression → Expression
  | unary operator operand => unary operator operand.erased
  | binary operator left right => binary operator left.erased right.erased
  | constant value => constant value
  | member name target => member name (erasedOption target)
  | call method target arguments => call method (erasedOption target) (erasedList arguments)
  | lambda body parameters => lambda body.erased parameters
  | parameter name => parameter name
  | construct typeName arguments _ => construct typeName (erasedList arguments) none
  | extension kind => extension kind

/-- An optional tree erased: none stays none. -/
def erasedOption : Option Expression → Option Expression
  | none => none
  | some expression => some expression.erased

/-- Trees erased one by one. -/
def erasedList : List Expression → List Expression
  | [] => []
  | expression :: rest => expression.erased :: erasedList rest

end

theorem length_erasedList (expressions : List Expression) :
    (erasedList expressions).length = expressions.length := by
  induction expressions with
  | nil => rfl
  | cons expression rest inductionHypothesis => exact congrArg (· + 1) inductionHypothesis

end Expression

namespace Fingerprint

open Expression

/-! ### Walks -/

mutual

/-- A walk without literal values does on a tree what one with them does on the erased tree. -/
theorem ofExpression_erased : ∀ expression : Expression,
    ofExpression true expression.erased = ofExpression false expression
  | .unary _ operand => by
      rw [erased, ofExpression, ofExpression, ofExpression_erased operand]
      rfl
  | .binary _ left right => by
      rw [erased, ofExpression, ofExpression, ofExpression_erased left, ofExpression_erased right]
      rfl
  | .constant _ => rfl
  | .member _ target => by
      rw [erased, ofExpression, ofExpression, ofOption_erased target]
      rfl
  | .call _ target arguments => by
      rw [erased, ofExpression, ofExpression, ofOption_erased target, ofList_erased arguments,
        length_erasedList]
      rfl
  | .lambda body _ => by
      rw [erased, ofExpression, ofExpression, ofExpression_erased body]
      rfl
  | .parameter _ => rfl
  | .construct typeName arguments value => by
      -- Neither walk has a folded value to stand for the arguments.
      rw [erased, ofExpression_construct_of_entered (.inl rfl),
        ofExpression_construct_of_entered (.inr rfl), ofList_erased arguments]
  | .extension _ => rfl

theorem ofOption_erased : ∀ optional : Option Expression,
    ofOption true (erasedOption optional) = ofOption false optional
  | none => rfl
  | some expression => ofExpression_erased expression

theorem ofList_erased : ∀ expressions : List Expression,
    ofList true (erasedList expressions) = ofList false expressions
  | [] => rfl
  | expression :: rest => by
      rw [erasedList, ofList, ofList, ofExpression_erased expression, ofList_erased rest]

end

/-! ### Keys -/

namespace Sections

/-- A fetch with the folded values of its filter and its selector forgotten. -/
def erased (sections : Sections) : Sections :=
  { sections with
    filter := sections.filter.erased
    selector := sections.selector.map Expression.erased }

theorem components_erased (shape : ResultShape) (sections : Sections) :
    sections.erased.components true shape = sections.components false shape := by
  obtain ⟨filter, selector, parameters⟩ := sections
  unfold components ofFetch
  cases selector with
  | none => simp only [erased, Option.map_none, ofSelector, ofExpression_erased]
  | some selector => simp only [erased, Option.map_some, ofSelector, ofExpression_erased]

theorem key_erased (shape : ResultShape) (sections : Sections) :
    sections.erased.key ⟨true⟩ shape = sections.key ⟨false⟩ shape := by
  have components := components_erased shape sections
  unfold Sections.components at components
  rw [key, key, KeyDeriver.expressionKey, KeyDeriver.expressionKey, components]

end Sections

/-- One tree in the place of another. -/
inductive Exchanged (part other : Expression) : Expression → Expression → Prop
  | exchanged : Exchanged part other part other

/-- A fetch has the key without literal values that it has with them once it is erased, or
fails alike. Fetches that are erased to one therefore have one key, whatever values they had
folded. Everything else is still told as it was: where a part of a tree is exchanged for
another one, at any place and behind folded values too, the components are alike around
those of the parts, and the keys are the same exactly when these leave the same accumulator
behind. -/
theorem key_excluding_eq_key_erased (shape : ResultShape) (sections : Sections) :
    sections.key ⟨false⟩ shape = sections.erased.key ⟨true⟩ shape ∧
      (∀ other : Sections, other.erased = sections.erased →
        other.key ⟨false⟩ shape = sections.key ⟨false⟩ shape) ∧
      ∀ (part part' : Expression) (other : Sections),
        Sections.ChangedAt false (Exchanged part part') sections other →
        sections.IsWalkable false → part'.IsWalkable false →
        ∃ before after key key',
          sections.components false shape = .ok (before ++ (walk false part ++ after)) ∧
          other.components false shape = .ok (before ++ (walk false part' ++ after)) ∧
          sections.key ⟨false⟩ shape = .ok key ∧ other.key ⟨false⟩ shape = .ok key' ∧
          (key = key' ↔ mixAll (mixAll seed before) (walk false part) =
            mixAll (mixAll seed before) (walk false part')) := by
  refine ⟨(Sections.key_erased shape sections).symm, ?_, ?_⟩
  · intro other same
    rw [← Sections.key_erased, ← Sections.key_erased, same]
  · intro part part' other changed free walkable
    have free' : other.IsWalkable false := by
      apply changed.isWalkable _ free
      rintro _ _ ⟨⟩ _
      exact walkable
    have window {first second : Expression} (here : Exchanged part part' first second) :
        DifferIn (fun window window' => window = walk false part ∧ window' = walk false part')
          (walk false first) (walk false second) := by
      cases here
      exact .whole ⟨rfl, rfl⟩
    obtain ⟨before, _, _, after, key, key', ⟨rfl, rfl⟩, parts⟩ :=
      Sections.exists_keys_of_differIn (Sections.walk_of_changedAt window changed) free free' shape
    exact ⟨before, after, key, key', parts⟩

/-- The rows created after a date that is built from a year, with the value that it was
folded to. -/
def createdAfterYear (year : Int64) (value : Option Constant) : Sections :=
  ⟨.lambda (.binary .greaterThan (.member "created" (some (.parameter "row")))
    (.construct "DateTime" [.constant (.int year)] value)) ["row"], none, none⟩

/-- The first instant of 2024, as a folded value. -/
def foldedYear : Option Constant := some (.timestamp ⟨1704067200, 0⟩)

/-- Without literal values, the folded value of a date does not matter, and the year that it
is built from does. -/
theorem createdAfterYear_keys :
    (createdAfterYear 2024 none).erased = (createdAfterYear 2024 foldedYear).erased ∧
      Sections.ChangedAt false (Exchanged (.constant (.int 2024)) (.constant (.int 2025)))
        (createdAfterYear 2024 foldedYear) (createdAfterYear 2025 foldedYear) ∧
      (createdAfterYear 2024 foldedYear).IsWalkable false ∧
      (Expression.constant (.int 2025)).IsWalkable false ∧
      ∃ key key', (createdAfterYear 2024 none).key ⟨false⟩ .listByExpression = .ok key ∧
        (createdAfterYear 2024 foldedYear).key ⟨false⟩ .listByExpression = .ok key ∧
        (createdAfterYear 2025 foldedYear).key ⟨false⟩ .listByExpression = .ok key' ∧
        key ≠ key' := by
  have alike : (createdAfterYear 2024 none).erased = (createdAfterYear 2024 foldedYear).erased :=
    rfl
  have changed : Sections.ChangedAt false
      (Exchanged (.constant (.int 2024)) (.constant (.int 2025)))
      (createdAfterYear 2024 foldedYear) (createdAfterYear 2025 foldedYear) :=
    .filter (.body _ (.right _ _ (.part _ [] [] (.inr rfl) (.here .exchanged)))) _ _
  have free : (createdAfterYear 2024 foldedYear).IsWalkable false := by decide
  have walkable : (Expression.constant (.int 2025)).IsWalkable false := by
    simp [Expression.IsWalkable, walked, isExtension]
  obtain ⟨_, forgotten, told⟩ :=
    key_excluding_eq_key_erased .listByExpression (createdAfterYear 2024 foldedYear)
  obtain ⟨before, _, key, key', _, _, made, made', same⟩ := told _ _ _ changed free walkable
  refine ⟨alike, changed, free, walkable, key, key', (forgotten _ alike).trans made, made, made',
    ?_⟩
  -- The windows have the same code in front and the same type name behind.
  have window (year : Int64) : walk false (.constant (.int year)) =
      [Head.constant.code] ++ ([year.toUInt64] ++ ofText "int") := rfl
  rw [Ne, same, window, window, mixAll_append, mixAll_append, mixAll_append, mixAll_append,
    mixAll_left_inj]
  exact fun years => absurd ((mix_right_inj _).1 years) (by decide)

end Fingerprint

end ResultCache
