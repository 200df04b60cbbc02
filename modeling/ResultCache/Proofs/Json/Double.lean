import ResultCache.Proofs.Binary64.Shortest
import ResultCache.Proofs.Json.Value

/-!
Contract: the spelling of doubles.

Owns:
- that the spelling of a finite double is a number as readers take it, and never one without
  both point and exponent, so that a double is never read as an integer;
- that the document of a value is spelled as readers take it.

Does not own: whether the spelling of a double reads as the double.
-/

namespace ResultCache

namespace Json

namespace NumberLiteral

/-- A literal without point and exponent, which readers may take for an integer. -/
def IsWhole (literal : NumberLiteral) : Prop := literal.fraction = [] ∧ literal.exponent = none

theorem dropWhile_concat {Item : Type} (drops : Item → Bool) (items : List Item) {last : Item}
    (stays : drops last = false) :
    (items ++ [last]).dropWhile drops = items.dropWhile drops ++ [last] := by
  induction items with
  | nil => simp [stays]
  | cons item items inductionHypothesis =>
      rw [List.cons_append, List.dropWhile_cons, List.dropWhile_cons, inductionHypothesis]
      split <;> rfl

/-- The zeros at the end do not reach the leading digit. -/
theorem exists_cons_trimZeros {first : Digit} (nonzero : first ≠ 0) (rest : List Digit) :
    ∃ kept, trimZeros (first :: rest) = first :: kept := by
  unfold trimZeros
  rw [List.reverse_cons,
    dropWhile_concat (fun digit => decide (digit = 0)) _ (decide_eq_false nonzero),
    List.reverse_append]
  exact ⟨_, rfl⟩

section Decimal

variable (negative : Bool) {decimal : Binary64.Decimal} (positive : 0 < decimal.coefficient)

include positive

theorem spellable_ofDecimal : (ofDecimal negative decimal).Spellable := by
  obtain ⟨first, rest, split, nonzero⟩ := Digit.exists_cons_ofNat (Nat.pos_iff_ne_zero.1 positive)
  obtain ⟨kept, trimmed⟩ := exists_cons_trimZeros nonzero rest
  unfold ofDecimal
  rw [split]
  dsimp only
  rw [trimmed]
  split
  · refine ⟨.inr ⟨first, [], rfl, nonzero⟩, ?_⟩
    intro part present
    cases present
    exact Digit.ofNat_ne_nil _
  · split
    · exact ⟨.inl rfl, fun _ absent => by cases absent⟩
    · refine ⟨.inr ?_, fun _ absent => by cases absent⟩
      dsimp only
      rw [List.take_succ_cons, List.cons_append]
      exact ⟨first, _, rfl, nonzero⟩

theorem not_isWhole_ofDecimal : ¬ (ofDecimal negative decimal).IsWhole := by
  obtain ⟨first, rest, split, nonzero⟩ := Digit.exists_cons_ofNat (Nat.pos_iff_ne_zero.1 positive)
  obtain ⟨kept, trimmed⟩ := exists_cons_trimZeros nonzero rest
  rintro ⟨fraction, exponent⟩
  unfold ofDecimal at fraction exponent
  rw [split] at fraction exponent
  dsimp only at fraction exponent
  rw [trimmed] at fraction exponent
  split at exponent
  · cases exponent
  · rename_i positional
    rw [if_neg positional] at fraction
    split at fraction
    · simp at fraction
    · dsimp only at fraction
      split at fraction
      · cases fraction
      · rename_i longer
        exact longer (List.drop_eq_nil_iff.1 fraction)

end Decimal

variable {number : Binary64}

theorem spellable_ofBinary64 (finite : number.isFinite = true) : (ofBinary64 number).Spellable := by
  unfold ofBinary64
  split
  · exact ⟨.inl rfl, fun _ absent => by cases absent⟩
  · rename_i nonzero
    exact spellable_ofDecimal _
      (Binary64.shortest_coefficient_pos finite (Bool.eq_false_of_not_eq_true nonzero))

theorem not_isWhole_ofBinary64 (finite : number.isFinite = true) :
    ¬ (ofBinary64 number).IsWhole := by
  unfold ofBinary64
  split
  · exact fun whole => by cases whole.1
  · rename_i nonzero
    exact not_isWhole_ofDecimal _
      (Binary64.shortest_coefficient_pos finite (Bool.eq_false_of_not_eq_true nonzero))

end NumberLiteral

/-- What is no integer literal is not read as an integer. -/
theorem Number.ofLiteral?_ne_integer {literal : NumberLiteral} (spelled : ¬ literal.IsWhole)
    (value : Int) : ofLiteral? literal ≠ some (.integer value) := by
  unfold ofLiteral?
  dsimp only
  rw [if_neg fun parts => spelled parts.2]
  intro read
  obtain ⟨_, _, absurdity⟩ := Option.map_eq_some_iff.1 read
  cases absurdity

namespace Value

theorem spellable_documentOfBinary64 (number : Binary64) :
    (documentOfBinary64 number).Spellable := by
  unfold documentOfBinary64
  split
  · rename_i finite
    exact Document.spellable_number (NumberLiteral.spellable_ofBinary64 finite)
  · exact Document.spellable_bare rfl trivial

/-- Documents of values are spelled as readers take them. -/
theorem spellable_toDocument (value : Value) : value.toDocument.Spellable := by
  induction value using Value.induction with
  | null => exact Document.spellable_bare rfl trivial
  | bool value => exact Document.spellable_bare rfl trivial
  | number value =>
      cases value with
      | integer value => exact Document.spellable_number (NumberLiteral.spellable_ofInt value)
      | double value => exact spellable_documentOfBinary64 value
  | string value => exact Document.spellable_string fun _ => StringPiece.spellable_ofText
  | array items inductionHypothesis =>
      rw [toDocument, documentsOf_eq_map]
      refine Document.spellable_array ?_
      rintro document member
      obtain ⟨item, inside, rfl⟩ := List.mem_map.1 member
      exact inductionHypothesis item inside
  | object members inductionHypothesis =>
      rw [toDocument, memberDocumentsOf_eq_map]
      refine Document.spellable_object ?_ ?_
      · intro entry member
        obtain ⟨⟨name, value⟩, _, rfl⟩ := List.mem_map.1 member
        exact fun _ => StringPiece.spellable_ofText
      · intro entry member
        obtain ⟨original, inside, rfl⟩ := List.mem_map.1 member
        exact inductionHypothesis original inside

end Value

end Json

end ResultCache
