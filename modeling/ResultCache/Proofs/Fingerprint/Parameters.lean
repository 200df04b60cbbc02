import ResultCache.Proofs.Fingerprint.Derivation
import ResultCache.Proofs.Json.Denotation
import ResultCache.Proofs.Json.Double

/-!
Contract: parameters enter keys in one form.

Owns:
- `Value.FloatFree`, values without doubles, and that their compact texts tell them apart;
- `MixedAs`, parameters of which a text is mixed in behind everything else, and that the compact
  text is what is mixed in of them;
- `Value.DenoteAlike`, texts of one value, and that texts are so which differ in the order of
  their members, their blanks, their escapes or their overridden members;
- that parameters read from such texts have one compact text and lead to the same keys, and
  that, doubles apart, no other parameters have one.

Does not own: compact texts of doubles, among which one that is not finite is written as null.
-/

namespace ResultCache

namespace Json

/-! ### Compact texts -/

theorem Digit.ofNat_injective : Function.Injective Digit.ofNat := by
  intro number other same
  rw [← Digit.spell_ofNat number, same, Digit.spell_ofNat]

theorem NumberLiteral.ofInt_injective : Function.Injective NumberLiteral.ofInt := by
  intro number other same
  have signs : decide (number < 0) = decide (other < 0) := congrArg NumberLiteral.negative same
  have sizes := Digit.ofNat_injective (congrArg NumberLiteral.whole same)
  rw [decide_eq_decide] at signs
  omega

theorem StringPiece.ofText_injective : Function.Injective StringPiece.ofText := by
  intro text other same
  have texts := congrArg StringPiece.text? same
  simpa using texts

namespace Value

/-- A value without doubles. -/
inductive FloatFree : Value → Prop
  | null : FloatFree .null
  | bool (value : Bool) : FloatFree (.bool value)
  | integer (value : Int) : FloatFree (.number (.integer value))
  | string (value : String) : FloatFree (.string value)
  | array {items : List Value} (each : ∀ item ∈ items, FloatFree item) : FloatFree (.array items)
  | object {members : List (String × Value)} (each : ∀ entry ∈ members, FloatFree entry.2) :
      FloatFree (.object members)

/-- Lists with the same images are the same when their elements are told by the images. -/
theorem eq_of_map_eq {Item Image : Type} {image : Item → Image} {first second : List Item}
    (tells : ∀ item ∈ first, ∀ other ∈ second, image item = image other → item = other)
    (same : first.map image = second.map image) : first = second := by
  have length : first.length = second.length := by simpa using congrArg List.length same
  refine List.ext_getElem length fun index bound bound' => ?_
  apply tells _ (List.getElem_mem bound) _ (List.getElem_mem bound')
  have images := congrArg (·[index]?) same
  simpa [bound, bound'] using images

/-- Values without doubles are told by their documents. -/
theorem eq_of_toDocument_eq {value other : Value} (floatFree : value.FloatFree)
    (floatFree' : other.FloatFree) (same : value.toDocument = other.toDocument) : value = other := by
  induction floatFree generalizing other with
  | null =>
      cases floatFree' with
      | null => rfl
      | _ => cases same
  | bool value =>
      cases floatFree' with
      | bool other =>
          cases same
          rfl
      | _ => cases same
  | integer value =>
      cases floatFree' with
      | integer other => rw [NumberLiteral.ofInt_injective (Document.number.inj same)]
      | _ => cases same
  | string value =>
      cases floatFree' with
      | string other => rw [StringPiece.ofText_injective (Document.string.inj same)]
      | _ => cases same
  | array each inductionHypothesis =>
      cases floatFree' with
      | array each' =>
          simp only [toDocument, documentsOf_eq_map, Document.array.injEq] at same
          refine congrArg Value.array (eq_of_map_eq ?_ same)
          intro item member other member'
          exact inductionHypothesis item member (each' other member')
      | _ => cases same
  | object each inductionHypothesis =>
      cases floatFree' with
      | object each' =>
          simp only [toDocument, memberDocumentsOf_eq_map, Document.object.injEq] at same
          refine congrArg Value.object (eq_of_map_eq ?_ same)
          intro entry member other member' images
          obtain ⟨names, documents⟩ := Prod.mk.inj images
          have values := inductionHypothesis entry member (each' other member') documents
          exact Prod.ext (StringPiece.ofText_injective names) values
      | _ => cases same

/-- Values without doubles are told by their compact texts. -/
theorem eq_of_compact_eq {value other : Value} (floatFree : value.FloatFree)
    (floatFree' : other.FloatFree) (same : value.compact = other.compact) : value = other := by
  apply eq_of_toDocument_eq floatFree floatFree'
  have read : Document.read? (Text.symbolsOf value.compact) = some value.toDocument :=
    Document.read?_text (spellable_toDocument value)
  have read' : Document.read? (Text.symbolsOf other.compact) = some other.toDocument :=
    Document.read?_text (spellable_toDocument other)
  rw [same] at read
  exact Option.some.inj (read.symm.trans read')

/-- Two texts that denote one value. -/
def DenoteAlike (first second : String) : Prop :=
  ∃ value, DenotedBy first value ∧ DenotedBy second value

/-- A text that is read, and one that says the same in other words. -/
theorem denoteAlike_of_saidAlike {first second : String} (alike : SaidAlike first second)
    {value : Value} (read : ofText? first = some value) : DenoteAlike first second :=
  have denoted := denotedBy_of_ofText? read
  ⟨value, denoted, denoted.of_saidAlike alike⟩

theorem denoteAlike_iff {first second : String} {value other : Value}
    (read : ofText? first = some value) (read' : ofText? second = some other) :
    DenoteAlike first second ↔ value = other := by
  have denoted := denotedBy_of_ofText? read
  have denoted' := denotedBy_of_ofText? read'
  constructor
  · rintro ⟨common, alike, alike'⟩
    exact (denoted.unique alike).trans (alike'.unique denoted')
  · rintro rfl
    exact ⟨value, denoted, denoted'⟩

end Value

end Json

namespace Fingerprint

open Json

/-- What is mixed in of parameters is a text, by the number of its characters and their digest,
behind the shape and the query text of a fetch, or behind its shape, filter and selector when
these have components. -/
structure MixedAs (value : Value) (text : String) : Prop where
  query : ∀ (shape : ResultShape) (query : String),
    KeyDeriver.queryKey shape query (some value) =
      keyOf (ofQuery shape query none ++
        [text.toList.length.toUInt64, Text.digestChars text.toList])
  expression : ∀ (deriver : KeyDeriver) (shape : ResultShape) (filter : Expression)
    (selector : Option Expression) (components : List Component),
    ofFetch deriver.includeLiterals shape filter selector none = .ok components →
      deriver.expressionKey shape filter selector (some value) =
        .ok (keyOf (components ++
          [text.toList.length.toUInt64, Text.digestChars text.toList]))
  refused : ∀ (deriver : KeyDeriver) (shape : ResultShape) (filter : Expression)
    (selector : Option Expression) (kind : String),
    ofFetch deriver.includeLiterals shape filter selector none = .error kind →
      deriver.expressionKey shape filter selector (some value) =
        .error (.unsupportedExpression kind)

/-- The text that is mixed in of parameters is their compact text. -/
theorem mixedAs_compact (value : Value) : MixedAs value value.compact := by
  have fetch (deriver : KeyDeriver) (shape : ResultShape) (filter : Expression)
      (selector : Option Expression) :
      ofFetch deriver.includeLiterals shape filter selector (some value) =
        (ofFetch deriver.includeLiterals shape filter selector none).map
          (· ++ ofText value.compact) :=
    Derivation.continues_withParameters ⟨deriver, shape, .expression filter selector, none⟩
      (some value)
  constructor
  · intro shape query
    have continued := Derivation.continues_withParameters
      ⟨.standard, shape, .query query, none⟩ (some value)
    exact congrArg keyOf (Except.ok.inj continued)
  · intro deriver shape filter selector components made
    rw [KeyDeriver.expressionKey, fetch, made]
    rfl
  · intro deriver shape filter selector kind refused
    rw [KeyDeriver.expressionKey, fetch, refused]
    rfl

/-- The fetches with one of two parameters have the keys of those with the other. -/
structure SameKeys (value other : Value) : Prop where
  query : ∀ (shape : ResultShape) (query : String),
    KeyDeriver.queryKey shape query (some value) = KeyDeriver.queryKey shape query (some other)
  expression : ∀ (deriver : KeyDeriver) (shape : ResultShape) (filter : Expression)
    (selector : Option Expression),
    deriver.expressionKey shape filter selector (some value) =
      deriver.expressionKey shape filter selector (some other)

/-- Parameters of which one text is mixed in have the same keys. -/
theorem MixedAs.sameKeys {value other : Value} {text : String} (mixed : MixedAs value text)
    (mixed' : MixedAs other text) : SameKeys value other := by
  constructor
  · intro shape query
    rw [mixed.query, mixed'.query]
  · intro deriver shape filter selector
    cases made : ofFetch deriver.includeLiterals shape filter selector none with
    | ok components =>
        rw [mixed.expression _ _ _ _ _ made, mixed'.expression _ _ _ _ _ made]
    | error kind => rw [mixed.refused _ _ _ _ _ made, mixed'.refused _ _ _ _ _ made]

/-- Parameters enter keys in one form. What is mixed in of them is their compact text; those read
from texts of one value, such as texts that say the same in other words, have one compact text
and the same keys; and values without doubles are told by their compact texts. Of those that are
read, therefore, exactly the texts of one value reach the hash as one text. -/
theorem parameters_canonical :
    (∀ value : Value, MixedAs value value.compact) ∧
    (∀ {first second : String} {value other : Value},
      Value.ofText? first = some value → Value.ofText? second = some other →
        (Value.SaidAlike first second → Value.DenoteAlike first second) ∧
        (Value.DenoteAlike first second →
          value.compact = other.compact ∧ SameKeys value other)) ∧
    (∀ {value other : Value}, value.FloatFree → other.FloatFree →
      value.compact = other.compact → value = other) ∧
    ∀ {first second : String} {value other : Value},
      Value.ofText? first = some value → Value.ofText? second = some other →
        value.FloatFree → other.FloatFree →
          (value.compact = other.compact ↔ Value.DenoteAlike first second) := by
  refine ⟨mixedAs_compact, ?_, Value.eq_of_compact_eq, ?_⟩
  · intro first second value other read read'
    refine ⟨fun alike => Value.denoteAlike_of_saidAlike alike read, fun alike => ?_⟩
    have same := congrArg Value.compact ((Value.denoteAlike_iff read read').1 alike)
    have mixed := mixedAs_compact value
    rw [same] at mixed
    exact ⟨same, mixed.sameKeys (mixedAs_compact other)⟩
  · intro first second value other read read' floatFree floatFree'
    rw [Value.denoteAlike_iff read read']
    exact ⟨Value.eq_of_compact_eq floatFree floatFree', congrArg Value.compact⟩

/-- An accent and two numbers, as writers spell them. -/
def accentWritten : String := "\x7b\"a\":\"é\",\"b\":[1,-2]\x7d"

/-- The same with blanks, an overridden member, escapes, and in another order. -/
def accentRespelled : String :=
  "\x7b \"a\": 0, \"b\": [1, -2], \"\\u0061\": \"\\u00E9\" \x7d"

def accentValue : Value :=
  .object [("a", .string "é"), ("b", .array [.number (.integer 1), .number (.integer (-2))])]

/-- The document of the second spelling. -/
def accentDocument : Document :=
  .object [([.plain 'a'], (Value.number (.integer 0)).toDocument),
    ([.plain 'b'], (Value.array [.number (.integer 1), .number (.integer (-2))]).toDocument),
    ([.code 0x61], .string [.code 0xE9])]

theorem accentValue_compact : accentValue.compact = accentWritten := rfl

/-- The number is overridden, two members stand in another order, and two texts have escapes. -/
theorem accentDocument_alike : accentDocument.Alike accentValue.toDocument := by
  have name : StringPiece.StandFor [.plain 'a'] "a".toList := .plain 'a' .nil
  have name' : StringPiece.StandFor [.code 0x61] "a".toList := .single (by decide) .nil
  have accent : StringPiece.StandFor [.code 0xE9] "é".toList := .single (by decide) .nil
  have other : StringPiece.StandFor [.plain 'b'] "b".toList := .plain 'b' .nil
  have apart (first second : Document) :
      Document.NamedApart ([.plain 'b'], first) ([.code 0x61], second) := by
    intro named stand stand'
    cases (stand.unique other).symm.trans (stand'.unique name')
  apply (Document.Alike.overridden [] _ name
    ⟨_, List.mem_cons_of_mem _ List.mem_cons_self, name'⟩ _).trans
  apply (Document.Alike.order (.swap _ _ []) (List.pairwise_pair.2 (apart _ _))).trans
  exact .member [] _ (.of_standFor name' name)
    (.string (.of_standFor accent (StringPiece.standFor_ofText "é")))

theorem accent_saidAlike : Value.SaidAlike accentWritten accentRespelled := by
  have read : Document.read? (Text.symbolsOf accentValue.compact) = some accentValue.toDocument :=
    Document.read?_text (Value.spellable_toDocument accentValue)
  rw [accentValue_compact] at read
  have read' : Document.read? (Text.symbolsOf accentRespelled) = some accentDocument := by
    simp only [Text.symbolsOf, accentRespelled]
    simp
    rfl
  exact ⟨_, _, Document.read?_eq_some_iff.1 read, Document.read?_eq_some_iff.1 read',
    accentDocument_alike.symm⟩

theorem accent_canonical :
    Value.ofText? accentWritten = some accentValue ∧
    Value.ofText? accentRespelled = some accentValue ∧
    Value.ofText? "[1]" = some (.array [.number (.integer 1)]) ∧
    accentValue.FloatFree ∧ (Value.array [.number (.integer 1)]).FloatFree ∧
    Value.SaidAlike accentWritten accentRespelled ∧
    Value.DenoteAlike accentWritten accentRespelled ∧
    accentValue.compact = accentWritten ∧ MixedAs accentValue accentWritten ∧
    SameKeys accentValue accentValue ∧ ¬ Value.DenoteAlike accentRespelled "[1]" := by
  have written : Value.ofText? accentWritten = some accentValue := by
    simp only [Value.ofText?, Text.symbolsOf, accentWritten]
    simp
    rfl
  have respelled : Value.ofText? accentRespelled = some accentValue := by
    simp only [Value.ofText?, Text.symbolsOf, accentRespelled]
    simp
    rfl
  have single : Value.ofText? "[1]" = some (.array [.number (.integer 1)]) := by
    simp only [Value.ofText?, Text.symbolsOf]
    simp
    rfl
  have floatFree : accentValue.FloatFree := by
    refine .object (List.forall_mem_cons.2 ⟨.string _, List.forall_mem_singleton.2 (.array ?_)⟩)
    simp [Value.FloatFree.integer]
  have floatFree' : (Value.array [.number (.integer 1)]).FloatFree := by
    refine .array ?_
    simp [Value.FloatFree.integer]
  obtain ⟨mixed, canonical, tells, exactly⟩ := parameters_canonical
  have alike := (canonical written respelled).1 accent_saidAlike
  refine ⟨written, respelled, single, floatFree, floatFree', accent_saidAlike, alike,
    accentValue_compact, mixed accentValue, ((canonical written respelled).2 alike).2, ?_⟩
  rw [← exactly respelled single floatFree floatFree']
  intro same
  cases tells floatFree floatFree' same

end Fingerprint

end ResultCache
