import ResultCache.Json.Value
import ResultCache.Proofs.Codec.Faithful
import ResultCache.Proofs.Json.Text
import ResultCache.Proofs.Text
import ResultCache.SortedMap

/-!
Contract: values are read back from their documents.

Owns:
- that the literal of an integer of at most sixty-four bits reads as the integer;
- `Number.Settled`, a double whose shortest spelling reads as the double itself;
- `Value.Formed`, what the type of values promises of one, with a condition on its doubles;
- `Value.depth`, how many containers of a value are open at once, and `Value.ShorterThan`, a
  limit on the lengths inside a value;
- that the document of a value is read faithfully: values of settled doubles that are not
  too deep come back, others come back changed or not at all.

Does not own: which doubles are settled.
-/

namespace ResultCache

namespace Json

open Codec (Faithful)

/-! ### Numbers -/

namespace Number

/-- Integers of at most sixty-four bits, with a sign or without. -/
def FitsWord (value : Int) : Prop := -0x8000000000000000 ≤ value ∧ value ≤ 0xffffffffffffffff

/-- A double whose shortest spelling reads as the double itself. -/
def Settled (value : Binary64) : Prop :=
  value.isFinite = true ∧ ofLiteral? (NumberLiteral.ofBinary64 value) = some (.double value)

/-- The digits of a number that fits are all read. -/
theorem significandOf_of_fits {before : Nat} {digits : List Digit}
    (fits : Digit.spell before digits ≤ significandLimit) :
    significandOf before digits = (Digit.spell before digits, []) := by
  induction digits generalizing before with
  | nil => rfl
  | cons digit digits inductionHypothesis =>
      rw [Digit.spell_cons] at fits ⊢
      rw [significandOf, if_pos ((Digit.le_spell _ _).trans fits)]
      exact inductionHypothesis fits

theorem ofSignificand_natAbs {value : Int} (fits : FitsWord value) :
    ofSignificand (value < 0) value.natAbs = .integer value := by
  obtain ⟨least, greatest⟩ := fits
  unfold ofSignificand
  by_cases negative : value < 0
  · have small : ¬ (value.natAbs = 0 || 0x8000000000000000 < value.natAbs) = true := by
      simp only [Bool.or_eq_true, decide_eq_true_eq, not_or]
      omega
    rw [if_pos (decide_eq_true negative), if_neg small]
    congr 1
    omega
  · rw [if_neg (by simpa using negative)]
    congr 1
    omega

theorem ofLiteral?_ofInt {value : Int} (fits : FitsWord value) :
    ofLiteral? (NumberLiteral.ofInt value) = some (.integer value) := by
  have small : Digit.spell 0 (Digit.ofNat value.natAbs) ≤ significandLimit := by
    rw [Digit.spell_ofNat]
    obtain ⟨least, greatest⟩ := fits
    unfold significandLimit
    omega
  have whole : significandOf 0 (NumberLiteral.ofInt value).whole = (value.natAbs, []) :=
    (significandOf_of_fits small).trans (by rw [Digit.spell_ofNat])
  unfold ofLiteral?
  rw [whole]
  exact congrArg some (ofSignificand_natAbs fits)

end Number

/-! ### Values -/

namespace Value

/-- What holds of a container when it holds of its parts holds of every value. -/
@[elab_as_elim]
theorem induction {motive : Value → Prop} (null : motive .null)
    (bool : ∀ value, motive (.bool value)) (number : ∀ value, motive (.number value))
    (string : ∀ value, motive (.string value))
    (array : ∀ items, (∀ item ∈ items, motive item) → motive (.array items))
    (object : ∀ members, (∀ entry ∈ members, motive entry.2) → motive (.object members))
    (value : Value) : motive value :=
  @Value.rec motive (fun items => ∀ item ∈ items, motive item)
    (fun members => ∀ entry ∈ members, motive entry.2) (fun entry => motive entry.2)
    null bool number string array object
    (fun _ absent => absurd absent List.not_mem_nil)
    (fun _ _ first rest => List.forall_mem_cons.2 ⟨first, rest⟩)
    (fun _ absent => absurd absent List.not_mem_nil)
    (fun _ _ first rest => List.forall_mem_cons.2 ⟨first, rest⟩)
    (fun _ _ value => value) value

/-- A value as its type has it: integers of at most sixty-four bits, the names of members in
their order and each once; and a condition holds of its doubles. -/
inductive Formed (Holds : Binary64 → Prop) : Value → Prop
  | null : Formed Holds .null
  | bool (value : Bool) : Formed Holds (.bool value)
  | integer {value : Int} (fits : Number.FitsWord value) : Formed Holds (.number (.integer value))
  | double {value : Binary64} (holds : Holds value) : Formed Holds (.number (.double value))
  | string (value : String) : Formed Holds (.string value)
  | array {items : List Value} (each : ∀ item ∈ items, Formed Holds item) :
      Formed Holds (.array items)
  | object {members : List (String × Value)}
      (sorted : members.Pairwise fun first second => compare first.1 second.1 = .lt)
      (each : ∀ entry ∈ members, Formed Holds entry.2) : Formed Holds (.object members)

/-- A value as its type has it, where doubles are finite. -/
abbrev WellFormed (value : Value) : Prop := Formed (fun double => double.isFinite = true) value

namespace Formed

variable {Holds Other : Binary64 → Prop}

theorem mono (weaker : ∀ double, Holds double → Other double) {value : Value}
    (formed : Formed Holds value) : Formed Other value := by
  induction formed with
  | null => exact .null
  | bool value => exact .bool value
  | integer fits => exact .integer fits
  | double holds => exact .double (weaker _ holds)
  | string value => exact .string value
  | array each inductionHypothesis => exact .array inductionHypothesis
  | object sorted each inductionHypothesis => exact .object sorted inductionHypothesis

theorem double_iff {value : Binary64} : Formed Holds (.number (.double value)) ↔ Holds value :=
  ⟨fun | .double holds => holds, .double⟩

theorem array_iff {items : List Value} :
    Formed Holds (.array items) ↔ ∀ item ∈ items, Formed Holds item :=
  ⟨fun | .array each => each, .array⟩

theorem object_iff {members : List (String × Value)}
    (sorted : members.Pairwise fun first second => compare first.1 second.1 = .lt) :
    Formed Holds (.object members) ↔ ∀ entry ∈ members, Formed Holds entry.2 :=
  ⟨fun | .object _ each => each, .object sorted⟩

end Formed

mutual

/-- How many containers are open at once inside a value, itself included. -/
def depth : Value → Nat
  | .null | .bool _ | .number _ | .string _ => 0
  | .array items => depthOfItems items + 1
  | .object members => depthOfMembers members + 1

def depthOfItems : List Value → Nat
  | [] => 0
  | item :: items => max item.depth (depthOfItems items)

def depthOfMembers : List (String × Value) → Nat
  | [] => 0
  | (_, value) :: members => max value.depth (depthOfMembers members)

end

theorem depthOfItems_le_iff {items : List Value} {bound : Nat} :
    depthOfItems items ≤ bound ↔ ∀ item ∈ items, item.depth ≤ bound := by
  induction items with
  | nil => simp [depthOfItems]
  | cons item items inductionHypothesis =>
      rw [depthOfItems, max_le_iff, inductionHypothesis, List.forall_mem_cons]

theorem depthOfMembers_le_iff {members : List (String × Value)} {bound : Nat} :
    depthOfMembers members ≤ bound ↔ ∀ entry ∈ members, entry.2.depth ≤ bound := by
  induction members with
  | nil => simp [depthOfMembers]
  | cons entry members inductionHypothesis =>
      obtain ⟨name, value⟩ := entry
      rw [depthOfMembers, max_le_iff, inductionHypothesis, List.forall_mem_cons]

/-- A value no text, array or object of which is as long as the limit. Texts are measured in
octets. -/
inductive ShorterThan (limit : Nat) : Value → Prop
  | null : ShorterThan limit .null
  | bool (value : Bool) : ShorterThan limit (.bool value)
  | number (value : Number) : ShorterThan limit (.number value)
  | string {value : String} (short : Text.ShorterThan limit value) :
      ShorterThan limit (.string value)
  | array {items : List Value} (short : items.length < limit)
      (each : ∀ item ∈ items, ShorterThan limit item) : ShorterThan limit (.array items)
  | object {members : List (String × Value)} (short : members.length < limit)
      (names : ∀ entry ∈ members, Text.ShorterThan limit entry.1)
      (each : ∀ entry ∈ members, ShorterThan limit entry.2) : ShorterThan limit (.object members)

/-! ### Documents of containers -/

theorem documentsOf_eq_map (items : List Value) : documentsOf items = items.map toDocument := by
  induction items with
  | nil => rfl
  | cons item items inductionHypothesis => rw [documentsOf, inductionHypothesis, List.map_cons]

theorem memberDocumentsOf_eq_map (members : List (String × Value)) :
    memberDocumentsOf members =
      members.map fun entry => (StringPiece.ofText entry.1, entry.2.toDocument) := by
  induction members with
  | nil => rfl
  | cons entry members inductionHypothesis =>
      obtain ⟨name, value⟩ := entry
      rw [memberDocumentsOf, inductionHypothesis, List.map_cons]

/-- Items are read one by one. -/
theorem itemsWithin?_eq_mapM (room : Nat) (items : List Document) :
    itemsWithin? room items = items.mapM (ofDocumentWithin? room) := by
  induction items with
  | nil => rfl
  | cons item items inductionHypothesis =>
      rw [itemsWithin?, inductionHypothesis, Codec.mapM_cons]
      cases ofDocumentWithin? room item <;> rfl

theorem itemsWithin?_documentsOf (room : Nat) (items : List Value) :
    itemsWithin? room (documentsOf items) =
      items.mapM fun item => ofDocumentWithin? room item.toDocument := by
  rw [itemsWithin?_eq_mapM, documentsOf_eq_map, List.mapM_map]
  rfl

/-- Members are kept as the entries of a map are. -/
theorem setMember_eq_placeIn (name : String) (value : Value) (read : List (String × Value)) :
    setMember name value read = SortedMap.placeIn name value read := by
  induction read with
  | nil => rfl
  | cons entry read inductionHypothesis =>
      rw [setMember, inductionHypothesis]
      rfl

/-- Of members in the order of their names, the next one goes to the end of those before it. -/
theorem setMember_of_sorted {name : String} (value : Value) {read : List (String × Value)}
    {names : List String}
    (sorted : (read.map Prod.fst ++ name :: names).Pairwise
      fun first second => compare first second = .lt) :
    setMember name value read = read ++ [(name, value)] := by
  rw [setMember_eq_placeIn]
  refine SortedMap.placeIn_last name value read fun entry member => ?_
  exact (List.pairwise_append.1 sorted).2.2 _ (List.mem_map_of_mem member) _ List.mem_cons_self

/-- The member of a document with the value of its document. -/
def readMember? (room : Nat) (entry : String × Value) : Option (String × Value) :=
  (ofDocumentWithin? room entry.2.toDocument).map fun value => (entry.1, value)

/-- Members in the order of their names are read one by one, after those before them. -/
theorem membersWithin?_memberDocumentsOf {room : Nat} {read members : List (String × Value)}
    (sorted : (read.map Prod.fst ++ members.map Prod.fst).Pairwise
      fun first second => compare first second = .lt) :
    membersWithin? room read (memberDocumentsOf members) =
      (members.mapM (readMember? room)).map (read ++ ·) := by
  induction members generalizing read with
  | nil => simp [memberDocumentsOf, membersWithin?]
  | cons entry members inductionHypothesis =>
      obtain ⟨name, value⟩ := entry
      rw [memberDocumentsOf, membersWithin?, StringPiece.text?_ofText, Codec.mapM_cons,
        readMember?]
      dsimp only
      cases ofDocumentWithin? room value.toDocument with
      | none => rfl
      | some other =>
          have later := @inductionHypothesis (read ++ [(name, other)]) (by simpa using sorted)
          dsimp only
          rw [setMember_of_sorted other sorted, later]
          simp [Function.comp_def]

/-! ### Reading back -/

/-- The document of a value is read faithfully with room for the value. -/
theorem faithful_ofDocumentWithin? {value : Value} (formed : value.WellFormed) (room : Nat) :
    Faithful Eq (Formed Number.Settled value) (value.depth ≤ room - 1) value
      (ofDocumentWithin? room value.toDocument) := by
  induction formed generalizing room with
  | null => exact .of_eq rfl .null
  | bool value => exact .of_eq rfl (.bool value)
  | integer fits =>
      refine .of_eq ?_ (.integer fits)
      rw [toDocument, ofDocumentWithin?, Number.ofLiteral?_ofInt fits]
      rfl
  | @double value finite =>
      have read : ofDocumentWithin? room (toDocument (.number (.double value))) =
          (Number.ofLiteral? (NumberLiteral.ofBinary64 value)).map .number := by
        rw [toDocument, documentOfBinary64, if_pos finite, ofDocumentWithin?]
      have number : Faithful Eq (Number.Settled value) True (.double value)
          (Number.ofLiteral? (NumberLiteral.ofBinary64 value)) := by
        refine ⟨fun settled _ => settled.2, ?_, ?_⟩
        · exact fun other found settled => Option.some.inj (found.symm.trans settled.2)
        · rintro other found rfl
          exact ⟨finite, found⟩
      rw [read]
      exact number.map Formed.double_iff (fun _ => trivial) fun other _ same => Value.number.inj same
  | string value =>
      refine .of_eq ?_ (.string value)
      rw [toDocument, ofDocumentWithin?, StringPiece.text?_ofText]
      rfl
  | @array items each inductionHypothesis =>
      rw [toDocument, ofDocumentWithin?]
      by_cases full : room ≤ 1
      · rw [if_pos full]
        exact .of_none rfl fun _ => by rw [depth]; omega
      · rw [if_neg full, itemsWithin?_documentsOf]
        refine (Faithful.list fun item member => inductionHypothesis item member (room - 1)).map
          Formed.array_iff ?_ ?_
        · rw [depth, ← depthOfItems_le_iff]
          omega
        · intro others _ same
          rw [Value.array.inj same, List.forall₂_eq_eq_eq]
  | @object members sorted each inductionHypothesis =>
      rw [toDocument, ofDocumentWithin?]
      by_cases full : room ≤ 1
      · rw [if_pos full]
        exact .of_none rfl fun _ => by rw [depth]; omega
      · have names : (members.map Prod.fst).Pairwise
            fun first second => compare first second = .lt := List.pairwise_map.2 sorted
        have entries : Faithful (List.Forall₂ Eq) (∀ entry ∈ members, Formed Number.Settled entry.2)
            (∀ entry ∈ members, entry.2.depth ≤ room - 1 - 1) members
            (members.mapM (readMember? (room - 1))) := by
          refine Faithful.list ?_
          rintro ⟨name, value⟩ member
          exact (inductionHypothesis (name, value) member (room - 1)).map Iff.rfl id
            fun other _ same => (Prod.mk.inj same).2
        rw [if_neg full, @membersWithin?_memberDocumentsOf _ [] _ names]
        simp only [List.nil_append, Option.map_id']
        refine entries.map (Formed.object_iff sorted) ?_ ?_
        · rw [depth, ← depthOfMembers_le_iff]
          omega
        · intro others _ same
          rw [Value.object.inj same, List.forall₂_eq_eq_eq]

end Value

end Json

end ResultCache
