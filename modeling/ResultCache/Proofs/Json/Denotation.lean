import Mathlib.Data.List.Forall2
import ResultCache.Proofs.Json.Accepted
import ResultCache.Proofs.Json.Value

/-!
Contract: what JSON texts denote.

Owns:
- `StringPiece.StandFor`, the text that escapes and plain characters stand for, by rules;
- `Document.Denotes`, the value of a document without an order of reading: an object holds
  under each name what the last of the members named so denotes;
- that a document denotes one value at most, and that what is read is what is denoted;
- `Document.Alike`, documents that differ in the spelling of texts, the order of members and
  overridden members, at any depth, and that they denote the same;
- `Value.DenotedBy` and `Value.SaidAlike`, the same for texts, whatever blanks they have.

Does not own: which documents are read, since readers refuse deep nesting and also look into
members that are overridden.
-/

namespace ResultCache

namespace Json

/-! ### Strings -/

namespace StringPiece

/-- The characters that pieces stand for: two code units of a surrogate pair are one character
together, and neither half stands for anything alone. -/
inductive StandFor : List StringPiece → List Char → Prop
  | nil : StandFor [] []
  | plain (scalar : Char) {pieces : List StringPiece} {chars : List Char}
      (rest : StandFor pieces chars) : StandFor (.plain scalar :: pieces) (scalar :: chars)
  | short (scalar : Char) {pieces : List StringPiece} {chars : List Char}
      (rest : StandFor pieces chars) : StandFor (.short scalar :: pieces) (scalar :: chars)
  | single {codeUnit : Nat} (apart : codeUnit < 0xD800 ∨ 0xE000 ≤ codeUnit)
      {pieces : List StringPiece} {chars : List Char} (rest : StandFor pieces chars) :
      StandFor (.code codeUnit :: pieces) (Char.ofNat codeUnit :: chars)
  | pair {high low : Nat} (isHigh : 0xD800 ≤ high ∧ high < 0xDC00)
      (isLow : 0xDC00 ≤ low ∧ low < 0xE000) {pieces : List StringPiece} {chars : List Char}
      (rest : StandFor pieces chars) :
      StandFor (.code high :: .code low :: pieces)
        (Char.ofNat ((high - 0xD800) * 1024 + (low - 0xDC00) + 0x10000) :: chars)

theorem textOnto_of_standFor {pieces : List StringPiece} {chars : List Char}
    (stand : StandFor pieces chars) (done : List Char) :
    textOnto done pieces = some (done.reverse ++ chars) := by
  induction stand generalizing done with
  | nil => simp [textOnto]
  | plain scalar _ inductionHypothesis | short scalar _ inductionHypothesis =>
      rw [textOnto, inductionHypothesis]
      simp
  | single apart _ inductionHypothesis =>
      rw [textOnto.eq_def]
      simp [apart, inductionHypothesis]
  | @pair high low isHigh isLow pieces chars _ inductionHypothesis =>
      have notSingle : ¬ (high < 0xD800 ∨ 0xE000 ≤ high) := by omega
      rw [textOnto.eq_def]
      simp [notSingle, isHigh.2, isLow, inductionHypothesis]

theorem exists_of_textOnto {pieces : List StringPiece} {done chars : List Char}
    (text : textOnto done pieces = some chars) :
    ∃ more, chars = done.reverse ++ more ∧ StandFor pieces more := by
  -- The characters behind one more character start with it.
  have step {scalar : Char} {done : List Char} {here behind : List StringPiece}
      (stand : ∀ {more : List Char}, StandFor behind more → StandFor here (scalar :: more))
      (later : ∃ more, chars = (scalar :: done).reverse ++ more ∧ StandFor behind more) :
      ∃ more, chars = done.reverse ++ more ∧ StandFor here more := by
    obtain ⟨more, rfl, rest⟩ := later
    exact ⟨scalar :: more, by simp, stand rest⟩
  fun_induction textOnto done pieces with
  | case1 done =>
      cases text
      exact ⟨[], by simp, .nil⟩
  | case2 done scalar rest inductionHypothesis =>
      exact step (.plain scalar) (inductionHypothesis text)
  | case3 done scalar rest inductionHypothesis =>
      exact step (.short scalar) (inductionHypothesis text)
  | case4 => cases text
  | case5 done first rest apart inductionHypothesis =>
      exact step (.single (by simpa using apart)) (inductionHypothesis text)
  | case6 => cases text
  | case7 done first notApart notLow second behind isLow inductionHypothesis =>
      simp only [Bool.or_eq_true, Bool.and_eq_true, decide_eq_true_eq] at notApart isLow
      exact step (.pair (by omega) isLow) (inductionHypothesis text)
  | case8 => cases text
  | case9 => cases text

theorem StandFor.unique {pieces : List StringPiece} {chars chars' : List Char}
    (stand : StandFor pieces chars) (stand' : StandFor pieces chars') : chars = chars' := by
  have texts := (textOnto_of_standFor stand []).symm.trans (textOnto_of_standFor stand' [])
  simpa using texts

/-- Two spellings of one text, if of any. -/
def SameText (pieces others : List StringPiece) : Prop :=
  ∀ chars, StandFor pieces chars ↔ StandFor others chars

theorem SameText.symm {pieces others : List StringPiece} (same : SameText pieces others) :
    SameText others pieces :=
  fun chars => (same chars).symm

/-- Spellings that stand for one text are spellings of it. -/
theorem SameText.of_standFor {pieces others : List StringPiece} {chars : List Char}
    (stand : StandFor pieces chars) (stand' : StandFor others chars) : SameText pieces others := by
  intro found
  constructor
  · intro same
    rwa [same.unique stand]
  · intro same
    rwa [same.unique stand']

theorem text?_eq_some_iff {pieces : List StringPiece} {text : String} :
    text? pieces = some text ↔ StandFor pieces text.toList := by
  constructor
  · intro read
    obtain ⟨chars, onto, rfl⟩ := Option.map_eq_some_iff.1 read
    obtain ⟨more, rfl, stand⟩ := exists_of_textOnto onto
    simpa using stand
  · intro stand
    rw [text?, textOnto_of_standFor stand]
    simp

theorem standFor_ofText (text : String) : StandFor (ofText text) text.toList :=
  text?_eq_some_iff.1 (text?_ofText text)

end StringPiece

/-! ### Documents -/

namespace Document

/-- The last of the members whose names stand for the name given. -/
inductive LastNamed (name : String) : List (List StringPiece × Document) → Document → Prop
  | here {pieces : List StringPiece} {document : Document}
      {rest : List (List StringPiece × Document)}
      (stand : StringPiece.StandFor pieces name.toList)
      (last : ∀ entry ∈ rest, ¬ StringPiece.StandFor entry.1 name.toList) :
      LastNamed name ((pieces, document) :: rest) document
  | later {document : Document} (entry : List StringPiece × Document)
      {rest : List (List StringPiece × Document)} (last : LastNamed name rest document) :
      LastNamed name (entry :: rest) document

/-- The value that a document denotes. -/
inductive Denotes : Document → Value → Prop
  | null : Denotes .null .null
  | bool (value : Bool) : Denotes (.bool value) (.bool value)
  | number {literal : NumberLiteral} {value : Number}
      (read : Number.ofLiteral? literal = some value) : Denotes (.number literal) (.number value)
  | string {pieces : List StringPiece} {text : String}
      (stand : StringPiece.StandFor pieces text.toList) : Denotes (.string pieces) (.string text)
  | array {items : List Document} {values : List Value} (length : items.length = values.length)
      (each : ∀ index (inside : index < items.length) (bound : index < values.length),
        Denotes items[index] values[index]) : Denotes (.array items) (.array values)
  | object {members : List (List StringPiece × Document)} {map : SortedMap String Value}
      (named : ∀ name, (∃ value, (name, value) ∈ map.entries) ↔
        ∃ document, LastNamed name members document)
      (each : ∀ name document value, LastNamed name members document →
        (name, value) ∈ map.entries → Denotes document value) :
      Denotes (.object members) (.object map.entries)

variable {document : Document} {value other : Value}

/-- A document denotes one value at most. -/
theorem Denotes.unique (denotes : Denotes document value) (denotes' : Denotes document other) :
    value = other := by
  induction denotes generalizing other with
  | null | bool value =>
      cases denotes'
      rfl
  | number read =>
      cases denotes' with
      | number read' => rw [Option.some.inj (read.symm.trans read')]
  | string stand =>
      cases denotes' with
      | string stand' =>
          rw [String.toList_inj.1 (stand.unique stand')]
  | array length each inductionHypothesis =>
      cases denotes' with
      | array length' each' =>
          refine congrArg Value.array (List.ext_getElem (length.symm.trans length') ?_)
          intro index bound bound'
          exact inductionHypothesis index (by omega) bound (each' index (by omega) bound')
  | @object members map named each inductionHypothesis =>
      cases denotes' with
      | @object _ map' named' each' =>
          refine congrArg (fun map => Value.object map.entries) (SortedMap.ext_mem ?_)
          intro name value
          constructor
          · intro member
            obtain ⟨document, last⟩ := (named name).1 ⟨value, member⟩
            obtain ⟨value', member'⟩ := (named' name).2 ⟨document, last⟩
            rwa [inductionHypothesis name document value last member
              (each' name document value' last member')]
          · intro member'
            obtain ⟨document, last⟩ := (named' name).1 ⟨value, member'⟩
            obtain ⟨value', member⟩ := (named name).2 ⟨document, last⟩
            rwa [← inductionHypothesis name document value' last member
              (each' name document value last member')]

/-! ### Members -/

section Members

variable {first second before after : List (List StringPiece × Document)}

/-- Objects with the same last members denote the same. -/
theorem Denotes.of_lastNamed
    (same : ∀ name document, LastNamed name first document ↔ LastNamed name second document)
    (denotes : Denotes (.object first) value) : Denotes (.object second) value := by
  cases denotes with
  | object named each =>
      refine .object (fun name => ?_) fun name document value last => ?_
      · simp only [named, same]
      · exact each name document value ((same name document).2 last)

theorem lastNamed_cons {name : String} {entry : List StringPiece × Document} :
    LastNamed name (entry :: after) document ↔
      LastNamed name after document ∨
        (document = entry.2 ∧ StringPiece.StandFor entry.1 name.toList ∧
          ∀ other ∈ after, ¬ StringPiece.StandFor other.1 name.toList) := by
  constructor
  · rintro (⟨stand, last⟩ | ⟨_, last⟩)
    · exact .inr ⟨rfl, stand, last⟩
    · exact .inl last
  · rintro (last | ⟨rfl, stand, last⟩)
    · exact .later entry last
    · exact .here stand last

theorem lastNamed_overridden {pieces : List StringPiece} {name : String}
    (stand : StringPiece.StandFor pieces name.toList)
    (again : ∃ entry ∈ after, StringPiece.StandFor entry.1 name.toList) (present : String)
    (found : Document) :
    LastNamed present (before ++ (pieces, document) :: after) found ↔
      LastNamed present (before ++ after) found := by
  obtain ⟨entry, member, stands⟩ := again
  have standsAgain (stand' : StringPiece.StandFor pieces present.toList) :
      StringPiece.StandFor entry.1 present.toList := by
    rwa [← stand.unique stand']
  induction before with
  | nil =>
      rw [List.nil_append, List.nil_append, lastNamed_cons, or_iff_left]
      rintro ⟨_, stand', last⟩
      exact last entry member (standsAgain stand')
  | cons first before inductionHypothesis =>
      have nowhere : (∀ other ∈ before ++ (pieces, document) :: after,
            ¬ StringPiece.StandFor other.1 present.toList) ↔
          ∀ other ∈ before ++ after, ¬ StringPiece.StandFor other.1 present.toList := by
        simp only [List.forall_mem_append, List.forall_mem_cons]
        constructor
        · exact fun ⟨front, _, back⟩ => ⟨front, back⟩
        · exact fun ⟨front, back⟩ => ⟨front, fun stand' => back entry member (standsAgain stand'), back⟩
      simp only [List.cons_append, lastNamed_cons, inductionHypothesis, nowhere]

/-- A member whose name comes once more further on makes no difference. -/
theorem denotes_overridden {pieces : List StringPiece} {name : String}
    (stand : StringPiece.StandFor pieces name.toList)
    (again : ∃ entry ∈ after, StringPiece.StandFor entry.1 name.toList) :
    Denotes (.object (before ++ (pieces, document) :: after)) value ↔
      Denotes (.object (before ++ after)) value := by
  have same := @lastNamed_overridden document before after pieces name stand again
  exact ⟨.of_lastNamed same, .of_lastNamed fun present found => (same present found).symm⟩

/-- Two members have different names. -/
def NamedApart (entry other : List StringPiece × Document) : Prop :=
  ∀ name : String, StringPiece.StandFor entry.1 name.toList →
    ¬ StringPiece.StandFor other.1 name.toList

theorem NamedApart.symm {entry other : List StringPiece × Document} (apart : NamedApart entry other) :
    NamedApart other entry :=
  fun name stand stand' => apart name stand' stand

theorem lastNamed_perm (perm : first.Perm second) (distinct : first.Pairwise NamedApart)
    (name : String) (found : Document) :
    LastNamed name first found ↔ LastNamed name second found := by
  induction perm with
  | nil => rfl
  | cons entry perm inductionHypothesis =>
      rw [lastNamed_cons, lastNamed_cons, inductionHypothesis (List.pairwise_cons.1 distinct).2]
      simp only [perm.mem_iff]
  | swap entry other rest =>
      have apart := (List.pairwise_cons.1 distinct).1 entry List.mem_cons_self name
      simp only [lastNamed_cons, List.forall_mem_cons]
      tauto
  | trans perm _ inductionHypothesis later =>
      exact (inductionHypothesis distinct).trans
        (later ((perm.pairwise_iff NamedApart.symm).1 distinct))

/-- The order of members of different names makes no difference. -/
theorem denotes_perm (perm : first.Perm second) (distinct : first.Pairwise NamedApart) :
    Denotes (.object first) value ↔ Denotes (.object second) value := by
  have same := lastNamed_perm perm distinct
  exact ⟨.of_lastNamed same, .of_lastNamed fun name found => (same name found).symm⟩

end Members

/-! ### Other ways to say the same -/

/-- Two documents that denote the same, if anything. -/
def Interchangeable (first second : Document) : Prop :=
  ∀ value, Denotes first value ↔ Denotes second value

theorem Interchangeable.refl (document : Document) : Interchangeable document document :=
  fun _ => Iff.rfl

theorem Interchangeable.symm {first second : Document} (same : Interchangeable first second) :
    Interchangeable second first :=
  fun value => (same value).symm

/-- Two members of one name with interchangeable documents. -/
structure MemberInterchangeable (entry other : List StringPiece × Document) : Prop where
  names : StringPiece.SameText entry.1 other.1
  values : Interchangeable entry.2 other.2

theorem Denotes.of_sameText {pieces others : List StringPiece}
    (same : StringPiece.SameText pieces others) (denotes : Denotes (.string pieces) value) :
    Denotes (.string others) value := by
  cases denotes with
  | string stand => exact .string ((same _).1 stand)

theorem MemberInterchangeable.refl (entry : List StringPiece × Document) :
    MemberInterchangeable entry entry :=
  ⟨fun _ => Iff.rfl, .refl entry.2⟩

theorem MemberInterchangeable.symm {entry other : List StringPiece × Document}
    (same : MemberInterchangeable entry other) : MemberInterchangeable other entry :=
  ⟨same.names.symm, same.values.symm⟩

/-- Lists that are alike but for one element are related element by element. -/
theorem forall₂_splice {Item : Type} {related : Item → Item → Prop}
    (refl : ∀ item, related item item) (before after : List Item) {first second : Item}
    (here : related first second) :
    List.Forall₂ related (before ++ first :: after) (before ++ second :: after) := by
  have unchanged (items : List Item) : List.Forall₂ related items items :=
    List.forall₂_same.2 fun item _ => refl item
  exact List.rel_append (unchanged before) (.cons here (unchanged after))

theorem Denotes.of_items {items others : List Document}
    (each : List.Forall₂ Interchangeable items others) (denotes : Denotes (.array items) value) :
    Denotes (.array others) value := by
  obtain ⟨lengths, same⟩ := List.forall₂_iff_get.1 each
  cases denotes with
  | array length holds =>
      refine .array (lengths.symm.trans length) fun index inside bound => ?_
      exact (same index (by omega) inside _).1 (holds index (by omega) bound)

theorem exists_lastNamed {members others : List (List StringPiece × Document)}
    (each : List.Forall₂ MemberInterchangeable members others) {name : String}
    (last : LastNamed name members document) :
    ∃ found, LastNamed name others found ∧ Interchangeable document found := by
  induction each with
  | nil => cases last
  | @cons entry other members others same rest inductionHypothesis =>
      cases last with
      | here stand last =>
          refine ⟨other.2, .here ((same.names _).1 stand) ?_, same.values⟩
          intro later member stand'
          obtain ⟨lengths, each⟩ := List.forall₂_iff_get.1 rest
          obtain ⟨index, bound, rfl⟩ := List.mem_iff_getElem.1 member
          have counterpart := each index (by omega) bound
          exact last _ (List.getElem_mem _) ((counterpart.names _).2 stand')
      | later _ last =>
          obtain ⟨found, last, values⟩ := inductionHypothesis last
          exact ⟨found, .later other last, values⟩

theorem Denotes.of_members {members others : List (List StringPiece × Document)}
    (each : List.Forall₂ MemberInterchangeable members others)
    (denotes : Denotes (.object members) value) : Denotes (.object others) value := by
  have back : List.Forall₂ MemberInterchangeable others members :=
    each.flip.imp fun _ _ same => same.symm
  cases denotes with
  | object named holds =>
      refine .object (fun name => (named name).trans ⟨?_, ?_⟩) ?_
      · rintro ⟨document, last⟩
        obtain ⟨found, last, _⟩ := exists_lastNamed each last
        exact ⟨found, last⟩
      · rintro ⟨document, last⟩
        obtain ⟨found, last, _⟩ := exists_lastNamed back last
        exact ⟨found, last⟩
      · intro name document value last entry
        obtain ⟨found, last, values⟩ := exists_lastNamed back last
        exact (values value).2 (holds name found value last entry)

/-- Documents that say the same in other words: with texts spelled in another way, with members
of different names in another order, and with overridden members or without them, at any depth. -/
inductive Alike : Document → Document → Prop
  | refl (document : Document) : Alike document document
  | symm {first second : Document} (alike : Alike first second) : Alike second first
  | trans {first second third : Document} (alike : Alike first second)
      (alike' : Alike second third) : Alike first third
  | string {pieces others : List StringPiece} (same : StringPiece.SameText pieces others) :
      Alike (.string pieces) (.string others)
  | item (before after : List Document) {first second : Document} (inner : Alike first second) :
      Alike (.array (before ++ first :: after)) (.array (before ++ second :: after))
  | member (before after : List (List StringPiece × Document)) {pieces others : List StringPiece}
      (names : StringPiece.SameText pieces others) {first second : Document}
      (inner : Alike first second) :
      Alike (.object (before ++ (pieces, first) :: after))
        (.object (before ++ (others, second) :: after))
  | order {members others : List (List StringPiece × Document)} (perm : members.Perm others)
      (distinct : members.Pairwise NamedApart) : Alike (.object members) (.object others)
  | overridden (before after : List (List StringPiece × Document)) {pieces : List StringPiece}
      {name : String} (stand : StringPiece.StandFor pieces name.toList)
      (again : ∃ entry ∈ after, StringPiece.StandFor entry.1 name.toList) (document : Document) :
      Alike (.object (before ++ (pieces, document) :: after)) (.object (before ++ after))

/-- Documents that say the same in other words denote the same. -/
theorem Alike.interchangeable {first second : Document} (alike : Alike first second) :
    Interchangeable first second := by
  induction alike with
  | refl document => exact .refl document
  | symm _ inductionHypothesis => exact inductionHypothesis.symm
  | trans _ _ inductionHypothesis inductionHypothesis' =>
      exact fun value => (inductionHypothesis value).trans (inductionHypothesis' value)
  | string same => exact fun value => ⟨.of_sameText same, .of_sameText same.symm⟩
  | item before after _ inductionHypothesis =>
      have swapped := forall₂_splice .refl before after inductionHypothesis
      have back := forall₂_splice .refl before after inductionHypothesis.symm
      exact fun value => ⟨.of_items swapped, .of_items back⟩
  | member before after names _ inductionHypothesis =>
      have here : MemberInterchangeable (_, _) (_, _) := ⟨names, inductionHypothesis⟩
      have swapped := forall₂_splice .refl before after here
      have back := forall₂_splice .refl before after here.symm
      exact fun value => ⟨.of_members swapped, .of_members back⟩
  | order perm distinct => exact fun value => denotes_perm perm distinct
  | overridden before after stand again document => exact fun value => denotes_overridden stand again

/-! ### Reading -/

theorem lastNamed_concat {members : List (List StringPiece × Document)} {pieces : List StringPiece}
    {present : String} (stand : StringPiece.StandFor pieces present.toList) (last : Document)
    (name : String) (found : Document) :
    LastNamed name (members ++ [(pieces, last)]) found ↔
      if present = name then found = last else LastNamed name members found := by
  have named : StringPiece.StandFor pieces name.toList ↔ present = name := by
    constructor
    · exact fun stand' => String.toList_inj.1 (stand.unique stand')
    · rintro rfl
      exact stand
  induction members with
  | nil =>
      have none : ¬ LastNamed name [] found := nofun
      simp only [List.nil_append, lastNamed_cons, none, named, List.not_mem_nil]
      split <;> simp [*]
  | cons entry members inductionHypothesis =>
      simp only [List.cons_append, lastNamed_cons, inductionHypothesis, List.forall_mem_append,
        List.forall_mem_singleton, named]
      split <;> simp [*]

/-- The entries that hold what members denote, each of them the last of its name. -/
structure Gathers (members : List (List StringPiece × Document)) (map : SortedMap String Value) :
    Prop where
  named : ∀ name, (∃ value, (name, value) ∈ map.entries) ↔
    ∃ document, LastNamed name members document
  each : ∀ name document value, LastNamed name members document →
    (name, value) ∈ map.entries → Denotes document value

theorem gathers_nil : Gathers [] SortedMap.empty where
  named name := by
    constructor
    · rintro ⟨_, absent⟩
      cases absent
    · rintro ⟨_, absent⟩
      cases absent
  each _ _ _ absent := by cases absent

/-- One more member, and its entry in its place. -/
theorem Gathers.concat {members : List (List StringPiece × Document)}
    {map : SortedMap String Value} (gathers : Gathers members map) {pieces : List StringPiece}
    {name : String} (stand : StringPiece.StandFor pieces name.toList)
    (denotes : Denotes document value) :
    Gathers (members ++ [(pieces, document)]) (map.insert name value) := by
  constructor
  · intro present
    simp only [SortedMap.mem_insert_iff, lastNamed_concat stand]
    by_cases same : name = present
    · simp [same]
    · simp [same, gathers.named]
  · intro present found held last entry
    rw [lastNamed_concat stand] at last
    rw [SortedMap.mem_insert_iff] at entry
    by_cases same : name = present
    · rw [if_pos same] at last entry
      rwa [last, entry]
    · rw [if_neg same] at last entry
      exact gathers.each present found held last entry

/-- Members that are read one after the other are gathered. -/
theorem Gathers.run {room : Nat} {seen members : List (List StringPiece × Document)}
    {map : SortedMap String Value} (gathers : Gathers seen map)
    (sound : ∀ entry ∈ members, ∀ value,
      Value.ofDocumentWithin? room entry.2 = some value → Denotes entry.2 value)
    {entries : List (String × Value)}
    (read : Value.membersWithin? room map.entries members = some entries) :
    ∃ result, entries = result.entries ∧ Gathers (seen ++ members) result := by
  induction members generalizing seen map with
  | nil =>
      cases read
      exact ⟨map, rfl, by simpa using gathers⟩
  | cons entry members inductionHypothesis =>
      have here := sound entry List.mem_cons_self
      obtain ⟨pieces, document⟩ := entry
      rw [Value.membersWithin?] at read
      split at read
      · cases read
      · rename_i name text
        split at read
        · cases read
        · rename_i value found
          rw [Value.setMember_eq_placeIn] at read
          have next := gathers.concat (StringPiece.text?_eq_some_iff.1 text) (here value found)
          have later := fun other member => sound other (List.mem_cons_of_mem _ member)
          simpa using inductionHypothesis next later read

/-- The value that is read from a document is the one that it denotes. -/
theorem denotes_of_ofDocumentWithin? {room : Nat}
    (read : Value.ofDocumentWithin? room document = some value) : Denotes document value := by
  induction document using Document.induction generalizing room value with
  | null =>
      cases read
      exact .null
  | bool value =>
      cases read
      exact .bool value
  | number literal =>
      obtain ⟨number, found, rfl⟩ := Option.map_eq_some_iff.1 read
      exact .number found
  | string pieces =>
      obtain ⟨text, found, rfl⟩ := Option.map_eq_some_iff.1 read
      exact .string (StringPiece.text?_eq_some_iff.1 found)
  | array items inductionHypothesis =>
      rw [Value.ofDocumentWithin?] at read
      split at read
      · cases read
      · obtain ⟨values, found, rfl⟩ := Option.map_eq_some_iff.1 read
        rw [Value.itemsWithin?_eq_mapM] at found
        obtain ⟨length, each⟩ := List.forall₂_iff_get.1 (Codec.forall₂_of_mapM found)
        refine .array length fun index inside bound => ?_
        exact inductionHypothesis _ (List.getElem_mem inside) (each index inside bound)
  | object members inductionHypothesis =>
      rw [Value.ofDocumentWithin?] at read
      split at read
      · cases read
      · obtain ⟨entries, found, rfl⟩ := Option.map_eq_some_iff.1 read
        obtain ⟨map, rfl, gathers⟩ := gathers_nil.run
          (fun entry member value => inductionHypothesis entry member) found
        exact .object gathers.named gathers.each

end Document

/-! ### Texts -/

namespace Value

/-- A value that a text denotes, in whatever layout and spelling: the text consists of the
tokens of a document that denotes the value. -/
def DenotedBy (text : String) (value : Value) : Prop :=
  ∃ document : Document,
    Token.Layout document.tokens (Text.symbolsOf text) ∧ document.Denotes value

variable {text : String} {value other : Value}

theorem DenotedBy.unique (denoted : DenotedBy text value) (denoted' : DenotedBy text other) :
    value = other := by
  obtain ⟨document, layout, denotes⟩ := denoted
  obtain ⟨document', layout', denotes'⟩ := denoted'
  have documents := (Document.read?_of_layout layout).symm.trans (Document.read?_of_layout layout')
  obtain rfl := Option.some.inj documents
  exact denotes.unique denotes'

/-- Two texts that say the same in other words: whatever their blanks, they consist of the tokens
of documents that do. -/
def SaidAlike (first second : String) : Prop :=
  ∃ document document' : Document, Token.Layout document.tokens (Text.symbolsOf first) ∧
    Token.Layout document'.tokens (Text.symbolsOf second) ∧ document.Alike document'

/-- Texts that say the same in other words denote the same. -/
theorem DenotedBy.of_saidAlike {first second : String} (alike : SaidAlike first second)
    (denoted : DenotedBy first value) : DenotedBy second value := by
  obtain ⟨document, document', layout, layout', alike⟩ := alike
  obtain ⟨found, laidOut, denotes⟩ := denoted
  have documents := (Document.read?_of_layout laidOut).symm.trans (Document.read?_of_layout layout)
  obtain rfl := Option.some.inj documents
  exact ⟨document', layout', (alike.interchangeable value).1 denotes⟩

/-- The value that is read from a text is the one that it denotes. -/
theorem denotedBy_of_ofText? (read : ofText? text = some value) : DenotedBy text value := by
  obtain ⟨document, found, within⟩ := Option.bind_eq_some_iff.1 read
  exact ⟨document, Document.read?_eq_some_iff.1 found,
    Document.denotes_of_ofDocumentWithin? within⟩

end Value

end Json

end ResultCache
