import ResultCache.Codec.Json
import ResultCache.Proofs.Json.Double
import ResultCache.Proofs.Payload

/-!
Contract: payloads are read faithfully from their JSON documents.

Owns:
- that integers, texts, keys, rows and alternatives are read back from what they are written
  as, and that a score is read faithfully;
- the induction over payload types: what is written is never null where null means absent,
  is spelled as readers take it, and is read faithfully.

Does not own: the text of documents, and which doubles are settled.
-/

namespace ResultCache

namespace Codec

namespace Json

open ResultCache.Json

/-! ### Reading single values back -/

theorem toInteger?_ofInt {format : IntegerFormat} (value : format.Value) :
    toInteger? format (ofInt value.val) = some value := by
  unfold toInteger? ofInt
  simp only [Number.ofLiteral?_ofInt (IntegerFormat.fitsWord value)]
  exact format.ofInt?_val value

theorem toText?_ofText (text : String) : toText? (ofText text) = some text :=
  StringPiece.text?_ofText text

theorem decode?_char (scalar : Char) :
    decode? .char (ofText (String.singleton scalar)) = some scalar := by
  change Text.onlyChar? ((toText? (ofText (String.singleton scalar))).map String.toList) = _
  rw [toText?_ofText, Option.map_some, String.toList_singleton]
  rfl

theorem mapM_plainOf? (scalars : List Char) :
    (scalars.map StringPiece.plain).mapM plainOf? = some scalars := by
  induction scalars with
  | nil => rfl
  | cons scalar scalars inductionHypothesis =>
      rw [List.map_cons, mapM_cons, inductionHypothesis]
      rfl

/-- A key is read back from the name that it is written as. -/
theorem indexOfName?_of_nameOfIndex? {index : IndexType} {key : index.Value}
    {name : List StringPiece} (written : nameOfIndex? index key = some name) :
    indexOfName? index name = some key := by
  cases index with
  | text =>
      cases written
      exact StringPiece.text?_ofText _
  | integer =>
      cases written
      have spelled := Token.readNumber?_append Token.endsNumber_nil
        (NumberLiteral.spellable_ofInt (Int64.toInt key)).spelledAs
      have read : Number.ofLiteral? (NumberLiteral.ofInt (Int64.toInt key)) =
          some (.integer (Int64.toInt key)) :=
        Number.ofLiteral?_ofInt (IntegerFormat.fitsWord (IntegerFormat.ofInt64 key))
      have held : IntegerFormat.i64.ofInt? (Int64.toInt key) = some (IntegerFormat.ofInt64 key) :=
        IntegerFormat.i64.ofInt?_val (IntegerFormat.ofInt64 key)
      rw [List.append_nil] at spelled
      change integerOfName? ((NumberLiteral.ofInt (Int64.toInt key)).chars.map .plain) = some key
      unfold integerOfName?
      rw [mapM_plainOf?]
      simp only [Option.bind_eq_bind, Option.bind_some, spelled, List.isEmpty_nil, if_true, read,
        held, Option.map_some]
      exact congrArg some (Int64.ofInt_toInt key)
  | integerPair => cases written

/-! ### Records and alternatives -/

@[simp] theorem fieldsOf?_nil : fieldsOf? [] = some [] := rfl

@[simp] theorem fieldsOf?_member (name : String) (document : Document)
    (members : List (List StringPiece × Document)) :
    fieldsOf? (member name document :: members) =
      (fieldsOf? members).map ((name, document) :: ·) := by
  unfold fieldsOf?
  rw [mapM_cons, member, StringPiece.text?_ofText]
  rfl

/-- A row is read back but for its score, which is read as what it is written as. -/
theorem toRow?_ofRow (row : Row) :
    toRow? (ofRow row) =
      (toScore? (ofScore row.score)).map fun score => ⟨row.id, row.name, score⟩ := by
  have fields : fieldsOf? [member "id" (ofInt row.id.val), member "name" (ofText row.name),
      member "score" (ofScore row.score)] =
        some [("id", ofInt row.id.val), ("name", ofText row.name),
          ("score", ofScore row.score)] := by
    simp
  unfold toRow? ofRow
  simp only [fields, Option.bind_eq_bind, Option.bind_some, Record.required?, Record.field?,
    List.filter, decide_true, String.reduceEq, decide_false, Option.join_some,
    toInteger?_ofInt, toText?_ofText]
  cases toScore? (ofScore row.score) <;> rfl

theorem toBox?_members (width height : IntegerFormat.u32.Value) :
    toBox? (.object [member "w" (ofInt width.val), member "h" (ofInt height.val)]) =
      some (.box width height) := by
  have fields : fieldsOf? [member "w" (ofInt width.val), member "h" (ofInt height.val)] =
      some [("w", ofInt width.val), ("h", ofInt height.val)] := by
    simp
  unfold toBox?
  simp only [fields, Option.bind_eq_bind, Option.bind_some, Record.required?, Record.field?,
    List.filter, decide_true, String.reduceEq, decide_false, Option.join_some, toInteger?_ofInt]
  rfl

theorem toStatus?_ofStatus (status : Status) : toStatus? (ofStatus status) = some status := by
  cases status with
  | idle => simp [toStatus?, ofStatus, ofText]
  | level value =>
      simp [toStatus?, ofStatus, member, toAlternative?, toInteger?_ofInt]
  | pair value label =>
      simp [toStatus?, ofStatus, member, toAlternative?, toInteger?_ofInt, toText?_ofText]
  | box width height =>
      have box := toBox?_members width height
      simp only [member] at box
      simp [toStatus?, ofStatus, member, toAlternative?, box]

/-! ### Doubles -/

theorem Binary64.alike_iff_of_finite {number other : Binary64} (finite : number.isFinite = true) :
    other.Alike number ↔ other = number := by
  refine ⟨?_, .inl⟩
  rintro (same | ⟨_, nan⟩)
  · exact same
  · have field : number.exponentField < 2047 := of_decide_eq_true finite
    unfold Binary64.isNaN at nan
    simp only [Bool.and_eq_true, decide_eq_true_eq] at nan
    omega

/-- A double is read faithfully: one that is not finite is not read at all. -/
theorem faithful_toDouble? (number : Binary64) :
    Faithful Binary64.Alike (Number.Settled number) True number
      (toDouble? (Value.documentOfBinary64 number)) := by
  unfold Value.documentOfBinary64
  split
  · rename_i finite
    have never := Number.ofLiteral?_ne_integer (NumberLiteral.not_isWhole_ofBinary64 finite)
    unfold toDouble?
    dsimp only
    cases read : Number.ofLiteral? (NumberLiteral.ofBinary64 number) with
    | none => exact .of_none rfl fun settled => by simp [settled.2] at read
    | some value =>
        cases value with
        | integer value => exact absurd read (never value)
        | double value =>
            refine ⟨?_, ?_, ?_⟩
            · intro settled _
              rw [settled.2] at read
              cases read
              rfl
            · intro other found settled
              rw [settled.2] at read
              cases read
              cases found
              rfl
            · intro other found alike
              cases found
              rw [Binary64.alike_iff_of_finite finite] at alike
              exact ⟨finite, alike ▸ read⟩
  · rename_i infinite
    exact .of_none rfl fun settled => absurd settled.1 infinite

/-- A score that is not finite is read as absent. -/
theorem faithful_toScore? (score : Option Binary64) :
    Faithful (Option.Rel Binary64.Alike) (∀ number ∈ score, Number.Settled number) True score
      (toScore? (ofScore score)) := by
  cases score with
  | none => exact .of_eq rfl fun _ absent => by cases absent
  | some number =>
      have settledIff : (∀ held ∈ some number, Number.Settled held) ↔ Number.Settled number := by
        simp
      by_cases finite : number.isFinite = true
      · have read : toScore? (ofScore (some number)) =
            (toDouble? (Value.documentOfBinary64 number)).map some := by
          rw [ofScore, Value.documentOfBinary64, if_pos finite]
          rfl
        rw [read]
        refine (faithful_toDouble? number).map settledIff id ?_
        intro other _ same
        cases same with
        | some alike => exact alike
      · have read : toScore? (ofScore (some number)) = some none := by
          rw [ofScore, Value.documentOfBinary64, if_neg finite]
          rfl
        rw [read, settledIff]
        refine ⟨fun settled => absurd settled.1 finite, fun _ _ settled => absurd settled.1 finite, ?_⟩
        intro other found same
        cases found
        cases same

/-- A row whose score is not finite is read back without a score. -/
theorem toRow?_ofRow_of_infinite {row : Row} {score : Binary64} (held : row.score = some score)
    (infinite : score.isFinite = false) :
    toRow? (ofRow row) = some { row with score := none } := by
  rw [toRow?_ofRow, held, ofScore, Value.documentOfBinary64, if_neg (by simp [infinite])]
  rfl

/-! ### All types -/

/-- The member of an object for an entry of a map. -/
def memberOf? (index : IndexType) (item : ElementType) (entry : index.Value × item.Value) :
    Option (List StringPiece × Document) := do
  let name ← nameOfIndex? index entry.1
  let document ← encode? item entry.2
  return (name, document)

/-- The entry of a map for a member of an object. -/
def entryOf? (index : IndexType) (item : ElementType) (entry : List StringPiece × Document) :
    Option (index.Value × item.Value) := do
  let name ← indexOfName? index entry.1
  let value ← decode? item entry.2
  return (name, value)

section Entries

variable {index : IndexType} {item : ElementType} {entry : index.Value × item.Value}
  {found : List StringPiece × Document} (written : memberOf? index item entry = some found)

include written

theorem exists_of_memberOf? :
    nameOfIndex? index entry.1 = some found.1 ∧ encode? item entry.2 = some found.2 := by
  obtain ⟨name, named, rest⟩ := Option.bind_eq_some_iff.1 written
  obtain ⟨document, made, same⟩ := Option.bind_eq_some_iff.1 rest
  cases same
  exact ⟨named, made⟩

theorem entryOf?_of_memberOf? :
    entryOf? index item found = (decode? item found.2).map (Prod.mk entry.1) := by
  obtain ⟨named, _⟩ := exists_of_memberOf? written
  rw [entryOf?, indexOfName?_of_nameOfIndex? named]
  cases decode? item found.2 <;> rfl

/-- An entry is read faithfully when its value is. -/
theorem faithful_entryOf? {settled shallow : Prop}
    (faithful : ∀ document, encode? item entry.2 = some document →
      Faithful item.Alike settled shallow entry.2 (decode? item document)) :
    Faithful (fun first second => first.1 = second.1 ∧ item.Alike first.2 second.2) settled shallow
      entry ((memberOf? index item entry).bind (entryOf? index item)) := by
  have read : (memberOf? index item entry).bind (entryOf? index item) =
      (decode? item found.2).map (Prod.mk entry.1) := by
    rw [written]
    exact entryOf?_of_memberOf? written
  have here := faithful _ (exists_of_memberOf? written).2
  obtain ⟨key, value⟩ := entry
  rw [read]
  exact here.map Iff.rfl id fun other _ same => same.2

end Entries

theorem fst_of_reread {index : IndexType} {item : ElementType} {entry other : index.Value × item.Value}
    (read : (memberOf? index item entry).bind (entryOf? index item) = some other) :
    other.1 = entry.1 := by
  obtain ⟨found, written, reread⟩ := Option.bind_eq_some_iff.1 read
  rw [entryOf?_of_memberOf? written] at reread
  obtain ⟨value, _, rfl⟩ := Option.map_eq_some_iff.1 reread
  rfl

theorem ne_null_of_encode? {element : ElementType} (never : element.neverNull = true)
    {value : element.Value} {document : Document} (written : encode? element value = some document) :
    document ≠ .null := by
  cases element with
  | unit | double | json | option => cases never
  | bool | integer | char | text | row =>
      cases written
      exact Document.noConfusion
  | status =>
      cases written
      cases (value : Status) <;> exact Document.noConfusion
  | list | map =>
      obtain ⟨_, _, rfl⟩ := Option.map_eq_some_iff.1 written
      exact Document.noConfusion

/-! ### Spelling -/

theorem spellable_ofText (text : String) : (ofText text).Spellable :=
  Document.spellable_string fun _ => StringPiece.spellable_ofText

theorem spellable_ofInt (number : Int) : (ofInt number).Spellable :=
  Document.spellable_number (NumberLiteral.spellable_ofInt number)

theorem spellable_members {members : List (String × Document)}
    (each : ∀ entry ∈ members, entry.2.Spellable) :
    Document.Spellable (.object (members.map fun entry => member entry.1 entry.2)) := by
  refine Document.spellable_object ?_ ?_
  · intro entry inside
    obtain ⟨source, _, rfl⟩ := List.mem_map.1 inside
    exact fun _ => StringPiece.spellable_ofText
  · intro entry inside
    obtain ⟨source, there, rfl⟩ := List.mem_map.1 inside
    exact each source there

theorem spellable_ofRow (row : Row) : (ofRow row).Spellable := by
  have score : (ofScore row.score).Spellable := by
    cases row.score with
    | none => exact Document.spellable_bare rfl trivial
    | some number => exact Value.spellable_documentOfBinary64 number
  refine @spellable_members
    [("id", ofInt row.id.val), ("name", ofText row.name), ("score", ofScore row.score)] ?_
  simp [spellable_ofInt, spellable_ofText, score]

theorem spellable_ofStatus (status : Status) : (ofStatus status).Spellable := by
  cases status with
  | idle => exact spellable_ofText "Idle"
  | level value =>
      refine @spellable_members [("Level", ofInt value.val)] ?_
      simp [spellable_ofInt]
  | pair value label =>
      refine @spellable_members [("Pair", .array [ofInt value.val, ofText label])] ?_
      have parts : Document.Spellable (.array [ofInt value.val, ofText label]) :=
        Document.spellable_array (by simp [spellable_ofInt, spellable_ofText])
      simp [parts]
  | box width height =>
      have sides : Document.Spellable
          (.object [member "w" (ofInt width.val), member "h" (ofInt height.val)]) :=
        @spellable_members [("w", ofInt width.val), ("h", ofInt height.val)]
          (by simp [spellable_ofInt])
      refine @spellable_members [("Box", _)] ?_
      simp [sides]

/-- The characters of an integer stand for themselves inside a string. -/
theorem spellable_plain_of_mem_ofInt {number : Int} {scalar : Char}
    (member : scalar ∈ (NumberLiteral.ofInt number).chars) :
    (StringPiece.plain scalar).Spellable := by
  have chars : (NumberLiteral.ofInt number).chars =
      (if number < 0 then ['-'] else []) ++ (Digit.ofNat number.natAbs).map Digit.toChar := by
    simp [NumberLiteral.chars, NumberLiteral.ofInt]
  rw [chars] at member
  rcases List.mem_append.1 member with sign | digits
  · split at sign
    · cases List.mem_singleton.1 sign
      exact .plain (by decide) (by decide) (by decide)
    · cases sign
  · obtain ⟨digit, _, rfl⟩ := List.mem_map.1 digits
    have apart : ∀ digit : Digit, digit.toChar ≠ '"' ∧ digit.toChar ≠ '\\' ∧
        0x20 ≤ digit.toChar.toNat := by decide
    exact .plain (apart digit).1 (apart digit).2.1 (apart digit).2.2

theorem spellable_of_nameOfIndex? {index : IndexType} {key : index.Value}
    {name : List StringPiece} (written : nameOfIndex? index key = some name) :
    ∀ piece ∈ name, piece.Spellable := by
  cases index with
  | text =>
      cases written
      exact fun _ => StringPiece.spellable_ofText
  | integer =>
      cases written
      intro piece member
      obtain ⟨scalar, inside, rfl⟩ := List.mem_map.1 member
      exact spellable_plain_of_mem_ofInt inside
  | integerPair => cases written

/-- Documents of values are spelled as readers take them. -/
theorem spellable_of_encode? {element : ElementType} {value : element.Value} {document : Document}
    (written : encode? element value = some document) : document.Spellable := by
  induction element generalizing document with
  | unit | bool =>
      cases written
      exact Document.spellable_bare rfl trivial
  | integer =>
      cases written
      exact spellable_ofInt _
  | double =>
      cases written
      exact Value.spellable_documentOfBinary64 _
  | char | text =>
      cases written
      exact spellable_ofText _
  | json =>
      cases written
      exact Value.spellable_toDocument _
  | row =>
      cases written
      exact spellable_ofRow value
  | status =>
      cases written
      exact spellable_ofStatus value
  | option item inductionHypothesis =>
      cases (value : Option item.Value) with
      | none =>
          cases written
          exact Document.spellable_bare rfl trivial
      | some held => exact inductionHypothesis written
  | list item inductionHypothesis =>
      obtain ⟨documents, made, rfl⟩ := Option.map_eq_some_iff.1 written
      refine Document.spellable_array fun document member => ?_
      obtain ⟨_, _, source⟩ := exists_mem_of_mapM made document member
      exact inductionHypothesis source
  | map index item inductionHypothesis =>
      obtain ⟨members, made, rfl⟩ := Option.map_eq_some_iff.1 written
      refine Document.spellable_object ?_ ?_
      · intro entry member
        obtain ⟨_, _, source⟩ := exists_mem_of_mapM made entry member
        exact spellable_of_nameOfIndex? (exists_of_memberOf? source).1
      · intro entry member
        obtain ⟨_, _, source⟩ := exists_mem_of_mapM made entry member
        exact inductionHypothesis (exists_of_memberOf? source).2

/-- The document of a value is read faithfully at its type. -/
theorem faithful_decode? {element : ElementType} (tells : element.tellsNull = true)
    {value : element.Value}
    (formed : element.Each (fun _ => True) Value.WellFormed value) {document : Document}
    (written : encode? element value = some document) :
    Faithful element.Alike (element.Each Number.Settled (Value.Formed Number.Settled) value)
      (element.Each (fun _ => True) (fun json => json.depth < Value.nestingLimit) value) value
      (decode? element document) := by
  induction element generalizing document with
  | unit | bool =>
      cases written
      exact .of_eq rfl trivial
  | integer format =>
      cases written
      exact .of_eq (toInteger?_ofInt value) trivial
  | double =>
      cases written
      exact (faithful_toDouble? value)
  | char =>
      cases written
      exact .of_eq (decode?_char value) trivial
  | text =>
      cases written
      exact .of_eq (toText?_ofText value) trivial
  | json =>
      cases written
      have faithful := Value.faithful_ofDocumentWithin? formed Value.nestingLimit
      exact ⟨fun settled shallow => faithful.read_eq settled (Nat.le_sub_one_of_lt shallow),
        faithful.eq_of_settled, faithful.settled_of_alike⟩
  | row =>
      cases written
      have read : decode? .row (ofRow value) = _ := toRow?_ofRow value
      obtain ⟨id, name, score⟩ : Row := value
      rw [read]
      refine (faithful_toScore? score).map Iff.rfl (fun _ => trivial) ?_
      exact fun other _ same => same.2.2
  | status =>
      cases written
      exact .of_eq (toStatus?_ofStatus value) trivial
  | option item inductionHypothesis =>
      have parts := Bool.and_eq_true_iff.1 tells
      cases (value : Option item.Value) with
      | none =>
          cases written
          exact .of_eq rfl fun _ absent => by cases absent
      | some held =>
          have present := ne_null_of_encode? parts.1 written
          have read : decode? (.option item) document = (decode? item document).map some := by
            cases document with
            | null => exact absurd rfl present
            | bool | number | string | array | object => rfl
          rw [read]
          refine (inductionHypothesis parts.2 (formed held rfl) written).map ?_ ?_ ?_
          · exact ⟨fun each => each held rfl, fun here other same => Option.some.inj same ▸ here⟩
          · exact fun each => each held rfl
          · rintro other _ (⟨alike⟩ | _)
            exact alike
  | list item inductionHypothesis =>
      obtain ⟨documents, made, rfl⟩ := Option.map_eq_some_iff.1 written
      have read : decode? (.list item) (.array documents) =
          List.mapM (fun held => (encode? item held).bind (decode? item)) value :=
        mapM_of_mapM (decode? item) made
      rw [read]
      refine Faithful.list fun held member => ?_
      obtain ⟨document, source⟩ := exists_of_mapM made held member
      rw [source]
      exact inductionHypothesis tells (formed held member) source
  | map index item inductionHypothesis =>
      obtain ⟨members, made, rfl⟩ := Option.map_eq_some_iff.1 written
      obtain ⟨entries, sorted⟩ : SortedMap index.Value item.Value := value
      have read : decode? (.map index item) (.object members) =
          (entries.mapM fun entry => (memberOf? index item entry).bind
            (entryOf? index item)).map SortedMap.ofPairs :=
        congrArg _ (mapM_of_mapM (entryOf? index item) made)
      have each : Faithful _ _ _ entries (entries.mapM fun entry =>
          (memberOf? index item entry).bind (entryOf? index item)) :=
        Faithful.list fun entry (member : entry ∈ entries) => by
          obtain ⟨found, source⟩ := exists_of_mapM made entry member
          exact faithful_entryOf? source fun document =>
            inductionHypothesis tells (formed entry member)
      have rebuilt : SortedMap.ofPairs entries = ⟨entries, sorted⟩ :=
        SortedMap.ofPairs_entries ⟨entries, sorted⟩
      rw [read, ← rebuilt]
      refine each.map ?_ ?_ ?_
      · rw [rebuilt]
        exact Iff.rfl
      · rw [rebuilt]
        exact id
      · intro others found alike
        -- What is read has the keys that were written, so that it is in their order.
        have keys : others.map Prod.fst = entries.map Prod.fst :=
          map_eq_of_mapM (fun _ _ => fst_of_reread) found
        have ordered : (SortedMap.ofPairs others).entries = others :=
          SortedMap.entries_ofPairs (keys ▸ List.pairwise_map.2 sorted)
        rw [rebuilt] at alike
        exact ordered ▸ alike

/-! ### Payloads -/

theorem exists_of_encodeParallel? {element : ElementType} {rest : List ElementType}
    {value : element.Value} {values : ParallelValue rest} {documents : List Document}
    (written : encodeParallel? (element :: rest) (value, values) = some documents) :
    ∃ document behind, documents = document :: behind ∧ encode? element value = some document ∧
      encodeParallel? rest values = some behind := by
  obtain ⟨document, first, later⟩ := Option.bind_eq_some_iff.1 written
  obtain ⟨behind, others, same⟩ := Option.bind_eq_some_iff.1 later
  cases same
  exact ⟨document, behind, rfl, first, others⟩

theorem decodeParallel?_cons (element : ElementType) (rest : List ElementType) (document : Document)
    (documents : List Document) :
    decodeParallel? (element :: rest) (document :: documents) =
      (decode? element document).bind fun value =>
        (decodeParallel? rest documents).map (Prod.mk value) := by
  change ((decode? element document).bind fun value =>
    (decodeParallel? rest documents).bind fun values => some (value, values)) = _
  cases decode? element document with
  | none => rfl
  | some value => cases decodeParallel? rest documents <;> rfl

theorem faithful_decodeParallel? {elements : List ElementType}
    (tells : ∀ element ∈ elements, element.tellsNull = true) {values : ParallelValue elements}
    (formed : ParallelValue.Each (fun _ => True) Value.WellFormed elements values)
    {documents : List Document} (written : encodeParallel? elements values = some documents) :
    Faithful (ParallelValue.Alike elements)
      (ParallelValue.Each Number.Settled (Value.Formed Number.Settled) elements values)
      (ParallelValue.Each (fun _ => True) (fun json => json.depth < Value.nestingLimit) elements
        values) values (decodeParallel? elements documents) := by
  induction elements generalizing documents with
  | nil =>
      cases written
      exact .of_eq rfl trivial
  | cons element rest inductionHypothesis =>
      obtain ⟨value, values⟩ : element.Value × ParallelValue rest := values
      obtain ⟨document, behind, rfl, first, others⟩ := exists_of_encodeParallel? written
      have here := faithful_decode? (tells element List.mem_cons_self) formed.1 first
      have later := inductionHypothesis (fun other member => tells other (List.mem_cons_of_mem _ member))
        formed.2 others
      rw [decodeParallel?_cons]
      exact here.both later Iff.rfl id fun _ _ _ _ same => same

theorem spellable_of_encodeParallel? {elements : List ElementType} {values : ParallelValue elements}
    {documents : List Document} (written : encodeParallel? elements values = some documents) :
    ∀ document ∈ documents, document.Spellable := by
  induction elements generalizing documents with
  | nil =>
      cases written
      exact fun _ absent => absurd absent List.not_mem_nil
  | cons element rest inductionHypothesis =>
      obtain ⟨value, values⟩ : element.Value × ParallelValue rest := values
      obtain ⟨document, behind, rfl, first, others⟩ := exists_of_encodeParallel? written
      exact List.forall_mem_cons.2 ⟨spellable_of_encode? first, inductionHypothesis others⟩

theorem spellable_of_encodePayload? {type : PayloadType} {value : type.Value} {document : Document}
    (written : encodePayload? type value = some document) : document.Spellable := by
  cases type with
  | single element => exact spellable_of_encode? written
  | parallel elements =>
      obtain ⟨documents, made, rfl⟩ := Option.map_eq_some_iff.1 written
      exact Document.spellable_array (spellable_of_encodeParallel? made)

/-- The document of a payload is read faithfully at its type. -/
theorem faithful_decodePayload? {type : PayloadType} (tells : type.tellsNull = true)
    {value : type.Value} (formed : type.WellFormed value) {document : Document}
    (written : encodePayload? type value = some document) :
    Faithful type.Alike (type.Settled value) (type.Shallow value) value
      (decodePayload? type document) := by
  cases type with
  | single element => exact faithful_decode? tells formed written
  | parallel elements =>
      obtain ⟨documents, made, rfl⟩ := Option.map_eq_some_iff.1 written
      exact faithful_decodeParallel? (List.all_eq_true.1 tells) formed made

end Json

end Codec

end ResultCache
