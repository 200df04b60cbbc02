import ResultCache.Proofs.Codec.Json
import ResultCache.Proofs.Text
import ResultCache.Serializer

/-!
Contract: payloads come back from the JSON that they are serialized as.

Owns:
- `Document.isArray`, and that the octets of a document start as an array exactly when it is
  one, which is what the list hint looks at;
- `Serializer.IsJsonOf`, that content is the text of the document of a payload, in either
  storage class, and what is read from such content;
- that covered payloads without doubles come back from whatever content they have, under the
  list hint just when the content is an array.

Does not own: payloads with doubles, for which content may stand for another payload.
-/

namespace ResultCache

namespace Json

namespace Document

def isArray : Document → Bool
  | .array _ => true
  | .null | .bool _ | .number _ | .string _ | .object _ => false

/-- The text of a document starts with a character of one octet that is no blank, and is a
bracket just for arrays. -/
theorem exists_leading {document : Document} (spellable : document.Spellable) :
    ∃ scalar rest, document.chars = scalar :: rest ∧ scalar.toNat < 128 ∧
      Serializer.isBlankOctet scalar.toNat.toUInt8 = false ∧
      (scalar.toNat.toUInt8 = 0x5B ↔ document.isArray = true) := by
  cases document with
  | null | string => exact ⟨_, _, rfl, by decide, by decide, by rw [isArray]; decide⟩
  | bool value => cases value <;> exact ⟨_, _, rfl, by decide, by decide, by decide⟩
  | number literal =>
      have here : literal.Spellable := spellable (.number literal) List.mem_cons_self
      obtain ⟨scalar, _, symbols, numeral⟩ := Token.exists_numeral here.spelledAs
      obtain ⟨_, rest, split, ⟨⟩, _⟩ := List.map_eq_cons_iff.1 symbols
      have chars : chars (.number literal) = scalar :: rest := by
        rw [← split]
        exact List.append_nil _
      refine ⟨scalar, rest, chars, ?_⟩
      rw [isArray]
      rcases numeral with rfl | ⟨digit, rfl⟩
      · decide
      · clear symbols split chars
        revert digit
        decide
  | array items =>
      cases items with
      | nil => exact ⟨_, _, rfl, by decide, by decide, by decide⟩
      | cons item items =>
          refine ⟨_, _, by rw [chars, tokens_array_cons]; rfl, by decide, by decide, by simp [isArray]⟩
  | object members =>
      cases members with
      | nil => exact ⟨_, _, rfl, by decide, by decide, by decide⟩
      | cons entry members =>
          obtain ⟨name, value⟩ := entry
          refine ⟨_, _, by rw [chars, tokens_object_cons]; rfl, by decide, by decide, by simp [isArray]⟩

end Document

end Json

namespace Serializer

open Json (Document)

theorem startsAsArray_text {document : Document} (spellable : document.Spellable) :
    startsAsArray (Text.toBytes document.text) = document.isArray := by
  obtain ⟨scalar, rest, split, single, notBlank, bracket⟩ := document.exists_leading spellable
  have octets : Text.toBytes document.text =
      scalar.toNat.toUInt8 :: rest.flatMap String.utf8EncodeChar := by
    rw [Document.text, Text.toBytes_ofList, split, List.flatMap_cons, Text.utf8EncodeChar_of_lt single]
    rfl
  unfold startsAsArray
  rw [octets, List.dropWhile_cons, if_neg (by simp [notBlank])]
  dsimp only
  rw [Bool.eq_iff_iff, decide_eq_true_iff]
  exact bracket

/-- Content that is the text of the document of a payload, as text or as octets. -/
structure IsJsonOf (content : StoredContent) (payload : Payload) (document : Document) : Prop where
  written : Codec.Json.encodePayload? payload.type payload.value = some document
  bytes : content.bytes = Text.toBytes document.text

/-- What has a document is serialized in either storage class. -/
theorem exists_of_writeJson {payload : Payload} {asText : Bool} {content : StoredContent}
    (serialized : writeJson payload asText = .ok content) :
    ∃ document, IsJsonOf content payload document ∧
      ∀ other, writeJson payload other = .ok
        (if other then .text document.text else .binary (Text.toBytes document.text)) := by
  unfold writeJson jsonText at serialized ⊢
  cases written : Codec.Json.encodePayload? payload.type payload.value with
  | none =>
      rw [written] at serialized
      cases serialized
  | some document =>
      rw [written] at serialized
      refine ⟨document, ⟨written, ?_⟩, fun _ => rfl⟩
      cases asText <;> cases serialized <;> rfl

namespace IsJsonOf

variable {content : StoredContent} {payload : Payload} {document : Document}

theorem read (json : IsJsonOf content payload document) :
    Document.read? (Text.symbols content.bytes) = some document := by
  rw [json.bytes, Text.symbols_toBytes]
  exact Document.read?_text (Codec.Json.spellable_of_encodePayload? json.written)

/-- What is read from the content is what is read from the document, under the list hint of
arrays only. -/
theorem readJson (json : IsJsonOf content payload document) (asList : Bool) :
    Serializer.readJson payload.type content asList =
      if asList && !document.isArray then .error (.serialization .notAnArray)
      else
        match Codec.Json.decodePayload? payload.type document with
        | some value => .ok value
        | none => .error (.serialization .undecodable) := by
  have starts : startsAsArray content.bytes = document.isArray := by
    rw [json.bytes]
    exact startsAsArray_text (Codec.Json.spellable_of_encodePayload? json.written)
  unfold Serializer.readJson
  rw [starts, json.read, Option.bind_some]
  cases Codec.Json.decodePayload? payload.type document <;> rfl

/-- What can be read from the content at all is what can be read from the document. -/
theorem toOption_readJson (json : IsJsonOf content payload document) (asList : Bool) :
    (Serializer.readJson payload.type content asList).toOption =
      if asList && !document.isArray then none
      else Codec.Json.decodePayload? payload.type document := by
  rw [json.readJson]
  split
  · rfl
  · cases Codec.Json.decodePayload? payload.type document <;> rfl

end IsJsonOf

/-- A covered payload without doubles comes back from whatever content it is serialized as.
Both storage classes have the same octets; under the list hint, a document that is no array is
refused. -/
theorem json_reads_back {type : PayloadType} (covered : type ∈ PayloadType.covered)
    {value : type.Value} (free : type.FreeOfDoubles value) (shallow : type.Shallow value)
    {asText : Bool} {content : StoredContent}
    (serialized : (ofFormat .json).serialize ⟨type, value⟩ asText = .ok content) :
    (∀ other, ∃ stored, (ofFormat .json).serialize ⟨type, value⟩ other = .ok stored ∧
      stored.bytes = content.bytes) ∧
    (ofFormat .json).deserialize type content false = .ok value ∧
    ∃ document, Document.read? (Text.symbols content.bytes) = some document ∧
      (ofFormat .json).deserialize type content true =
        if document.isArray then .ok value else .error (.serialization .notAnArray) := by
  obtain ⟨document, json, either⟩ := exists_of_writeJson serialized
  have faithful := Codec.Json.faithful_decodePayload? (PayloadType.tellsNull_of_covered type covered)
    (PayloadType.wellFormed_of_free free) json.written
  have back := faithful.read_eq (PayloadType.settled_of_free free) shallow
  refine ⟨?_, ?_, document, json.read, ?_⟩
  · intro other
    refine ⟨_, either other, ?_⟩
    rw [json.bytes]
    cases other <;> rfl
  · refine (json.readJson false).trans ?_
    rw [back]
    rfl
  · refine (json.readJson true).trans ?_
    rw [back]
    cases document.isArray <;> rfl

/-- A negative integer, a text with characters of every spelling, an integer that is absent,
and a list. -/
def quotedTuple : Payload where
  type := .parallel [.integer .i64, .text, .option (.integer .i64), .list (.integer .u32)]
  value := (⟨-5, by decide⟩, "\"\\\n\x01é", none, [⟨0, by decide⟩, ⟨4294967295, by decide⟩], ())

theorem json_reads_back_quotedTuple :
    quotedTuple.type ∈ PayloadType.covered ∧ quotedTuple.type.FreeOfDoubles quotedTuple.value ∧
      quotedTuple.type.Shallow quotedTuple.value ∧
      ∃ content, (ofFormat .json).serialize quotedTuple true = .ok content ∧
        (ofFormat .json).deserialize quotedTuple.type content false = .ok quotedTuple.value ∧
        ∃ octets, (ofFormat .json).serialize quotedTuple false = .ok octets ∧
          octets.bytes = content.bytes := by
  have covered : quotedTuple.type ∈ PayloadType.covered := by decide
  have free : quotedTuple.type.FreeOfDoubles quotedTuple.value :=
    ⟨trivial, trivial, fun _ absent => (by cases absent), fun _ _ => trivial, trivial⟩
  have shallow : quotedTuple.type.Shallow quotedTuple.value :=
    ⟨trivial, trivial, fun _ absent => (by cases absent), fun _ _ => trivial, trivial⟩
  obtain ⟨content, serialized⟩ : ∃ content,
      (ofFormat .json).serialize quotedTuple true = .ok content := ⟨_, rfl⟩
  obtain ⟨either, back, _⟩ := json_reads_back covered free shallow serialized
  exact ⟨covered, free, shallow, content, serialized, back, either false⟩

end Serializer

end ResultCache
