import ResultCache.Json.Token

/-!
Contract: JSON documents as trees of literals.

Owns:
- `Document`, a value with members in written order, repeated ones included,
  and with literals as they are spelled;
- `Document.ofTokens?`, which builds the one document that a token sequence
  spells, by a stack of the containers still open;
- `Document.tokens`, the tokens of a document without blanks;
- reading a document from symbols and writing it as compact text.

Does not own: what the literals mean. Members that a reader passes over are
therefore checked for their syntax alone.
-/

namespace ResultCache

namespace Json

/-- A JSON value as written. -/
inductive Document where
  | null
  | bool (value : Bool)
  | number (literal : NumberLiteral)
  | string (pieces : List StringPiece)
  | array (items : List Document)
  | object (members : List (List StringPiece × Document))
  deriving Repr

namespace Document

/-- A container still open, with what it holds so far in reverse. -/
inductive Frame where
  | array (items : List Document)
  | object (members : List (List StringPiece × Document))
  /-- An object that awaits the value of the member named. -/
  | named (members : List (List StringPiece × Document)) (name : List StringPiece)
  deriving Repr

/-- What may come next. -/
inductive Stage where
  /-- A value. -/
  | value
  /-- A value, or the end of the array just opened. -/
  | itemOrClose
  /-- The name of a member, or the end of the object just opened. -/
  | nameOrClose
  /-- The name of a member. -/
  | name
  /-- The colon behind a name. -/
  | colon
  /-- A comma, or the end of the innermost container. -/
  | commaOrClose
  /-- Nothing: the document is complete. -/
  | done (document : Document)
  deriving Repr

/-- A point inside a token sequence: what may come, and the open containers. -/
structure Progress where
  stage : Stage
  frames : List Frame
  deriving Repr

namespace Progress

def start : Progress := ⟨.value, []⟩

/-- The point behind a complete value, given the containers around it. -/
def place? (document : Document) : List Frame → Option Progress
  | [] => some ⟨.done document, []⟩
  | .array items :: frames => some ⟨.commaOrClose, .array (document :: items) :: frames⟩
  | .named members name :: frames =>
    some ⟨.commaOrClose, .object ((name, document) :: members) :: frames⟩
  | .object _ :: _ => none

def beginValue? (frames : List Frame) : Token → Option Progress
  | .null => place? .null frames
  | .bool value => place? (.bool value) frames
  | .number literal => place? (.number literal) frames
  | .string pieces => place? (.string pieces) frames
  | .openArray => some ⟨.itemOrClose, .array [] :: frames⟩
  | .openObject => some ⟨.nameOrClose, .object [] :: frames⟩
  | .closeArray | .closeObject | .comma | .colon => none

def step? (progress : Progress) (token : Token) : Option Progress :=
  match progress.stage, token, progress.frames with
  | .value, token, frames => beginValue? frames token
  | .itemOrClose, .closeArray, .array items :: frames => place? (.array items.reverse) frames
  | .itemOrClose, token, frames => beginValue? frames token
  | .nameOrClose, .closeObject, .object members :: frames =>
    place? (.object members.reverse) frames
  | .nameOrClose, .string pieces, .object members :: frames =>
    some ⟨.colon, .named members pieces :: frames⟩
  | .name, .string pieces, .object members :: frames =>
    some ⟨.colon, .named members pieces :: frames⟩
  | .colon, .colon, frames => some ⟨.value, frames⟩
  | .commaOrClose, .comma, .array items :: frames => some ⟨.value, .array items :: frames⟩
  | .commaOrClose, .comma, .object members :: frames => some ⟨.name, .object members :: frames⟩
  | .commaOrClose, .closeArray, .array items :: frames => place? (.array items.reverse) frames
  | .commaOrClose, .closeObject, .object members :: frames =>
    place? (.object members.reverse) frames
  | _, _, _ => none

/-- The document, when the point is behind a complete one. -/
def document? (progress : Progress) : Option Document :=
  match progress.stage with
  | .done document => some document
  | _ => none

end Progress

def ofTokens? (tokens : List Token) : Option Document :=
  (tokens.foldlM Progress.step? Progress.start).bind Progress.document?

/-- The document that symbols spell, blanks around tokens left out. -/
def read? (symbols : List Symbol) : Option Document := (Token.scan? symbols).bind ofTokens?

mutual

/-- The tokens of a document in reverse, in front of those given. -/
def tokensOnto (done : List Token) : Document → List Token
  | .null => .null :: done
  | .bool value => .bool value :: done
  | .number literal => .number literal :: done
  | .string pieces => .string pieces :: done
  | .array [] => .closeArray :: .openArray :: done
  | .array (item :: items) => .closeArray :: itemsOnto (tokensOnto (.openArray :: done) item) items
  | .object [] => .closeObject :: .openObject :: done
  | .object ((name, value) :: members) =>
    .closeObject ::
      membersOnto (tokensOnto (.colon :: .string name :: .openObject :: done) value) members

/-- The tokens of further items of an array, each behind a comma. -/
def itemsOnto (done : List Token) : List Document → List Token
  | [] => done
  | item :: items => itemsOnto (tokensOnto (.comma :: done) item) items

/-- The tokens of further members of an object, each behind a comma. -/
def membersOnto (done : List Token) : List (List StringPiece × Document) → List Token
  | [] => done
  | (name, value) :: members =>
    membersOnto (tokensOnto (.colon :: .string name :: .comma :: done) value) members

end

def tokens (document : Document) : List Token := (tokensOnto [] document).reverse

def chars (document : Document) : List Char := document.tokens.flatMap Token.chars

/-- The compact text of a document, as a string. -/
def text (document : Document) : String := String.ofList document.chars

end Document

end Json

end ResultCache
