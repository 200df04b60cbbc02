import Mathlib.Data.List.Chain
import Mathlib.Tactic.IntervalCases
import ResultCache.Json.Document
import ResultCache.Proofs.Json.Literal

/-!
Contract: documents are read back from their texts.

Owns:
- `Token.SpelledAs`, the grammar of tokens, and that a spelled token is found again in front of
  symbols that cannot belong to it;
- `Token.Layout`, tokens in their order with blanks around them, and that a whole layout is
  read as its tokens, if no two numbers stand side by side;
- the tokens of a document in order, container by container;
- that the tokens of a document build the document, wherever it stands, and so every layout of
  them is read as the document;
- `Document.Spellable`, the documents whose compact text is a layout.

Does not own: which documents writers make, and what else readers accept.
-/

namespace ResultCache

namespace Json

/-! ### Tokens -/

namespace Token

/-- Whether a token is one of a kind: its characters are fixed. -/
def isMark : Token → Bool
  | .number _ | .string _ => false
  | _ => true

/-- The symbols of a token: the characters of a mark, a spelling of a number, or a spelling of
a string between quotes. -/
inductive SpelledAs : Token → List Symbol → Prop
  | mark {token : Token} (fixed : token.isMark = true) : SpelledAs token (token.chars.map some)
  | number {literal : NumberLiteral} {symbols : List Symbol} (spelled : literal.SpelledAs symbols) :
      SpelledAs (.number literal) symbols
  | string {pieces : List StringPiece} {symbols : List Symbol}
      (spelled : StringPiece.AllSpelledAs pieces symbols) :
      SpelledAs (.string pieces) (some '"' :: (symbols ++ [some '"']))

def isNumber : Token → Bool
  | .number _ => true
  | _ => false

/-- The characters that a number starts with are those of no other token. -/
theorem read?_numeral {scalar : Char} (numeral : scalar = '-' ∨ ∃ digit : Digit, scalar = digit.toChar)
    (rest : List Symbol) :
    read? (some scalar :: rest) =
      (readNumber? (some scalar :: rest)).map fun (literal, behind) => (.number literal, behind) := by
  rcases numeral with rfl | ⟨⟨value, bound⟩, rfl⟩
  · rfl
  · interval_cases value <;> rfl

theorem exists_numeral {literal : NumberLiteral} {symbols : List Symbol}
    (spelled : literal.SpelledAs symbols) :
    ∃ scalar rest, symbols = some scalar :: rest ∧
      (scalar = '-' ∨ ∃ digit : Digit, scalar = digit.toChar) := by
  obtain ⟨negative, fraction, leading, power⟩ := spelled
  cases negative with
  | true => exact ⟨_, _, rfl, .inl rfl⟩
  | false =>
      rcases leading with rfl | ⟨first, digits, rfl, _⟩
      · exact ⟨_, _, rfl, .inr ⟨0, rfl⟩⟩
      · exact ⟨_, _, rfl, .inr ⟨first, rfl⟩⟩

/-- A spelled token is read back from its symbols. -/
theorem read?_append {token : Token} {symbols : List Symbol} (spelled : token.SpelledAs symbols)
    {rest : List Symbol} (ends : token.isNumber = true → EndsNumber rest) :
    read? (symbols ++ rest) = some (token, rest) := by
  cases spelled with
  | mark fixed =>
      cases token with
      | openArray | closeArray | openObject | closeObject | comma | colon | null => rfl
      | bool value => cases value <;> rfl
      | number literal => cases fixed
      | string pieces => cases fixed
  | number spelled =>
      have read := readNumber?_append (ends rfl) spelled
      obtain ⟨scalar, behind, rfl, numeral⟩ := exists_numeral spelled
      rw [List.cons_append] at read ⊢
      rw [read?_numeral numeral, read]
      rfl
  | string spelled =>
      have read := readString?_append spelled [] rest
      rw [List.cons_append, List.append_assoc]
      change (readString? [] (_ ++ some '"' :: rest)).map _ = _
      rw [read]
      rfl

/-- A token starts with no blank, and one that is no number with nothing that could belong to
a number in front of it. -/
theorem exists_first {token : Token} {symbols : List Symbol} (spelled : token.SpelledAs symbols) :
    ∃ scalar rest, symbols = some scalar :: rest ∧ isBlank scalar = false ∧
      (token.isNumber = false → ∀ behind, EndsNumber (some scalar :: behind)) := by
  have ends : ∀ {scalar : Char}, (Digit.ofChar? scalar = none ∧ scalar ≠ '.' ∧ scalar ≠ 'e' ∧
      scalar ≠ 'E') → ∀ behind, EndsNumber (some scalar :: behind) := by
    intro scalar apart behind other first
    cases first
    exact apart
  cases spelled with
  | mark fixed =>
      cases token with
      | openArray | closeArray | openObject | closeObject | comma | colon | null =>
          exact ⟨_, _, rfl, by decide, fun _ => ends (by decide)⟩
      | bool value => cases value <;> exact ⟨_, _, rfl, by decide, fun _ => ends (by decide)⟩
      | number literal => cases fixed
      | string pieces => cases fixed
  | number spelled =>
      obtain ⟨scalar, behind, rfl, numeral⟩ := exists_numeral spelled
      refine ⟨scalar, behind, rfl, ?_, fun absurdity => by cases absurdity⟩
      rcases numeral with rfl | ⟨digit, rfl⟩
      · decide
      · clear spelled
        revert digit
        decide
  | string spelled => exact ⟨_, _, rfl, by decide, fun _ => ends (by decide)⟩

/-- No two numbers stand side by side. -/
def Separated (tokens : List Token) : Prop :=
  tokens.IsChain fun first second => first.isNumber = true → second.isNumber = false

/-- Tokens in their order, with blanks in front of them, between them and behind them. -/
inductive Layout : List Token → List Symbol → Prop
  | nil : Layout [] []
  | blank {scalar : Char} (blank : isBlank scalar = true) {tokens : List Token}
      {symbols : List Symbol} (rest : Layout tokens symbols) :
      Layout tokens (some scalar :: symbols)
  | token {token : Token} {symbols : List Symbol} (spelled : token.SpelledAs symbols)
      {tokens : List Token} {behind : List Symbol} (rest : Layout tokens behind) :
      Layout (token :: tokens) (symbols ++ behind)

/-- A blank, the end, and a token that is no number do not continue a number. -/
theorem Layout.endsNumber {tokens : List Token} {symbols : List Symbol}
    (layout : Layout tokens symbols) (apart : ∀ next ∈ tokens.head?, next.isNumber = false) :
    EndsNumber symbols := by
  cases layout with
  | nil => exact endsNumber_nil
  | blank blank _ =>
      intro other first
      cases first
      simp only [isBlank, Bool.or_eq_true, decide_eq_true_eq] at blank
      rcases blank with ((rfl | rfl) | rfl) | rfl <;> decide
  | token spelled _ =>
      obtain ⟨scalar, rest, rfl, _, ends⟩ := exists_first spelled
      exact ends (apart _ rfl) _

/-- Laid out tokens are read back one after the other. -/
theorem scanOnto_of_layout {tokens : List Token} {symbols : List Symbol}
    (layout : Layout tokens symbols) (separated : Separated tokens) {fuel : Nat}
    (enough : symbols.length ≤ fuel) (found : List Token) :
    scanOnto fuel found symbols = some (found.reverse ++ tokens) := by
  induction layout generalizing fuel found with
  | nil =>
      rw [List.append_nil]
      rw [scanOnto]
  | @blank scalar blank tokens symbols _ inductionHypothesis =>
      rw [List.length_cons] at enough
      obtain ⟨fuel, rfl⟩ : ∃ less, fuel = less + 1 := ⟨fuel - 1, by omega⟩
      rw [scanOnto, if_pos (by simp [blank])]
      exact inductionHypothesis separated (by omega) found
  | @token token symbols spelled tokens behind rest inductionHypothesis =>
      have parts := List.isChain_cons.1 separated
      have read := read?_append spelled fun number =>
        rest.endsNumber fun next here => parts.1 next here number
      obtain ⟨scalar, more, rfl, notBlank, _⟩ := exists_first spelled
      -- Every token has a symbol, so that the fuel lasts.
      rw [List.length_append, List.length_cons] at enough
      obtain ⟨fuel, rfl⟩ : ∃ less, fuel = less + 1 := ⟨fuel - 1, by omega⟩
      rw [List.cons_append] at read ⊢
      rw [scanOnto, if_neg (by simp [notBlank]), read]
      refine (inductionHypothesis parts.2 (by omega) (token :: found)).trans ?_
      simp

theorem scan?_of_layout {tokens : List Token} {symbols : List Symbol}
    (layout : Layout tokens symbols) (separated : Separated tokens) :
    scan? symbols = some tokens :=
  scanOnto_of_layout layout separated (Nat.le_refl _) []

/-- A token whose literal is spelled as writers do. -/
def Spellable : Token → Prop
  | .number literal => literal.Spellable
  | .string pieces => ∀ piece ∈ pieces, piece.Spellable
  | _ => True

theorem Spellable.spelledAs {token : Token} (spellable : token.Spellable) :
    token.SpelledAs (token.chars.map some) := by
  cases token with
  | number literal => exact .number (NumberLiteral.Spellable.spelledAs spellable)
  | string pieces =>
      have spelled := SpelledAs.string (StringPiece.allSpelledAs_of_spellable spellable)
      simpa [chars] using spelled
  | _ => exact .mark rfl

/-- Tokens that follow one another without a blank are laid out. -/
theorem layout_of_spellable {tokens : List Token} (spellable : ∀ token ∈ tokens, token.Spellable) :
    Layout tokens ((tokens.flatMap chars).map some) := by
  induction tokens with
  | nil => exact .nil
  | cons token tokens inductionHypothesis =>
      rw [List.flatMap_cons, List.map_append]
      exact .token (spellable token List.mem_cons_self).spelledAs
        (inductionHypothesis fun other member => spellable other (List.mem_cons_of_mem _ member))

end Token

/-! ### Tokens of documents -/

namespace Document

/-- What holds of a container when it holds of its parts holds of every document. -/
@[elab_as_elim]
theorem induction {motive : Document → Prop} (null : motive .null)
    (bool : ∀ value, motive (.bool value)) (number : ∀ literal, motive (.number literal))
    (string : ∀ pieces, motive (.string pieces))
    (array : ∀ items, (∀ item ∈ items, motive item) → motive (.array items))
    (object : ∀ members, (∀ entry ∈ members, motive entry.2) → motive (.object members))
    (document : Document) : motive document :=
  @Document.rec motive (fun items => ∀ item ∈ items, motive item)
    (fun members => ∀ entry ∈ members, motive entry.2) (fun entry => motive entry.2)
    null bool number string array object
    (fun _ absent => absurd absent List.not_mem_nil)
    (fun _ _ first rest => List.forall_mem_cons.2 ⟨first, rest⟩)
    (fun _ absent => absurd absent List.not_mem_nil)
    (fun _ _ first rest => List.forall_mem_cons.2 ⟨first, rest⟩)
    (fun _ _ value => value) document

/-- The tokens of further items, each behind a comma. -/
def itemTokens (items : List Document) : List Token :=
  items.flatMap fun item => .comma :: item.tokens

/-- The tokens of further members, each behind a comma. -/
def memberTokens (members : List (List StringPiece × Document)) : List Token :=
  members.flatMap fun entry => .comma :: .string entry.1 :: .colon :: entry.2.tokens

@[simp] theorem itemTokens_nil : itemTokens [] = [] := rfl

@[simp] theorem itemTokens_cons (item : Document) (items : List Document) :
    itemTokens (item :: items) = .comma :: (item.tokens ++ itemTokens items) := by
  simp [itemTokens]

@[simp] theorem memberTokens_nil : memberTokens [] = [] := rfl

@[simp] theorem memberTokens_cons (name : List StringPiece) (value : Document)
    (members : List (List StringPiece × Document)) :
    memberTokens ((name, value) :: members) =
      .comma :: .string name :: .colon :: (value.tokens ++ memberTokens members) := by
  simp [memberTokens]

private theorem itemsOnto_eq {items : List Document}
    (onto : ∀ item ∈ items, ∀ done, tokensOnto done item = item.tokens.reverse ++ done)
    (done : List Token) : itemsOnto done items = (itemTokens items).reverse ++ done := by
  induction items generalizing done with
  | nil => rfl
  | cons item items inductionHypothesis =>
      have here := onto item List.mem_cons_self
      rw [itemsOnto, inductionHypothesis fun other member => onto other (List.mem_cons_of_mem _ member),
        here]
      simp

private theorem membersOnto_eq {members : List (List StringPiece × Document)}
    (onto : ∀ entry ∈ members, ∀ done, tokensOnto done entry.2 = entry.2.tokens.reverse ++ done)
    (done : List Token) : membersOnto done members = (memberTokens members).reverse ++ done := by
  induction members generalizing done with
  | nil => rfl
  | cons entry members inductionHypothesis =>
      have here := onto entry List.mem_cons_self
      obtain ⟨name, value⟩ := entry
      rw [membersOnto,
        inductionHypothesis fun other member => onto other (List.mem_cons_of_mem _ member), here]
      simp

theorem tokensOnto_eq (document : Document) (done : List Token) :
    tokensOnto done document = document.tokens.reverse ++ done := by
  induction document using Document.induction generalizing done with
  | null | bool value | number literal | string pieces => simp [tokens, tokensOnto]
  | array items inductionHypothesis =>
      cases items with
      | nil => simp [tokens, tokensOnto]
      | cons item items =>
          have here := inductionHypothesis item List.mem_cons_self
          have later : ∀ done, itemsOnto done items = _ :=
            itemsOnto_eq fun other member => inductionHypothesis other (List.mem_cons_of_mem _ member)
          have unfolded : ∀ done, tokensOnto done (.array (item :: items)) =
              .closeArray :: ((itemTokens items).reverse ++ (item.tokens.reverse ++ .openArray :: done)) :=
            fun done => by rw [tokensOnto, later, here]
          rw [unfolded, tokens.eq_def (.array _), unfolded]
          simp
  | object members inductionHypothesis =>
      cases members with
      | nil => simp [tokens, tokensOnto]
      | cons entry members =>
          have here := inductionHypothesis entry List.mem_cons_self
          have later : ∀ done, membersOnto done members = _ :=
            membersOnto_eq fun other member => inductionHypothesis other (List.mem_cons_of_mem _ member)
          obtain ⟨name, value⟩ := entry
          have unfolded : ∀ done, tokensOnto done (.object ((name, value) :: members)) =
              .closeObject :: ((memberTokens members).reverse ++
                (value.tokens.reverse ++ .colon :: .string name :: .openObject :: done)) :=
            fun done => by rw [tokensOnto, later, here]
          rw [unfolded, tokens.eq_def (.object _), unfolded]
          simp

@[simp] theorem tokens_array_nil : tokens (.array []) = [.openArray, .closeArray] := by
  simp [tokens, tokensOnto]

@[simp] theorem tokens_array_cons (item : Document) (items : List Document) :
    tokens (.array (item :: items)) =
      .openArray :: (item.tokens ++ (itemTokens items ++ [.closeArray])) := by
  rw [tokens, tokensOnto, itemsOnto_eq fun other _ => tokensOnto_eq other, tokensOnto_eq]
  simp

@[simp] theorem tokens_object_nil : tokens (.object []) = [.openObject, .closeObject] := by
  simp [tokens, tokensOnto]

@[simp] theorem tokens_object_cons (name : List StringPiece) (value : Document)
    (members : List (List StringPiece × Document)) :
    tokens (.object ((name, value) :: members)) =
      .openObject :: .string name :: .colon ::
        (value.tokens ++ (memberTokens members ++ [.closeObject])) := by
  rw [tokens, tokensOnto, membersOnto_eq fun other _ => tokensOnto_eq other.2, tokensOnto_eq]
  simp

/-! ### Tokens build their document -/

namespace Progress

private theorem items_advance {items : List Document}
    (build : ∀ item ∈ items, ∀ stage frames, stage = .value ∨ stage = .itemOrClose →
      item.tokens.foldlM step? ⟨stage, frames⟩ = place? item frames)
    (read : List Document) (frames : List Frame) :
    (itemTokens items).foldlM step? ⟨.commaOrClose, .array read :: frames⟩ =
      some ⟨.commaOrClose, .array (items.reverse ++ read) :: frames⟩ := by
  induction items generalizing read with
  | nil => rfl
  | cons item items inductionHypothesis =>
      have comma : step? ⟨.commaOrClose, .array read :: frames⟩ .comma =
          some ⟨.value, .array read :: frames⟩ := rfl
      have placed : place? item (.array read :: frames) =
          some ⟨.commaOrClose, .array (item :: read) :: frames⟩ := rfl
      rw [itemTokens_cons, List.foldlM_cons, comma, Option.bind_eq_bind, Option.bind_some,
        List.foldlM_append, build item List.mem_cons_self _ _ (.inl rfl), placed,
        Option.bind_eq_bind, Option.bind_some,
        inductionHypothesis fun other member => build other (List.mem_cons_of_mem _ member)]
      simp

private theorem members_advance {members : List (List StringPiece × Document)}
    (build : ∀ entry ∈ members, ∀ stage frames, stage = .value ∨ stage = .itemOrClose →
      entry.2.tokens.foldlM step? ⟨stage, frames⟩ = place? entry.2 frames)
    (read : List (List StringPiece × Document)) (frames : List Frame) :
    (memberTokens members).foldlM step? ⟨.commaOrClose, .object read :: frames⟩ =
      some ⟨.commaOrClose, .object (members.reverse ++ read) :: frames⟩ := by
  induction members generalizing read with
  | nil => rfl
  | cons entry members inductionHypothesis =>
      have here := build entry List.mem_cons_self
      obtain ⟨name, value⟩ := entry
      have opened : ∀ behind : List Token,
          (.comma :: .string name :: .colon :: behind).foldlM step?
              ⟨.commaOrClose, .object read :: frames⟩ =
            behind.foldlM step? ⟨.value, .named read name :: frames⟩ := fun _ => rfl
      have placed : place? value (.named read name :: frames) =
          some ⟨.commaOrClose, .object ((name, value) :: read) :: frames⟩ := rfl
      rw [memberTokens_cons, opened, List.foldlM_append, here _ _ (.inl rfl), placed,
        Option.bind_eq_bind, Option.bind_some,
        inductionHypothesis fun other member => build other (List.mem_cons_of_mem _ member)]
      simp

/-- The tokens of a document build it wherever a value may stand. -/
theorem tokens_build (document : Document) (stage : Stage) (frames : List Frame)
    (free : stage = .value ∨ stage = .itemOrClose) :
    document.tokens.foldlM step? ⟨stage, frames⟩ = place? document frames := by
  induction document using Document.induction generalizing stage frames with
  | null | bool value | number literal | string pieces =>
      rcases free with rfl | rfl <;> exact bind_pure _
  | array items inductionHypothesis =>
      have opened : ∀ behind : List Token, (.openArray :: behind).foldlM step? ⟨stage, frames⟩ =
          behind.foldlM step? ⟨.itemOrClose, .array [] :: frames⟩ := by
        rcases free with rfl | rfl <;> exact fun _ => rfl
      cases items with
      | nil =>
          rw [tokens_array_nil, opened]
          exact bind_pure _
      | cons item items =>
          have placed : place? item (.array [] :: frames) =
              some ⟨.commaOrClose, .array [item] :: frames⟩ := rfl
          have closed : [Token.closeArray].foldlM step?
              ⟨.commaOrClose, .array (items.reverse ++ [item]) :: frames⟩ =
                place? (.array (item :: items)) frames := by
            refine (bind_pure _).trans ?_
            change place? (.array (items.reverse ++ [item]).reverse) frames = _
            simp
          rw [tokens_array_cons, opened, List.foldlM_append,
            inductionHypothesis item List.mem_cons_self _ _ (.inr rfl), placed,
            Option.bind_eq_bind, Option.bind_some, List.foldlM_append,
            items_advance fun other member => inductionHypothesis other (List.mem_cons_of_mem _ member)]
          exact closed
  | object members inductionHypothesis =>
      have opened : ∀ behind : List Token, (.openObject :: behind).foldlM step? ⟨stage, frames⟩ =
          behind.foldlM step? ⟨.nameOrClose, .object [] :: frames⟩ := by
        rcases free with rfl | rfl <;> exact fun _ => rfl
      cases members with
      | nil =>
          rw [tokens_object_nil, opened]
          exact bind_pure _
      | cons entry members =>
          have here := inductionHypothesis entry List.mem_cons_self
          obtain ⟨name, value⟩ := entry
          have named : ∀ behind : List Token,
              (.string name :: .colon :: behind).foldlM step?
                  ⟨.nameOrClose, .object [] :: frames⟩ =
                behind.foldlM step? ⟨.value, .named [] name :: frames⟩ := fun _ => rfl
          have placed : place? value (.named [] name :: frames) =
              some ⟨.commaOrClose, .object [(name, value)] :: frames⟩ := rfl
          have closed : [Token.closeObject].foldlM step?
              ⟨.commaOrClose, .object (members.reverse ++ [(name, value)]) :: frames⟩ =
                place? (.object ((name, value) :: members)) frames := by
            refine (bind_pure _).trans ?_
            change place? (.object (members.reverse ++ [(name, value)]).reverse) frames = _
            simp
          rw [tokens_object_cons, opened, named, List.foldlM_append, here _ _ (.inl rfl), placed,
            Option.bind_eq_bind, Option.bind_some, List.foldlM_append,
            members_advance fun other member => inductionHypothesis other (List.mem_cons_of_mem _ member)]
          exact closed

end Progress

/-- The tokens of a document spell it. -/
theorem ofTokens?_tokens (document : Document) : ofTokens? document.tokens = some document := by
  rw [ofTokens?, Progress.start, Progress.tokens_build _ _ _ (.inl rfl)]
  rfl

/-! ### Text of documents -/

/-- A document whose literals are spelled as writers do. -/
def Spellable (document : Document) : Prop := ∀ token ∈ document.tokens, token.Spellable

theorem spellable_bare {document : Document} {token : Token} (tokens : document.tokens = [token])
    (spellable : token.Spellable) : document.Spellable := by
  intro other here
  rw [tokens] at here
  cases List.mem_singleton.1 here
  exact spellable

theorem spellable_number {literal : NumberLiteral} (spellable : literal.Spellable) :
    Spellable (.number literal) :=
  spellable_bare rfl spellable

theorem spellable_string {pieces : List StringPiece} (spellable : ∀ piece ∈ pieces, piece.Spellable) :
    Spellable (.string pieces) :=
  spellable_bare rfl spellable

theorem spellable_array {items : List Document} (each : ∀ item ∈ items, item.Spellable) :
    Spellable (.array items) := by
  cases items with
  | nil => simp [Spellable, Token.Spellable]
  | cons item items =>
      simp only [Spellable, tokens_array_cons, itemTokens, List.mem_cons, List.mem_append,
        List.mem_flatMap, List.not_mem_nil, or_false]
      rintro token (rfl | here | ⟨other, member, rfl | there⟩ | rfl)
      · trivial
      · exact each item List.mem_cons_self token here
      · trivial
      · exact each other (List.mem_cons_of_mem _ member) token there
      · trivial

theorem spellable_object {members : List (List StringPiece × Document)}
    (names : ∀ entry ∈ members, ∀ piece ∈ entry.1, piece.Spellable)
    (each : ∀ entry ∈ members, entry.2.Spellable) : Spellable (.object members) := by
  cases members with
  | nil => simp [Spellable, Token.Spellable]
  | cons entry members =>
      obtain ⟨name, value⟩ := entry
      simp only [Spellable, tokens_object_cons, memberTokens, List.mem_cons, List.mem_append,
        List.mem_flatMap, List.not_mem_nil, or_false]
      rintro token (rfl | rfl | rfl | here | ⟨other, member, rfl | rfl | rfl | there⟩ | rfl)
      · trivial
      · exact names (name, value) List.mem_cons_self
      · trivial
      · exact each (name, value) List.mem_cons_self token here
      · trivial
      · exact names other (List.mem_cons_of_mem _ member)
      · trivial
      · exact each other (List.mem_cons_of_mem _ member) token there
      · trivial

end Document

namespace Token

/-- Tokens that may follow a number. -/
structure SetOff (tokens : List Token) : Prop where
  separated : Separated tokens
  first : ∀ next ∈ tokens.head?, next.isNumber = false

theorem Separated.cons {token : Token} {tokens : List Token} (separated : Separated tokens)
    (mark : token.isNumber = false) : SetOff (token :: tokens) where
  separated := List.isChain_cons.2 ⟨fun _ _ number => by simp [mark] at number, separated⟩
  first next here := by
    cases here
    exact mark

theorem Separated.append {tokens behind : List Token} (separated : Separated tokens)
    (setOff : SetOff behind) : Separated (tokens ++ behind) :=
  List.isChain_append.2 ⟨separated, setOff.separated, fun _ _ next here _ => setOff.first next here⟩

end Token

namespace Document

open Token (Separated SetOff)

private theorem setOff_itemTokens {items : List Document}
    (separated : ∀ item ∈ items, Separated item.tokens) {behind : List Token}
    (setOff : SetOff behind) : SetOff (itemTokens items ++ behind) := by
  induction items with
  | nil => exact setOff
  | cons item items inductionHypothesis =>
      have later := inductionHypothesis fun other member => separated other (List.mem_cons_of_mem _ member)
      rw [itemTokens_cons, List.cons_append, List.append_assoc]
      exact ((separated item List.mem_cons_self).append later).cons rfl

private theorem setOff_memberTokens {members : List (List StringPiece × Document)}
    (separated : ∀ entry ∈ members, Separated entry.2.tokens) {behind : List Token}
    (setOff : SetOff behind) : SetOff (memberTokens members ++ behind) := by
  induction members with
  | nil => exact setOff
  | cons entry members inductionHypothesis =>
      have here := separated entry List.mem_cons_self
      have later := inductionHypothesis fun other member => separated other (List.mem_cons_of_mem _ member)
      obtain ⟨name, value⟩ := entry
      rw [memberTokens_cons, List.cons_append, List.cons_append, List.cons_append, List.append_assoc]
      have colon : SetOff (.colon :: _) := (here.append later).cons rfl
      exact (colon.separated.cons rfl).separated.cons rfl

/-- Between two numbers of a document stands a mark. -/
theorem separated_tokens (document : Document) : Separated document.tokens := by
  have close : ∀ {token : Token}, token.isNumber = false → SetOff [token] := fun mark =>
    Separated.cons List.isChain_nil mark
  induction document using Document.induction with
  | null | bool value | number literal | string pieces => exact List.isChain_singleton _
  | array items inductionHypothesis =>
      cases items with
      | nil => exact ((close rfl).separated.cons rfl).separated
      | cons item items =>
          have later : SetOff (itemTokens items ++ [.closeArray]) :=
            setOff_itemTokens (fun other member => inductionHypothesis other (List.mem_cons_of_mem _ member))
              (close rfl)
          rw [tokens_array_cons]
          exact (((inductionHypothesis item List.mem_cons_self).append later).cons rfl).separated
  | object members inductionHypothesis =>
      cases members with
      | nil => exact ((close rfl).separated.cons rfl).separated
      | cons entry members =>
          have here := inductionHypothesis entry List.mem_cons_self
          have later : SetOff (memberTokens members ++ [.closeObject]) :=
            setOff_memberTokens
              (fun other member => inductionHypothesis other (List.mem_cons_of_mem _ member)) (close rfl)
          obtain ⟨name, value⟩ := entry
          rw [tokens_object_cons]
          have colon : SetOff (.colon :: _) := (here.append later).cons rfl
          exact ((colon.separated.cons rfl).separated.cons rfl).separated

/-- Every layout of the tokens of a document reads as the document. -/
theorem read?_of_layout {document : Document} {symbols : List Symbol}
    (layout : Token.Layout document.tokens symbols) : read? symbols = some document := by
  rw [read?, Token.scan?_of_layout layout document.separated_tokens]
  exact ofTokens?_tokens document

/-- The compact text of a document reads as the document. -/
theorem read?_text {document : Document} (spellable : document.Spellable) :
    read? (Text.symbolsOf document.text) = some document := by
  apply read?_of_layout
  rw [Text.symbolsOf, text, String.toList_ofList]
  exact Token.layout_of_spellable spellable

end Document

end Json

end ResultCache
