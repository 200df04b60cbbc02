import ResultCache.Proofs.Json.Text

/-!
Contract: what readers accept is spelled.

Owns:
- that digits, numbers, strings and tokens which are read stand in front of the rest as one of
  their spellings;
- that scanned symbols are a layout of their tokens;
- that tokens which build a document are its tokens, by what the open containers have taken;
- `Document.read?_eq_some_iff`: the symbols that read as a document are exactly the layouts of
  its tokens.
-/

namespace ResultCache

namespace Json

/-! ### Literals -/

namespace Digit

theorem eq_toChar_of_ofChar? {scalar : Char} {digit : Digit} (read : ofChar? scalar = some digit) :
    scalar = digit.toChar := by
  unfold ofChar? at read
  split at read
  · rename_i bounds
    cases read
    have value : 48 + (scalar.toNat - 48) = scalar.toNat := by omega
    rw [toChar, value, Char.ofNat_toNat]
  · cases read

/-- Digits that do not go on behind a zero are zero, or start with another digit. -/
theorem zero_or_leading {digits : List Digit} (nonempty : digits ≠ [])
    (stops : ∀ digit later, digits ≠ 0 :: digit :: later) :
    digits = [0] ∨ ∃ first rest, digits = first :: rest ∧ first ≠ 0 := by
  obtain ⟨first, rest, rfl⟩ := List.exists_cons_of_ne_nil nonempty
  by_cases zero : first = 0
  · subst zero
    cases rest with
    | nil => exact .inl rfl
    | cons digit later => exact absurd rfl (stops digit later)
  · exact .inr ⟨first, rest, rfl, zero⟩

end Digit

namespace Token

variable {symbols rest : List Symbol}

theorem exists_of_takeDigits {found digits : List Digit}
    (taken : takeDigits found symbols = (digits, rest)) :
    ∃ more, digits = found.reverse ++ more ∧
      symbols = (more.map Digit.toChar).map some ++ rest := by
  fun_induction takeDigits found symbols with
  | case1 found scalar behind digit read inductionHypothesis =>
      obtain ⟨more, rfl, rfl⟩ := inductionHypothesis taken
      refine ⟨digit :: more, by simp, ?_⟩
      rw [Digit.eq_toChar_of_ofChar? read]
      rfl
  | case2 found scalar behind read =>
      cases taken
      exact ⟨[], by simp, rfl⟩
  | case3 found symbols other =>
      cases taken
      exact ⟨[], by simp, rfl⟩

theorem eq_of_takeFraction? {fraction : List Digit}
    (taken : takeFraction? symbols = some (fraction, rest)) :
    symbols = (NumberLiteral.fractionChars fraction).map some ++ rest := by
  unfold takeFraction? at taken
  split at taken
  · rename_i behind
    split at taken
    · cases taken
    · rename_i nonempty
      have found := Option.some.inj taken
      obtain ⟨digits, same, rfl⟩ := exists_of_takeDigits found
      cases same
      cases digits with
      | nil => exact absurd found (nonempty rest)
      | cons digit digits => rfl
  · cases taken
    rfl

theorem exists_of_takeExponentDigits? {negative : Bool} {exponent : Option (Bool × List Digit)}
    (taken : takeExponentDigits? negative symbols = some (exponent, rest)) :
    ∃ digits, digits ≠ [] ∧ exponent = some (negative, digits) ∧
      symbols = (digits.map Digit.toChar).map some ++ rest := by
  unfold takeExponentDigits? at taken
  split at taken
  · cases taken
  · rename_i digits behind nonempty found
    cases taken
    obtain ⟨more, same, rfl⟩ := exists_of_takeDigits found
    cases same
    exact ⟨more, nonempty, rfl, rfl⟩

theorem exists_of_takeExponent? {exponent : Option (Bool × List Digit)}
    (taken : takeExponent? symbols = some (exponent, rest)) :
    ∃ power, NumberLiteral.ExponentSpelledAs exponent power ∧ symbols = power ++ rest := by
  unfold takeExponent? at taken
  split at taken
  case h_1 | h_2 =>
    obtain ⟨digits, nonempty, rfl, rfl⟩ := exists_of_takeExponentDigits? taken
    exact ⟨_, .minus (by decide) nonempty, rfl⟩
  case h_3 | h_4 =>
    obtain ⟨digits, nonempty, rfl, rfl⟩ := exists_of_takeExponentDigits? taken
    exact ⟨_, .plus (by decide) nonempty, rfl⟩
  case h_5 | h_6 =>
    obtain ⟨digits, nonempty, rfl, rfl⟩ := exists_of_takeExponentDigits? taken
    exact ⟨_, .bare (by decide) nonempty, rfl⟩
  case h_7 =>
    cases taken
    exact ⟨[], .absent, rfl⟩

theorem exists_of_readUnsigned? {negative : Bool} {literal : NumberLiteral}
    (read : readUnsigned? negative symbols = some (literal, rest)) :
    ∃ spelled, literal.SpelledAs ((if negative then [some '-'] else []) ++ spelled) ∧
      symbols = spelled ++ rest := by
  unfold readUnsigned? at read
  split at read
  · cases read
  · cases read
  · rename_i whole behind nonempty noZero found
    obtain ⟨digits, same, rfl⟩ := exists_of_takeDigits found
    cases same
    split at read
    · cases read
    · rename_i fraction more taken
      obtain rfl := eq_of_takeFraction? taken
      split at read
      · cases read
      · rename_i exponent others powers
        obtain ⟨power, spelled, rfl⟩ := exists_of_takeExponent? powers
        cases read
        have leading := Digit.zero_or_leading nonempty fun digit later => noZero digit later
        exact ⟨_, .parts negative fraction leading spelled, by simp⟩

/-- What is read as a number is one of its spellings. -/
theorem exists_of_readNumber? {literal : NumberLiteral}
    (read : readNumber? symbols = some (literal, rest)) :
    ∃ spelled, literal.SpelledAs spelled ∧ symbols = spelled ++ rest := by
  unfold readNumber? at read
  split at read
  · obtain ⟨spelled, here, rfl⟩ := exists_of_readUnsigned? read
    exact ⟨_, here, rfl⟩
  · obtain ⟨spelled, here, rfl⟩ := exists_of_readUnsigned? read
    exact ⟨_, here, rfl⟩

/-- What is read as a string is one of its spellings, with the closing quote behind it. -/
theorem exists_of_readString? {found pieces : List StringPiece}
    (read : readString? found symbols = some (pieces, rest)) :
    ∃ more spelled, pieces = found.reverse ++ more ∧ StringPiece.AllSpelledAs more spelled ∧
      symbols = spelled ++ some '"' :: rest := by
  -- The pieces of one step more start with the piece of this step.
  have step {found : List StringPiece} {piece : StringPiece} {here behind : List Symbol}
      (spelled : piece.SpelledAs here)
      (later : ∃ more after, pieces = (piece :: found).reverse ++ more ∧
        StringPiece.AllSpelledAs more after ∧ behind = after ++ some '"' :: rest) :
      ∃ more after, pieces = found.reverse ++ more ∧ StringPiece.AllSpelledAs more after ∧
        here ++ behind = after ++ some '"' :: rest := by
    obtain ⟨more, after, rfl, each, rfl⟩ := later
    exact ⟨piece :: more, here ++ after, by simp, .cons spelled each, by simp⟩
  fun_induction readString? found symbols with
  | case1 found => cases read
  | case2 found behind inductionHypothesis => exact step .stray (inductionHypothesis read)
  | case3 found behind =>
      cases read
      exact ⟨[], [], by simp, .nil, rfl⟩
  | case4 found first second third fourth behind codeUnit digits inductionHypothesis =>
      exact step (.code digits) (inductionHypothesis read)
  | case5 => cases read
  | case6 found letter behind _ scalar named inductionHypothesis =>
      exact step (.short named) (inductionHypothesis read)
  | case7 => cases read
  | case8 => cases read
  | case9 => cases read
  | case10 found scalar behind notQuote _ _ notEscape printable inductionHypothesis =>
      exact step (.plain notQuote notEscape (Nat.le_of_not_lt printable))
        (inductionHypothesis read)

/-! ### Tokens -/

/-- What is read as a token is one of its spellings. -/
theorem exists_of_read? {token : Token} (read : Token.read? symbols = some (token, rest)) :
    ∃ spelled, token.SpelledAs spelled ∧ symbols = spelled ++ rest := by
  unfold Token.read? at read
  split at read
  case h_7 =>
    obtain ⟨⟨pieces, behind⟩, found, same⟩ := Option.map_eq_some_iff.1 read
    cases same
    obtain ⟨more, spelled, rfl, each, rfl⟩ := exists_of_readString? found
    exact ⟨_, .string each, by simp⟩
  case h_11 =>
    obtain ⟨⟨literal, behind⟩, found, same⟩ := Option.map_eq_some_iff.1 read
    cases same
    obtain ⟨spelled, here, rfl⟩ := exists_of_readNumber? found
    exact ⟨spelled, .number here, rfl⟩
  all_goals
    cases read
    exact ⟨_, .mark rfl, rfl⟩

/-- Scanned symbols are a layout of the tokens found in them. -/
theorem exists_of_scanOnto {fuel : Nat} {found tokens : List Token}
    (scanned : scanOnto fuel found symbols = some tokens) :
    ∃ more, tokens = found.reverse ++ more ∧ Layout more symbols := by
  fun_induction scanOnto fuel found symbols with
  | case1 fuel found =>
      cases scanned
      exact ⟨[], by simp, .nil⟩
  | case2 => cases scanned
  | case3 fuel found symbol rest blank inductionHypothesis =>
      obtain ⟨more, rfl, layout⟩ := inductionHypothesis scanned
      cases symbol with
      | none => cases blank
      | some scalar => exact ⟨more, rfl, .blank blank layout⟩
  | case4 fuel found symbol rest notBlank token behind read inductionHypothesis =>
      obtain ⟨more, rfl, layout⟩ := inductionHypothesis scanned
      obtain ⟨spelled, here, split⟩ := exists_of_read? read
      rw [split]
      exact ⟨token :: more, by simp, .token here layout⟩
  | case5 => cases scanned

theorem layout_of_scan? {tokens : List Token} (scanned : scan? symbols = some tokens) :
    Layout tokens symbols := by
  obtain ⟨more, rfl, layout⟩ := exists_of_scanOnto scanned
  exact layout

end Token

/-! ### Documents -/

namespace Document

/-- Between parts, a comma stands in front of all but the first, which is behind all but the
last. -/
theorem exists_cons_of_commas {Part : Type} (spell : Part → List Token) (parts : List Part)
    (last : Part) :
    ∃ first rest, parts ++ [last] = first :: rest ∧
      (parts.flatMap fun part => spell part ++ [.comma]) ++ spell last =
        spell first ++ rest.flatMap fun part => .comma :: spell part := by
  induction parts with
  | nil => exact ⟨last, [], rfl, by simp⟩
  | cons part parts inductionHypothesis =>
      obtain ⟨first, rest, split, same⟩ := inductionHypothesis
      refine ⟨part, first :: rest, by rw [List.cons_append, split], ?_⟩
      rw [List.flatMap_cons, List.append_assoc, same]
      simp

theorem tokens_array_concat (items : List Document) (last : Document) :
    tokens (.array (items ++ [last])) =
      .openArray :: ((items.flatMap fun item => item.tokens ++ [.comma]) ++ last.tokens ++
        [.closeArray]) := by
  obtain ⟨first, rest, split, same⟩ := exists_cons_of_commas tokens items last
  rw [split, same, tokens_array_cons, itemTokens]
  simp

/-- The tokens of a member. -/
def entryTokens (entry : List StringPiece × Document) : List Token :=
  .string entry.1 :: .colon :: entry.2.tokens

theorem tokens_object_concat (members : List (List StringPiece × Document))
    (last : List StringPiece × Document) :
    tokens (.object (members ++ [last])) =
      .openObject :: ((members.flatMap fun entry => entryTokens entry ++ [.comma]) ++
        entryTokens last ++ [.closeObject]) := by
  obtain ⟨⟨name, value⟩, rest, split, same⟩ := exists_cons_of_commas entryTokens members last
  rw [split, same, tokens_object_cons, memberTokens]
  simp [entryTokens]

/-- The tokens of an open container up to the place of its next part. -/
def Frame.tokens : Frame → List Token
  | .array items => .openArray :: items.reverse.flatMap fun item => item.tokens ++ [.comma]
  | .object members =>
    .openObject :: members.reverse.flatMap fun entry => entryTokens entry ++ [.comma]
  | .named members name =>
    .openObject :: ((members.reverse.flatMap fun entry => entryTokens entry ++ [.comma]) ++
      [.string name, .colon])

/-- The tokens of open containers, the innermost of which is the first. -/
def openTokens (frames : List Frame) : List Token := frames.reverse.flatMap Frame.tokens

@[simp] theorem openTokens_nil : openTokens [] = [] := rfl

@[simp] theorem openTokens_cons (frame : Frame) (frames : List Frame) :
    openTokens (frame :: frames) = openTokens frames ++ frame.tokens := by
  simp [openTokens]

namespace Progress

/-- The points that tokens lead to: each of them tells what the tokens were. -/
inductive Reached : Progress → List Token → Prop
  | value (frames : List Frame) : Reached ⟨.value, frames⟩ (openTokens frames)
  | itemOrClose (frames : List Frame) :
      Reached ⟨.itemOrClose, .array [] :: frames⟩ (openTokens frames ++ [.openArray])
  | nameOrClose (frames : List Frame) :
      Reached ⟨.nameOrClose, .object [] :: frames⟩ (openTokens frames ++ [.openObject])
  | name (members : List (List StringPiece × Document)) (frames : List Frame) :
      Reached ⟨.name, .object members :: frames⟩ (openTokens (.object members :: frames))
  | colon (members : List (List StringPiece × Document)) (name : List StringPiece)
      (frames : List Frame) :
      Reached ⟨.colon, .named members name :: frames⟩
        (openTokens (.object members :: frames) ++ [.string name])
  | item (items : List Document) (last : Document) (frames : List Frame) :
      Reached ⟨.commaOrClose, .array (last :: items) :: frames⟩
        (openTokens (.array items :: frames) ++ last.tokens)
  | member (members : List (List StringPiece × Document)) (last : List StringPiece × Document)
      (frames : List Frame) :
      Reached ⟨.commaOrClose, .object (last :: members) :: frames⟩
        (openTokens (.object members :: frames) ++ entryTokens last)
  | done (document : Document) : Reached ⟨.done document, []⟩ document.tokens

variable {progress next : Progress} {seen : List Token}

theorem reached_of_place? {document : Document} {frames : List Frame}
    (placed : place? document frames = some next) :
    Reached next (openTokens frames ++ document.tokens) := by
  unfold place? at placed
  split at placed
  · cases placed
    exact .done document
  · cases placed
    exact .item _ document _
  · cases placed
    rename_i members name frames
    have reached := Reached.member members (name, document) frames
    simpa [Frame.tokens, entryTokens] using reached
  · cases placed

theorem reached_of_beginValue? {frames : List Frame} {token : Token}
    (begun : beginValue? frames token = some next) :
    Reached next (openTokens frames ++ [token]) := by
  cases token with
  | null | bool value | number literal | string pieces => exact reached_of_place? begun
  | openArray =>
      cases begun
      exact .itemOrClose frames
  | openObject =>
      cases begun
      exact .nameOrClose frames
  | closeArray | closeObject | comma | colon => cases begun

/-- One more token leads to a point that tells it, too. -/
theorem Reached.step {token : Token} (reached : Reached progress seen)
    (stepped : step? progress token = some next) : Reached next (seen ++ [token]) := by
  cases reached with
  | value frames => exact reached_of_beginValue? stepped
  | itemOrClose frames =>
      by_cases close : token = .closeArray
      · subst close
        have reached := reached_of_place? (show place? (.array []) frames = _ from stepped)
        simpa using reached
      · have begun : beginValue? (.array [] :: frames) token = some next := by
          cases token <;> first | exact stepped | exact absurd rfl close
        simpa [Frame.tokens] using reached_of_beginValue? begun
  | nameOrClose frames =>
      cases token with
      | closeObject =>
          have reached := reached_of_place? (show place? (.object []) frames = _ from stepped)
          simpa using reached
      | string pieces =>
          cases stepped
          simpa [Frame.tokens] using Reached.colon [] pieces frames
      | _ => cases stepped
  | name members frames =>
      cases token with
      | string pieces =>
          cases stepped
          exact .colon members pieces frames
      | _ => cases stepped
  | colon members name frames =>
      cases token with
      | colon =>
          cases stepped
          simpa [Frame.tokens] using Reached.value (.named members name :: frames)
      | _ => cases stepped
  | item items last frames =>
      cases token with
      | comma =>
          cases stepped
          simpa [Frame.tokens] using Reached.value (.array (last :: items) :: frames)
      | closeArray =>
          have closed : place? (.array (last :: items).reverse) frames = _ := stepped
          rw [List.reverse_cons] at closed
          simpa [Frame.tokens, tokens_array_concat] using reached_of_place? closed
      | _ => cases stepped
  | member members last frames =>
      cases token with
      | comma =>
          cases stepped
          simpa [Frame.tokens] using Reached.name (last :: members) frames
      | closeObject =>
          have closed : place? (.object (last :: members).reverse) frames = _ := stepped
          rw [List.reverse_cons] at closed
          simpa [Frame.tokens, tokens_object_concat] using reached_of_place? closed
      | _ => cases stepped
  | done document => cases stepped

theorem Reached.run {tokens : List Token} (reached : Reached progress seen)
    (run : tokens.foldlM step? progress = some next) : Reached next (seen ++ tokens) := by
  induction tokens generalizing progress seen with
  | nil =>
      cases run
      rwa [List.append_nil]
  | cons token tokens inductionHypothesis =>
      rw [List.foldlM_cons] at run
      obtain ⟨between, stepped, run⟩ := Option.bind_eq_some_iff.1 run
      simpa using inductionHypothesis (reached.step stepped) run

end Progress

/-- Tokens that build a document are its tokens. -/
theorem tokens_of_ofTokens? {tokens : List Token} {document : Document}
    (built : ofTokens? tokens = some document) : tokens = document.tokens := by
  obtain ⟨progress, run, complete⟩ := Option.bind_eq_some_iff.1 built
  have reached := (Progress.Reached.value []).run run
  cases reached with
  | done other =>
      cases complete
      rfl
  | _ => cases complete

/-- Symbols read as a document exactly when they are a layout of its tokens. -/
theorem read?_eq_some_iff {symbols : List Symbol} {document : Document} :
    read? symbols = some document ↔ Token.Layout document.tokens symbols := by
  refine ⟨fun read => ?_, read?_of_layout⟩
  obtain ⟨tokens, scanned, built⟩ := Option.bind_eq_some_iff.1 read
  rw [← tokens_of_ofTokens? built]
  exact Token.layout_of_scan? scanned

end Document

end Json

end ResultCache
