import Mathlib.Data.List.Basic
import ResultCache.Json.Token

/-!
Contract: literals are read back as they are spelled.

Owns:
- the decimal digits of a natural number: what they spell, and that they have no leading
  zero;
- `NumberLiteral.SpelledAs` and `StringPiece.SpelledAs`, the grammar of numbers and of the
  positions of a string, every spelling of an exponent and of an escape included;
- that readers of numbers and strings find exactly what is spelled, in front of any symbols
  that cannot belong to a number;
- `NumberLiteral.Spellable` and `StringPiece.Spellable`, the literals that a writer's
  characters spell, and that the spelling it chooses for an integer or a text is spellable;
- that the pieces of a text stand for the text.

Does not own: the numeric value of a number literal.
-/

namespace ResultCache

namespace Json

/-! ### Digits -/

namespace Digit

theorem ofChar?_toChar (digit : Digit) : ofChar? digit.toChar = some digit := by
  revert digit
  decide

theorem toChar_ne_of_ofChar? {digit : Digit} {scalar : Char} (none : ofChar? scalar = none) :
    digit.toChar ≠ scalar := by
  intro same
  rw [← same, ofChar?_toChar] at none
  cases none

@[simp] theorem spell_nil (before : Nat) : spell before [] = before := rfl

@[simp] theorem spell_cons (before : Nat) (digit : Digit) (digits : List Digit) :
    spell before (digit :: digits) = spell (before * 10 + digit.val) digits := rfl

theorem spell_append (before : Nat) (first second : List Digit) :
    spell before (first ++ second) = spell (spell before first) second :=
  List.foldl_append

theorem le_spell (before : Nat) (digits : List Digit) : before ≤ spell before digits := by
  induction digits generalizing before with
  | nil => exact Nat.le_refl _
  | cons digit rest inductionHypothesis =>
      have further := inductionHypothesis (before * 10 + digit.val)
      rw [spell_cons]
      omega

theorem spell_reverse_lastFirst {fuel number : Nat} (enough : number < fuel) :
    spell 0 (lastFirst fuel number).reverse = number := by
  induction fuel generalizing number with
  | zero => omega
  | succ fuel inductionHypothesis =>
      rw [lastFirst]
      by_cases last : number / 10 = 0
      · rw [if_pos last]
        change 0 * 10 + number % 10 = number
        omega
      · rw [if_neg last, List.reverse_cons, spell_append, inductionHypothesis (by omega)]
        change number / 10 * 10 + number % 10 = number
        omega

/-- Digits from the last one on end with the leading one, which is no zero. -/
theorem getLast?_lastFirst {fuel number : Nat} (enough : number < fuel)
    (positive : number ≠ 0) :
    ∃ digit, (lastFirst fuel number).getLast? = some digit ∧ digit ≠ 0 := by
  induction fuel generalizing number with
  | zero => omega
  | succ fuel inductionHypothesis =>
      rw [lastFirst]
      by_cases last : number / 10 = 0
      · rw [if_pos last]
        refine ⟨_, rfl, ?_⟩
        intro zero
        have none : number % 10 = 0 := congrArg Fin.val zero
        omega
      · rw [if_neg last]
        have shorter : number / 10 < fuel := by omega
        obtain ⟨digit, leading, nonzero⟩ := inductionHypothesis shorter last
        exact ⟨digit, by rw [List.getLast?_cons, leading]; rfl, nonzero⟩

theorem spell_ofNat (number : Nat) : spell 0 (ofNat number) = number :=
  spell_reverse_lastFirst (Nat.lt_succ_self number)

theorem ofNat_zero : ofNat 0 = [0] := rfl

theorem exists_cons_ofNat {number : Nat} (positive : number ≠ 0) :
    ∃ first rest, ofNat number = first :: rest ∧ first ≠ 0 := by
  obtain ⟨digit, leading, nonzero⟩ := getLast?_lastFirst (Nat.lt_succ_self number) positive
  rw [← List.head?_reverse] at leading
  obtain ⟨rest, split⟩ := List.head?_eq_some_iff.1 leading
  exact ⟨digit, rest, split, nonzero⟩

theorem ofNat_ne_nil (number : Nat) : ofNat number ≠ [] := by
  by_cases zero : number = 0
  · rw [zero]
    decide
  · obtain ⟨first, rest, split, _⟩ := exists_cons_ofNat zero
    rw [split]
    exact List.cons_ne_nil _ _

end Digit

/-! ### Numbers -/

namespace NumberLiteral

/-- The point and the digits behind it. -/
def fractionChars (digits : List Digit) : List Char :=
  if digits = [] then [] else '.' :: digits.map Digit.toChar

/-- The exponent with its sign. -/
def exponentChars : Option (Bool × List Digit) → List Char
  | none => []
  | some (negative, digits) => 'e' :: (if negative then '-' else '+') :: digits.map Digit.toChar

theorem chars_eq (literal : NumberLiteral) :
    literal.chars = (if literal.negative then ['-'] else []) ++ literal.whole.map Digit.toChar ++
      fractionChars literal.fraction ++ exponentChars literal.exponent := rfl

/-- A literal as a number is spelled: some digits in front of the point, with a leading zero
only where it stands alone, and some behind the sign of an exponent. -/
structure Spellable (literal : NumberLiteral) : Prop where
  whole : literal.whole = [0] ∨ ∃ first rest, literal.whole = first :: rest ∧ first ≠ 0
  exponent : ∀ part ∈ literal.exponent, part.2 ≠ []

/-- The ways to write an exponent: in either case of its letter, and with a plus sign or
without one. -/
inductive ExponentSpelledAs : Option (Bool × List Digit) → List Symbol → Prop
  | absent : ExponentSpelledAs none []
  | minus {letter : Char} {digits : List Digit} (marked : letter = 'e' ∨ letter = 'E')
      (nonempty : digits ≠ []) :
      ExponentSpelledAs (some (true, digits))
        (some letter :: some '-' :: (digits.map Digit.toChar).map some)
  | plus {letter : Char} {digits : List Digit} (marked : letter = 'e' ∨ letter = 'E')
      (nonempty : digits ≠ []) :
      ExponentSpelledAs (some (false, digits))
        (some letter :: some '+' :: (digits.map Digit.toChar).map some)
  | bare {letter : Char} {digits : List Digit} (marked : letter = 'e' ∨ letter = 'E')
      (nonempty : digits ≠ []) :
      ExponentSpelledAs (some (false, digits)) (some letter :: (digits.map Digit.toChar).map some)

/-- The symbols of a number: its sign, the digits in front of the point, the fraction, and one
of the spellings of its exponent. -/
inductive SpelledAs : NumberLiteral → List Symbol → Prop
  | parts (negative : Bool) {whole : List Digit} (fraction : List Digit)
      {exponent : Option (Bool × List Digit)} {power : List Symbol}
      (leading : whole = [0] ∨ ∃ first rest, whole = first :: rest ∧ first ≠ 0)
      (spelled : ExponentSpelledAs exponent power) :
      SpelledAs ⟨negative, whole, fraction, exponent⟩
        ((if negative then [some '-'] else []) ++ ((whole.map Digit.toChar).map some ++
          ((fractionChars fraction).map some ++ power)))

theorem exponentSpelledAs_chars {exponent : Option (Bool × List Digit)}
    (nonempty : ∀ part ∈ exponent, part.2 ≠ []) :
    ExponentSpelledAs exponent ((exponentChars exponent).map some) := by
  match exponent, nonempty with
  | none, _ => exact .absent
  | some (true, _), nonempty => exact .minus (.inl rfl) (nonempty _ rfl)
  | some (false, _), nonempty => exact .plus (.inl rfl) (nonempty _ rfl)

theorem Spellable.spelledAs {literal : NumberLiteral} (spellable : literal.Spellable) :
    literal.SpelledAs (literal.chars.map some) := by
  have parts := SpelledAs.parts literal.negative literal.fraction spellable.whole
    (exponentSpelledAs_chars spellable.exponent)
  convert parts using 1
  rw [chars_eq]
  cases literal.negative <;> simp

theorem whole_ofNat (number : Nat) :
    Digit.ofNat number = [0] ∨ ∃ first rest, Digit.ofNat number = first :: rest ∧ first ≠ 0 := by
  by_cases zero : number = 0
  · rw [zero]
    exact .inl Digit.ofNat_zero
  · exact .inr (Digit.exists_cons_ofNat zero)

theorem spellable_ofInt (number : Int) : (ofInt number).Spellable where
  whole := whole_ofNat number.natAbs
  exponent := by
    intro part absent
    cases absent

end NumberLiteral

namespace Token

/-- Symbols that cannot continue a number: no digit, no point, and no exponent. -/
def EndsNumber (symbols : List Symbol) : Prop :=
  ∀ scalar, symbols.head? = some (some scalar) →
    Digit.ofChar? scalar = none ∧ scalar ≠ '.' ∧ scalar ≠ 'e' ∧ scalar ≠ 'E'

theorem endsNumber_nil : EndsNumber [] := by
  intro scalar first
  cases first

/-- Symbols that cannot continue digits. -/
def EndsDigits (symbols : List Symbol) : Prop :=
  ∀ scalar, symbols.head? = some (some scalar) → Digit.ofChar? scalar = none

theorem takeDigits_append {rest : List Symbol} (ends : EndsDigits rest) (found digits : List Digit) :
    takeDigits found ((digits.map Digit.toChar).map some ++ rest) =
      (found.reverse ++ digits, rest) := by
  induction digits generalizing found with
  | nil =>
      change takeDigits found rest = _
      rw [List.append_nil]
      match rest with
      | [] => rfl
      | none :: behind => rfl
      | some scalar :: behind =>
          rw [takeDigits]
          simp only [ends scalar rfl]
  | cons digit digits inductionHypothesis =>
      change takeDigits found (some digit.toChar :: ((digits.map Digit.toChar).map some ++ rest)) = _
      rw [takeDigits]
      simp only [Digit.ofChar?_toChar, inductionHypothesis, List.reverse_cons, List.append_assoc,
        List.singleton_append]

section Number

variable {rest : List Symbol} (ends : EndsNumber rest)

include ends

theorem takeExponentDigits?_append (negative : Bool) {digits : List Digit}
    (nonempty : digits ≠ []) :
    takeExponentDigits? negative ((digits.map Digit.toChar).map some ++ rest) =
      some (some (negative, digits), rest) := by
  have taken := takeDigits_append (fun scalar first => (ends scalar first).1) [] digits
  unfold takeExponentDigits?
  rw [taken]
  cases digits with
  | nil => exact absurd rfl nonempty
  | cons digit digits => rfl

theorem takeExponent?_append {exponent : Option (Bool × List Digit)} {power : List Symbol}
    (spelled : NumberLiteral.ExponentSpelledAs exponent power) :
    takeExponent? (power ++ rest) = some (exponent, rest) := by
  cases spelled with
  | absent =>
      match rest with
      | [] => rfl
      | none :: behind => rfl
      | some scalar :: behind =>
          obtain ⟨_, _, lower, upper⟩ := ends scalar rfl
          change takeExponent? (some scalar :: behind) = _
          unfold takeExponent?
          split <;> simp_all
  | minus marked nonempty =>
      rcases marked with rfl | rfl <;> exact takeExponentDigits?_append ends true nonempty
  | plus marked nonempty =>
      rcases marked with rfl | rfl <;> exact takeExponentDigits?_append ends false nonempty
  | @bare letter digits marked nonempty =>
      have taken := takeExponentDigits?_append ends false nonempty
      -- A digit comes next, so that there is no sign to take off.
      obtain ⟨digit, others, rfl⟩ := List.exists_cons_of_ne_nil nonempty
      have unsigned : digit.toChar ≠ '-' ∧ digit.toChar ≠ '+' :=
        ⟨Digit.toChar_ne_of_ofChar? (by decide), Digit.toChar_ne_of_ofChar? (by decide)⟩
      rcases marked with rfl | rfl
      all_goals
        change takeExponent? (some _ :: some digit.toChar :: _) = _
        unfold takeExponent?
        split <;> simp_all

/-- What comes behind the digits in front of the point does not continue them. -/
theorem endsDigits_fraction (fraction : List Digit) {exponent : Option (Bool × List Digit)}
    {power : List Symbol} (spelled : NumberLiteral.ExponentSpelledAs exponent power) :
    EndsDigits ((NumberLiteral.fractionChars fraction).map some ++ (power ++ rest)) := by
  intro scalar first
  by_cases empty : fraction = []
  · rw [NumberLiteral.fractionChars, if_pos empty] at first
    cases spelled with
    | absent => exact (ends scalar first).1
    | minus marked | plus marked | bare marked =>
        cases first
        rcases marked with rfl | rfl <;> decide
  · rw [NumberLiteral.fractionChars, if_neg empty] at first
    cases first
    decide

theorem endsDigits_exponent {exponent : Option (Bool × List Digit)} {power : List Symbol}
    (spelled : NumberLiteral.ExponentSpelledAs exponent power) : EndsDigits (power ++ rest) :=
  endsDigits_fraction ends [] spelled

theorem takeFraction?_append (fraction : List Digit) {exponent : Option (Bool × List Digit)}
    {power : List Symbol} (spelled : NumberLiteral.ExponentSpelledAs exponent power) :
    takeFraction? ((NumberLiteral.fractionChars fraction).map some ++ (power ++ rest)) =
      some (fraction, power ++ rest) := by
  cases fraction with
  | nil =>
      change takeFraction? (power ++ rest) = _
      cases spelled with
      | absent =>
          match rest with
          | [] => rfl
          | none :: behind => rfl
          | some scalar :: behind =>
              obtain ⟨_, noPoint, _⟩ := ends scalar rfl
              change takeFraction? (some scalar :: behind) = some ([], some scalar :: behind)
              unfold takeFraction?
              split <;> simp_all
      | minus marked | plus marked | bare marked => rcases marked with rfl | rfl <;> rfl
  | cons digit digits =>
      have taken := takeDigits_append (endsDigits_exponent ends spelled) [] (digit :: digits)
      change takeFraction? (some '.' :: (((digit :: digits).map Digit.toChar).map some ++ _)) = _
      rw [takeFraction?, taken]
      rfl

theorem readUnsigned?_append (negative : Bool) {whole : List Digit} (fraction : List Digit)
    {exponent : Option (Bool × List Digit)} {power : List Symbol}
    (leading : whole = [0] ∨ ∃ first rest, whole = first :: rest ∧ first ≠ 0)
    (spelled : NumberLiteral.ExponentSpelledAs exponent power) :
    readUnsigned? negative ((whole.map Digit.toChar).map some ++
        ((NumberLiteral.fractionChars fraction).map some ++ (power ++ rest))) =
      some (⟨negative, whole, fraction, exponent⟩, rest) := by
  have taken := takeDigits_append (endsDigits_fraction ends fraction spelled) [] whole
  unfold readUnsigned?
  rw [taken, List.reverse_nil, List.nil_append]
  rcases leading with rfl | ⟨first, digits, rfl, nonzero⟩
  · simp only [takeFraction?_append ends _ spelled, takeExponent?_append ends spelled]
  · split
    · rename_i none
      cases none
    · rename_i zero
      cases zero
      exact absurd rfl nonzero
    · rename_i same
      cases same
      simp only [takeFraction?_append ends _ spelled, takeExponent?_append ends spelled]

/-- A spelled number is read back from its symbols. -/
theorem readNumber?_append {literal : NumberLiteral} {symbols : List Symbol}
    (spelled : literal.SpelledAs symbols) :
    readNumber? (symbols ++ rest) = some (literal, rest) := by
  obtain ⟨negative, fraction, leading, power⟩ := spelled
  rename_i whole exponent symbols
  have read := readUnsigned?_append ends negative fraction leading power
  simp only [List.append_assoc]
  cases negative with
  | true => exact read
  | false =>
      -- Digits come first, so that there is no sign to take off.
      obtain ⟨digit, digits, rfl⟩ : ∃ digit digits, whole = digit :: digits := by
        rcases leading with alone | ⟨first, digits, split, _⟩
        · exact ⟨0, [], alone⟩
        · exact ⟨first, digits, split⟩
      change readNumber? (some digit.toChar :: _) = _
      unfold readNumber?
      split
      · rename_i sign
        exact absurd (Option.some.inj (List.cons.inj sign).1)
          (Digit.toChar_ne_of_ofChar? (by decide))
      · exact read

end Number

end Token

/-! ### Strings -/

namespace StringPiece

/-- A piece as a string is spelled by a writer: no octet is stray, and what stands for itself
neither ends the string nor escapes what follows. -/
inductive Spellable : StringPiece → Prop
  | plain {scalar : Char} (notQuote : scalar ≠ '"') (notEscape : scalar ≠ '\\')
      (printable : 0x20 ≤ scalar.toNat) : Spellable (.plain scalar)
  | short {scalar letter : Char} (named : letter? scalar = some letter) :
      Spellable (.short scalar)
  | code {codeUnit : Nat} (small : codeUnit < 0x10000) : Spellable (.code codeUnit)

/-- The ways to write one position of a string: a character that neither ends the string nor
escapes what follows, an escaped letter, four hexadecimal digits in either case, or an octet
that is part of no character. -/
inductive SpelledAs : StringPiece → List Symbol → Prop
  | plain {scalar : Char} (notQuote : scalar ≠ '"') (notEscape : scalar ≠ '\\')
      (printable : 0x20 ≤ scalar.toNat) : SpelledAs (.plain scalar) [some scalar]
  | short {scalar letter : Char} (named : ofLetter? letter = some scalar) :
      SpelledAs (.short scalar) [some '\\', some letter]
  | code {first second third fourth : Symbol} {codeUnit : Nat}
      (digits : Token.codeUnit? first second third fourth = some codeUnit) :
      SpelledAs (.code codeUnit) [some '\\', some 'u', first, second, third, fourth]
  | stray : SpelledAs .stray [none]

/-- The symbols of pieces, one behind the other. -/
inductive AllSpelledAs : List StringPiece → List Symbol → Prop
  | nil : AllSpelledAs [] []
  | cons {piece : StringPiece} {pieces : List StringPiece} {symbols behind : List Symbol}
      (here : piece.SpelledAs symbols) (rest : AllSpelledAs pieces behind) :
      AllSpelledAs (piece :: pieces) (symbols ++ behind)

theorem spellable_ofChar (scalar : Char) : (ofChar scalar).Spellable := by
  unfold ofChar
  by_cases slash : scalar = '/'
  · rw [if_pos slash, slash]
    exact .plain (by decide) (by decide) (by decide)
  rw [if_neg slash]
  cases named : letter? scalar with
  | some letter => exact .short named
  | none =>
      have notQuote : scalar ≠ '"' := by
        rintro rfl
        cases named
      have notEscape : scalar ≠ '\\' := by
        rintro rfl
        cases named
      by_cases control : scalar.toNat < 0x20
      · rw [if_pos control]
        exact .code (by omega)
      · rw [if_neg control]
        exact .plain notQuote notEscape (by omega)

theorem spellable_ofText {text : String} {piece : StringPiece} (member : piece ∈ ofText text) :
    piece.Spellable := by
  obtain ⟨scalar, _, rfl⟩ := List.mem_map.1 member
  exact spellable_ofChar scalar

theorem ofLetter?_of_letter? {scalar letter : Char} (named : letter? scalar = some letter) :
    ofLetter? letter = some scalar := by
  unfold letter? at named
  split at named <;> cases named <;> rfl

end StringPiece

namespace Token

theorem hexValue?_hexDigit {value : Nat} (small : value < 16) :
    hexValue? (StringPiece.hexDigit value) = some value := by
  revert value
  decide

theorem codeUnit?_hexDigits {codeUnit : Nat} (small : codeUnit < 0x10000) :
    codeUnit? (some (StringPiece.hexDigit (codeUnit / 4096 % 16)))
      (some (StringPiece.hexDigit (codeUnit / 256 % 16)))
      (some (StringPiece.hexDigit (codeUnit / 16 % 16)))
      (some (StringPiece.hexDigit (codeUnit % 16))) = some codeUnit := by
  unfold codeUnit?
  simp only [hexValue?_hexDigit (Nat.mod_lt _ (by decide)), bind, Option.bind, Option.some.injEq]
  omega

/-- One spelled piece is read back from its symbols. -/
theorem readString?_piece {piece : StringPiece} {symbols : List Symbol}
    (spelled : piece.SpelledAs symbols) (found : List StringPiece) (rest : List Symbol) :
    readString? found (symbols ++ rest) = readString? (piece :: found) rest := by
  cases spelled with
  | @plain scalar notQuote notEscape printable =>
      change readString? found (some scalar :: rest) = _
      rw [readString?, if_neg (Nat.not_lt.2 printable)]
      · exact notQuote
      · intro first second third fourth behind _ escape
        exact absurd escape notEscape
      · intro letter behind _ escape
        exact absurd escape notEscape
      · exact notEscape
  | @short scalar letter named =>
      change readString? found (some '\\' :: some letter :: rest) = _
      rw [readString?]
      · rw [named]
      · rintro first second third fourth behind _ rfl
        cases named
  | @code first second third fourth codeUnit digits =>
      change readString? found (some '\\' :: some 'u' :: first :: second :: third :: fourth ::
        rest) = _
      rw [readString?, digits]
  | stray => rfl

/-- Spelled pieces are read back from their symbols, up to the closing quote. -/
theorem readString?_append {pieces : List StringPiece} {symbols : List Symbol}
    (spelled : StringPiece.AllSpelledAs pieces symbols) (found : List StringPiece)
    (rest : List Symbol) :
    readString? found (symbols ++ some '"' :: rest) = some (found.reverse ++ pieces, rest) := by
  induction spelled generalizing found with
  | nil =>
      rw [List.append_nil]
      rfl
  | cons here _ inductionHypothesis =>
      rw [List.append_assoc, readString?_piece here, inductionHypothesis]
      simp

end Token

namespace StringPiece

theorem Spellable.spelledAs {piece : StringPiece} (spellable : piece.Spellable) :
    piece.SpelledAs (piece.chars.map some) := by
  cases spellable with
  | plain notQuote notEscape printable => exact .plain notQuote notEscape printable
  | short named =>
      rw [chars, named]
      exact .short (ofLetter?_of_letter? named)
  | code small => exact .code (Token.codeUnit?_hexDigits small)

theorem allSpelledAs_of_spellable {pieces : List StringPiece}
    (spellable : ∀ piece ∈ pieces, piece.Spellable) :
    AllSpelledAs pieces ((pieces.flatMap chars).map some) := by
  induction pieces with
  | nil => exact .nil
  | cons piece pieces inductionHypothesis =>
      rw [List.flatMap_cons, List.map_append]
      exact .cons (spellable piece List.mem_cons_self).spelledAs
        (inductionHypothesis fun other member => spellable other (List.mem_cons_of_mem _ member))

end StringPiece

namespace StringPiece

/-- A code unit below the surrogates is a character of its own. -/
theorem textOnto_code {codeUnit : Nat} (below : codeUnit < 0xD800) (done : List Char)
    (rest : List StringPiece) :
    textOnto done (.code codeUnit :: rest) = textOnto (Char.ofNat codeUnit :: done) rest := by
  have single : (decide (codeUnit < 0xD800) || decide (0xE000 ≤ codeUnit)) = true := by
    simp [below]
  rw [textOnto.eq_def]
  exact if_pos single

theorem textOnto_ofChar (scalar : Char) (done : List Char) (rest : List StringPiece) :
    textOnto done (ofChar scalar :: rest) = textOnto (scalar :: done) rest := by
  unfold ofChar
  split
  · rw [textOnto]
  · split
    · rw [textOnto]
    · split
      · rename_i control
        rw [textOnto_code (by omega), Char.ofNat_toNat]
      · rw [textOnto]

theorem textOnto_map_ofChar (chars done : List Char) :
    textOnto done (chars.map ofChar) = some (done.reverse ++ chars) := by
  induction chars generalizing done with
  | nil =>
      rw [List.append_nil]
      rfl
  | cons scalar chars inductionHypothesis =>
      rw [List.map_cons, textOnto_ofChar, inductionHypothesis]
      simp

/-- The pieces that a text is written as stand for the text. -/
@[simp] theorem text?_ofText (text : String) : text? (ofText text) = some text := by
  unfold text? ofText
  rw [textOnto_map_ofChar]
  simp

end StringPiece

end Json

end ResultCache
