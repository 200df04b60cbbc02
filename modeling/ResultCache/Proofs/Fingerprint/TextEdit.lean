import ResultCache.Proofs.Fingerprint.Edit

/-!
Contract: a local edit of a text changes the key.

Owns:
- `Text.DifferLocally`, texts that are alike outside two neighbouring positions, as after a
  replaced character or a transposition;
- that the digest of a text tells the two, whatever stands around them;
- that queries, and parameters, whose texts differ locally have different keys.

Characters are words of fewer than 21 bits. The digest multiplies by a prime that lifts the
difference of two characters by forty bits, so that the next character cannot take it back.
-/

namespace ResultCache

namespace Text

/-! ### Local differences -/

/-- Texts of one length that are alike outside two neighbouring positions, and differ. -/
structure DifferLocally (first second : List Char) : Prop where
  length_eq : first.length = second.length
  different : first ≠ second
  elsewhere : ∃ place, ∀ index, index ≠ place → index ≠ place + 1 →
    first[index]? = second[index]?

/-- What differs stands in a window of at most two characters. -/
theorem DifferLocally.exists_window {first second : List Char}
    (differ : DifferLocally first second) :
    ∃ before window window' after,
      first = before ++ (window ++ after) ∧ second = before ++ (window' ++ after) ∧
      window.length = window'.length ∧ window.length ≤ 2 ∧ window ≠ window' := by
  obtain ⟨place, alike⟩ := differ.elsewhere
  have lengths := differ.length_eq
  have fronts : first.take place = second.take place := by
    apply List.ext_getElem?
    intro index
    rw [List.getElem?_take, List.getElem?_take]
    split
    · exact alike index (by omega) (by omega)
    · rfl
  have ends : (first.drop place).drop 2 = (second.drop place).drop 2 := by
    apply List.ext_getElem?
    intro index
    simp only [List.getElem?_drop]
    exact alike _ (by omega) (by omega)
  have split (text : List Char) :
      text = text.take place ++ ((text.drop place).take 2 ++ (text.drop place).drop 2) := by
    rw [List.take_append_drop, List.take_append_drop]
  refine ⟨first.take place, (first.drop place).take 2, (second.drop place).take 2,
    (first.drop place).drop 2, split first, ?_, ?_, ?_, ?_⟩
  · rw [fronts, ends]
    exact split second
  · simp only [List.length_take, List.length_drop, lengths]
  · exact List.length_take_le 2 _
  · intro windows
    apply differ.different
    rw [split first, fronts, windows, ends]
    exact (split second).symm

/-! ### Digests -/

/-- The inverse of the multiplier of the digest. -/
def digestPrimeInverse : UInt64 := 0xce965057aff6957b

theorem digestPrime_mul_inverse : digestPrime * digestPrimeInverse = 1 := by decide

theorem digestStep_left_inj {first second : UInt64} (unit : UInt64) :
    digestStep first unit = digestStep second unit ↔ first = second := by
  constructor
  · intro same
    exact (UInt64.xor_left_inj unit).1 (Word.mul_cancel digestPrime_mul_inverse same)
  · exact congrArg (digestStep · unit)

theorem digestStep_right_inj {first second : UInt64} (rolling : UInt64) :
    digestStep rolling first = digestStep rolling second ↔ first = second := by
  constructor
  · intro same
    exact (UInt64.xor_right_inj rolling).1 (Word.mul_cancel digestPrime_mul_inverse same)
  · exact congrArg (digestStep rolling)

theorem near_of_small {width : Nat} {first second : UInt64} (small : first.toNat < 2 ^ width)
    (small' : second.toNat < 2 ^ width) : Word.Near width first second := by
  rw [Word.Near, Nat.div_eq_of_lt small, Nat.div_eq_of_lt small']

/-- Words whose products with the multiplier are near are the same, unless they are far apart. -/
theorem eq_of_near_mul_digestPrime {first second : UInt64} (near : Word.Near 21 first second)
    (products : Word.Near 21 (first * digestPrime) (second * digestPrime)) : first = second := by
  wlog ordered : first.toNat ≤ second.toNat generalizing first second
  · exact (this near.symm products.symm (Nat.le_of_not_le ordered)).symm
  have stretched : (second * digestPrime).toNat =
      (first * digestPrime).toNat + (second.toNat - first.toNat) * 0x100000001b3 :=
    Word.toNat_mul_of_near near products (by decide) ordered
  have bound := products.lt_add
  exact UInt64.toNat_inj.1 (by omega)

/-- Two steps with small units tell both units. -/
theorem units_eq_of_two_steps {rolling first second first' second' : UInt64}
    (small : first.toNat < 2 ^ 21) (small' : first'.toNat < 2 ^ 21)
    (next : second.toNat < 2 ^ 21) (next' : second'.toNat < 2 ^ 21)
    (same : digestStep (digestStep rolling first) second =
      digestStep (digestStep rolling first') second') : first = first' ∧ second = second' := by
  have crossed : (rolling ^^^ first) * digestPrime ^^^ (rolling ^^^ first') * digestPrime =
      second ^^^ second' :=
    Word.xor_exchange.1 (Word.mul_cancel digestPrime_mul_inverse same)
  have products : Word.Near 21 ((rolling ^^^ first) * digestPrime)
      ((rolling ^^^ first') * digestPrime) := by
    apply Word.near_of_xor_lt
    rw [crossed, UInt64.toNat_xor]
    exact Nat.xor_lt_two_pow next next'
  have rollings := eq_of_near_mul_digestPrime
    ((Word.near_xor_iff rolling).2 (near_of_small small small')) products
  obtain rfl := (UInt64.xor_right_inj rolling).1 rollings
  exact ⟨rfl, (digestStep_right_inj _).1 same⟩

/-- The unit of a character. -/
def unitOf (scalar : Char) : UInt64 := scalar.toNat.toUInt64

theorem toNat_unitOf (scalar : Char) : (unitOf scalar).toNat = scalar.toNat := by
  have word := scalar.val.toNat_lt
  exact UInt64.toNat_ofNat_of_lt' (word.trans (by decide))

theorem toNat_unitOf_lt (scalar : Char) : (unitOf scalar).toNat < 2 ^ 21 := by
  have valid := scalar.valid
  rw [toNat_unitOf]
  simp only [UInt32.isValidChar, Nat.isValidChar] at valid
  change scalar.val.toNat < 2 ^ 21
  omega

theorem unitOf_injective : Function.Injective unitOf := by
  intro first second same
  have values := congrArg UInt64.toNat same
  rw [toNat_unitOf, toNat_unitOf] at values
  exact Char.toNat_inj.1 values

/-- The digest after more characters. -/
def rolled (rolling : UInt64) (chars : List Char) : UInt64 :=
  chars.foldl (fun rolling scalar => digestStep rolling (unitOf scalar)) rolling

theorem digestChars_eq (chars : List Char) : digestChars chars = rolled digestOffset chars := rfl

theorem rolled_append (rolling : UInt64) (first second : List Char) :
    rolled rolling (first ++ second) = rolled (rolled rolling first) second :=
  List.foldl_append

theorem rolled_left_inj (chars : List Char) {first second : UInt64} :
    rolled first chars = rolled second chars ↔ first = second := by
  induction chars generalizing first second with
  | nil => rfl
  | cons scalar chars inductionHypothesis =>
      change rolled (digestStep first _) chars = rolled (digestStep second _) chars ↔ _
      rw [inductionHypothesis, digestStep_left_inj]

/-- Windows of at most two characters are told by the digest behind them. -/
theorem eq_of_rolled_eq {rolling : UInt64} : ∀ {window window' : List Char},
    window.length = window'.length → window.length ≤ 2 →
    rolled rolling window = rolled rolling window' → window = window'
  | [], [], _, _, _ => rfl
  | [scalar], [scalar'], _, _, same => by
      have units := (digestStep_right_inj rolling).1 same
      rw [unitOf_injective units]
  | [first, second], [first', second'], _, _, same => by
      obtain ⟨firsts, seconds⟩ := units_eq_of_two_steps (toNat_unitOf_lt _) (toNat_unitOf_lt _)
        (toNat_unitOf_lt _) (toNat_unitOf_lt _) same
      rw [unitOf_injective firsts, unitOf_injective seconds]

theorem digestChars_ne_of_differLocally {first second : List Char}
    (differ : DifferLocally first second) : digestChars first ≠ digestChars second := by
  obtain ⟨before, window, window', after, rfl, rfl, lengths, short, different⟩ :=
    differ.exists_window
  intro same
  simp only [digestChars_eq, rolled_append, rolled_left_inj] at same
  exact different (eq_of_rolled_eq lengths short same)

end Text

namespace Fingerprint

/-- Texts that differ locally have as many characters and different digests. -/
theorem ofText_of_differLocally {first second : String}
    (differ : Text.DifferLocally first.toList second.toList) :
    DifferIn OneWord (ofText first) (ofText second) := by
  have digests : DifferIn OneWord [Text.digestChars first.toList]
      [Text.digestChars second.toList] :=
    .whole ⟨_, _, Text.digestChars_ne_of_differLocally differ, rfl, rfl⟩
  simp only [ofText, differ.length_eq]
  exact digests.behind [_]

/-- Queries whose texts differ locally have different keys, and so have fetches of one query
whose parameters have compact texts that differ locally. -/
theorem queryKey_ne_of_differLocally {first second : String}
    (differ : Text.DifferLocally first.toList second.toList) :
    (∀ (shape : ResultShape) (parameters : Option Json.Value),
      KeyDeriver.queryKey shape first parameters ≠ KeyDeriver.queryKey shape second parameters) ∧
    ∀ (shape : ResultShape) (query : String) (value other : Json.Value),
      value.compact = first → other.compact = second →
        KeyDeriver.queryKey shape query (some value) ≠
          KeyDeriver.queryKey shape query (some other) := by
  have texts := ofText_of_differLocally differ
  constructor
  · intro shape parameters
    exact keyOf_ne_of_differIn ((texts.before _).behind [shape.code])
  · rintro shape query value other rfl rfl
    exact keyOf_ne_of_differIn ((texts.behind (ofText query)).behind [shape.code])

theorem queryKey_ne_of_transposed :
    Text.DifferLocally "[12]".toList "[21]".toList ∧
    (∀ (shape : ResultShape) (parameters : Option Json.Value),
      KeyDeriver.queryKey shape "[12]" parameters ≠ KeyDeriver.queryKey shape "[21]" parameters) ∧
    ∀ (shape : ResultShape) (query : String) (value other : Json.Value),
      value.compact = "[12]" → other.compact = "[21]" →
        KeyDeriver.queryKey shape query (some value) ≠
          KeyDeriver.queryKey shape query (some other) := by
  have differ : Text.DifferLocally "[12]".toList "[21]".toList := by
    refine ⟨by decide, by decide, 1, ?_⟩
    intro index notFirst notSecond
    match index with
    | 0 | 3 => rfl
    | 1 => exact absurd rfl notFirst
    | 2 => exact absurd rfl notSecond
    | _ + 4 => rfl
  exact ⟨differ, queryKey_ne_of_differLocally differ⟩

end Fingerprint

end ResultCache
