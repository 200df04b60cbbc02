import ResultCache.Text

/-!
Contract: characters as octets.

Owns:
- the octets of a text, character by character, and a limit on their number;
- that the first octet of a character tells how many it has, and so that a character is found
  again in front of any others.

Does not own: the encoding itself.
-/

namespace ResultCache

namespace Text

/-- A text of fewer octets than the limit. -/
def ShorterThan (limit : Nat) (text : String) : Prop := (toBytes text).length < limit

instance (limit : Nat) (text : String) : Decidable (ShorterThan limit text) :=
  inferInstanceAs (Decidable (_ < _))

theorem toBytes_ofList (scalars : List Char) :
    toBytes (String.ofList scalars) = scalars.flatMap String.utf8EncodeChar := by
  unfold toBytes
  rw [String.toUTF8, String.toByteArray_ofList]
  simp [List.utf8Encode]

/-- The character of a text that is a single one. -/
def onlyChar? : Option (List Char) → Option Char
  | some [scalar] => some scalar
  | _ => none

theorem utf8EncodeChar_of_lt {scalar : Char} (single : scalar.toNat < 128) :
    String.utf8EncodeChar scalar = [scalar.toNat.toUInt8] := by
  unfold String.utf8EncodeChar
  dsimp only
  exact if_pos (Nat.le_of_lt_succ single)

end Text

end ResultCache
