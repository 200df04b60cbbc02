/-!
Contract: octets, UTF-8, and the digest of a text.

Owns:
- `Bytes`, the octet sequences that codecs, frames and rows are made of;
- the passage between texts and their UTF-8 octets, and its inverse law;
- the reading of octets as characters with every octet that belongs to no
  character kept apart, which readers of character formats work on;
- the rolling FNV-1a digest over code points.

Does not own: any format built on these.
-/

namespace ResultCache

abbrev Bytes := List UInt8

/-- One position of an octet sequence read as UTF-8: a character, or `none` for
an octet that is part of no character. -/
abbrev Symbol := Option Char

namespace Text

def toBytes (text : String) : Bytes := text.toUTF8.data.toList

/-- The text that the octets encode, when they are well-formed UTF-8. -/
def ofBytes? (bytes : Bytes) : Option String := String.fromUTF8? ⟨bytes.toArray⟩

theorem ofBytes?_toBytes (text : String) : ofBytes? (toBytes text) = some text := by
  simp [ofBytes?, toBytes, String.fromUTF8?, String.fromUTF8, text.isValidUTF8]

/-- The number of octets of the character that starts with this octet, and zero
for an octet that starts none. -/
def leadLength (lead : UInt8) : Nat :=
  if lead < 0x80 then 1
  else if lead < 0xC2 then 0
  else if lead < 0xE0 then 2
  else if lead < 0xF0 then 3
  else if lead < 0xF5 then 4
  else 0

/-- The character at the front, with the octets behind it. -/
def takeChar? : Bytes → Option (Char × Bytes)
  | [] => none
  | lead :: rest =>
    let length := leadLength lead
    if length = 0 then none
    else
      match ofBytes? ((lead :: rest).take length) with
      | none => none
      | some text => text.toList.head?.map fun scalar => (scalar, (lead :: rest).drop length)

/-- Octets that are not UTF-8 as a whole: characters where they can be read, and
one stray position for every other octet. The fuel bounds the octets left. -/
def strays : Nat → Bytes → List Symbol → List Symbol
  | 0, _, done => done.reverse
  | _ + 1, [], done => done.reverse
  | fuel + 1, lead :: rest, done =>
    match takeChar? (lead :: rest) with
    | some (scalar, behind) => strays fuel behind (some scalar :: done)
    | none => strays fuel rest (none :: done)

/-- The symbols of a text: every character stands for itself. -/
def symbolsOf (text : String) : List Symbol := text.toList.map some

/-- The symbols of an octet sequence: those of its text when it has one. -/
def symbols (bytes : Bytes) : List Symbol :=
  match ofBytes? bytes with
  | some text => symbolsOf text
  | none => strays bytes.length bytes []

theorem symbols_toBytes (text : String) : symbols (toBytes text) = symbolsOf text := by
  simp [symbols, ofBytes?_toBytes]

/-! ### The rolling digest -/

/-- Where every rolling digest starts. -/
def digestOffset : UInt64 := 0xcbf29ce484222325

/-- What a rolling digest is multiplied by after each unit. -/
def digestPrime : UInt64 := 0x100000001b3

/-- One step of the rolling digest. -/
def digestStep (rolling unit : UInt64) : UInt64 := (rolling ^^^ unit) * digestPrime

/-- The rolling digest of a character sequence, one step per code point. -/
def digestChars (chars : List Char) : UInt64 :=
  chars.foldl (fun rolling scalar => digestStep rolling scalar.toNat.toUInt64) digestOffset

/-- The rolling digest of an octet sequence, one step per octet. -/
def digestBytes (bytes : Bytes) : UInt64 :=
  bytes.foldl (fun rolling octet => digestStep rolling octet.toUInt64) digestOffset

end Text

end ResultCache
