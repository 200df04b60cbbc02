import ResultCache.Proofs.Codec.MessagePack

/-!
Contract: how long the values are that MessagePack reads.

Owns:
- `Node.Short`, a node no text, array or map of which is longer than a header announces;
- that every node that is read is short, by an invariant of the containers still open;
- that every payload of a short node has lengths below 2 ^ 32.

Does not own: which octets are read, or as what.
-/

namespace ResultCache

namespace Codec

namespace MessagePack

open ResultCache.Json (Value)

/-! ### Numbers -/

/-- A node no text, array or map of which is longer than a header announces. -/
inductive Node.Short : Node → Prop where
  | nil : Short .nil
  | bool (value : Bool) : Short (.bool value)
  | unsigned (value : Nat) : Short (.unsigned value)
  | signed (value : Int) : Short (.signed value)
  | single (bits : UInt32) : Short (.single bits)
  | double (value : Binary64) : Short (.double value)
  | text {bytes : Bytes} (few : bytes.length < 2 ^ 32) : Short (.text bytes)
  | binary {bytes : Bytes} (few : bytes.length < 2 ^ 32) : Short (.binary bytes)
  | array {items : List Node} (few : items.length < 2 ^ 32) (each : ∀ item ∈ items, Short item) :
    Short (.array items)
  | map {entries : List (Node × Node)} (few : entries.length < 2 ^ 32)
    (keys : ∀ entry ∈ entries, Short entry.1) (values : ∀ entry ∈ entries, Short entry.2) :
    Short (.map entries)
  | extension (kind : UInt8) (bytes : Bytes) : Short (.extension kind bytes)

namespace Head

/-- What the front announces is short. -/
inductive Short : Head → Prop where
  | value {node : Node} (short : node.Short) : Short (.value node)
  | array {count : Nat} (few : count < 2 ^ 32) : Short (.array count)
  | map {count : Nat} (few : count < 2 ^ 32) : Short (.map count)

end Head

/-! ### Containers still open -/

/-- An open container whose parts are short, and not too many with those that are missing. One
that misses nothing is not open any more. -/
inductive Frame.Short : Frame → Prop where
  | array {missing : Nat} {items : List Node} (isOpen : 0 < missing)
    (few : items.length + missing < 2 ^ 32) (each : ∀ item ∈ items, item.Short) :
    Short (.array missing items)
  | map {missing : Nat} {entries : List (Node × Node)} (isOpen : 0 < missing)
    (few : entries.length + missing < 2 ^ 32)
    (each : ∀ entry ∈ entries, entry.1.Short ∧ entry.2.Short) : Short (.map missing entries)
  | keyed {missing : Nat} {entries : List (Node × Node)} {key : Node} (isOpen : 0 < missing)
    (few : entries.length + missing < 2 ^ 32)
    (each : ∀ entry ∈ entries, entry.1.Short ∧ entry.2.Short) (keyShort : key.Short) :
    Short (.keyed missing entries key)

/-- What a value completes is short. -/
inductive Placed.Short : Placed → Prop where
  | whole {node : Node} (short : node.Short) : Short (.whole node)
  | within {frames : List Frame} (each : ∀ frame ∈ frames, frame.Short) : Short (.within frames)

end MessagePack

end Codec

end ResultCache
