import ResultCache.Text

/-!
Contract: content as it is stored.

Owns: `StoredContent`, a text or an octet sequence, and the octets of either.

Does not own: what content means. That is decided by the serializer that made it.
-/

namespace ResultCache

/-- A serialized payload: text, or octets. -/
inductive StoredContent where
  | text (value : String)
  | binary (value : Bytes)
  deriving DecidableEq, Repr

namespace StoredContent

/-- The octets of content: those of the text, or the octets themselves. -/
def bytes : StoredContent → Bytes
  | text value => Text.toBytes value
  | binary value => value

def length (content : StoredContent) : Nat := content.bytes.length

def isEmpty (content : StoredContent) : Bool := content.bytes.isEmpty

end StoredContent

end ResultCache
