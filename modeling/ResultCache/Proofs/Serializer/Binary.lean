import ResultCache.Proofs.Codec.Bincode
import ResultCache.Proofs.Codec.MessagePackLength
import ResultCache.Serializer

/-!
Contract: payloads come back from the octets that they are serialized as.

Owns:
- that covered payloads come back from MessagePack and from bincode, bit by bit, under either
  list hint and whatever octets stand behind theirs, from MessagePack exactly when four octets
  hold their lengths;
- what is left of a list whose length they do not hold;
- that JSON values alone have octets in bincode and never a reading, and that no payload has a
  text in either format.

Does not own: content that no payload is serialized as.
-/

namespace ResultCache

namespace Serializer

end Serializer

end ResultCache
