import ResultCache.Cache
import ResultCache.Config.Document
import ResultCache.Registry
import ResultCache.Stream.Limits
import ResultCache.Proofs.History
import ResultCache.Proofs.Fingerprint.Readability
import ResultCache.Proofs.Memory.Operation
import ResultCache.Proofs.Memory.ReadLaw
import ResultCache.Proofs.Persistent.Operation
import ResultCache.Proofs.Persistent.TypeIsolation
import ResultCache.Proofs.Cache.Operation
import ResultCache.Proofs.Cache.StackAgreement
import ResultCache.Proofs.Stream.Accounting
import ResultCache.Proofs.Persistent.Streaming
import ResultCache.Proofs.Cache.FailedWrite
import ResultCache.Proofs.Cache.Grounding
import ResultCache.Proofs.Cache.Provenance
import ResultCache.Proofs.Cache.Streamability
import ResultCache.Proofs.Stream.Parity
import ResultCache.Proofs.Cache.StreamParity
import ResultCache.Proofs.Json.Literal
import ResultCache.Proofs.Json.Text
import ResultCache.Proofs.Codec.Faithful
import ResultCache.Proofs.Json.Value
import ResultCache.Proofs.Binary64.Shortest
import ResultCache.Proofs.Json.Double
import ResultCache.Proofs.Payload
import ResultCache.Proofs.Codec.Json
import ResultCache.Proofs.Text
import ResultCache.Proofs.Serializer.Json
import ResultCache.Proofs.Compression
import ResultCache.Proofs.Cache.JsonFidelity
import ResultCache.Proofs.Codec.MessagePackNode
import ResultCache.Proofs.Codec.Bincode
import ResultCache.Proofs.Serializer.Binary
import ResultCache.Proofs.Memory.Ledger
import ResultCache.Proofs.Cache.Conservation
import ResultCache.Proofs.Cache.Purging
import ResultCache.Proofs.Fingerprint.Sections
import ResultCache.Proofs.Storage
import ResultCache.Proofs.Registry.Operation
import ResultCache.Proofs.Registry.Isolation
import ResultCache.Proofs.Registry.Opening
import ResultCache.Proofs.Registry.SharedFile
import ResultCache.Proofs.Word
import ResultCache.Proofs.Fingerprint.Accumulator
import ResultCache.Proofs.Fingerprint.Edit
import ResultCache.Proofs.Fingerprint.Timestamp
import ResultCache.Proofs.Fingerprint.TextEdit
import ResultCache.Proofs.Fingerprint.Derivation
import ResultCache.Proofs.Json.Accepted
import ResultCache.Proofs.Json.Denotation
import ResultCache.Proofs.Fingerprint.Parameters
import ResultCache.Proofs.Fingerprint.Erasure
import ResultCache.Proofs.Fingerprint.Rejection
import ResultCache.Proofs.Cache.Frame
import ResultCache.Proofs.Cache.ReadBack
import ResultCache.Proofs.Cache.ReadThrough
import ResultCache.Proofs.Cache.Refresh
import ResultCache.Proofs.Time.Saturation
import ResultCache.Proofs.Memory.Expiry
import ResultCache.Proofs.Memory.Grace
import ResultCache.Proofs.Persistent.Framing
import ResultCache.Proofs.Registry.Construction
