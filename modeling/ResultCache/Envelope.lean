import ResultCache.Expression
import ResultCache.Payload
import ResultCache.Shape
import ResultCache.Time

/-!
Contract: entries of a cache.

Owns:
- `Provenance`, what it takes to issue a fetch again: its shape, its query text,
  its parameters, its filter and its selector;
- `Envelope`, provenance with a payload that may be missing and an instant of
  expiry that may be missing;
- freshness, the copy without payload, and the typed view of an envelope whose
  payload is of a type that is not known before it is looked at.
-/

namespace ResultCache

/-- What it takes to issue a fetch again. -/
structure Provenance where
  shape : ResultShape
  query : Option String
  parameters : Option Json.Value
  filter : Option Expression
  selector : Option Expression

namespace Provenance

/-- The provenance of a shape about which nothing else is known. -/
def bare (shape : ResultShape) : Provenance := ⟨shape, none, none, none, none⟩

/-- The provenance of a fetch issued from query or procedure text. -/
def ofQuery (shape : ResultShape) (query : String) : Provenance :=
  { bare shape with query := some query }

/-- The provenance of a fetch issued from a filter and an optional selector. -/
def ofExpression (shape : ResultShape) (filter : Expression) (selector : Option Expression) :
    Provenance :=
  { bare shape with filter := some filter, selector := selector }

end Provenance

/-- Provenance, and the payload of it where there is one. -/
structure Envelope (Held : Type) where
  provenance : Provenance
  payload : Option Held
  /-- When the payload stops being served; without it, it never is. -/
  expires : Option Instant

namespace Envelope

variable {Held Other : Type}

def ofPayload (provenance : Provenance) (payload : Held) : Envelope Held :=
  ⟨provenance, some payload, none⟩

/-- Whether the payload may be served at an instant: strictly before expiry. -/
def isFreshAt (envelope : Envelope Held) (now : Instant) : Bool :=
  match envelope.expires with
  | none => false
  | some expires => now.before expires

/-- The envelope without its payload, at any payload type. -/
def metadataOnly (envelope : Envelope Held) : Envelope Other :=
  ⟨envelope.provenance, none, envelope.expires⟩

def withPayload (envelope : Envelope Held) (payload : Other) : Envelope Other :=
  ⟨envelope.provenance, some payload, envelope.expires⟩

def mapPayload (change : Held → Other) (envelope : Envelope Held) : Envelope Other :=
  ⟨envelope.provenance, envelope.payload.map change, envelope.expires⟩

/-- The envelope with its payload's type carried along as data. -/
def erase {type : PayloadType} (envelope : Envelope type.Value) : Envelope Payload :=
  envelope.mapPayload (Payload.mk type)

/-- The envelope at a payload type: none when it holds a payload of another type. -/
def downcast? (envelope : Envelope Payload) (type : PayloadType) : Option (Envelope type.Value) :=
  match envelope.payload with
  | none => some envelope.metadataOnly
  | some payload => (payload.as? type).map envelope.withPayload

/-- The typed view of an erased envelope is the envelope. -/
theorem downcast?_erase {type : PayloadType} (envelope : Envelope type.Value) :
    envelope.erase.downcast? type = some envelope := by
  obtain ⟨provenance, payload, expires⟩ := envelope
  cases payload <;> simp [erase, mapPayload, downcast?, metadataOnly, withPayload, Payload.as?]

end Envelope

end ResultCache
