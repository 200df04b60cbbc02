import Mathlib.Tactic.Ring
import ResultCache.Codec.MessagePackNode

/-!
Contract: MessagePack trees are read back from their octets.

Owns:
- numbers of so many octets, with a sign and without, found again in front of any octets;
- `Node.Fits`, a node whose numbers and lengths have a form and whose containers nest no deeper
  than so far;
- that the front of what is written announces what was written;
- that such a node is read back, and the octets behind it are left alone; and that of an array
  of any length as many items are read back as its header announces.

Does not own: nodes that are written longer than they need be.
-/

namespace ResultCache

namespace Codec

namespace MessagePack

/-! ### Octets of numbers -/

theorem toNat_toUInt8 {number : Nat} (octet : number < 256) : number.toUInt8.toNat = number :=
  UInt8.toNat_ofNat_of_lt' octet

theorem takeBigEndianFrom?_add (before first second : Nat) (bytes : Bytes) :
    takeBigEndianFrom? before (first + second) bytes =
      (takeBigEndianFrom? before first bytes).bind fun (number, rest) =>
        takeBigEndianFrom? number second rest := by
  induction first generalizing before bytes with
  | zero => simp [takeBigEndianFrom?]
  | succ first inductionHypothesis =>
      rw [Nat.succ_add]
      cases bytes with
      | nil => rfl
      | cons octet bytes => exact inductionHypothesis _ _

theorem takeBigEndianFrom?_bigEndianOnto (before count number : Nat) (behind : Bytes) :
    takeBigEndianFrom? before count (bigEndianOnto behind count number) =
      some (before * 256 ^ count + number % 256 ^ count, behind) := by
  induction count generalizing number behind with
  | zero => simp [takeBigEndianFrom?, bigEndianOnto, Nat.mod_one]
  | succ count inductionHypothesis =>
      have digit : (number.toUInt8).toNat = number % 256 := UInt8.toNat_ofNat'
      have split : number % 256 ^ (count + 1) =
          number % 256 + 256 * (number / 256 % 256 ^ count) := by
        rw [Nat.pow_succ, Nat.mul_comm, Nat.mod_mul]
      rw [bigEndianOnto, takeBigEndianFrom?_add, inductionHypothesis]
      simp only [Option.bind_some, takeBigEndianFrom?, digit, split]
      congr 2
      ring

theorem bigEndianOnto_eq (behind : Bytes) (count number : Nat) :
    bigEndianOnto behind count number = bigEndian count number ++ behind := by
  unfold bigEndian
  induction count generalizing behind number with
  | zero => rfl
  | succ count inductionHypothesis =>
      rw [bigEndianOnto, bigEndianOnto, inductionHypothesis, inductionHypothesis [number.toUInt8]]
      simp

/-- A number is read back from as many octets as it needs. -/
theorem takeBigEndian?_append {count number : Nat} (fits : number < 256 ^ count) (rest : Bytes) :
    takeBigEndian? count (bigEndian count number ++ rest) = some (number, rest) := by
  rw [takeBigEndian?, ← bigEndianOnto_eq, takeBigEndianFrom?_bigEndianOnto, Nat.mod_eq_of_lt fits]
  simp

theorem takeBytes?_append (bytes rest : Bytes) :
    takeBytes? bytes.length (bytes ++ rest) = some (bytes, rest) := by
  simp [takeBytes?]

/-- An integer is read back from its last bits. -/
theorem asSigned_emod {bits : Nat} {number : Int} (least : -(2 ^ bits : Nat) ≤ number)
    (greatest : number < (2 ^ bits : Nat)) :
    asSigned (bits + 1) (number % (Nat.pow 2 (bits + 1) : Nat)).toNat = number := by
  have doubled : (Nat.pow 2 (bits + 1) : Nat) = 2 ^ bits + 2 ^ bits := Nat.two_pow_succ bits
  unfold asSigned
  rw [Nat.add_sub_cancel, doubled, show Nat.pow 2 bits = 2 ^ bits from rfl]
  rcases Int.lt_or_le number 0 with negative | natural
  · have word : number % ((2 ^ bits + 2 ^ bits : Nat) : Int) =
        number + ((2 ^ bits + 2 ^ bits : Nat) : Int) := by
      rw [← Int.add_emod_right]
      exact Int.emod_eq_of_lt (by omega) (by omega)
    rw [word, if_pos (by omega)]
    omega
  · rw [Int.emod_eq_of_lt natural (by omega), if_neg (by omega)]
    omega

/-! ### What the front announces -/

namespace Head

theorem number?_append {width number : Nat} (fits : number < 256 ^ width) (make : Nat → Node)
    (rest : Bytes) :
    number? width make (bigEndian width number ++ rest) = some (.value (make number), rest) := by
  rw [number?, takeBigEndian?_append fits]
  rfl

theorem counted?_append {width count : Nat} (fits : count < 256 ^ width) (announce : Nat → Head)
    (rest : Bytes) :
    counted? width announce (bigEndian width count ++ rest) = some (announce count, rest) := by
  rw [counted?, takeBigEndian?_append fits]
  rfl

theorem bytes?_append (bytes : Bytes) (make : Bytes → Node) (rest : Bytes) :
    bytes? bytes.length make (bytes ++ rest) = some (.value (make bytes), rest) := by
  rw [bytes?, takeBytes?_append]
  rfl

theorem sized?_append {width : Nat} {bytes : Bytes} (fits : bytes.length < 256 ^ width)
    (make : Bytes → Node) (rest : Bytes) :
    sized? width make (bigEndian width bytes.length ++ (bytes ++ rest)) =
      some (.value (make bytes), rest) := by
  rw [sized?, takeBigEndian?_append fits]
  exact bytes?_append bytes make rest

/-- Markers that hold a small number or a small length themselves. -/
theorem ofMarker?_of_lt {marker : Nat} (small : marker < 0xc0) (rest : Bytes) :
    ofMarker? marker.toUInt8 rest =
      if marker < 0x80 then some (.value (.unsigned marker), rest)
      else if marker < 0x90 then some (.map (marker - 0x80), rest)
      else if marker < 0xa0 then some (.array (marker - 0x90), rest)
      else bytes? (marker - 0xa0) .text rest := by
  have number := toNat_toUInt8 (Nat.lt_trans small (by decide))
  unfold ofMarker?
  simp only [UInt8.lt_iff_toNat_lt, number]
  change (if marker < 0x80 then _ else if marker < 0x90 then _ else if marker < 0xa0 then _
    else if marker < 0xc0 then _ else _) = _
  rw [if_pos small]

/-- Markers that hold a small negative number themselves. -/
theorem ofMarker?_of_le {marker : Nat} (large : 0xe0 ≤ marker) (octet : marker < 256)
    (rest : Bytes) :
    ofMarker? marker.toUInt8 rest = some (.value (.signed (asSigned 8 marker)), rest) := by
  have number := toNat_toUInt8 octet
  unfold ofMarker?
  simp only [UInt8.lt_iff_toNat_lt, UInt8.le_iff_toNat_le, number]
  change (if marker < 0x80 then _ else if marker < 0x90 then _ else if marker < 0xa0 then _
    else if marker < 0xc0 then _ else if 0xe0 ≤ marker then _ else _) = _
  rw [if_neg (by omega), if_neg (by omega), if_neg (by omega), if_neg (by omega), if_pos large]

theorem take?_writeUnsigned {number : Nat} (fits : number < 2 ^ 64) (rest : Bytes) :
    take? (Node.writeUnsigned number ++ rest) = some (.value (.unsigned number), rest) := by
  unfold Node.writeUnsigned
  split
  · rename_i small
    exact (ofMarker?_of_lt (by omega) rest).trans (if_pos small)
  · split
    · exact @number?_append 1 number (by omega) .unsigned rest
    · split
      · exact @number?_append 2 number (by omega) .unsigned rest
      · split
        · exact @number?_append 4 number (by omega) .unsigned rest
        · exact @number?_append 8 number (by omega) .unsigned rest

/-- A number with a sign is read back from its last bits in so many octets. -/
theorem signed?_append {width : Nat} {number : Int} (least : -(2 ^ (8 * width + 7) : Nat) ≤ number)
    (greatest : number < (2 ^ (8 * width + 7) : Nat)) (rest : Bytes) :
    number? (width + 1) (fun word => .signed (asSigned (8 * width + 8) word))
        (bigEndian (width + 1) (number % (Nat.pow 2 (8 * width + 8) : Nat)).toNat ++ rest) =
      some (.value (.signed number), rest) := by
  have word : (number % (Nat.pow 2 (8 * width + 8) : Nat)).toNat < 256 ^ (width + 1) := by
    have power : (256 : Nat) ^ (width + 1) = Nat.pow 2 (8 * width + 8) := by
      rw [show (256 : Nat) = 2 ^ 8 from rfl, ← Nat.pow_mul, Nat.mul_succ]
      rfl
    have positive : 0 < Nat.pow 2 (8 * width + 8) := Nat.two_pow_pos _
    have bound := Int.emod_lt_of_pos number (Int.natCast_pos.2 positive)
    have natural := Int.emod_nonneg number (Int.natCast_ne_zero.2 positive.ne')
    omega
  rw [number?_append word, asSigned_emod least greatest]

theorem take?_writeSigned {number : Int} (least : -2 ^ 63 ≤ number) (greatest : number < 2 ^ 63)
    (rest : Bytes) :
    take? (Node.writeSigned number ++ rest) = some (.value (.signed number), rest) := by
  unfold Node.writeSigned
  dsimp only
  split
  · have marker : 0xe0 ≤ (number % (256 : Nat)).toNat ∧ (number % (256 : Nat)).toNat < 256 := by
      omega
    refine (ofMarker?_of_le marker.1 marker.2 rest).trans ?_
    rw [show asSigned 8 (number % (256 : Nat)).toNat = number from
      @asSigned_emod 7 number (by omega) (by omega)]
  · split
    · exact @signed?_append 0 number (by omega) (by omega) rest
    · split
      · exact @signed?_append 1 number (by omega) (by omega) rest
      · split
        · exact @signed?_append 3 number (by omega) (by omega) rest
        · exact @signed?_append 7 number (by omega) (by omega) rest

theorem take?_text {bytes : Bytes} (short : bytes.length < 2 ^ 32) (rest : Bytes) :
    take? (Node.writeTextHeader bytes.length ++ (bytes ++ rest)) =
      some (.value (.text bytes), rest) := by
  unfold Node.writeTextHeader
  split
  · refine (ofMarker?_of_lt (by omega) (bytes ++ rest)).trans ?_
    rw [if_neg (by omega), if_neg (by omega), if_neg (by omega), Nat.add_sub_cancel_left]
    exact bytes?_append bytes .text rest
  · split
    · exact @sized?_append 1 bytes (by omega) .text rest
    · split
      · exact @sized?_append 2 bytes (by omega) .text rest
      · exact @sized?_append 4 bytes (by omega) .text rest

theorem take?_arrayHeader {count : Nat} (short : count < 2 ^ 32) (rest : Bytes) :
    take? (Node.writeArrayHeader count ++ rest) = some (.array count, rest) := by
  unfold Node.writeArrayHeader
  split
  · refine (ofMarker?_of_lt (by omega) rest).trans ?_
    rw [if_neg (by omega), if_neg (by omega), if_pos (by omega), Nat.add_sub_cancel_left]
  · split
    · exact @counted?_append 2 count (by omega) .array rest
    · exact @counted?_append 4 count (by omega) .array rest

theorem take?_mapHeader {count : Nat} (short : count < 2 ^ 32) (rest : Bytes) :
    take? (Node.writeMapHeader count ++ rest) = some (.map count, rest) := by
  unfold Node.writeMapHeader
  split
  · refine (ofMarker?_of_lt (by omega) rest).trans ?_
    rw [if_neg (by omega), if_pos (by omega), Nat.add_sub_cancel_left]
  · split
    · exact @counted?_append 2 count (by omega) .map rest
    · exact @counted?_append 4 count (by omega) .map rest

theorem take?_double (value : Binary64) (rest : Bytes) :
    take? (0xcb :: bigEndian 8 value.bits.toNat ++ rest) = some (.value (.double value), rest) := by
  have read := @number?_append 8 value.bits.toNat value.bits.toNat_lt
    (fun number => .double ⟨number.toUInt64⟩) rest
  refine read.trans ?_
  simp

end Head

/-! ### What is written -/

namespace Node

@[elab_as_elim]
theorem induction {motive : Node → Prop} (nil : motive .nil) (bool : ∀ value, motive (.bool value))
    (unsigned : ∀ value, motive (.unsigned value)) (signed : ∀ value, motive (.signed value))
    (single : ∀ bits, motive (.single bits)) (double : ∀ value, motive (.double value))
    (text : ∀ bytes, motive (.text bytes)) (binary : ∀ bytes, motive (.binary bytes))
    (array : ∀ items, (∀ item ∈ items, motive item) → motive (.array items))
    (map : ∀ entries, (∀ entry ∈ entries, motive entry.1 ∧ motive entry.2) → motive (.map entries))
    (extension : ∀ kind bytes, motive (.extension kind bytes)) (node : Node) : motive node :=
  @Node.rec motive (fun items => ∀ item ∈ items, motive item)
    (fun entries => ∀ entry ∈ entries, motive entry.1 ∧ motive entry.2)
    (fun entry => motive entry.1 ∧ motive entry.2)
    nil bool unsigned signed single double text binary array map extension
    (fun _ absent => absurd absent List.not_mem_nil)
    (fun _ _ first rest => List.forall_mem_cons.2 ⟨first, rest⟩)
    (fun _ absent => absurd absent List.not_mem_nil)
    (fun _ _ first rest => List.forall_mem_cons.2 ⟨first, rest⟩)
    (fun _ _ key value => ⟨key, value⟩) node

private theorem writeItemsOnto_of_each {items : List Node}
    (onto : ∀ item ∈ items, ∀ done, writeOnto done item = item.write.reverse ++ done)
    (done : Bytes) : writeItemsOnto done items = (items.flatMap write).reverse ++ done := by
  induction items generalizing done with
  | nil => rfl
  | cons item items inductionHypothesis =>
      have here := onto item List.mem_cons_self
      rw [writeItemsOnto,
        inductionHypothesis fun other member => onto other (List.mem_cons_of_mem _ member), here]
      simp

/-- The octets of an entry. -/
def writeEntry (entry : Node × Node) : Bytes := entry.1.write ++ entry.2.write

private theorem writeEntriesOnto_of_each {entries : List (Node × Node)}
    (onto : ∀ entry ∈ entries, (∀ done, writeOnto done entry.1 = entry.1.write.reverse ++ done) ∧
      ∀ done, writeOnto done entry.2 = entry.2.write.reverse ++ done)
    (done : Bytes) :
    writeEntriesOnto done entries = (entries.flatMap writeEntry).reverse ++ done := by
  induction entries generalizing done with
  | nil => rfl
  | cons entry entries inductionHypothesis =>
      obtain ⟨ofKey, ofValue⟩ := onto entry List.mem_cons_self
      rw [writeEntriesOnto,
        inductionHypothesis fun other member => onto other (List.mem_cons_of_mem _ member),
        ofValue, ofKey]
      simp [writeEntry]

/-- A node is written in front of what is done. -/
theorem writeOnto_eq (done : Bytes) (node : Node) :
    writeOnto done node = node.write.reverse ++ done := by
  induction node using Node.induction generalizing done with
  | bool value => cases value <;> rfl
  | array items inductionHypothesis =>
      have items := writeItemsOnto_of_each fun item member done => inductionHypothesis item member done
      simp [write, writeOnto, items]
  | map entries inductionHypothesis =>
      have entries := writeEntriesOnto_of_each fun entry member =>
        ⟨fun done => (inductionHypothesis entry member).1 done,
          fun done => (inductionHypothesis entry member).2 done⟩
      simp [write, writeOnto, entries]
  | nil | unsigned | signed | single | double | text | binary | extension =>
      simp [write, writeOnto, List.reverseAux_eq]

@[simp] theorem write_unsigned (value : Nat) : write (.unsigned value) = writeUnsigned value := by
  simp [write, writeOnto, List.reverseAux_eq]

@[simp] theorem write_signed (value : Int) : write (.signed value) = writeSigned value := by
  simp [write, writeOnto, List.reverseAux_eq]

@[simp] theorem write_double (value : Binary64) :
    write (.double value) = 0xcb :: bigEndian 8 value.bits.toNat := by
  simp [write, writeOnto, List.reverseAux_eq]

@[simp] theorem write_text (bytes : Bytes) :
    write (.text bytes) = writeTextHeader (announced bytes.length) ++ bytes := by
  simp [write, writeOnto, List.reverseAux_eq]

/-- A length that thirty-two bits hold is announced as it is. -/
theorem announced_of_lt {length : Nat} (short : length < 2 ^ 32) : announced length = length :=
  Nat.mod_eq_of_lt short

/-- An array is its length, as far as it is announced, and its items. -/
@[simp] theorem write_array (items : List Node) :
    write (.array items) = writeArrayHeader (announced items.length) ++ items.flatMap write := by
  have behind := @writeItemsOnto_of_each items fun item _ done => writeOnto_eq done item
  simp [write, writeOnto, behind, List.reverseAux_eq]

/-- A map is its length, as far as it is announced, and its entries. -/
@[simp] theorem write_map (entries : List (Node × Node)) :
    write (.map entries) =
      writeMapHeader (announced entries.length) ++ entries.flatMap writeEntry := by
  have behind := @writeEntriesOnto_of_each entries fun entry _ =>
    ⟨fun done => writeOnto_eq done entry.1, fun done => writeOnto_eq done entry.2⟩
  simp [write, writeOnto, behind, List.reverseAux_eq]

/-! ### Reading back -/

/-- A node that has octets of its own: its numbers and lengths have a form, and no more than so
many of its containers are open at once. -/
inductive Fits : Nat → Node → Prop where
  | nil {room : Nat} : Fits room .nil
  | bool {room : Nat} (value : Bool) : Fits room (.bool value)
  | unsigned {room value : Nat} (word : value < 2 ^ 64) : Fits room (.unsigned value)
  | signed {room : Nat} {value : Int} (least : -2 ^ 63 ≤ value) (greatest : value < 2 ^ 63) :
    Fits room (.signed value)
  | double {room : Nat} (value : Binary64) : Fits room (.double value)
  | text {room : Nat} {bytes : Bytes} (short : bytes.length < 2 ^ 32) : Fits room (.text bytes)
  | array {room : Nat} {items : List Node} (short : items.length < 2 ^ 32)
    (each : ∀ item ∈ items, Fits room item) : Fits (room + 1) (.array items)
  | map {room : Nat} {entries : List (Node × Node)} (short : entries.length < 2 ^ 32)
    (keys : ∀ entry ∈ entries, Fits room entry.1) (values : ∀ entry ∈ entries, Fits room entry.2) :
    Fits (room + 1) (.map entries)

theorem Fits.mono {room room' : Nat} {node : Node} (fits : Fits room node) (more : room ≤ room') :
    Fits room' node := by
  induction fits generalizing room' with
  | nil => exact .nil
  | bool value => exact .bool value
  | unsigned word => exact .unsigned word
  | signed least greatest => exact .signed least greatest
  | double value => exact .double value
  | text short => exact .text short
  | array short _ inductionHypothesis =>
      obtain ⟨room', rfl⟩ := Nat.exists_eq_succ_of_ne_zero (by omega : room' ≠ 0)
      exact .array short fun item member => inductionHypothesis item member (by omega)
  | map short _ _ keys values =>
      obtain ⟨room', rfl⟩ := Nat.exists_eq_succ_of_ne_zero (by omega : room' ≠ 0)
      exact .map short (fun entry member => keys entry member (by omega))
        fun entry member => values entry member (by omega)

end Node

/-- What is read once a value has been put into the containers around it. -/
def resume? (fuel : Nat) (rest : Bytes) : Placed → Option (Node × Bytes)
  | .whole node => some (node, rest)
  | .within frames => readWithin? fuel frames rest

theorem readWithin?_succ {fuel : Nat} {frames : List Frame} {bytes rest : Bytes} {head : Head}
    (announced : Head.take? bytes = some (head, rest)) {placed : Placed}
    (entered : enter? frames head = some placed) :
    readWithin? (fuel + 1) frames bytes = resume? fuel rest placed := by
  rw [readWithin?, announced]
  simp only [entered]
  cases placed <;> rfl

/-- The state behind the items already read of an array, when so many are missing. -/
def Placed.ofItems (missing : Nat) (items : List Node) (frames : List Frame) : Placed :=
  if missing = 0 then place (.array items.reverse) frames
  else .within (.array missing items :: frames)

/-- The state behind the entries already read of a map, when so many are missing. -/
def Placed.ofEntries (missing : Nat) (entries : List (Node × Node)) (frames : List Frame) : Placed :=
  if missing = 0 then place (.map entries.reverse) frames
  else .within (.map missing entries :: frames)

theorem place_item (item : Node) (missing : Nat) (items : List Node) (frames : List Frame) :
    place item (.array (missing + 1) items :: frames) = .ofItems missing (item :: items) frames := by
  cases missing <;> rfl

theorem place_value (key value : Node) (missing : Nat) (entries : List (Node × Node))
    (frames : List Frame) :
    place value (.keyed (missing + 1) entries key :: frames) =
      .ofEntries missing ((key, value) :: entries) frames := by
  cases missing <;> rfl

theorem enter?_array {count : Nat} {frames : List Frame} (room : frames.length + 1 < nestingLimit) :
    enter? frames (.array count) = some (.ofItems count [] frames) := by
  rw [enter?, if_neg (by omega), Placed.ofItems]
  split <;> rfl

theorem enter?_map {count : Nat} {frames : List Frame} (room : frames.length + 1 < nestingLimit) :
    enter? frames (.map count) = some (.ofEntries count [] frames) := by
  rw [enter?, if_neg (by omega), Placed.ofEntries]
  split <;> rfl

/-- A front that announces something is passed, and leaves fuel for what is behind it. -/
theorem readWithin?_append {front behind : Bytes} {head : Head} {frames : List Frame}
    {placed : Placed} {fuel : Nat}
    (announced : ∀ rest, Head.take? (front ++ rest) = some (head, rest))
    (entered : enter? frames head = some placed) (enough : (front ++ behind).length ≤ fuel) :
    ∃ left, behind.length ≤ left ∧
      readWithin? fuel frames (front ++ behind) = resume? left behind placed := by
  have nonempty : front ≠ [] := by
    rintro rfl
    exact absurd (announced []) (by simp [Head.take?])
  have positive := List.length_pos_iff.2 nonempty
  rw [List.length_append] at enough
  obtain ⟨left, rfl⟩ := Nat.exists_eq_succ_of_ne_zero (by omega : fuel ≠ 0)
  exact ⟨left, by omega, readWithin?_succ (announced behind) entered⟩

namespace Node

/-- A node whose octets put the node itself into containers that leave so much room, with fuel
for the octets behind. -/
def ReadsBack (room : Nat) (node : Node) : Prop :=
  ∀ (frames : List Frame) (rest : Bytes) (fuel : Nat), frames.length + room < nestingLimit →
    (node.write ++ rest).length ≤ fuel →
      ∃ left, rest.length ≤ left ∧
        readWithin? fuel frames (node.write ++ rest) = resume? left rest (place node frames)

theorem readsBack_of_value {room : Nat} {node : Node}
    (announced : ∀ rest, Head.take? (node.write ++ rest) = some (.value node, rest)) :
    ReadsBack room node :=
  fun _ _ _ _ enough => readWithin?_append announced rfl enough

/-- Items that are read back one after the other fill their array. -/
theorem resume?_items {room : Nat} {items : List Node} (each : ∀ item ∈ items, ReadsBack room item)
    {frames : List Frame} (deep : frames.length + 1 + room < nestingLimit) {rest : Bytes}
    {done : List Node} {fuel : Nat} (enough : (items.flatMap write ++ rest).length ≤ fuel) :
    ∃ left, rest.length ≤ left ∧
      resume? fuel (items.flatMap write ++ rest) (.ofItems items.length done frames) =
        resume? left rest (place (.array (done.reverse ++ items)) frames) := by
  induction items generalizing done fuel with
  | nil => exact ⟨fuel, enough, by simp [Placed.ofItems]⟩
  | cons item items inductionHypothesis =>
      rw [List.flatMap_cons, List.append_assoc] at enough ⊢
      obtain ⟨middle, enoughBehind, first⟩ :=
        each item List.mem_cons_self (.array (items.length + 1) done :: frames) _ _ deep enough
      obtain ⟨left, enoughLeft, others⟩ := @inductionHypothesis
        (fun other member => each other (List.mem_cons_of_mem _ member)) (item :: done) _ enoughBehind
      refine ⟨left, enoughLeft, first.trans ?_⟩
      rw [place_item, others]
      simp

/-- Entries that are read back one after the other fill their map. -/
theorem resume?_entries {room : Nat} {entries : List (Node × Node)}
    (keys : ∀ entry ∈ entries, ReadsBack room entry.1)
    (values : ∀ entry ∈ entries, ReadsBack room entry.2)
    {frames : List Frame} (deep : frames.length + 1 + room < nestingLimit) {rest : Bytes}
    {done : List (Node × Node)} {fuel : Nat}
    (enough : (entries.flatMap writeEntry ++ rest).length ≤ fuel) :
    ∃ left, rest.length ≤ left ∧
      resume? fuel (entries.flatMap writeEntry ++ rest) (.ofEntries entries.length done frames) =
        resume? left rest (place (.map (done.reverse ++ entries)) frames) := by
  induction entries generalizing done fuel with
  | nil => exact ⟨fuel, enough, by simp [Placed.ofEntries]⟩
  | cons entry entries inductionHypothesis =>
      obtain ⟨key, value⟩ := entry
      rw [List.flatMap_cons, writeEntry, List.append_assoc, List.append_assoc] at enough ⊢
      obtain ⟨keyed, enoughKeyed, ofKey⟩ := keys (key, value) List.mem_cons_self
        (.map (entries.length + 1) done :: frames) _ _ deep enough
      obtain ⟨middle, enoughBehind, ofValue⟩ := values (key, value) List.mem_cons_self
        (.keyed (entries.length + 1) done key :: frames) _ _ deep enoughKeyed
      obtain ⟨left, enoughLeft, others⟩ := @inductionHypothesis
        (fun other member => keys other (List.mem_cons_of_mem _ member))
        (fun other member => values other (List.mem_cons_of_mem _ member))
        ((key, value) :: done) _ enoughBehind
      refine ⟨left, enoughLeft, (ofKey.trans ofValue).trans ?_⟩
      rw [place_value, others]
      simp

/-- A node that fits is read back, wherever it stands. -/
theorem Fits.readsBack {room : Nat} {node : Node} (fits : Fits room node) : ReadsBack room node := by
  induction fits with
  | nil => exact readsBack_of_value fun _ => rfl
  | bool value => exact readsBack_of_value fun _ => by cases value <;> rfl
  | unsigned word =>
      refine readsBack_of_value fun rest => ?_
      rw [write_unsigned]
      exact Head.take?_writeUnsigned word rest
  | signed least greatest =>
      refine readsBack_of_value fun rest => ?_
      rw [write_signed]
      exact Head.take?_writeSigned least greatest rest
  | double value =>
      refine readsBack_of_value fun rest => ?_
      rw [write_double]
      exact Head.take?_double value rest
  | text short =>
      refine readsBack_of_value fun rest => ?_
      rw [write_text, announced_of_lt short, List.append_assoc]
      exact Head.take?_text short rest
  | array short _ inductionHypothesis =>
      intro frames rest fuel deep enough
      rw [write_array, announced_of_lt short, List.append_assoc] at enough ⊢
      obtain ⟨middle, enoughBehind, opened⟩ :=
        readWithin?_append (Head.take?_arrayHeader short) (@enter?_array _ frames (by omega)) enough
      obtain ⟨left, enoughLeft, filled⟩ := @resume?_items _ _ inductionHypothesis frames (by omega) rest [] middle enoughBehind
      exact ⟨left, enoughLeft, opened.trans filled⟩
  | map short _ _ keys values =>
      intro frames rest fuel deep enough
      rw [write_map, announced_of_lt short, List.append_assoc] at enough ⊢
      obtain ⟨middle, enoughBehind, opened⟩ :=
        readWithin?_append (Head.take?_mapHeader short) (@enter?_map _ frames (by omega)) enough
      obtain ⟨left, enoughLeft, filled⟩ := @resume?_entries _ _ keys values frames (by omega) rest [] middle
        enoughBehind
      exact ⟨left, enoughLeft, opened.trans filled⟩

/-- A node that fits is read back from its octets, which end where it says. -/
theorem read?_append {room : Nat} {node : Node} (fits : Fits room node)
    (shallow : room < nestingLimit) (rest : Bytes) :
    read? (node.write ++ rest) = some (node, rest) := by
  obtain ⟨left, _, whole⟩ := fits.readsBack [] rest _ (by simpa using shallow) le_rfl
  exact whole

end Node

end MessagePack

end Codec

end ResultCache
