import ResultCache.Proofs.Persistent.Operation

/-!
Contract: the table and the recorded types of a persistent tier say the same.

Owns:
- the last put of a key since the last clear, as a caller knows it from the answers
  to its own operations;
- `PersistentTier.Files`, what the tier keeps for a key whose last put is known, and
  that every operation keeps it so, those on the companion included;
- type isolation: a typed read finds the payload of the last put, at its own type.

Does not own: whether a read finds anything. That is up to the companion.
-/

namespace ResultCache

namespace PersistentTier

/-- The last put of a key after one more operation. Puts and clears that fail count
for nothing. -/
def lastPutAfter (tier : PersistentTier) (now : Instant) (key : Key)
    (last : Option (Envelope Payload)) : Operation → Option (Envelope Payload)
  | .put other envelope =>
    match (tier.put now other envelope).1 with
    | .ok () => if other = key then some envelope else last
    | .error _ => last
  | .clear =>
    match tier.clear.1 with
    | .ok () => none
    | .error _ => last
  | _ => last

/-- The last put of a key, after a history that starts with one known or none. -/
def lastPut (key : Key) :
    PersistentTier → Option (Envelope Payload) → History Operation → Option (Envelope Payload)
  | _, last, [] => last
  | tier, last, (now, operation) :: rest =>
    lastPut key (tier.perform now operation) (tier.lastPutAfter now key last operation) rest

/-- What a tier keeps for a key: nothing before the first put, and after it the row
and the type of the last one. -/
inductive Files (tier : PersistentTier) (key : Key) : Option (Envelope Payload) → Prop
  | nothing {rows : KeyMap StoredRow} (reachable : tier.database = .table rows)
      (row : rows.get? key = none) (type : tier.payloadTypes.get? key = none) :
      Files tier key none
  | put {rows : KeyMap StoredRow} {envelope : Envelope Payload} {payload : Payload}
      {content : StoredContent} (reachable : tier.database = .table rows)
      (held : envelope.payload = some payload) (encoded : tier.encode payload = .ok content)
      (row : rows.get? key = some (.ofContent envelope.provenance.query content))
      (type : tier.payloadTypes.get? key = some payload.type) :
      Files tier key (some envelope)

namespace Files

variable {tier : PersistentTier} {key : Key} {last : Option (Envelope Payload)}

/-- It is up to the row and the type of the key. -/
theorem frame {other : PersistentTier} (files : tier.Files key last)
    (same : SameRow other tier key) : other.Files key last := by
  cases files with
  | nothing reachable row type =>
      obtain ⟨others, there, sameRow⟩ := same.row _ reachable
      exact nothing there (sameRow.trans row) (same.type.trans type)
  | put reachable held encoded row type =>
      obtain ⟨others, there, sameRow⟩ := same.row _ reachable
      rw [← same.codec.encode_eq] at encoded
      exact put there held encoded (sameRow.trans row) (same.type.trans type)

theorem reachable (files : tier.Files key last) : ∃ rows, tier.database = .table rows := by
  cases files with
  | nothing reachable | put reachable => exact ⟨_, reachable⟩

theorem written {now : Instant} {envelope : Envelope Payload} {rows : KeyMap StoredRow}
    {payload : Payload} {content : StoredContent} (held : envelope.payload = some payload)
    (encoded : tier.encode payload = .ok content) :
    (tier.written now key envelope rows payload content).Files key (some envelope) :=
  put rfl held encoded (KeyMap.get?_insert_self _ _ _) (KeyMap.get?_insert_self _ _ _)

section Read

variable {rows : KeyMap StoredRow} (table : tier.database = .table rows)

include table

theorem row_iff_type (files : tier.Files key last) :
    (rows.get? key).isSome ↔ (tier.payloadTypes.get? key).isSome := by
  cases files with
  | nothing reachable row type =>
      rw [table] at reachable
      cases reachable
      rw [row, type]
      simp
  | put reachable held encoded row type =>
      rw [table] at reachable
      cases reachable
      rw [row, type]
      simp

theorem of_nothing (files : tier.Files key none) : rows.get? key = none := by
  cases files with
  | nothing reachable row type =>
      rw [table] at reachable
      cases reachable
      exact row

theorem of_put {envelope : Envelope Payload} (files : tier.Files key (some envelope)) :
    ∃ payload content, envelope.payload = some payload ∧ tier.encode payload = .ok content ∧
      rows.get? key = some (.ofContent envelope.provenance.query content) ∧
      tier.payloadTypes.get? key = some payload.type := by
  cases files with
  | put reachable held encoded row type =>
      rw [table] at reachable
      cases reachable
      exact ⟨_, _, held, encoded, row, type⟩

end Read

theorem perform (files : tier.Files key last) (now : Instant) (operation : Operation) :
    (tier.perform now operation).Files key (tier.lastPutAfter now key last operation) := by
  cases operation with
  | put other envelope =>
      simp only [PersistentTier.perform, lastPutAfter]
      rcases tier.put_cases now other envelope with
        ⟨failure, failed⟩ | ⟨rows, payload, content, table, held, encoded, succeeded⟩
      · rw [failed]
        exact files
      · rw [succeeded]
        by_cases same : other = key
        · rw [if_pos same, same]
          exact written held encoded
        · rw [if_neg same]
          exact files.frame (.written same table now envelope payload content)
  | getTyped other type | getEnvelope other type =>
      obtain ⟨counters, counted⟩ := tier.getEnvelope_eq_count now other type
      change (tier.getEnvelope now other type).2.Files key last
      rw [counted]
      exact files.frame (.withCompanion _)
  | getForRefresh | record | rowCount | canStream | stream | streamCancellable => exact files
  | invalidate other => exact files.frame (.withCompanion _)
  | clear =>
      obtain ⟨rows, table⟩ := files.reachable
      simp only [PersistentTier.perform, lastPutAfter, clear, table, Database.recreate]
      exact nothing rfl rfl rfl
  | onCompanion operation => exact files.frame (.withCompanion _)

theorem run {history : History Operation} (files : tier.Files key last) :
    (history.run PersistentTier.perform tier).Files key (lastPut key tier last history) := by
  induction history generalizing tier last with
  | nil => exact files
  | cons event rest inductionHypothesis =>
      exact inductionHypothesis (files.perform event.1 event.2)

end Files

/-- Whenever the encoding of a payload decodes at its type, it decodes to the payload. -/
def DecodesBack (tier : PersistentTier) (payload : Payload) : Prop :=
  ∀ content asList value, tier.encode payload = .ok content →
    tier.decode payload.type content asList = .ok value → value = payload.value

theorem decodesBack_of_encode {tier : PersistentTier} {payload : Payload}
    {content : StoredContent} (encoded : tier.encode payload = .ok content)
    (back : ∀ asList value, tier.decode payload.type content asList = .ok value →
      value = payload.value) : tier.DecodesBack payload := by
  intro other asList value again decoded
  rw [encoded] at again
  cases again
  exact back asList value decoded

theorem SameCodec.decodesBack {first second : PersistentTier} (same : SameCodec first second)
    {payload : Payload} (faithful : second.DecodesBack payload) : first.DecodesBack payload := by
  unfold DecodesBack
  rw [same.encode_eq, same.decode_eq]
  exact faithful

/-- What a typed read finds is decoded from the encoding of the payload of the last put, which
has its type. -/
theorem Files.exists_decoded_of_getTyped {tier : PersistentTier} {key : Key}
    {last : Option (Envelope Payload)} (files : tier.Files key last) {now : Instant}
    {type : PayloadType} {value : type.Value}
    (found : (tier.getTyped now key type).1 = .ok (some value)) :
    ∃ envelope written content asList, last = some envelope ∧
      envelope.payload = some ⟨type, written⟩ ∧ tier.encode ⟨type, written⟩ = .ok content ∧
      tier.decode type content asList = .ok value := by
  obtain ⟨found, read, holds⟩ := exists_envelope_of_getTyped found
  obtain ⟨remembered, _, _, recorded, readBack⟩ := exists_row_of_getEnvelope read
  obtain ⟨record, decodedValue, fetched, decoded, same⟩ := exists_record_of_readRow readBack
  rw [same] at holds
  cases files with
  | nothing reachable row absent =>
      rw [absent] at recorded
      cases recorded
  | put reachable held encoded row present =>
      rw [present] at recorded
      cases recorded
      rw [reachable] at fetched
      rw [Database.eq_of_record_eq_some row fetched] at decoded
      cases holds
      exact ⟨_, _, _, _, rfl, held, encoded, decoded⟩

/-- A payload that a typed read finds is that of the last put, which has its type. -/
theorem Files.payload_of_getTyped {tier : PersistentTier} {key : Key}
    {last : Option (Envelope Payload)} (files : tier.Files key last)
    (faithful : ∀ envelope ∈ last, ∀ payload ∈ envelope.payload, tier.DecodesBack payload)
    {now : Instant} {type : PayloadType} {value : type.Value}
    (found : (tier.getTyped now key type).1 = .ok (some value)) :
    ∃ envelope, last = some envelope ∧ envelope.payload = some ⟨type, value⟩ := by
  obtain ⟨envelope, written, content, asList, put, held, encoded, decoded⟩ :=
    files.exists_decoded_of_getTyped found
  have back : value = written :=
    faithful envelope put ⟨type, written⟩ held content asList value encoded decoded
  rw [back]
  exact ⟨envelope, put, held⟩

/-! ### Whole histories -/

theorem eq_put_of_lastPutAfter {key : Key} {tier : PersistentTier} {now : Instant}
    {last : Option (Envelope Payload)} {operation : Operation} {envelope : Envelope Payload}
    (put : tier.lastPutAfter now key last operation = some envelope) :
    last = some envelope ∨ operation = .put key envelope := by
  cases operation with
  | put other offered =>
      simp only [lastPutAfter] at put
      split at put
      · split at put
        · rename_i same
          rw [same, Option.some.inj put]
          exact Or.inr rfl
        · exact Or.inl put
      · exact Or.inl put
  | clear =>
      simp only [lastPutAfter] at put
      split at put
      · cases put
      · exact Or.inl put
  | getTyped | getEnvelope | getForRefresh | record | rowCount | canStream | stream
  | streamCancellable | invalidate | onCompanion => exact Or.inl put

/-- The last put of a key was made in the history. -/
theorem mem_of_lastPut {key : Key} {history : History Operation} {tier : PersistentTier}
    {last : Option (Envelope Payload)} {envelope : Envelope Payload}
    (put : lastPut key tier last history = some envelope) :
    last = some envelope ∨ ∃ now, (now, Operation.put key envelope) ∈ history := by
  induction history generalizing tier last with
  | nil => exact Or.inl put
  | cons event rest inductionHypothesis =>
      rcases inductionHypothesis put with here | ⟨now, later⟩
      · rcases eq_put_of_lastPutAfter here with before | made
        · exact Or.inl before
        · exact Or.inr ⟨event.1, by rw [← made]; exact List.mem_cons_self⟩
      · exact Or.inr ⟨now, List.mem_cons_of_mem _ later⟩

/-- In every state that a new tier reaches, the keys with a row are the keys with a
recorded type; row and type are those of the last put since the last clear; and a typed
read finds the payload of that put, at exactly its type, or nothing. -/
theorem run_isolates_types {tier : PersistentTier} {timeToLive : Duration}
    (new : tier.IsNew timeToLive) {history : History Operation}
    (faithful : ∀ moment key envelope, (moment, Operation.put key envelope) ∈ history →
      ∀ payload ∈ envelope.payload, tier.DecodesBack payload) :
    ∃ rows, (history.run perform tier).database = .table rows ∧ ∀ key,
      ((rows.get? key).isSome ↔ ((history.run perform tier).payloadTypes.get? key).isSome) ∧
      (∀ envelope, lastPut key tier none history = some envelope →
        ∃ payload content, envelope.payload = some payload ∧
          tier.encode payload = .ok content ∧
          rows.get? key = some (.ofContent envelope.provenance.query content) ∧
          (history.run perform tier).payloadTypes.get? key = some payload.type) ∧
      (lastPut key tier none history = none → rows.get? key = none) ∧
      ∀ now type value,
        ((history.run perform tier).getTyped now key type).1 = .ok (some value) →
          ∃ envelope, lastPut key tier none history = some envelope ∧
            envelope.payload = some ⟨type, value⟩ := by
  have files : ∀ key, (history.run perform tier).Files key (lastPut key tier none history) := by
    intro key
    apply Files.run
    exact .nothing new.database rfl (by rw [new.payloadTypes]; rfl)
  -- No operation changes how the new tier encodes and decodes.
  have same : SameCodec (history.run perform tier) tier :=
    SameCodec.run ⟨rfl, rfl, rfl⟩ history
  obtain ⟨rows, table⟩ := (files 0).reachable
  refine ⟨rows, table, fun key => ⟨Files.row_iff_type table (files key), ?_, ?_, ?_⟩⟩
  · intro envelope put
    have filed := files key
    rw [put] at filed
    rw [← same.encode_eq]
    exact Files.of_put table filed
  · intro never
    have filed := files key
    rw [never] at filed
    exact Files.of_nothing table filed
  · intro now type value found
    refine (files key).payload_of_getTyped ?_ found
    intro envelope put payload held
    rcases mem_of_lastPut put with never | ⟨moment, made⟩
    · cases never
    · exact same.decodesBack (faithful moment key envelope made payload held)

/-- A new tier that stores JSON text. -/
def jsonText : PersistentTier where
  settings := .standard
  serializer := .json
  compressor := .ofSettings (.ofAlgorithm .none)
  database := .empty
  payloadTypes := .empty
  companion := .create .day .stripPayload

/-- A truth value, overwritten with an optional one that is stored as the same text. -/
def overwritten : History Operation :=
  [(⟨0, 0⟩, .put 7 (.ofPayload (.bare .oneByQuery) ⟨.single .bool, true⟩)),
    (⟨1, 0⟩, .invalidate 7),
    (⟨2, 0⟩, .put 7 (.ofPayload (.bare .oneByQuery) ⟨.single (.option .bool), some true⟩)),
    (⟨3, 0⟩, .onCompanion (.purgeExpired .day))]

theorem getTyped_overwritten :
    jsonText.IsNew .day ∧
      (∀ moment key envelope, (moment, Operation.put key envelope) ∈ overwritten →
        ∀ payload ∈ envelope.payload, jsonText.DecodesBack payload) ∧
      ∀ now value, ((overwritten.run perform jsonText).getTyped now 7 (.single .bool)).1 ≠
        .ok (some value) := by
  have new : jsonText.IsNew .day :=
    isNew_of_create (rfl : create .standard .json .day .empty = .ok jsonText)
  have required : jsonText.DecodesBack ⟨.single .bool, true⟩ := by
    have encoded : jsonText.encode ⟨.single .bool, true⟩ = .ok (.text "true") := rfl
    apply decodesBack_of_encode encoded
    intro asList value decoded
    cases asList with
    | false => exact (Except.ok.inj decoded).symm
    | true => cases decoded
  have optional : jsonText.DecodesBack ⟨.single (.option .bool), some true⟩ := by
    have encoded : jsonText.encode ⟨.single (.option .bool), some true⟩ = .ok (.text "true") := rfl
    apply decodesBack_of_encode encoded
    intro asList value decoded
    cases asList with
    | false => exact (Except.ok.inj decoded).symm
    | true => cases decoded
  have faithful : ∀ moment key envelope, (moment, Operation.put key envelope) ∈ overwritten →
      ∀ payload ∈ envelope.payload, jsonText.DecodesBack payload := by
    intro moment key envelope put payload held
    simp only [overwritten, List.mem_cons, Prod.mk.injEq, Operation.put.injEq, reduceCtorEq,
      and_false, List.not_mem_nil, or_false, false_or] at put
    rcases put with ⟨_, _, rfl⟩ | ⟨_, _, rfl⟩
    · cases held
      exact required
    · cases held
      exact optional
  refine ⟨new, faithful, ?_⟩
  intro now value found
  obtain ⟨rows, _, filed⟩ := run_isolates_types new faithful
  obtain ⟨envelope, put, held⟩ := (filed 7).2.2.2 now _ value found
  cases put
  cases held

end PersistentTier

end ResultCache
