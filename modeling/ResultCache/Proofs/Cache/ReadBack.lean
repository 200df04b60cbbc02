import ResultCache.Proofs.Cache.Counters

/-!
Contract: what a typed read finds after a put.

Owns:
- `MemoryTier.KeepsPut` and `QueryCache.KeepsPut`, where a put keeps its payload;
- `QueryCache.Restores`, where a payload that was kept is read back;
- that a typed read finds the payload until it expires where it was kept, and nothing where it
  was stripped, at any instant.

Does not own: which puts succeed, and which payloads are restored.
-/

namespace ResultCache

/-- What is fresh has an expiry, and is fresh until then. -/
theorem Envelope.exists_expiry_of_isFreshAt (envelope : Envelope Payload) {now : Instant}
    (fresh : envelope.isFreshAt now = true) :
    ∃ expiry, envelope.expires = some expiry ∧
      ∀ later, later.before expiry = true → envelope.isFreshAt later = true := by
  unfold isFreshAt at fresh ⊢
  cases expires : envelope.expires with
  | none =>
      rw [expires] at fresh
      cases fresh
  | some expiry => exact ⟨expiry, rfl, fun _ early => early⟩

namespace PersistentTier

/-- The stored form of a payload is read back from its cell, and decodes to the payload as
the result of a fetch of a shape. -/
def Restores (tier : PersistentTier) (shape : ResultShape) (payload : Payload) : Prop :=
  ∀ content, tier.encode payload = .ok content →
    (Cell.ofContent content).content? tier.settings.textFormat = some content ∧
      tier.decode payload.type content shape.isListShaped = .ok payload.value

theorem getTyped_written {tier : PersistentTier} {now : Instant} {key : Key}
    {provenance : Provenance} {rows : KeyMap StoredRow} {payload : Payload}
    {content : StoredContent} (encoded : tier.encode payload = .ok content)
    (restores : tier.Restores provenance.shape payload) (later : Instant) :
    ((tier.written now key (.ofPayload provenance payload) rows payload content).getTyped later key
        payload.type).1 =
      .ok (if later.before (tier.companion.expiryFrom now) then some payload.value else none) := by
  obtain ⟨fits, decoded⟩ := restores content encoded
  let stamped : Envelope Payload := ⟨provenance, some payload, some (tier.companion.expiryFrom now)⟩
  let after := tier.written now key (.ofPayload provenance payload) rows payload content
  have entry : after.companion.entries.get? key = some stamped.metadataOnly := by
    change (tier.companion.put now key _).entries.get? key = _
    rw [MemoryTier.get?_put, if_pos rfl, MemoryTier.stored_metadataOnly]
    rfl
  have row : after.readRow key payload.type stamped.metadataOnly =
      .ok (some (stamped.withPayload payload.value)) :=
    readRow_of_row rfl (KeyMap.get?_insert_self _ _ _) fits decoded
  change (after.getEnvelope later key payload.type).1.map _ = _
  by_cases fresh : later.before (tier.companion.expiryFrom now) = true
  · rw [if_pos fresh, getEnvelope_of_fresh entry fresh (KeyMap.get?_insert_self _ _ _), if_pos rfl,
      row]
    rfl
  · rw [if_neg fresh, getEnvelope_of_stale]
    · rfl
    · intro remembered entry'
      rw [entry] at entry'
      cases entry'
      exact Bool.eq_false_of_not_eq_true fresh

end PersistentTier

namespace MemoryTier

variable {tier : MemoryTier} {key : Key}

/-- Whether a put keeps its payload: under the policy to keep it, or where there is no entry
yet. -/
def KeepsPut (tier : MemoryTier) (key : Key) : Prop :=
  tier.policy = .keepPayload ∨ tier.contains key = false

instance (tier : MemoryTier) (key : Key) : Decidable (tier.KeepsPut key) :=
  inferInstanceAs (Decidable (_ ∨ _))

theorem not_keepsPut_iff :
    ¬ tier.KeepsPut key ↔ tier.entries.contains key = true ∧ tier.policy = .stripPayload := by
  unfold KeepsPut contains
  cases tier.policy <;> simp

/-- A typed read finds what was put, until it expires, where it was kept. -/
theorem getTyped_put (tier : MemoryTier) (now : Instant) (key : Key) (provenance : Provenance)
    (payload : Payload) (later : Instant) :
    ((tier.put now key (.ofPayload provenance payload)).getTyped later key payload.type).1 =
      if tier.KeepsPut key ∧ later.before (tier.expiryFrom now) = true then some payload.value
      else none := by
  have entry := tier.get?_put now key key (.ofPayload provenance payload)
  rw [if_pos rfl, stored_eq] at entry
  change ((tier.put now key _).getEnvelope later key payload.type).1.bind Envelope.payload = _
  rw [getEnvelope_eq_bind, entry, Option.bind_some]
  by_cases keeps : tier.KeepsPut key
  · rw [if_neg fun strips => not_keepsPut_iff.2 strips keeps]
    by_cases fresh : later.before (tier.expiryFrom now) = true
    · simp [keeps, fresh, Envelope.ofPayload, Envelope.downcast?, Envelope.withPayload,
        Envelope.isFreshAt]
    · simp [fresh, Envelope.ofPayload, Envelope.isFreshAt]
  · -- Nothing was kept that could be served.
    have unserved : ¬ (tier.KeepsPut key ∧ later.before (tier.expiryFrom now) = true) :=
      fun served => keeps served.1
    rw [if_pos (not_keepsPut_iff.1 keeps), if_neg unserved]
    rfl

end MemoryTier

namespace QueryCache

/-- A payload that the cache kept is read back as the result of a fetch of a shape. In memory
it is kept as it is. -/
def Restores (cache : QueryCache) (shape : ResultShape) (payload : Payload) : Prop :=
  match cache.stack with
  | .memory _ => True
  | .persistent tier => tier.Restores shape payload

/-- Whether a put keeps its payload: a database always does. -/
def KeepsPut (cache : QueryCache) (key : Key) : Prop :=
  cache.isPersistent = true ∨ cache.metadata.KeepsPut key

instance (cache : QueryCache) (key : Key) : Decidable (cache.KeepsPut key) :=
  inferInstanceAs (Decidable (_ ∨ _))

variable {cache : QueryCache} {now : Instant} {key : Key} {type : PayloadType}
  {value : type.Value}

theorem not_keepsPut_iff :
    ¬ cache.KeepsPut key ↔ cache.isPersistent = false ∧
      cache.metadata.entries.contains key = true ∧ cache.metadata.policy = .stripPayload := by
  unfold KeepsPut
  rw [not_or, MemoryTier.not_keepsPut_iff, Bool.not_eq_true]

/-- A typed read finds what was put last, until it expires, where it was kept. -/
theorem getTyped_put {provenance : Provenance} {after : QueryCache}
    (restores : cache.Restores provenance.shape ⟨type, value⟩)
    (wrote : cache.put now key (.ofPayload provenance ⟨type, value⟩) = (.ok (), after))
    (later : Instant) :
    (after.getTyped later key type).1 =
      .ok (if cache.KeepsPut key ∧ later.before (cache.metadata.expiryFrom now) = true then
        some value else none) := by
  obtain ⟨signature, stack, keys⟩ := cache
  cases stack with
  | memory tier =>
      cases wrote
      change Except.ok ((tier.put now key _).getTyped later key type).1 = _
      rw [MemoryTier.getTyped_put]
      congr 1
      simp [KeepsPut, isPersistent, metadata]
  | persistent tier =>
      let envelope : Envelope Payload := .ofPayload provenance ⟨type, value⟩
      change ((tier.put now key envelope).1,
        QueryCache.mk signature (.persistent (tier.put now key envelope).2) keys) = _ at wrote
      rcases tier.put_cases now key envelope with
        ⟨_, failed⟩ | ⟨rows, payload, content, table, held, encoded, succeeded⟩
      · rw [failed] at wrote
        cases wrote
      · rw [succeeded] at wrote
        cases wrote
        cases held
        have keeps : KeepsPut ⟨signature, .persistent tier, keys⟩ key := .inl rfl
        simp only [keeps, true_and]
        exact PersistentTier.getTyped_written encoded restores later

/-- What a typed read finds, it finds until it expires. -/
theorem exists_expiry_of_hit (hit : (cache.getTyped now key type).1 = .ok (some value)) :
    ∃ envelope expiry, cache.metadata.entries.get? key = some envelope ∧
      envelope.expires = some expiry ∧
      ∀ later, later.before expiry = true →
        (cache.getTyped later key type).1 = .ok (some value) := by
  obtain ⟨signature, stack, keys⟩ := cache
  cases stack with
  | memory tier =>
      have found : (tier.getTyped now key type).1 = some value := Except.ok.inj hit
      obtain ⟨envelope, entry, held, fresh⟩ :=
        MemoryTier.getTyped_eq_some_iff_of_get?.1 found
      obtain ⟨expiry, expires, lasts⟩ := envelope.exists_expiry_of_isFreshAt fresh
      refine ⟨envelope, expiry, entry, expires, fun later early => ?_⟩
      exact congrArg Except.ok
        (MemoryTier.getTyped_eq_some_iff_of_get?.2 ⟨envelope, entry, held, lasts later early⟩)
  | persistent tier =>
      change (tier.getTyped now key type).1 = _ at hit
      obtain ⟨found, read, held⟩ := PersistentTier.exists_envelope_of_getTyped hit
      obtain ⟨envelope, entry, fresh, recorded, row⟩ :=
        PersistentTier.exists_row_of_getEnvelope read
      obtain ⟨expiry, expires, lasts⟩ := envelope.exists_expiry_of_isFreshAt fresh
      refine ⟨envelope, expiry, entry, expires, fun later early => ?_⟩
      change (tier.getEnvelope later key type).1.map _ = _
      rw [PersistentTier.getEnvelope_of_fresh entry (lasts later early) recorded, if_pos rfl, row]
      exact congrArg Except.ok held

/-- A put stamps the expiry of its entry. -/
theorem expires_of_put {envelope : Envelope Payload} {after : QueryCache}
    (wrote : cache.put now key envelope = (.ok (), after)) {kept : Envelope Payload}
    (entry : after.metadata.entries.get? key = some kept) :
    kept.expires = some (cache.metadata.expiryFrom now) := by
  rcases cache.put_cases now key envelope with ⟨_, failed⟩ | ⟨given, _, _, remembered⟩
  · rw [failed] at wrote
    cases wrote
  · rw [wrote] at remembered
    rw [remembered, MemoryTier.get?_put, if_pos rfl, MemoryTier.stored_eq] at entry
    cases entry
    rfl

end QueryCache

end ResultCache
