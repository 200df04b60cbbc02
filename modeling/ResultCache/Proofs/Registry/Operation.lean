import ResultCache.Proofs.Cache.Operation
import ResultCache.Proofs.Storage
import ResultCache.Registry

/-!
Contract: the operations on the caches of a registry as data.

Owns:
- `Registry.Call`, an operation on the cache of a signature, with the registry that it
  leaves and the answer that it gives, which is a failure for a signature that is unknown;
- what is registered after a call, and what a call does to the storage: caches keep their
  connections, and files keep theirs.

Does not own: how a registry comes about.
-/

namespace ResultCache

namespace Registry

variable {registry : Registry} {registered : Registered} {signature : String}

/-- An operation on the cache of a signature. -/
structure Call where
  signature : String
  operation : QueryCache.Operation

/-- The registry that a call leaves. -/
def perform (registry : Registry) (now : Instant) (call : Call) : Registry :=
  match registry.act call.signature fun cache =>
    (cache.answer now call.operation, cache.perform now call.operation) with
  | .error _ => registry
  | .ok (_, after) => after

def answer (registry : Registry) (now : Instant) (call : Call) :
    Except CacheError QueryCache.Answer :=
  (registry.act call.signature fun cache =>
    (cache.answer now call.operation, cache.perform now call.operation)).map Prod.fst

/-! ### What a call does -/

theorem perform_of_unknown {call : Call} (unknown : registry.find? call.signature = none)
    (now : Instant) : registry.perform now call = registry := by
  unfold perform act
  rw [unknown]

theorem perform_of_found {call : Call} (found : registry.find? call.signature = some registered)
    (now : Instant) :
    registry.perform now call =
      let cache := (load registry.storage registered).perform now call.operation
      { caches := registry.caches.insert call.signature ⟨cache, registered.handle⟩
        storage := saveBack registry.storage registered.handle cache } := by
  unfold perform act
  rw [found]

theorem answer_of_unknown {call : Call} (unknown : registry.find? call.signature = none)
    (now : Instant) :
    registry.answer now call = .error (.unknownSignature call.signature) := by
  unfold answer act
  rw [unknown]
  rfl

theorem answer_of_found {call : Call} (found : registry.find? call.signature = some registered)
    (now : Instant) :
    registry.answer now call =
      .ok ((load registry.storage registered).answer now call.operation) := by
  unfold answer act
  rw [found]
  rfl

theorem find?_eq_none_of_not_contains (absent : ¬registry.contains signature = true) :
    registry.find? signature = none := by
  rw [contains, Bool.not_eq_true, Option.isSome_eq_false_iff] at absent
  exact Option.isNone_iff_eq_none.1 absent

/-- A registration is found under its signature, and others as before. -/
theorem find?_insert (caches : SortedMap String Registered) (storage : Storage)
    (signature other : String) (registered : Registered) :
    find? ⟨caches.insert signature registered, storage⟩ other =
      if signature = other then some registered else find? ⟨caches, storage⟩ other :=
  SortedMap.find?_insert caches signature other registered

theorem find?_perform (registry : Registry) (now : Instant) (call : Call) (other : String) :
    (registry.perform now call).find? other =
      if call.signature = other then
        (registry.find? call.signature).map fun registered =>
          ⟨(load registry.storage registered).perform now call.operation, registered.handle⟩
      else registry.find? other := by
  cases found : registry.find? call.signature with
  | none =>
      rw [perform_of_unknown found]
      by_cases same : call.signature = other
      · rw [if_pos same, ← same]
        exact found
      · rw [if_neg same]
  | some registered =>
      rw [perform_of_found found]
      exact find?_insert _ _ _ _ _

/-- A call leaves every cache its connection. -/
theorem find?_of_find?_perform {now : Instant} {call : Call} {other : String} {after : Registered}
    (found : (registry.perform now call).find? other = some after) :
    ∃ before, registry.find? other = some before ∧ after.handle = before.handle := by
  rw [find?_perform] at found
  by_cases same : call.signature = other
  · rw [if_pos same] at found
    obtain ⟨before, there, rfl⟩ := Option.map_eq_some_iff.1 found
    exact ⟨before, same ▸ there, rfl⟩
  · rw [if_neg same] at found
    exact ⟨after, found, rfl⟩

/-- What is saved goes through the connection of the cache, or nothing is. -/
theorem saveBack_cases (storage : Storage) (handle : Option Handle) (cache : QueryCache) :
    saveBack storage handle cache = storage ∨
      ∃ connection database, handle = some connection ∧
        saveBack storage handle cache = storage.save connection database := by
  unfold saveBack
  split
  · exact .inr ⟨_, _, rfl, rfl⟩
  · exact .inl rfl

theorem storage_perform_cases (registry : Registry) (now : Instant) (call : Call) :
    (registry.perform now call).storage = registry.storage ∨
      ∃ registered handle database, registry.find? call.signature = some registered ∧
        registered.handle = some handle ∧
        (registry.perform now call).storage = registry.storage.save handle database := by
  cases found : registry.find? call.signature with
  | none =>
      rw [perform_of_unknown found]
      exact .inl rfl
  | some registered =>
      rw [perform_of_found found]
      rcases saveBack_cases registry.storage registered.handle
          ((load registry.storage registered).perform now call.operation) with
        unchanged | ⟨handle, database, held, saved⟩
      · exact .inl unchanged
      · exact .inr ⟨registered, handle, database, rfl, held, saved⟩

/-- A call opens and closes nothing. -/
theorem connections?_perform (registry : Registry) (now : Instant) (call : Call)
    (location : Location) :
    (registry.perform now call).storage.connections? location =
      registry.storage.connections? location := by
  rcases registry.storage_perform_cases now call with unchanged | ⟨_, _, _, _, _, saved⟩
  · rw [unchanged]
  · rw [saved, Storage.connections?_save]

end Registry

end ResultCache
