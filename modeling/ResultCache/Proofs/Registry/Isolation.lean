import ResultCache.Proofs.Registry.Operation

/-!
Contract: when the caches of a registry keep out of one another's way.

Owns:
- `Registry.Isolates`, that the answers through one signature are the same when the calls
  through all others are left out;
- `Registry.Apart`, that there is a lock on the file of a cache when others have it too,
  which every call keeps;
- `Registry.Alike`, two registries that are the same to one signature, which its own calls
  keep so, and which the calls of others in one of the two keep so when it is apart.

Does not own: which configurations keep caches apart.
-/

namespace ResultCache

namespace Registry

variable {registry first second : Registry} {signature : String}

/-- What is answered through a signature, and nothing for calls through another. -/
def answerThrough (signature : String) (registry : Registry) (now : Instant) (call : Call) :
    Option (Except CacheError QueryCache.Answer) :=
  if call.signature = signature then some (registry.answer now call) else none

/-- The answers through a signature are those of the run in which it is alone. -/
def Isolates (registry : Registry) (signature : String) : Prop :=
  ∀ history : History Call,
    (history.trace perform (answerThrough signature) registry).reduceOption =
      ((history.only fun call => call.signature = signature).trace perform
        (answerThrough signature) registry).reduceOption

/-! ### A cache that is apart -/

/-- Of a cache and another with its file, one is kept out by a lock. -/
def Apart (registry : Registry) (signature : String) : Prop :=
  ∀ {otherSignature : String} {registered other : Registered} {handle otherHandle : Handle},
    signature ≠ otherSignature → registry.find? signature = some registered →
    registry.find? otherSignature = some other → registered.handle = some handle →
    other.handle = some otherHandle → otherHandle.location = handle.location →
    otherHandle.number ≠ handle.number ∧
      ∃ connections, registry.storage.connections? handle.location = some connections ∧
        ∃ connection ∈ connections, connection.exclusive = true

theorem Apart.perform (apart : registry.Apart signature) (now : Instant) (call : Call) :
    (registry.perform now call).Apart signature := by
  intro otherSignature registered other handle otherHandle differs found otherFound held otherHeld
    location
  obtain ⟨before, foundBefore, sameHandle⟩ := find?_of_find?_perform found
  obtain ⟨otherBefore, otherFoundBefore, otherSameHandle⟩ := find?_of_find?_perform otherFound
  rw [connections?_perform]
  exact apart differs foundBefore otherFoundBefore (sameHandle ▸ held)
    (otherSameHandle ▸ otherHeld) location

/-! ### Registries that are the same to one signature -/

/-- Two registries that a signature cannot tell apart. -/
structure Alike (signature : String) (first second : Registry) : Prop where
  found : first.find? signature = second.find? signature
  seen : ∀ registered handle, second.find? signature = some registered →
    registered.handle = some handle → Storage.SeenAlike handle first.storage second.storage

namespace Alike

theorem load_eq (alike : Alike signature first second) {registered : Registered}
    (found : second.find? signature = some registered) :
    load first.storage registered = load second.storage registered := by
  unfold load
  cases held : registered.handle with
  | none => rfl
  | some handle =>
      have views := (alike.seen registered handle found held).view
      cases registered.cache.stack with
      | memory tier => rfl
      | persistent tier =>
          dsimp only
          rw [views]

theorem answer_eq (alike : Alike signature first second) (now : Instant) {call : Call}
    (own : call.signature = signature) : first.answer now call = second.answer now call := by
  subst own
  cases found : second.find? call.signature with
  | none => rw [answer_of_unknown found, answer_of_unknown (alike.found.trans found)]
  | some registered =>
      rw [answer_of_found found, answer_of_found (alike.found.trans found), alike.load_eq found]

/-- A call through the signature itself, in both registries. -/
theorem performOwn (alike : Alike signature first second) (now : Instant) {call : Call}
    (own : call.signature = signature) :
    Alike signature (first.perform now call) (second.perform now call) := by
  subst own
  cases found : second.find? call.signature with
  | none =>
      rw [perform_of_unknown found, perform_of_unknown (alike.found.trans found)]
      exact alike
  | some registered =>
      rw [perform_of_found found, perform_of_found (alike.found.trans found), alike.load_eq found]
      constructor
      · rw [find?_insert, find?_insert, if_pos rfl, if_pos rfl]
      · intro after handle foundAfter held
        rw [find?_insert, if_pos rfl] at foundAfter
        cases foundAfter
        have seen := alike.seen registered handle found held
        dsimp only at held ⊢
        rw [held]
        unfold saveBack
        cases ((load second.storage registered).perform now call.operation).stack with
        | memory tier => exact seen
        | persistent tier => exact seen.save tier.database

/-- A call through another signature, in one of the registries. -/
theorem performOther (alike : Alike signature first second) (apart : first.Apart signature)
    (now : Instant) {call : Call} (other : call.signature ≠ signature) :
    Alike signature (first.perform now call) second := by
  constructor
  · rw [find?_perform, if_neg other]
    exact alike.found
  · intro registered handle found held
    have seen := alike.seen registered handle found held
    rcases first.storage_perform_cases now call with
      unchanged | ⟨actor, actorHandle, database, actorFound, actorHeld, saved⟩
    · rw [unchanged]
      exact seen
    · have foundFirst := alike.found.trans found
      rw [saved]
      refine ⟨?_, ?_⟩
      · rw [Storage.connections?_save]
        exact seen.connections
      · rw [Storage.view_save_of_apart (apart (Ne.symm other) foundFirst actorFound held actorHeld)]
        exact seen.view

end Alike

/-- A cache that is apart is isolated from all others. -/
theorem isolates_of_apart (apart : registry.Apart signature) : registry.Isolates signature := by
  intro history
  have step : ∀ now first second call,
      Alike signature first second ∧ first.Apart signature →
      Alike signature (first.perform now call)
          (History.passing (fun call => call.signature = signature) perform second now call) ∧
        (first.perform now call).Apart signature := by
    rintro now first second call ⟨alike, apart⟩
    refine ⟨?_, apart.perform now call⟩
    unfold History.passing
    by_cases own : call.signature = signature
    · rw [if_pos (decide_eq_true own)]
      exact alike.performOwn now own
    · rw [if_neg (by simpa using own)]
      exact alike.performOther apart now own
  have observed : ∀ now first second call,
      Alike signature first second ∧ first.Apart signature →
      answerThrough signature first now call = answerThrough signature second now call := by
    rintro now first second call ⟨alike, _⟩
    unfold answerThrough
    by_cases own : call.signature = signature
    · rw [if_pos own, if_pos own, alike.answer_eq now own]
    · rw [if_neg own, if_neg own]
  have silent : ∀ registry now (call : Call), decide (call.signature = signature) ≠ true →
      answerThrough signature registry now call = none := by
    intro registry now call other
    exact if_neg (by simpa using other)
  have same : Alike signature registry registry := ⟨rfl, fun _ _ _ _ => ⟨rfl, rfl⟩⟩
  rw [History.trace_only silent]
  apply congrArg List.reduceOption
  exact History.trace_eq step observed history ⟨same, apart⟩

end Registry

end ResultCache
