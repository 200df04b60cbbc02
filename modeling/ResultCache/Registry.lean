import ResultCache.Cache
import ResultCache.Config.Basic
import ResultCache.SortedMap
import ResultCache.Storage

/-!
Contract: the caches of all signatures.

Owns:
- `Registry`, caches under their signatures and the storage that their databases
  are kept in;
- registration, which refuses a signature that is there already;
- `act`, the one way to operate on a registered cache, which hands it its database
  as it is in storage and takes back what the cache made of it;
- the registry of a configuration: every signature in order, and the first failure
  of any.

A registry is never half built: when a configuration fails, there is no registry.
-/

namespace ResultCache

/-- A cache in a registry, with its connection when its database is a file. -/
structure Registered where
  cache : QueryCache
  handle : Option Handle

/-- Caches by signature. -/
structure Registry where
  caches : SortedMap String Registered
  storage : Storage

namespace Registry

def empty (storage : Storage) : Registry := ⟨.empty, storage⟩

def find? (registry : Registry) (signature : String) : Option Registered :=
  (registry.caches.entries.find? fun entry => entry.1 = signature).map Prod.snd

def contains (registry : Registry) (signature : String) : Bool :=
  (registry.find? signature).isSome

def signatures (registry : Registry) : List String := registry.caches.entries.map Prod.fst

def size (registry : Registry) : Nat := registry.caches.entries.length

/-- Registers a cache. The connection of a cache that is refused is closed. -/
def register (registry : Registry) (cache : QueryCache) (handle : Option Handle) :
    Except CacheError Unit × Registry :=
  if registry.contains cache.signature then
    (.error (.duplicateSignature cache.signature),
      { registry with storage := (handle.map registry.storage.close).getD registry.storage })
  else
    (.ok (), { registry with caches := registry.caches.insert cache.signature ⟨cache, handle⟩ })

/-- A registered cache with its database as it is in storage. -/
def load (storage : Storage) (registered : Registered) : QueryCache :=
  match registered.handle, registered.cache.stack with
  | some handle, .persistent tier =>
    { registered.cache with
      stack := .persistent { tier with database := storage.view handle } }
  | _, _ => registered.cache

/-- The storage after a cache has worked on its database. -/
def saveBack (storage : Storage) (handle : Option Handle) (cache : QueryCache) : Storage :=
  match handle, cache.stack with
  | some handle, .persistent tier => storage.save handle tier.database
  | _, _ => storage

def act {Result : Type} (registry : Registry) (signature : String)
    (action : QueryCache → Result × QueryCache) : Except CacheError (Result × Registry) :=
  match registry.find? signature with
  | none => .error (.unknownSignature signature)
  | some registered =>
    let (result, cache) := action (load registry.storage registered)
    .ok (result,
      { caches := registry.caches.insert signature ⟨cache, registered.handle⟩
        storage := saveBack registry.storage registered.handle cache })

def inspect {Result : Type} (registry : Registry) (signature : String)
    (view : QueryCache → Result) : Except CacheError Result :=
  match registry.find? signature with
  | none => .error (.unknownSignature signature)
  | some registered => .ok (view (load registry.storage registered))

/-- Clears the caches of some signatures, up to the first that fails. -/
def clearEach : List String → Registry → Except CacheError Unit × Registry
  | [], registry => (.ok (), registry)
  | signature :: rest, registry =>
    match registry.act signature QueryCache.clear with
    | .error failure => (.error failure, registry)
    | .ok (.error failure, registry) => (.error failure, registry)
    | .ok (.ok (), registry) => clearEach rest registry

def clearAll (registry : Registry) : Except CacheError Unit × Registry :=
  clearEach registry.signatures registry

/-- The empty registry over what storage keeps when every cache is gone. -/
def restart (registry : Registry) : Registry := empty registry.storage.closeAll

/-! ### Opening caches -/

def openMemory (registry : Registry) (signature : String) (timeToLive : Duration)
    (policy : ReplacementPolicy) (keys : KeyDeriver) : Except CacheError Unit × Registry :=
  registry.register ⟨signature, .memory (.create timeToLive policy), keys⟩ none

def openPersistent (registry : Registry) (signature : String) (settings : Persistent.Settings)
    (serializer : Serializer) (timeToLive : Duration) (keys : KeyDeriver) :
    Except CacheError Unit × Registry :=
  match PersistentTier.validate settings serializer with
  | .error failure => (.error failure, registry)
  | .ok () =>
    match registry.storage.openDatabase settings with
    | .error failure => (.error failure, registry)
    | .ok (handle, database, storage) =>
      match PersistentTier.create settings serializer timeToLive database with
      | .error failure =>
        (.error failure,
          { registry with storage := (handle.map storage.close).getD storage })
      | .ok tier =>
        let cache : QueryCache := ⟨signature, .persistent tier, keys⟩
        register { registry with storage := saveBack storage handle cache } cache handle

/-- Makes the cache of a configured signature and registers it. -/
def openConfigured (registry : Registry) (signature : Config.Signature) :
    Except CacheError Unit × Registry :=
  let keys : KeyDeriver := ⟨signature.includeLiterals⟩
  match signature.persistent with
  | none =>
    registry.openMemory signature.name signature.timeToLive signature.replacement keys
  | some config =>
    match config.toSettings with
    | .error failure => (.error failure, registry)
    | .ok settings =>
      registry.openPersistent signature.name settings (.ofFormat config.format)
        signature.timeToLive keys

/-- The registry with the caches of configured signatures, unless one fails. -/
def openEach : List Config.Signature → Registry → Except CacheError Registry
  | [], registry => .ok registry
  | signature :: rest, registry =>
    match registry.openConfigured signature with
    | (.error failure, _) => .error failure
    | (.ok (), registry) => openEach rest registry

def ofConfig (config : CacheConfig) (storage : Storage) : Except CacheError Registry :=
  openEach config.signatures (empty storage)

end Registry

end ResultCache
