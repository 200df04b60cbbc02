import ResultCache.Proofs.Registry.Isolation

/-!
Contract: what the registry of a configuration is like before the first call.

Owns:
- `Registry.build`, the cache of one configured signature and the storage behind it, and that
  opening a signature is building its cache and registering it;
- `Registry.Opens`, what building the cache of one configured signature does to storage;
- `Registry.Built`, what holds of a registry in which the caches of some signatures have
  been opened: which connections there are, to which files, under which numbers and locks,
  and that every file has an empty table; opening one more keeps it so;
- `CacheConfig.KeepsApart`, and that the cache of a signature that is kept apart is apart.

Does not own: configurations that fail, for which there is no registry.
-/

namespace ResultCache

namespace Config.Signature

/-- The file that the database of a signature is kept in. -/
def location? (signature : Signature) : Option Location :=
  signature.persistent.bind fun config => config.location?

/-- Whether the tier of a signature locks its database. -/
def locks (signature : Signature) : Bool :=
  signature.persistent.any fun config => config.exclusiveLocking

end Config.Signature

/-- When others have their databases in the file of a signature too, one of the signatures
that do locks it. -/
def CacheConfig.KeepsApart (config : CacheConfig) (signature : Config.Signature) : Prop :=
  ∀ other ∈ config.signatures, signature.name ≠ other.name →
    ∀ location, signature.location? = some location → other.location? = some location →
      ∃ locker ∈ config.signatures, locker.location? = some location ∧ locker.locks = true

namespace Config.Section

/-- The settings that a section asks for have the tuning and the compression that it says. -/
theorem eq_of_toSettings {config : Section} {settings : Persistent.Settings}
    (asked : config.toSettings = .ok settings) :
    settings = ⟨config.toTuning, .ofAlgorithm config.compression⟩ := by
  unfold toSettings at asked
  split at asked
  · cases asked
  · split at asked
    · cases asked
    · split at asked
      · cases asked
      · cases asked
        rfl

/-- A section whose settings exist passes the checks of the tier as well. -/
theorem validate_of_toSettings {config : Section} {settings : Persistent.Settings}
    (asked : config.toSettings = .ok settings) :
    PersistentTier.validate settings (.ofFormat config.format) = .ok () := by
  unfold toSettings at asked
  split at asked
  · cases asked
  split at asked
  · cases asked
  rename_i makesText
  split at asked
  · cases asked
  rename_i uncompressed
  cases asked
  have supports : (Serializer.ofFormat config.format).supportsText = config.format.supportsText := by
    cases config.format <;> rfl
  unfold PersistentTier.validate
  dsimp only
  rw [supports, if_neg makesText]
  exact if_neg uncompressed

end Config.Section

namespace Registry

variable {registry after : Registry} {registered : Registered} {signature : Config.Signature}

/-! ### Building one cache -/

/-- The cache of a section with its connection, and the storage with its database. -/
def build (storage : Storage) (signature : Config.Signature) :
    Except CacheError (Registered × Storage) :=
  let keys : KeyDeriver := ⟨signature.includeLiterals⟩
  match signature.persistent with
  | none =>
    let tier := MemoryTier.create signature.timeToLive signature.replacement
    .ok (⟨⟨signature.name, .memory tier, keys⟩, none⟩, storage)
  | some config => do
    let settings ← config.toSettings
    let (handle, database, opened) ← storage.openDatabase settings
    let tier ←
      PersistentTier.create settings (.ofFormat config.format) signature.timeToLive database
    let cache : QueryCache := ⟨signature.name, .persistent tier, keys⟩
    return (⟨cache, handle⟩, saveBack opened handle cache)

/-- What is built: a cache in memory, or one over the database that its section asks for. -/
theorem build_cases {storage later : Storage}
    (built : build storage signature = .ok (registered, later)) :
    (signature.persistent = none ∧ later = storage ∧
      registered = ⟨⟨signature.name,
        .memory (.create signature.timeToLive signature.replacement),
        ⟨signature.includeLiterals⟩⟩, none⟩) ∨
    ∃ config settings handle database opened tier, signature.persistent = some config ∧
      config.toSettings = .ok settings ∧
      storage.openDatabase settings = .ok (handle, database, opened) ∧
      PersistentTier.create settings (.ofFormat config.format) signature.timeToLive database =
        .ok tier ∧
      registered =
        ⟨⟨signature.name, .persistent tier, ⟨signature.includeLiterals⟩⟩, handle⟩ ∧
      later = saveBack opened handle registered.cache := by
  unfold build at built
  dsimp only at built
  split at built
  · rename_i inMemory
    cases built
    exact .inl ⟨inMemory, rfl, rfl⟩
  · rename_i config persistent
    obtain ⟨settings, asked, opens⟩ := CacheError.exists_ok_of_bind built
    obtain ⟨⟨handle, database, opened⟩, isOpen, creates⟩ := CacheError.exists_ok_of_bind opens
    obtain ⟨tier, created, done⟩ := CacheError.exists_ok_of_bind creates
    cases done
    exact .inr ⟨config, settings, handle, database, opened, tier, persistent, asked, isOpen,
      created, rfl, rfl⟩

theorem name_of_build {storage later : Storage}
    (built : build storage signature = .ok (registered, later)) :
    registered.cache.signature = signature.name := by
  rcases build_cases built with ⟨_, _, rfl⟩ | ⟨_, _, _, _, _, _, _, _, _, _, rfl, _⟩
  · rfl
  · rfl

/-- Opening a section is building its cache and then registering what was built. -/
theorem openConfigured_eq (registry : Registry) (signature : Config.Signature) :
    ∃ left, registry.openConfigured signature =
      match build registry.storage signature with
      | .error failure => (.error failure, left)
      | .ok (registered, storage) =>
        register ⟨registry.caches, storage⟩ registered.cache registered.handle := by
  unfold openConfigured build
  dsimp only
  cases signature.persistent with
  | none => exact ⟨registry, rfl⟩
  | some config =>
      dsimp only
      cases asked : config.toSettings with
      | error failure => exact ⟨registry, rfl⟩
      | ok settings =>
          dsimp only [bind, Except.bind]
          unfold openPersistent
          rw [Config.Section.validate_of_toSettings asked]
          dsimp only
          cases registry.storage.openDatabase settings with
          | error failure => exact ⟨registry, rfl⟩
          | ok opened =>
              obtain ⟨handle, database, opened⟩ := opened
              dsimp only
              cases PersistentTier.create settings (.ofFormat config.format) signature.timeToLive
                database with
              | error failure => exact ⟨_, rfl⟩
              | ok tier => exact ⟨registry, rfl⟩

/-- A section is built, its name is looked up, and only then its cache is registered. -/
theorem openEach_cons (signature : Config.Signature) (rest : List Config.Signature)
    (registry : Registry) :
    openEach (signature :: rest) registry =
      match build registry.storage signature with
      | .error failure => .error failure
      | .ok (registered, storage) =>
        if registry.contains signature.name then .error (.duplicateSignature signature.name)
        else openEach rest ⟨registry.caches.insert signature.name registered, storage⟩ := by
  obtain ⟨left, opened⟩ := registry.openConfigured_eq signature
  rw [openEach, opened]
  cases built : build registry.storage signature with
  | error failure => rfl
  | ok made =>
      obtain ⟨registered, storage⟩ := made
      dsimp only
      unfold register
      rw [name_of_build built]
      by_cases taken : registry.contains signature.name = true
      · rw [if_pos taken, if_pos (show contains ⟨registry.caches, storage⟩ _ = true from taken)]
      · rw [if_neg taken, if_neg (show ¬contains ⟨registry.caches, storage⟩ _ = true from taken)]

/-- What opening the cache of a configured signature does to storage, and what it
registers: a cache without a connection, or a new one with a connection to a file, in which
it leaves an empty table. -/
inductive Opens (before : Storage) (signature : Config.Signature) : Registered → Storage → Prop
  | privately {registered : Registered} (alone : signature.location? = none)
      (unconnected : registered.handle = none) : Opens before signature registered before
  | onFile {location : Location} {tier : PersistentTier} {format : Format} {keys : KeyDeriver}
      {storage : Storage} (located : signature.location? = some location)
      (new : tier.IsNew signature.timeToLive) (serializer : tier.serializer = .ofFormat format)
      (compressor : tier.compressor = .ofSettings tier.settings.compression)
      (connects : before.Connects location signature.locks .empty storage) :
      Opens before signature
        ⟨⟨signature.name, .persistent tier, keys⟩, some ⟨location, before.nextNumber⟩⟩ storage

/-- A tier that is created is put into working order by its settings. -/
theorem create_eq {settings : Persistent.Settings} {serializer : Serializer}
    {timeToLive : Duration} {database : Database} {tier : PersistentTier}
    (created : PersistentTier.create settings serializer timeToLive database = .ok tier) :
    tier.settings = settings ∧ tier.serializer = serializer ∧
      tier.compressor = .ofSettings settings.compression ∧ database ≠ .locked := by
  obtain ⟨_, _, opened⟩ := CacheError.exists_ok_of_bind created
  obtain ⟨recreated, made, done⟩ := CacheError.exists_ok_of_bind opened
  cases done
  refine ⟨rfl, rfl, rfl, ?_⟩
  rintro rfl
  cases made

theorem opens_of_build {storage : Storage}
    (built : build registry.storage signature = .ok (registered, storage)) :
    Opens registry.storage signature registered storage := by
  rcases build_cases built with ⟨inMemory, rfl, rfl⟩ |
    ⟨config, settings, handle, database, opened, tier, persistent, asked, isOpen, created, rfl,
      rfl⟩
  · refine .privately ?_ rfl
    rw [Config.Signature.location?, inMemory]
    rfl
  · have tuning := congrArg Persistent.Settings.toTuning (Config.Section.eq_of_toSettings asked)
    have location : signature.location? = settings.location? := by
      rw [Config.Signature.location?, persistent, Option.bind_some, tuning]
    have locks : signature.locks = settings.exclusiveLocking := by
      rw [Config.Signature.locks, persistent, Option.any_some, tuning]
    obtain ⟨sameSettings, serializer, compressor, reached⟩ := create_eq created
    have new := PersistentTier.isNew_of_create created
    rcases Storage.openDatabase_cases isOpen with
      ⟨alone, rfl, rfl⟩ | ⟨place, located, rfl, connects⟩
    · exact .privately (location.trans alone) rfl
    · have saved := connects.save reached .empty
      rw [← locks] at saved
      rw [← sameSettings] at compressor
      have left : saveBack opened (some ⟨place, registry.storage.nextNumber⟩)
          ⟨signature.name, .persistent tier, ⟨signature.includeLiterals⟩⟩ =
            opened.save ⟨place, registry.storage.nextNumber⟩ .empty := by
        unfold saveBack
        dsimp only
        rw [new.database]
      rw [left]
      exact .onFile (location.trans located) new serializer compressor saved

/-! ### Opening them all -/

/-- What a registered cache has in storage: its connection, with the lock of its signature
and a number that was given out, to a file with an empty table. -/
structure Serves (storage : Storage) (signature : Config.Signature) (registered : Registered) :
    Prop where
  location : registered.handle.map Handle.location = signature.location?
  connected : ∀ handle, registered.handle = some handle →
    ∃ connections, storage.connections? handle.location = some connections ∧
      ⟨handle.number, signature.locks⟩ ∈ connections
  numbered : ∀ handle, registered.handle = some handle → handle.number < storage.nextNumber
  table : ∀ handle, registered.handle = some handle →
    ∃ file, storage.file? handle.location = some file ∧ file.content = .empty
  tier : ∀ handle, registered.handle = some handle →
    ∃ tier format, registered.cache.stack = .persistent tier ∧ tier.IsNew signature.timeToLive ∧
      tier.serializer = .ofFormat format ∧
      tier.compressor = .ofSettings tier.settings.compression

/-- A registry with the caches of some signatures, as they are opened. -/
structure Built (opened : List Config.Signature) (registry : Registry) : Prop where
  served : ∀ signature ∈ opened, ∃ registered,
    registry.find? signature.name = some registered ∧
      Serves registry.storage signature registered
  named : ∀ name registered, registry.find? name = some registered →
    ∃ signature ∈ opened, signature.name = name
  distinct : ∀ name other registered otherRegistered handle otherHandle, name ≠ other →
    registry.find? name = some registered → registry.find? other = some otherRegistered →
    registered.handle = some handle → otherRegistered.handle = some otherHandle →
    handle.number ≠ otherHandle.number
  /-- Whoever locks the file of a signature is one of the signatures. -/
  locked : ∀ signature ∈ opened, ∀ location, signature.location? = some location →
    ∀ connections, registry.storage.connections? location = some connections →
    ∀ connection ∈ connections, connection.exclusive = true →
      ∃ locker ∈ opened, locker.location? = some location ∧ locker.locks = true

namespace Serves

variable {storage later : Storage} {location : Location} {exclusive : Bool}

/-- One more connection takes nothing away. -/
theorem connects (serves : Serves storage signature registered)
    (connects : storage.Connects location exclusive .empty later) :
    Serves later signature registered := by
  refine ⟨serves.location, ?_, ?_, ?_, serves.tier⟩
  · intro handle held
    obtain ⟨connections, there, member⟩ := serves.connected handle held
    obtain ⟨more, thereAfter, subset⟩ := connects.exists_connections there
    exact ⟨more, thereAfter, subset member⟩
  · intro handle held
    rw [connects.nextNumber]
    exact Nat.lt_succ_of_lt (serves.numbered handle held)
  · intro handle held
    by_cases same : location = handle.location
    · obtain ⟨file, there, emptied, _⟩ := connects.file
      exact ⟨file, same ▸ there, emptied⟩
    · rw [connects.elsewhere _ same]
      exact serves.table handle held

theorem opens (serves : Serves storage signature registered) {other : Config.Signature}
    {otherRegistered : Registered} (opens : Opens storage other otherRegistered later) :
    Serves later signature registered := by
  cases opens with
  | privately => exact serves
  | onFile _ _ _ _ connects => exact serves.connects connects

/-- A cache that has just been opened. -/
theorem ofOpens (opens : Opens storage signature registered later) :
    Serves later signature registered := by
  cases opens with
  | privately alone unconnected =>
      refine ⟨?_, ?_, ?_, ?_, ?_⟩
      · rw [unconnected, alone]
        rfl
      all_goals
        intro handle held
        rw [unconnected] at held
        cases held
  | onFile located new serializer compressor connects =>
      refine ⟨located.symm, ?_, ?_, ?_, ?_⟩
      · rintro _ ⟨⟩
        exact ⟨_, connects.connections?_self, List.mem_cons_self⟩
      · rintro _ ⟨⟩
        rw [connects.nextNumber]
        exact Nat.lt_succ_self _
      · rintro _ ⟨⟩
        obtain ⟨file, there, emptied, _⟩ := connects.file
        exact ⟨file, there, emptied⟩
      · rintro _ ⟨⟩
        exact ⟨_, _, rfl, new, serializer, compressor⟩

end Serves

/-- A new connection has the number that is next. -/
theorem Opens.number_eq {before storage : Storage} {handle : Handle}
    (opens : Opens before signature registered storage) (held : registered.handle = some handle) :
    handle.number = before.nextNumber := by
  cases opens with
  | privately alone unconnected =>
      rw [unconnected] at held
      cases held
  | onFile _ _ _ _ _ =>
      cases held
      rfl

namespace Built

variable {opened : List Config.Signature}

theorem empty (storage : Storage) : Built [] (empty storage) where
  served := by simp
  named := by
    intro name registered found
    cases found
  distinct := by
    intro name other registered otherRegistered handle otherHandle differs found
    cases found
  locked := by simp

/-- Numbers of connections have been given out. -/
theorem numbered (built : Built opened registry) {name : String} {handle : Handle}
    (found : registry.find? name = some registered) (held : registered.handle = some handle) :
    handle.number < registry.storage.nextNumber := by
  obtain ⟨present, member, rfl⟩ := built.named name registered found
  obtain ⟨same, there, serves⟩ := built.served present member
  obtain rfl : registered = same := Option.some.inj (found.symm.trans there)
  exact serves.numbered handle held

/-! What holds of a registry holds when one more cache has been opened in it. -/

section Opens

variable {storage : Storage} (built : Built opened registry)
  (absent : registry.find? signature.name = none)
  (opening : Opens registry.storage signature registered storage)

include built absent opening in
theorem served_opens : ∀ other ∈ opened ++ [signature], ∃ present,
    find? ⟨registry.caches.insert signature.name registered, storage⟩ other.name = some present ∧
      Serves storage other present := by
  intro other member
  rcases List.mem_append.1 member with before | last
  · obtain ⟨present, there, serves⟩ := built.served other before
    have differs : signature.name ≠ other.name := by
      intro same
      rw [← same, absent] at there
      cases there
    refine ⟨present, ?_, serves.opens opening⟩
    rw [find?_insert, if_neg differs]
    exact there
  · obtain rfl := List.mem_singleton.1 last
    refine ⟨registered, ?_, .ofOpens opening⟩
    rw [find?_insert, if_pos rfl]

include built in
theorem named_opens : ∀ name found,
    find? ⟨registry.caches.insert signature.name registered, storage⟩ name = some found →
      ∃ other ∈ opened ++ [signature], other.name = name := by
  intro name found there
  rw [find?_insert] at there
  by_cases same : signature.name = name
  · exact ⟨signature, by simp, same⟩
  · rw [if_neg same] at there
    obtain ⟨other, member, named⟩ := built.named name found there
    exact ⟨other, List.mem_append_left _ member, named⟩

include built opening in
theorem distinct_opens : ∀ name other found otherFound handle otherHandle, name ≠ other →
    find? ⟨registry.caches.insert signature.name registered, storage⟩ name = some found →
    find? ⟨registry.caches.insert signature.name registered, storage⟩ other = some otherFound →
    found.handle = some handle → otherFound.handle = some otherHandle →
    handle.number ≠ otherHandle.number := by
  intro name other found otherFound handle otherHandle differs there otherThere held otherHeld
  rw [find?_insert] at there otherThere
  by_cases first : signature.name = name
  · have second : signature.name ≠ other := fun second => differs (first.symm.trans second)
    rw [if_pos first] at there
    rw [if_neg second] at otherThere
    cases there
    rw [opening.number_eq held]
    exact (built.numbered otherThere otherHeld).ne'
  · rw [if_neg first] at there
    by_cases second : signature.name = other
    · rw [if_pos second] at otherThere
      cases otherThere
      rw [opening.number_eq otherHeld]
      exact (built.numbered there held).ne
    · rw [if_neg second] at otherThere
      exact built.distinct name other found otherFound handle otherHandle differs there otherThere
        held otherHeld

include built opening in
theorem locked_opens : ∀ other ∈ opened ++ [signature],
    ∀ location, other.location? = some location →
    ∀ connections, storage.connections? location = some connections →
    ∀ connection ∈ connections, connection.exclusive = true →
      ∃ locker ∈ opened ++ [signature], locker.location? = some location ∧
        locker.locks = true := by
  intro other member location located connections there connection inside exclusive
  -- A lock that was there is that of a signature that was opened before.
  have kept (before : registry.storage.connections? location = some connections)
      (present : other ∈ opened) :
      ∃ locker ∈ opened ++ [signature], locker.location? = some location ∧
        locker.locks = true := by
    obtain ⟨locker, lockerMember, rest⟩ :=
      built.locked other present location located connections before connection inside exclusive
    exact ⟨locker, List.mem_append_left _ lockerMember, rest⟩
  cases opening with
  | privately alone unconnected =>
      rcases List.mem_append.1 member with before | last
      · exact kept there before
      · obtain rfl := List.mem_singleton.1 last
        rw [alone] at located
        cases located
  | @onFile place _ _ _ _ placed _ _ _ connects =>
      by_cases same : place = location
      · -- Before this connection none locked the file, so the lock is its own.
        subst same
        rcases connects.eq_or_unlocked there inside with rfl | unlocked
        · exact ⟨signature, by simp, placed, exclusive⟩
        · rw [unlocked] at exclusive
          cases exclusive
      · rw [connects.connections?_of_ne same] at there
        rcases List.mem_append.1 member with before | last
        · exact kept there before
        · obtain rfl := List.mem_singleton.1 last
          exact absurd (Option.some.inj (placed.symm.trans located)) same

include built absent opening in
theorem opens :
    Built (opened ++ [signature])
      ⟨registry.caches.insert signature.name registered, storage⟩ where
  served := built.served_opens absent opening
  named := built.named_opens
  distinct := built.distinct_opens opening
  locked := built.locked_opens opening

end Opens

theorem openEach : ∀ {rest opened : List Config.Signature} {registry after : Registry},
    Built opened registry → openEach rest registry = .ok after → Built (opened ++ rest) after
  | [], opened, _, _, built, done => by
      cases done
      rwa [List.append_nil]
  | signature :: rest, opened, registry, after, built, done => by
      rw [openEach_cons] at done
      split at done
      · cases done
      · rename_i made
        split at done
        · cases done
        · rename_i absent
          have opened := built.opens (find?_eq_none_of_not_contains absent) (opens_of_build made)
          have builtAfter := openEach opened done
          rwa [List.append_assoc] at builtAfter

end Built

theorem built_of_ofConfig {config : CacheConfig} {storage : Storage}
    (done : ofConfig config storage = .ok registry) : Built config.signatures registry :=
  Built.openEach (.empty storage) done

/-- The cache of a signature that its configuration keeps apart is apart. -/
theorem Built.apart {config : CacheConfig} (built : Built config.signatures registry)
    (member : signature ∈ config.signatures) (keeps : config.KeepsApart signature) :
    registry.Apart signature.name := by
  intro otherName registered other handle otherHandle differs found otherFound held otherHeld
    together
  obtain ⟨present, there, serves⟩ := built.served signature member
  obtain rfl : registered = present := Option.some.inj (found.symm.trans there)
  obtain ⟨second, secondMember, rfl⟩ := built.named otherName other otherFound
  obtain ⟨secondPresent, secondThere, secondServes⟩ := built.served second secondMember
  obtain rfl : other = secondPresent := Option.some.inj (otherFound.symm.trans secondThere)
  have place : signature.location? = some handle.location := by
    rw [← serves.location, held, Option.map_some]
  have secondPlace : second.location? = some handle.location := by
    rw [← secondServes.location, otherHeld, Option.map_some, together]
  obtain ⟨locker, lockerMember, lockerPlace, locks⟩ :=
    keeps second secondMember differs handle.location place secondPlace
  obtain ⟨_, _, lockerServes⟩ := built.served locker lockerMember
  obtain ⟨lock, lockHeld, lockPlace⟩ :=
    Option.map_eq_some_iff.1 (lockerServes.location.trans lockerPlace)
  obtain ⟨connections, connected, inside⟩ := lockerServes.connected lock lockHeld
  rw [lockPlace] at connected
  exact ⟨(built.distinct _ _ _ _ _ _ differs found otherFound held otherHeld).symm, connections,
    connected, _, inside, locks⟩

end Registry

end ResultCache
