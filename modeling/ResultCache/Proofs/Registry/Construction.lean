import ResultCache.Proofs.Memory.Expiry
import ResultCache.Proofs.Registry.Opening

/-!
Contract: how a registry comes about, from a configuration or by registrations.

Owns:
- `QueryCache.IsAsConfigured`, what a section says of its cache and of the tiers in it, and that
  what is built is so;
- `Registry.obstacleAt?`, why a section cannot be opened behind those before it: it is not built,
  or its name is taken;
- `Registry.Stands`, what holds of the registry of a front part of the sections, that opening one
  more keeps it so, and that a configuration comes to its first obstacle or to a registry;
- that registrations resolve every name to the first cache of that name.

Does not own: which caches are apart; operations on the caches of a registry.
-/

namespace ResultCache

/-- An empty tier whose entries live for so many seconds. The span that it keeps is cut to the
longest one, which does not show: that is longer than the calendar, and stamps are cut at its
end. -/
structure MemoryTier.IsEmptyWith (tier : MemoryTier) (seconds : Nat) (policy : ReplacementPolicy) :
    Prop where
  timeToLive : tier.timeToLive.nanoseconds =
    min (seconds * 1000000000) Duration.longestSpan.nanoseconds
  stamps : ∀ now : Instant, now.IsClock → (tier.expiryFrom now).sinceEpoch =
    min (now.sinceEpoch + seconds * 1000000000) Instant.latest.sinceEpoch
  policy : tier.policy = policy
  entries : tier.entries = .empty
  counters : tier.counters = .zero

theorem MemoryTier.isEmptyWith_create (seconds : Nat) (policy : ReplacementPolicy) :
    (create (.ofSeconds seconds) policy).IsEmptyWith seconds policy where
  timeToLive := by
    rw [← Duration.nanoseconds_ofSeconds]
    exact Duration.nanoseconds_clamped _
  stamps now clock := by
    have seconds_eq := Duration.nanoseconds_ofSeconds seconds
    rw [sinceEpoch_expiryFrom clock, seconds_eq, Int.natCast_mul]
    rfl
  policy := rfl
  entries := rfl
  counters := rfl

/-- A cache is as its section says: its name, whether literals count in its keys, and its tiers.
In memory, entries live and are replaced as the section says; a persistent tier has the tuning,
the compression and the format of the section, and a companion whose entries live as it says and
which strips what it replaces. -/
structure QueryCache.IsAsConfigured (cache : QueryCache) (signature : Config.Signature) : Prop where
  name : cache.signature = signature.name
  keys : cache.keys.includeLiterals = signature.includeLiterals
  memory : signature.persistent = none →
    ∃ tier, cache.stack = .memory tier ∧
      tier.IsEmptyWith signature.timeToLiveSeconds signature.replacement
  persistent : ∀ config, signature.persistent = some config →
    ∃ tier, cache.stack = .persistent tier ∧ config.toSettings = .ok tier.settings ∧
      tier.settings = ⟨config.toTuning, .ofAlgorithm config.compression⟩ ∧
      tier.serializer = .ofFormat config.format ∧
      tier.compressor = .ofSettings tier.settings.compression ∧
      tier.companion.IsEmptyWith signature.timeToLiveSeconds .stripPayload

namespace Registry

variable {registry : Registry} {registered : Registered} {signature : Config.Signature}
  {storage later : Storage} {failure : CacheError}

theorem isAsConfigured_of_build (built : build storage signature = .ok (registered, later)) :
    registered.cache.IsAsConfigured signature := by
  rcases build_cases built with ⟨inMemory, _, rfl⟩ |
    ⟨config, _, handle, database, _, tier, persistent, asked, _, created, rfl, _⟩
  · refine ⟨rfl, rfl, fun _ => ⟨_, rfl, MemoryTier.isEmptyWith_create _ _⟩, ?_⟩
    intro config persistent
    rw [inMemory] at persistent
    cases persistent
  · obtain ⟨rfl, serializer, compressor, _⟩ := create_eq created
    refine ⟨rfl, rfl, ?_, ?_⟩
    · intro inMemory
      rw [inMemory] at persistent
      cases persistent
    · intro other same
      obtain rfl : config = other := Option.some.inj (persistent.symm.trans same)
      have companion := (PersistentTier.isNew_of_create created).companion
      refine ⟨tier, rfl, asked, Config.Section.eq_of_toSettings asked, serializer, compressor, ?_⟩
      rw [companion]
      exact MemoryTier.isEmptyWith_create _ _

/-- The database that a cache is handed does not show in what its section says. -/
theorem isAsConfigured_load (configured : registered.cache.IsAsConfigured signature)
    (storage : Storage) : (load storage registered).IsAsConfigured signature := by
  obtain ⟨⟨name, stack, keys⟩, handle⟩ := registered
  cases stack with
  | memory tier =>
      cases handle <;> exact configured
  | persistent tier =>
      cases handle with
      | none => exact configured
      | some handle =>
          refine ⟨configured.name, configured.keys, ?_, ?_⟩
          · intro inMemory
            obtain ⟨_, ⟨⟩, _⟩ := configured.memory inMemory
          · intro config persistent
            obtain ⟨_, ⟨⟩, asked⟩ := configured.persistent config persistent
            exact ⟨_, rfl, asked⟩

/-! ### Obstacles -/

/-- The storage when the sections before have been built, each on what the others left. -/
def storageAfter (initial : Storage) (sections : List Config.Signature) : Storage :=
  sections.foldl (fun storage signature =>
    match build storage signature with
    | .error _ => storage
    | .ok (_, later) => later) initial

theorem storageAfter_concat {initial : Storage} {sections : List Config.Signature}
    (built : build (storageAfter initial sections) signature = .ok (registered, later)) :
    storageAfter initial (sections ++ [signature]) = later := by
  rw [storageAfter, List.foldl_append]
  change (match build (storageAfter initial sections) signature with
    | .error _ => storageAfter initial sections
    | .ok (_, later) => later) = later
  rw [built]

/-- Why a section cannot be opened behind others, if it cannot: it is not built, or one of them
has its name. -/
def obstacle? (initial : Storage) (earlier : List Config.Signature)
    (signature : Config.Signature) : Option CacheError :=
  match build (storageAfter initial earlier) signature with
  | .error failure => some failure
  | .ok _ =>
    if signature.name ∈ earlier.map Config.Signature.name then
      some (.duplicateSignature signature.name)
    else none

/-- The obstacle at an index of a list of sections. -/
def obstacleAt? (initial : Storage) (sections : List Config.Signature) (index : Nat) :
    Option CacheError :=
  sections[index]?.bind (obstacle? initial (sections.take index))

theorem obstacleAt?_append (initial : Storage) (earlier : List Config.Signature)
    (signature : Config.Signature) (rest : List Config.Signature) :
    obstacleAt? initial (earlier ++ signature :: rest) earlier.length =
      obstacle? initial earlier signature := by
  simp [obstacleAt?]

theorem obstacleAt?_append_of_lt (initial : Storage) {earlier : List Config.Signature}
    (rest : List Config.Signature) {index : Nat} (inside : index < earlier.length) :
    obstacleAt? initial (earlier ++ rest) index = obstacleAt? initial earlier index := by
  rw [obstacleAt?, obstacleAt?, List.getElem?_append_left inside,
    List.take_append_of_le_length inside.le]

/-- A name that occurs once does not occur before. -/
theorem name_not_mem_take {sections : List Config.Signature}
    (distinct : (sections.map Config.Signature.name).Nodup) {index : Nat}
    (there : sections[index]? = some signature) :
    signature.name ∉ (sections.take index).map Config.Signature.name := by
  have split : sections = sections.take index ++ signature :: sections.drop (index + 1) := by
    obtain ⟨inside, rfl⟩ := List.getElem?_eq_some_iff.1 there
    rw [← List.drop_eq_getElem_cons inside, List.take_append_drop]
  rw [split, List.map_append] at distinct
  intro taken
  exact (List.nodup_append.1 distinct).2.2 _ taken _ List.mem_cons_self rfl

/-- Sections with names of their own that are all built have no obstacle. -/
theorem obstacleAt?_eq_none {initial : Storage} {sections : List Config.Signature}
    (distinct : (sections.map Config.Signature.name).Nodup)
    (builds : ∀ index signature, sections[index]? = some signature →
      ∃ made, build (storageAfter initial (sections.take index)) signature = .ok made)
    (index : Nat) : obstacleAt? initial sections index = none := by
  unfold obstacleAt?
  cases there : sections[index]? with
  | none => rfl
  | some signature =>
      obtain ⟨made, built⟩ := builds index signature there
      rw [Option.bind_some, obstacle?, built]
      exact if_neg (name_not_mem_take distinct there)

/-! ### Opening them all -/

/-- What holds of the registry of the sections that have been opened. -/
structure Stands (initial : Storage) (sections : List Config.Signature) (registry : Registry) :
    Prop where
  storage : registry.storage = storageAfter initial sections
  distinct : (sections.map Config.Signature.name).Nodup
  named : ∀ name, registry.contains name = true ↔ name ∈ sections.map Config.Signature.name
  resolves : ∀ index signature, sections[index]? = some signature →
    ∃ registered later, build (storageAfter initial (sections.take index)) signature =
        .ok (registered, later) ∧
      registry.find? signature.name = some registered

namespace Stands

variable {initial : Storage} {sections : List Config.Signature}

theorem empty (initial : Storage) : Stands initial [] (empty initial) where
  storage := rfl
  distinct := List.nodup_nil
  named := by
    intro name
    exact iff_of_false Bool.false_ne_true List.not_mem_nil
  resolves := by
    intro index signature there
    cases there

theorem clear (stands : Stands initial sections registry) (index : Nat) :
    obstacleAt? initial sections index = none := by
  refine obstacleAt?_eq_none stands.distinct ?_ index
  intro index signature there
  obtain ⟨registered, later, built, _⟩ := stands.resolves index signature there
  exact ⟨_, built⟩

/-- One more section, with a name of its own. -/
theorem concat (stands : Stands initial sections registry)
    (built : build (storageAfter initial sections) signature = .ok (registered, later))
    (fresh : signature.name ∉ sections.map Config.Signature.name) :
    Stands initial (sections ++ [signature])
      ⟨registry.caches.insert signature.name registered, later⟩ where
  storage := (storageAfter_concat built).symm
  distinct := by
    rw [List.map_append]
    refine List.nodup_append.2 ⟨stands.distinct, List.pairwise_singleton _ _, ?_⟩
    intro name member other last same
    rw [List.mem_singleton.1 last] at same
    exact fresh (same ▸ member)
  named := by
    intro name
    rw [contains, find?_insert, List.map_append, List.mem_append, ← stands.named]
    by_cases same : signature.name = name
    · rw [if_pos same]
      exact iff_of_true rfl (.inr (List.mem_singleton.2 same.symm))
    · rw [if_neg same]
      constructor
      · exact .inl
      · rintro (before | last)
        · exact before
        · exact absurd (List.mem_singleton.1 last).symm same
  resolves := by
    intro index present there
    rcases Nat.lt_or_ge index sections.length with inside | behind
    · rw [List.getElem?_append_left inside] at there
      obtain ⟨before, after, builtBefore, found⟩ := stands.resolves index present there
      rw [List.take_append_of_le_length inside.le]
      have differs : signature.name ≠ present.name := by
        intro same
        exact fresh (same ▸ List.mem_map_of_mem (List.mem_of_getElem? there))
      refine ⟨before, after, builtBefore, ?_⟩
      rw [find?_insert, if_neg differs]
      exact found
    · rw [List.getElem?_append_right behind] at there
      obtain ⟨last, rfl⟩ := List.getElem?_eq_some_iff.1 there
      obtain rfl : index = sections.length := by
        rw [List.length_singleton] at last
        omega
      refine ⟨registered, later, ?_, ?_⟩
      · simpa using built
      · simp [find?_insert]

/-- The rest of the sections comes to the first obstacle, or to a registry of all. -/
theorem exists_outcome (rest : List Config.Signature) (stands : Stands initial sections registry) :
    (∃ done, openEach rest registry = .ok done ∧ Stands initial (sections ++ rest) done) ∨
      ∃ index failure, openEach rest registry = .error failure ∧
        obstacleAt? initial (sections ++ rest) index = some failure ∧
        ∀ earlier < index, obstacleAt? initial (sections ++ rest) earlier = none := by
  induction rest generalizing sections registry with
  | nil =>
      refine .inl ⟨registry, rfl, ?_⟩
      rwa [List.append_nil]
  | cons signature rest openRest =>
      rw [openEach_cons, stands.storage]
      have here := obstacleAt?_append initial sections signature rest
      have before : ∀ earlier < sections.length,
          obstacleAt? initial (sections ++ signature :: rest) earlier = none := by
        intro earlier inside
        rw [obstacleAt?_append_of_lt initial _ inside]
        exact stands.clear earlier
      cases built : build (storageAfter initial sections) signature with
      | error failure =>
          refine .inr ⟨sections.length, failure, rfl, ?_, before⟩
          rw [here, obstacle?, built]
      | ok made =>
          obtain ⟨registered, later⟩ := made
          by_cases taken : registry.contains signature.name = true
          · refine .inr ⟨sections.length, .duplicateSignature signature.name, if_pos taken, ?_,
              before⟩
            rw [here, obstacle?, built]
            exact if_pos ((stands.named _).1 taken)
          · have fresh := mt (stands.named signature.name).2 taken
            have opened := openRest (stands.concat built fresh)
            rw [List.append_assoc] at opened
            dsimp only
            rw [if_neg taken]
            exact opened

end Stands

/-! ### Signatures -/

theorem signatures_sorted (registry : Registry) : registry.signatures.Pairwise (· < ·) :=
  List.pairwise_map.2 (registry.caches.sorted.imp compareOfLessAndEq_eq_lt.1)

theorem mem_signatures_iff (registry : Registry) (name : String) :
    name ∈ registry.signatures ↔ registry.contains name = true := by
  rw [contains, Option.isSome_iff_exists, signatures, List.mem_map]
  constructor
  · rintro ⟨⟨_, registered⟩, member, rfl⟩
    exact ⟨registered, (registry.caches.mem_entries_iff _ registered).1 member⟩
  · rintro ⟨registered, found⟩
    exact ⟨(name, registered), (registry.caches.mem_entries_iff name registered).2 found, rfl⟩

theorem Stands.signatures_perm {initial : Storage} {sections : List Config.Signature}
    (stands : Stands initial sections registry) :
    registry.signatures.Perm (sections.map Config.Signature.name) := by
  have distinct : registry.signatures.Nodup := by
    refine registry.signatures_sorted.imp ?_
    rintro name _ before rfl
    exact String.lt_irrefl name before
  rw [List.perm_ext_iff_of_nodup distinct stands.distinct]
  intro name
  rw [mem_signatures_iff, stands.named]

/-! ### Registrations -/

/-- The registry after some caches have been offered to it, each with its connection. -/
def registerEach (registry : Registry) (offered : List Registered) : Registry :=
  offered.foldl (fun registry registered =>
    (registry.register registered.cache registered.handle).2) registry

theorem register_eq_error_iff {cache : QueryCache} {handle : Option Handle} :
    (registry.register cache handle).1 = .error failure ↔
      registry.contains cache.signature = true ∧ failure = .duplicateSignature cache.signature := by
  unfold register
  split
  · rename_i taken
    simp [taken, eq_comm]
  · rename_i absent
    simp [absent]

/-- A registration under a name that is taken leaves every cache as it is, and closes the
connection of the cache that it refuses. -/
theorem register_of_contains {cache : QueryCache} (handle : Option Handle)
    (taken : registry.contains cache.signature = true) :
    (registry.register cache handle).2 =
      { registry with storage := (handle.map registry.storage.close).getD registry.storage } := by
  unfold register
  rw [if_pos taken]

/-- A cache is found under its name unless the name was taken. -/
theorem find?_register (registry : Registry) (cache : QueryCache) (handle : Option Handle)
    (name : String) :
    (registry.register cache handle).2.find? name =
      (registry.find? name).or (if cache.signature = name then some ⟨cache, handle⟩ else none) := by
  by_cases taken : registry.contains cache.signature = true
  · rw [register_of_contains handle taken]
    change registry.find? name = _
    by_cases same : cache.signature = name
    · obtain ⟨present, found⟩ := Option.isSome_iff_exists.1 taken
      rw [← same, found]
      rfl
    · rw [if_neg same, Option.or_none]
  · unfold register
    rw [if_neg taken]
    refine (find?_insert _ _ _ _ _).trans ?_
    by_cases same : cache.signature = name
    · rw [if_pos same, if_pos same, ← same, find?_eq_none_of_not_contains taken]
      rfl
    · rw [if_neg same, if_neg same, Option.or_none]

/-- A name is resolved as it was before, and else to the first cache offered under it. -/
theorem find?_registerEach (offered : List Registered) (registry : Registry) (name : String) :
    (registry.registerEach offered).find? name =
      (registry.find? name).or
        (offered.find? fun registered => registered.cache.signature = name) := by
  induction offered generalizing registry with
  | nil => rw [registerEach, List.find?_nil, Option.or_none, List.foldl_nil]
  | cons registered rest registerRest =>
      have first := registry.find?_register registered.cache registered.handle name
      rw [registerEach, List.foldl_cons, ← registerEach, registerRest, first, Option.or_assoc]
      by_cases same : registered.cache.signature = name
      · simp [same]
      · simp [same]

theorem inspect_registerEach (registry : Registry) (offered : List Registered) (name : String)
    {Result : Type} (view : QueryCache → Result) :
    (registry.registerEach offered).inspect name view =
      match (registry.find? name).or
        (offered.find? fun registered => registered.cache.signature = name) with
      | none => .error (.unknownSignature name)
      | some first => .ok (view (load (registry.registerEach offered).storage first)) := by
  have found := find?_registerEach offered registry name
  unfold inspect
  cases resolved : (registry.find? name).or
      (offered.find? fun registered => registered.cache.signature = name) with
  | none => rw [found, resolved]
  | some first => rw [found, resolved]

/-! ### Configurations -/

/-- A configuration comes to a registry of all its sections, or to its first obstacle. -/
theorem ofConfig_cases (config : CacheConfig) (storage : Storage) :
    (∃ registry, ofConfig config storage = .ok registry ∧
      Stands storage config.signatures registry) ∨
    ∃ index failure, ofConfig config storage = .error failure ∧
      obstacleAt? storage config.signatures index = some failure ∧
      ∀ earlier < index, obstacleAt? storage config.signatures earlier = none :=
  (Stands.empty storage).exists_outcome config.signatures

theorem stands_of_ofConfig {config : CacheConfig} (done : ofConfig config storage = .ok registry) :
    Stands storage config.signatures registry := by
  rcases ofConfig_cases config storage with ⟨same, opened, stands⟩ | ⟨_, _, failed, _⟩
  · obtain rfl := Except.ok.inj (done.symm.trans opened)
    exact stands
  · cases done.symm.trans failed

theorem ofConfig_eq_error_iff {config : CacheConfig} :
    ofConfig config storage = .error failure ↔
      ∃ index, obstacleAt? storage config.signatures index = some failure ∧
        ∀ earlier < index, obstacleAt? storage config.signatures earlier = none := by
  constructor
  · intro failed
    rcases ofConfig_cases config storage with ⟨_, opened, _⟩ | ⟨index, same, refused, first⟩
    · cases failed.symm.trans opened
    · obtain rfl := Except.error.inj (failed.symm.trans refused)
      exact ⟨index, first⟩
  · rintro ⟨index, obstacle, first⟩
    rcases ofConfig_cases config storage with ⟨_, _, stands⟩ | ⟨other, same, refused, there, before⟩
    · cases obstacle.symm.trans (stands.clear index)
    · -- Of two first obstacles neither is before the other.
      obtain rfl : index = other := by
        rcases Nat.lt_trichotomy index other with smaller | equal | larger
        · cases obstacle.symm.trans (before index smaller)
        · exact equal
        · cases there.symm.trans (first other larger)
      obtain rfl := Option.some.inj (obstacle.symm.trans there)
      exact refused

/-- What a configuration comes to: a registry of all its sections, or the failure of the first of
them that is not built or has a name that occurred before. In a registry every name is resolved
to the first cache that was registered under it. -/
theorem ofConfig_first_failure_or_all (config : CacheConfig) (storage : Storage) :
    ((∃ registry, ofConfig config storage = .ok registry) ↔
      (config.signatures.map Config.Signature.name).Nodup ∧
        ∀ index signature, config.signatures[index]? = some signature →
          ∃ made, build (storageAfter storage (config.signatures.take index)) signature =
            .ok made) ∧
    (∀ registry, ofConfig config storage = .ok registry →
      registry.signatures.Pairwise (· < ·) ∧
      registry.signatures.Perm (config.signatures.map Config.Signature.name) ∧
      ∀ index signature, config.signatures[index]? = some signature →
        ∃ registered later,
          build (storageAfter storage (config.signatures.take index)) signature =
            .ok (registered, later) ∧
          registry.find? signature.name = some registered ∧
          ∃ cache, registry.inspect signature.name id = .ok cache ∧
            cache.IsAsConfigured signature) ∧
    (∀ failure, ofConfig config storage = .error failure ↔
      ∃ index, obstacleAt? storage config.signatures index = some failure ∧
        ∀ earlier < index, obstacleAt? storage config.signatures earlier = none) ∧
    ∀ (registry : Registry) (offered : List Registered),
      (∀ (name : String) {Result : Type} (view : QueryCache → Result),
        (registry.registerEach offered).inspect name view =
          match (registry.find? name).or
            (offered.find? fun registered => registered.cache.signature = name) with
          | none => .error (.unknownSignature name)
          | some first => .ok (view (load (registry.registerEach offered).storage first))) ∧
      ∀ (cache : QueryCache) (handle : Option Handle),
        (∀ failure, (registry.register cache handle).1 = .error failure ↔
          registry.contains cache.signature = true ∧
            failure = .duplicateSignature cache.signature) ∧
        (registry.contains cache.signature = true →
          (registry.register cache handle).2 =
            { registry with
              storage := (handle.map registry.storage.close).getD registry.storage }) := by
  refine ⟨⟨?distinct, ?builds⟩, ?resolves, fun failure => ofConfig_eq_error_iff, ?registers⟩
  case distinct =>
    rintro ⟨registry, done⟩
    have stands := stands_of_ofConfig done
    refine ⟨stands.distinct, ?_⟩
    intro index signature there
    obtain ⟨registered, later, built, _⟩ := stands.resolves index signature there
    exact ⟨_, built⟩
  case builds =>
    rintro ⟨distinct, builds⟩
    rcases ofConfig_cases config storage with ⟨registry, done, _⟩ | ⟨index, _, _, obstacle, _⟩
    · exact ⟨registry, done⟩
    · cases obstacle.symm.trans (obstacleAt?_eq_none distinct builds index)
  case resolves =>
    intro registry done
    have stands := stands_of_ofConfig done
    refine ⟨registry.signatures_sorted, stands.signatures_perm, ?_⟩
    intro index signature there
    obtain ⟨registered, later, built, found⟩ := stands.resolves index signature there
    refine ⟨registered, later, built, found, load registry.storage registered, ?_,
      isAsConfigured_load (isAsConfigured_of_build built) _⟩
    rw [inspect, found]
    rfl
  case registers =>
    intro registry offered
    refine ⟨registry.inspect_registerEach offered, ?_⟩
    intro cache handle
    exact ⟨fun failure => register_eq_error_iff, register_of_contains handle⟩

/-- Two signatures in memory out of order, and the first of them again. -/
def repeated : CacheConfig :=
  ⟨.standard, [.memory "b", .memory "a", .memory "b"]⟩

/-- The third section is built, but its name is taken. -/
theorem ofConfig_repeated :
    ofConfig repeated (.ofFiles [] []) = .error (.duplicateSignature "b") := by
  obtain ⟨_, _, fails, _⟩ := ofConfig_first_failure_or_all repeated (.ofFiles [] [])
  exact (fails _).2 ⟨2, by decide, by decide⟩

end Registry

end ResultCache
