import ResultCache.Proofs.Persistent.Framing
import ResultCache.Proofs.Registry.Opening

/-!
Contract: which signatures of a configuration are isolated from the others.

Owns:
- puts and reads for a refresh through a registered cache whose database is a file;
- the leak through a file that two caches share and that neither locks: the row that one
  puts is the row that the other reads;
- that a signature is isolated exactly when its configuration keeps it apart;
- a configuration of two signatures on one file, with a lock and without, with the registry
  that it gives.

Does not own: isolation of caches that are apart.
-/

namespace ResultCache

/-- A tier with a format and a compressor of the library encodes a truth value. -/
theorem PersistentTier.exists_ok_of_encode_bool {tier : PersistentTier} {format : Format}
    (valid : validate tier.settings tier.serializer = .ok ())
    (serializer : tier.serializer = .ofFormat format)
    (compressor : tier.compressor = .ofSettings tier.settings.compression) (value : Bool) :
    ∃ content, tier.encode ⟨.single .bool, value⟩ = .ok content := by
  cases encoded : tier.encode ⟨.single .bool, value⟩ with
  | ok content => exact ⟨content, rfl⟩
  | error failure =>
      rcases encode_eq_error_iff.1 encoded with refused | ⟨_, octets, _, _, refused⟩
      · rw [serializer] at valid refused
        cases format with
        | json => cases refused
        | messagePack | bincode =>
            cases text : tier.settings.textFormat with
            | false =>
                rw [text] at refused
                cases refused
            | true =>
                rw [validate, text] at valid
                cases valid
      · obtain ⟨frame, framed⟩ :=
          Compression.Compressor.exists_ok_of_encode tier.settings.compression octets
        rw [compressor, framed] at refused
        cases refused

namespace Registry

variable {registry : Registry} {name other : String} {tier : PersistentTier} {handle : Handle}
  {rows : KeyMap StoredRow}

/-- The cache of a name is over a persistent tier whose database is a file. -/
def Connected (registry : Registry) (name : String) (tier : PersistentTier) (handle : Handle) :
    Prop :=
  ∃ signature keys, registry.find? name = some ⟨⟨signature, .persistent tier, keys⟩, some handle⟩

/-- A put through a registered cache goes into the file. -/
theorem put_through {file : DatabaseFile} {payload : Payload} {content : StoredContent}
    (now : Instant) (key : Key) (envelope : Envelope Payload)
    (connected : registry.Connected name tier handle)
    (there : registry.storage.file? handle.location = some file)
    (view : registry.storage.view handle = .table rows) (held : envelope.payload = some payload)
    (encoded : tier.encode payload = .ok content) :
    let after := registry.perform now ⟨name, .put key envelope⟩
    let written := tier.written now key envelope rows payload content
    after.Connected name written handle ∧ after.storage.view handle = written.database := by
  obtain ⟨signature, keys, found⟩ := connected
  have loaded : load registry.storage ⟨⟨signature, .persistent tier, keys⟩, some handle⟩ =
      ⟨signature, .persistent { tier with database := .table rows }, keys⟩ := by
    unfold load
    dsimp only
    rw [view]
  have put : PersistentTier.put { tier with database := .table rows } now key envelope =
      (.ok (), tier.written now key envelope rows payload content) :=
    PersistentTier.put_eq_written rfl held encoded
  have performed : registry.perform now ⟨name, .put key envelope⟩ =
      ⟨registry.caches.insert name
          ⟨⟨signature, .persistent (tier.written now key envelope rows payload content), keys⟩,
            some handle⟩,
        registry.storage.save handle
          (tier.written now key envelope rows payload content).database⟩ := by
    rw [perform_of_found found, loaded]
    simp only [QueryCache.perform, QueryCache.put, put]
    rfl
  have reached : registry.storage.view handle ≠ .locked := by
    rw [view]
    simp
  rw [performed]
  refine ⟨⟨signature, keys, ?_⟩, Storage.view_save_of_ne_locked there reached _⟩
  rw [find?_insert, if_pos rfl]

/-- A read for a refresh takes a query text that is not remembered from the file. -/
theorem getForRefresh_through {remembered : Envelope Payload} {query : Option String}
    {content : StoredContent} (now : Instant) {key : Key}
    (connected : registry.Connected name tier handle)
    (view : registry.storage.view handle = .table rows)
    (entry : tier.companion.entries.get? key = some remembered)
    (fromText : remembered.provenance.shape.isExpressionBased = false)
    (unasked : remembered.provenance.query = none)
    (row : rows.get? key = some (.ofContent query content)) :
    registry.answer now ⟨name, .getForRefresh key⟩ =
      .ok (.remembered (.ok (some
        { remembered with provenance := { remembered.provenance with query } }))) := by
  obtain ⟨signature, keys, found⟩ := connected
  have read : PersistentTier.getForRefresh { tier with database := .table rows } key =
      .ok (some { remembered with provenance := { remembered.provenance with query } }) := by
    unfold PersistentTier.getForRefresh MemoryTier.getForRefresh
    rw [entry]
    dsimp only
    rw [fromText, unasked]
    have text : (Database.table rows).queryText key = .ok query := by
      unfold Database.queryText
      simp only [Database.rows, bind, Except.bind, row, StoredRow.readQuery_ofContent]
    simp only [text]
    rfl
  rw [answer_of_found found]
  unfold load
  dsimp only
  rw [view]
  simp only [QueryCache.answer, QueryCache.getForRefresh, read]

/-- A call through another name leaves a cache connected. -/
theorem Connected.perform (connected : registry.Connected name tier handle) (now : Instant)
    {call : Call} (elsewhere : call.signature ≠ name) :
    (registry.perform now call).Connected name tier handle := by
  obtain ⟨signature, keys, found⟩ := connected
  refine ⟨signature, keys, ?_⟩
  rw [find?_perform, if_neg elsewhere]
  exact found

/-- A truth value that comes from some query text. -/
def truth (query : Option String) (value : Bool) : Envelope Payload :=
  .ofPayload { Provenance.bare .oneByQuery with query } ⟨.single .bool, value⟩

/-- What is remembered of a truth value, with a query text. -/
def recalled (query : Option String) (expires : Instant) : QueryCache.Answer :=
  .remembered (.ok (some ⟨{ Provenance.bare .oneByQuery with query }, none, some expires⟩))

/-- Two caches are over one file, which nobody locks. -/
structure Shared (registry : Registry) (name other : String) (tier otherTier : PersistentTier)
    (handle otherHandle : Handle) (rows : KeyMap StoredRow) : Prop where
  differs : name ≠ other
  connected : registry.Connected name tier handle
  otherConnected : registry.Connected other otherTier otherHandle
  together : handle.location = otherHandle.location
  unlocked : ∃ connections, registry.storage.connections? handle.location = some connections ∧
    ∀ connection ∈ connections, connection.exclusive = false
  view : registry.storage.view handle = .table rows

namespace Shared

variable {otherTier : PersistentTier} {otherHandle : Handle} {content otherContent : StoredContent}

theorem symm (shared : registry.Shared name other tier otherTier handle otherHandle rows) :
    registry.Shared other name otherTier tier otherHandle handle rows := by
  obtain ⟨connections, there, unlocked⟩ := shared.unlocked
  refine ⟨shared.differs.symm, shared.otherConnected, shared.connected, shared.together.symm,
    ⟨connections, shared.together ▸ there, unlocked⟩, ?_⟩
  rw [← Storage.view_eq_of_shared shared.together there unlocked]
  exact shared.view

/-- The row that one of them puts is in the table that both see. -/
theorem put {payload : Payload}
    (shared : registry.Shared name other tier otherTier handle otherHandle rows) (now : Instant)
    (key : Key) (envelope : Envelope Payload) (held : envelope.payload = some payload)
    (encoded : tier.encode payload = .ok content) :
    (registry.perform now ⟨name, .put key envelope⟩).Shared name other
      (tier.written now key envelope rows payload content) otherTier handle otherHandle
      (rows.insert key (.ofContent envelope.provenance.query content)) := by
  obtain ⟨connections, connected, unlocked⟩ := shared.unlocked
  obtain ⟨file, there, _⟩ := Option.map_eq_some_iff.1 connected
  obtain ⟨connectedAfter, view⟩ :=
    put_through now key envelope shared.connected there shared.view held encoded
  refine ⟨shared.differs, connectedAfter, shared.otherConnected.perform now shared.differs,
    shared.together, ⟨connections, ?_, unlocked⟩, view⟩
  rw [connections?_perform]
  exact connected

/-- Two caches that share a file are not isolated: the row that the second puts is the one
that the first reads. -/
theorem not_isolates
    (shared : registry.Shared name other tier otherTier handle otherHandle rows)
    (encoded : tier.encode ⟨.single .bool, true⟩ = .ok content)
    (otherEncoded : otherTier.encode ⟨.single .bool, true⟩ = .ok otherContent) :
    ¬ registry.Isolates name := by
  let now := Instant.earliest
  let own : Call := ⟨name, .put 0 (truth none true)⟩
  let others : Call := ⟨other, .put 0 (truth (some "other") true)⟩
  let read : Call := ⟨name, .getForRefresh 0⟩
  -- The first puts, and what it reads then is its own row.
  have sharedOwn := shared.put now 0 (truth none true) rfl encoded
  have entry : (tier.written now 0 (truth none true) rows ⟨.single .bool, true⟩
      content).companion.entries.get? 0 =
        some ⟨.bare .oneByQuery, none, some (tier.companion.expiryFrom now)⟩ := by
    change (tier.companion.put now 0 (truth none true).metadataOnly).entries.get? 0 = _
    rw [MemoryTier.get?_put, if_pos rfl, MemoryTier.stored_metadataOnly]
    rfl
  have readOwn : (registry.perform now own).answer now read =
      .ok (recalled none (tier.companion.expiryFrom now)) :=
    getForRefresh_through now sharedOwn.connected sharedOwn.view entry rfl rfl
      (KeyMap.get?_insert_self _ _ _)
  -- The second puts, and the first reads that.
  have sharedBoth := (sharedOwn.symm.put now 0 (truth (some "other") true) rfl otherEncoded).symm
  have readOthers : ((registry.perform now own).perform now others).answer now read =
      .ok (recalled (some "other") (tier.companion.expiryFrom now)) :=
    getForRefresh_through now sharedBoth.connected sharedBoth.view entry rfl rfl
      (KeyMap.get?_insert_self _ _ _)
  -- Were the second left out, the first would read its own.
  intro isolates
  have same := isolates [(now, own), (now, others), (now, read)]
  have throughName (call : Call) (through : call.signature = name) (registry : Registry) :
      answerThrough name registry now call = some (registry.answer now call) := if_pos through
  have throughOther (registry : Registry) : answerThrough name registry now others = none :=
    if_neg shared.differs.symm
  rw [History.only_cons, if_pos (decide_eq_true rfl), History.only_cons,
    if_neg (by simpa [others] using shared.differs.symm), History.only_cons,
    if_pos (decide_eq_true rfl)] at same
  simp only [History.trace, History.only, List.filter_nil, throughName own rfl,
    throughName read rfl, throughOther, readOwn, readOthers, List.reduceOption_cons_of_some,
    List.reduceOption_cons_of_none] at same
  cases same

end Shared

/-- A signature with a file has a cache that is connected to it and encodes a truth value. -/
theorem Built.exists_connected {opened : List Config.Signature} {signature : Config.Signature}
    {location : Location} (built : Built opened registry) (member : signature ∈ opened)
    (located : signature.location? = some location) :
    ∃ tier handle content, registry.Connected signature.name tier handle ∧
      handle.location = location ∧ tier.encode ⟨.single .bool, true⟩ = .ok content := by
  obtain ⟨⟨⟨name, stack, keys⟩, connection⟩, found, serves⟩ := built.served signature member
  obtain ⟨handle, held, rfl⟩ := Option.map_eq_some_iff.1 (serves.location.trans located)
  obtain ⟨tier, format, persistent, new, serializer, compressor⟩ := serves.tier handle held
  obtain ⟨content, encoded⟩ :=
    PersistentTier.exists_ok_of_encode_bool new.valid serializer compressor true
  subst held persistent
  exact ⟨tier, handle, content, ⟨name, keys, found⟩, rfl, encoded⟩

/-! ### Two signatures on one file -/

/-- A section that has its database in a file, with or without a lock. -/
def sectionOnFile (exclusive : Bool) : Config.Section :=
  { Config.Section.standard with
    path := some "db", journalMode := .delete, exclusiveLocking := exclusive }

/-- Two signatures on that file, of which the second locks it or does not. -/
def twoOnFile (exclusive : Bool) : CacheConfig where
  logging := .standard
  signatures :=
    [{ Config.Signature.memory "a" with persistent := some (sectionOnFile false) },
     { Config.Signature.memory "b" with persistent := some (sectionOnFile exclusive) }]

def settingsOnFile (exclusive : Bool) : Persistent.Settings :=
  ⟨(sectionOnFile exclusive).toTuning, .ofAlgorithm .none⟩

def cacheOnFile (name : String) (exclusive : Bool) : QueryCache where
  signature := name
  stack := .persistent
    { settings := settingsOnFile exclusive
      serializer := .json
      compressor := .ofSettings (.ofAlgorithm .none)
      database := .empty
      payloadTypes := .empty
      companion := .create .day .stripPayload }
  keys := .standard

/-- Storage that has the file, with some content and some connections. -/
def storageOfFile (content : Database) (connections : List Connection) : Storage where
  directories := []
  others := []
  databases := [(["db"], ⟨content, false, connections⟩)]
  nextNumber := connections.length

def registryOfOne : Registry where
  caches := SortedMap.empty.insert "a" ⟨cacheOnFile "a" false, some ⟨["db"], 0⟩⟩
  storage := storageOfFile .empty [⟨0, false⟩]

def registryOfTwo (exclusive : Bool) : Registry where
  caches := registryOfOne.caches.insert "b" ⟨cacheOnFile "b" exclusive, some ⟨["db"], 1⟩⟩
  storage := storageOfFile .empty [⟨1, exclusive⟩, ⟨0, false⟩]

theorem ofPath_db : Location.ofPath "db" = ["db"] := by
  -- Splitting a text does not evaluate, but every step of it does.
  have split : "db".splitOn "/" = ["db"] := by
    rw [String.splitOn, if_neg (by decide), String.splitOnAux, if_neg (by decide),
      if_neg (by decide), String.splitOnAux, if_neg (by decide), if_neg (by decide),
      String.splitOnAux, if_pos (by decide)]
    decide
  have relative : "db".startsWith "/" = false := by decide +kernel
  rw [Location.ofPath, split, relative]
  decide

theorem openConfigured_onFile (registry : Registry) (name : String) (exclusive : Bool) :
    registry.openConfigured
        { Config.Signature.memory name with persistent := some (sectionOnFile exclusive) } =
      registry.openPersistent name (settingsOnFile exclusive) .json .day .standard := by
  have provider : (sectionOnFile exclusive).provider.map Char.toLower =
      Config.Section.knownProvider := by
    change "sqlite".map Char.toLower = "sqlite"
    decide +kernel
  have asked : (sectionOnFile exclusive).toSettings = .ok (settingsOnFile exclusive) := by
    unfold Config.Section.toSettings
    rw [if_neg (not_not_intro provider)]
    rfl
  unfold openConfigured
  dsimp only
  rw [asked]
  rfl

/-- The file admits any connection as long as nobody locks it. -/
theorem openDatabase_onFile (content : Database) {connections : List Connection}
    (unlocked : connections.all (fun connection => !connection.exclusive) = true)
    (exclusive : Bool) :
    (storageOfFile content connections).openDatabase (settingsOnFile exclusive) =
      .ok (some ⟨["db"], connections.length⟩, content,
        storageOfFile content (⟨connections.length, exclusive⟩ :: connections)) := by
  have admitted :
      Storage.admits ⟨content, false, connections⟩ (settingsOnFile exclusive) = true := by
    unfold Storage.admits
    dsimp only
    rw [unlocked, Bool.true_and, Bool.not_false, Bool.true_or, Bool.or_true]
  unfold Storage.openDatabase
  change (if "db" = "" || "db" = ":memory:" then _ else _) = _
  rw [if_neg (by decide)]
  dsimp only
  rw [ofPath_db]
  change (if !Storage.admits ⟨content, false, connections⟩ (settingsOnFile exclusive) then
    (throw .database : Except CacheError _) else _) = _
  rw [admitted]
  rfl

theorem ofConfig_twoOnFile (exclusive : Bool) :
    ofConfig (twoOnFile exclusive) (storageOfFile .withoutTable []) =
      .ok (registryOfTwo exclusive) := by
  have first : openPersistent (empty (storageOfFile .withoutTable [])) "a" (settingsOnFile false)
      .json .day .standard = (.ok (), registryOfOne) := by
    unfold openPersistent
    dsimp only [empty]
    rw [openDatabase_onFile .withoutTable rfl]
    rfl
  have second : openPersistent registryOfOne "b" (settingsOnFile exclusive) .json .day .standard =
      (.ok (), registryOfTwo exclusive) := by
    unfold openPersistent
    dsimp only [registryOfOne]
    rw [openDatabase_onFile .empty rfl]
    cases exclusive <;> rfl
  unfold ofConfig
  change openEach [_, _] _ = _
  unfold openEach
  rw [openConfigured_onFile, first]
  dsimp only
  unfold openEach
  rw [openConfigured_onFile, second]
  rfl

/-! ### Which signatures are isolated -/

/-- A signature is isolated from the others of its configuration exactly when it has its
file for itself, or one of those that have the file locks it. -/
theorem isolates_iff_keepsApart {config : CacheConfig} {storage : Storage}
    {signature : Config.Signature} (done : ofConfig config storage = .ok registry)
    (member : signature ∈ config.signatures) :
    registry.Isolates signature.name ↔ config.KeepsApart signature := by
  have built := built_of_ofConfig done
  constructor
  · intro isolates other otherMember differs location located otherLocated
    apply Classical.byContradiction
    intro noLocker
    obtain ⟨tier, handle, content, connected, place, encoded⟩ :=
      built.exists_connected member located
    obtain ⟨otherTier, otherHandle, otherContent, otherConnected, otherPlace, otherEncoded⟩ :=
      built.exists_connected otherMember otherLocated
    obtain ⟨_, _, serves⟩ := built.served signature member
    obtain ⟨held, isHeld, heldPlace⟩ := Option.map_eq_some_iff.1 (serves.location.trans located)
    obtain ⟨file, there, emptied⟩ := serves.table held isHeld
    rw [heldPlace, ← place] at there
    have connections : registry.storage.connections? handle.location = some file.connections := by
      rw [Storage.connections?, there, Option.map_some]
    have unlocked : ∀ connection ∈ file.connections, connection.exclusive = false := by
      intro connection inside
      rw [← Bool.not_eq_true]
      intro exclusive
      exact noLocker (built.locked signature member location located file.connections
        (place ▸ connections) connection inside exclusive)
    have view : registry.storage.view handle = .empty := by
      rw [Storage.view_of_file? there, Storage.keepOut_eq_false unlocked, ← emptied]
      rfl
    have shared : registry.Shared signature.name other.name tier otherTier handle otherHandle _ :=
      ⟨differs, connected, otherConnected, place.trans otherPlace.symm,
        ⟨file.connections, connections, unlocked⟩, view⟩
    exact shared.not_isolates encoded otherEncoded isolates
  · intro keeps
    exact isolates_of_apart (built.apart member keeps)

theorem isolates_lockedFile :
    ofConfig (twoOnFile true) (storageOfFile .withoutTable []) = .ok (registryOfTwo true) ∧
      (registryOfTwo true).Isolates "a" := by
  let signature : Config.Signature :=
    { Config.Signature.memory "a" with persistent := some (sectionOnFile false) }
  have member : signature ∈ (twoOnFile true).signatures := List.mem_cons_self
  have keeps : (twoOnFile true).KeepsApart signature := by
    intro other otherMember differs location located otherLocated
    exact ⟨_, List.mem_cons_of_mem _ List.mem_cons_self, located, rfl⟩
  exact ⟨ofConfig_twoOnFile true,
    (isolates_iff_keepsApart (ofConfig_twoOnFile true) member).2 keeps⟩

/-- The first puts a truth value, the second puts the other under the same key, and the
first reads. -/
def crossing : History Call :=
  [(.earliest, ⟨"a", .put 0 (truth none false)⟩),
    (.earliest, ⟨"b", .put 0 (truth none true)⟩),
    (.earliest, ⟨"a", .getTyped 0 (.single .bool)⟩)]

/-- Without a lock, the first reads what the second put. -/
theorem crossing_leaks :
    ((twoOnFile false).signatures.map Config.Signature.name).Nodup ∧
      ofConfig (twoOnFile false) (storageOfFile .withoutTable []) = .ok (registryOfTwo false) ∧
      (crossing.trace perform (answerThrough "a") (registryOfTwo false)).reduceOption =
        [.ok (.put (.ok ())), .ok (.payload (.single .bool) (.ok (some true)))] ∧
      ((crossing.only fun call => call.signature = "a").trace perform (answerThrough "a")
          (registryOfTwo false)).reduceOption =
        [.ok (.put (.ok ())), .ok (.payload (.single .bool) (.ok (some false)))] ∧
      ¬ (registryOfTwo false).Isolates "a" := by
  have mixed : (crossing.trace perform (answerThrough "a") (registryOfTwo false)).reduceOption =
      [.ok (.put (.ok ())), .ok (.payload (.single .bool) (.ok (some true)))] := rfl
  have alone : ((crossing.only fun call => call.signature = "a").trace perform (answerThrough "a")
      (registryOfTwo false)).reduceOption =
        [.ok (.put (.ok ())), .ok (.payload (.single .bool) (.ok (some false)))] := rfl
  refine ⟨by decide, ofConfig_twoOnFile false, mixed, alone, ?_⟩
  intro isolates
  have same := isolates crossing
  rw [mixed, alone] at same
  cases same

end Registry

end ResultCache
