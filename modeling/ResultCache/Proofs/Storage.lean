import ResultCache.Proofs.Persistent.Operation
import ResultCache.Storage

/-!
Contract: what one connection sees of a file that others are connected to.

Owns:
- the file at a location after another is set;
- `Storage.connections?`, which no statement changes, and `Storage.view` after a save
  through the same connection and through another;
- that connections to one file which nobody locks see the same;
- `Storage.SeenAlike`, two storages that a connection cannot tell apart, and that it keeps
  so by its own saves;
- what opening a database leaves: one more connection to one file, with a new number.

Does not own: the tables in the files.
-/

namespace ResultCache

/-- The file that a database is kept in; none for a private one in memory. -/
def Persistent.Tuning.location? (tuning : Persistent.Tuning) : Option Location :=
  tuning.path.bind fun path =>
    if path = "" || path = ":memory:" then none else some (Location.ofPath path)

namespace Storage

variable {storage first second : Storage} {handle other : Handle} {location : Location}

/-! ### Files -/

@[simp] theorem file?_setFile (storage : Storage) (location elsewhere : Location)
    (file : DatabaseFile) :
    (storage.setFile location file).file? elsewhere =
      if location = elsewhere then some file else storage.file? elsewhere := by
  unfold file? setFile
  by_cases same : location = elsewhere
  · simp [same]
  · rw [List.find?_cons_of_neg (by simpa using same), List.find?_filter, if_neg same]
    congr 2
    funext entry
    by_cases there : entry.1 = elsewhere
    · simp [there, Ne.symm same]
    · simp [there]

/-- The connections to the file at a location, if there is one. -/
def connections? (storage : Storage) (location : Location) : Option (List Connection) :=
  (storage.file? location).map DatabaseFile.connections

/-- Whether connections keep the one of a number out. -/
def keepOut (connections : List Connection) (number : Nat) : Bool :=
  connections.any fun connection => connection.exclusive && connection.number ≠ number

theorem view_of_file? {file : DatabaseFile} (there : storage.file? handle.location = some file) :
    storage.view handle =
      if keepOut file.connections handle.number then .locked else file.content := by
  unfold view
  rw [there]
  rfl

theorem keepOut_eq_false {connections : List Connection}
    (unlocked : ∀ connection ∈ connections, connection.exclusive = false) (number : Nat) :
    keepOut connections number = false := by
  rw [keepOut, List.any_eq_false]
  intro connection member
  simp [unlocked connection member]

/-- Connections to one file that nobody locks see the same. -/
theorem view_eq_of_shared {connections : List Connection}
    (together : handle.location = other.location)
    (connected : storage.connections? handle.location = some connections)
    (unlocked : ∀ connection ∈ connections, connection.exclusive = false) :
    storage.view handle = storage.view other := by
  obtain ⟨file, there, rfl⟩ := Option.map_eq_some_iff.1 connected
  rw [view_of_file? there, view_of_file? (together ▸ there), keepOut_eq_false unlocked,
    keepOut_eq_false unlocked]

/-! ### Saves -/

/-- A save leaves the storage as it was, or changes the content of the one file. -/
theorem save_cases (storage : Storage) (handle : Handle) (database : Database) :
    (storage.save handle database = storage ∧
        (storage.file? handle.location = none ∨ storage.view handle = .locked)) ∨
      ∃ file, storage.file? handle.location = some file ∧ storage.view handle ≠ .locked ∧
        storage.save handle database =
          storage.setFile handle.location { file with content := database } := by
  unfold save
  cases there : storage.file? handle.location with
  | none => exact .inl ⟨rfl, .inl rfl⟩
  | some file =>
      cases seen : storage.view handle with
      | locked => exact .inl ⟨rfl, .inr rfl⟩
      | withoutTable | table rows => exact .inr ⟨file, rfl, by simp, rfl⟩

@[simp] theorem connections?_save (storage : Storage) (handle : Handle) (database : Database)
    (location : Location) :
    (storage.save handle database).connections? location = storage.connections? location := by
  rcases storage.save_cases handle database with ⟨unchanged, _⟩ | ⟨file, there, _, changed⟩
  · rw [unchanged]
  · rw [changed]
    unfold connections?
    rw [file?_setFile]
    by_cases same : handle.location = location
    · rw [if_pos same, ← same, there]
      rfl
    · rw [if_neg same]

theorem view_save_of_ne_locked {file : DatabaseFile}
    (there : storage.file? handle.location = some file) (reached : storage.view handle ≠ .locked)
    (database : Database) : (storage.save handle database).view handle = database := by
  have admitted : keepOut file.connections handle.number = false := by
    rw [view_of_file? there] at reached
    exact Bool.eq_false_iff.2 fun out => reached (if_pos out)
  rcases storage.save_cases handle database with ⟨_, missing | locked⟩ | ⟨_, found, _, changed⟩
  · rw [there] at missing
    cases missing
  · exact absurd locked reached
  · rw [there] at found
    cases found
    have set : (storage.save handle database).file? handle.location =
        some { file with content := database } := by
      rw [changed, file?_setFile, if_pos rfl]
    rw [view_of_file? set, admitted]
    rfl

/-- A connection that shares its file with no other, or only where one of the two is kept
out, does not see what the other saves. -/
theorem view_save_of_apart
    (apart : other.location = handle.location → other.number ≠ handle.number ∧
      ∃ connections, storage.connections? handle.location = some connections ∧
        ∃ connection ∈ connections, connection.exclusive = true)
    (database : Database) : (storage.save other database).view handle = storage.view handle := by
  rcases storage.save_cases other database with ⟨unchanged, _⟩ | ⟨file, there, reached, changed⟩
  · rw [unchanged]
  · by_cases same : other.location = handle.location
    · -- The lock is that of the other connection, which reaches the file.
      obtain ⟨numbers, connections, connected, lock, member, exclusive⟩ := apart same
      rw [connections?, ← same, there] at connected
      obtain rfl : file.connections = connections := Option.some.inj connected
      rw [view_of_file? there] at reached
      have held : lock.number = other.number := by
        apply Decidable.byContradiction
        intro differs
        apply reached
        rw [if_pos]
        exact List.any_eq_true.2 ⟨lock, member, by simp [exclusive, differs]⟩
      have out : keepOut file.connections handle.number = true :=
        List.any_eq_true.2 ⟨lock, member, by simp [exclusive, held, numbers]⟩
      have before : storage.file? handle.location = some file := by rw [← same, there]
      have after : (storage.save other database).file? handle.location =
          some { file with content := database } := by
        rw [changed, file?_setFile, if_pos same]
      rw [view_of_file? before, view_of_file? after, if_pos out, if_pos out]
    · have elsewhere : (storage.save other database).file? handle.location =
          storage.file? handle.location := by
        rw [changed, file?_setFile, if_neg same]
      unfold view
      rw [elsewhere]

/-! ### What a connection can tell -/

/-- Two storages that a connection cannot tell apart. -/
structure SeenAlike (handle : Handle) (first second : Storage) : Prop where
  connections : first.connections? handle.location = second.connections? handle.location
  view : first.view handle = second.view handle

namespace SeenAlike

theorem save (alike : SeenAlike handle first second) (database : Database) :
    SeenAlike handle (first.save handle database) (second.save handle database) := by
  refine ⟨by simpa using alike.connections, ?_⟩
  have connected := alike.connections
  unfold connections? at connected
  rcases first.save_cases handle database with
    ⟨unchanged, missing | locked⟩ | ⟨file, there, reached, _⟩
  · have missingToo : second.file? handle.location = none := by
      rw [missing] at connected
      exact Option.map_eq_none_iff.1 connected.symm
    rcases second.save_cases handle database with ⟨unchangedToo, _⟩ | ⟨_, found, _⟩
    · rw [unchanged, unchangedToo]
      exact alike.view
    · rw [missingToo] at found
      cases found
  · rcases second.save_cases handle database with ⟨unchangedToo, _⟩ | ⟨_, _, reachedToo, _⟩
    · rw [unchanged, unchangedToo]
      exact alike.view
    · exact absurd (alike.view ▸ locked) reachedToo
  · rw [there] at connected
    obtain ⟨fileToo, thereToo, _⟩ := Option.map_eq_some_iff.1 connected.symm
    have reachedToo : second.view handle ≠ .locked := alike.view ▸ reached
    rw [view_save_of_ne_locked there reached, view_save_of_ne_locked thereToo reachedToo]

end SeenAlike

/-! ### Opening -/

/-- A new connection to a file, with what it leaves there; all else but directories is as
it was. -/
structure Connects (storage : Storage) (location : Location) (exclusive : Bool)
    (content : Database) (after : Storage) : Prop where
  /-- No connection that was there locks the file. -/
  admitted : ∀ connections, storage.connections? location = some connections →
    ∀ connection ∈ connections, connection.exclusive = false
  file : ∃ file, after.file? location = some file ∧ file.content = content ∧
    file.connections =
      ⟨storage.nextNumber, exclusive⟩ :: (storage.connections? location).getD []
  elsewhere : ∀ other, location ≠ other → after.file? other = storage.file? other
  nextNumber : after.nextNumber = storage.nextNumber + 1

namespace Connects

variable {exclusive : Bool} {content : Database} {after : Storage}

theorem connections?_self (connects : storage.Connects location exclusive content after) :
    after.connections? location =
      some (⟨storage.nextNumber, exclusive⟩ :: (storage.connections? location).getD []) := by
  obtain ⟨file, there, _, connections⟩ := connects.file
  unfold connections? at connections ⊢
  rw [there, Option.map_some, connections]

theorem connections?_of_ne (connects : storage.Connects location exclusive content after)
    {other : Location} (differs : location ≠ other) :
    after.connections? other = storage.connections? other := by
  unfold connections?
  rw [connects.elsewhere other differs]

/-- Connections that were there are there still. -/
theorem exists_connections (connects : storage.Connects location exclusive content after)
    {other : Location} {connections : List Connection}
    (before : storage.connections? other = some connections) :
    ∃ more, after.connections? other = some more ∧ connections ⊆ more := by
  by_cases same : location = other
  · subst same
    refine ⟨_, connects.connections?_self, ?_⟩
    rw [before, Option.getD_some]
    exact List.subset_cons_self _ _
  · exact ⟨connections, by rw [connects.connections?_of_ne same, before], List.Subset.refl _⟩

/-- A connection to the file is the new one, or it was there and locks nothing. -/
theorem eq_or_unlocked (connects : storage.Connects location exclusive content after)
    {connections : List Connection} (there : after.connections? location = some connections)
    {connection : Connection} (inside : connection ∈ connections) :
    connection = ⟨storage.nextNumber, exclusive⟩ ∨ connection.exclusive = false := by
  rw [connects.connections?_self] at there
  cases there
  rcases List.mem_cons.1 inside with new | old
  · exact .inl new
  · cases before : storage.connections? location with
    | none =>
        rw [before] at old
        cases old
    | some others =>
        rw [before] at old
        exact .inr (connects.admitted others before connection old)

/-- The new connection sees the file. -/
theorem view_self (connects : storage.Connects location exclusive content after) :
    after.view ⟨location, storage.nextNumber⟩ = content := by
  obtain ⟨file, there, rfl, _⟩ := connects.file
  rw [view_of_file? there, if_neg]
  rw [Bool.not_eq_true, keepOut, List.any_eq_false]
  intro connection member
  have connections : after.connections? location = some file.connections := by
    rw [connections?, there, Option.map_some]
  rcases connects.eq_or_unlocked connections member with rfl | unlocked
  · simp
  · simp [unlocked]

theorem save (connects : storage.Connects location exclusive content after)
    (reached : content ≠ .locked) (database : Database) :
    storage.Connects location exclusive database
      (after.save ⟨location, storage.nextNumber⟩ database) := by
  obtain ⟨file, there, _, connections⟩ := connects.file
  have seen := connects.view_self
  rcases after.save_cases ⟨location, storage.nextNumber⟩ database with
    ⟨_, missing | locked⟩ | ⟨_, found, _, changed⟩
  · rw [there] at missing
    cases missing
  · exact absurd (seen.symm.trans locked) reached
  · obtain rfl : file = _ := Option.some.inj (there.symm.trans found)
    rw [changed]
    refine ⟨connects.admitted, ⟨{ file with content := database }, ?_, rfl, connections⟩, ?_,
      connects.nextNumber⟩
    · rw [file?_setFile, if_pos rfl]
    · intro other differs
      rw [file?_setFile, if_neg differs]
      exact connects.elsewhere other differs

end Connects

theorem makeParents_eq {after : Storage} (made : storage.makeParents location = .ok after) :
    ∃ directories, after = { storage with directories } := by
  unfold makeParents at made
  split at made
  · cases made
    exact ⟨_, rfl⟩
  · split at made
    · cases made
    · split at made
      · cases made
      · cases made
        exact ⟨_, rfl⟩

theorem exclusive_eq_false_of_admits {file : DatabaseFile} {settings : Persistent.Settings}
    (admitted : admits file settings = true) :
    ∀ connection ∈ file.connections, connection.exclusive = false := by
  unfold admits at admitted
  rw [Bool.or_eq_true, Bool.and_eq_true] at admitted
  rcases admitted with none | ⟨all, _⟩
  · rw [List.isEmpty_iff.1 none]
    simp
  · intro connection member
    have shared := List.all_eq_true.1 all connection member
    simpa using shared

/-- A file that admits one more connection is given one. -/
theorem connects_of_admits {settings : Persistent.Settings} {directories : List Location}
    (admitted : admits ((storage.file? location).getD newFile) settings = true) :
    let file := (storage.file? location).getD newFile
    let opened :=
      { file with
        writeAhead := settings.journalMode = .wal
        connections := ⟨storage.nextNumber, settings.exclusiveLocking⟩ :: file.connections }
    storage.Connects location settings.exclusiveLocking file.content
      { setFile { storage with directories } location opened with
        nextNumber := storage.nextNumber + 1 } := by
  have noLock := exclusive_eq_false_of_admits admitted
  have old : (storage.connections? location).getD [] =
      ((storage.file? location).getD newFile).connections := by
    unfold connections?
    cases storage.file? location <;> rfl
  refine ⟨?_, ⟨_, (file?_setFile _ _ _ _).trans (if_pos rfl), rfl, ?_⟩, ?_, rfl⟩
  · intro connections there
    rw [there, Option.getD_some] at old
    rw [old]
    exact noLock
  · rw [old]
  · intro other differs
    exact (file?_setFile _ _ _ _).trans (if_neg differs)

/-- A database that opens is private, or it is a file with one more connection. -/
theorem openDatabase_cases {settings : Persistent.Settings} {opened : Option Handle}
    {database : Database} {after : Storage}
    (done : storage.openDatabase settings = .ok (opened, database, after)) :
    (settings.location? = none ∧ opened = none ∧ after = storage) ∨
      ∃ location, settings.location? = some location ∧
        opened = some ⟨location, storage.nextNumber⟩ ∧
        storage.Connects location settings.exclusiveLocking database after := by
  unfold openDatabase at done
  split at done
  · rename_i path
    cases done
    exact .inl ⟨by simp [Persistent.Tuning.location?, path], rfl, rfl⟩
  · rename_i name path
    split at done
    · rename_i isPrivate
      cases done
      have unnamed : settings.location? = none := by
        simp only [Persistent.Tuning.location?, path, Option.bind_some, if_pos isPrivate]
      exact .inl ⟨unnamed, rfl, rfl⟩
    · rename_i named
      have located : settings.location? = some (Location.ofPath name) := by
        simp only [Persistent.Tuning.location?, path, Option.bind_some, if_neg named]
      dsimp only at done
      split at done
      · cases done
      · obtain ⟨parents, made, rest⟩ := CacheError.exists_ok_of_bind done
        obtain ⟨directories, rfl⟩ := makeParents_eq made
        dsimp only at rest
        split at rest
        · cases rest
        · split at rest
          · cases rest
          · rename_i admitted
            change ¬(!admits ((storage.file? (Location.ofPath name)).getD newFile) settings) = true
              at admitted
            rw [Bool.not_eq_true', Bool.not_eq_false] at admitted
            cases rest
            exact .inr ⟨_, located, rfl, connects_of_admits admitted⟩

end Storage

end ResultCache
