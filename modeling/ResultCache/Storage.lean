import ResultCache.Database
import ResultCache.Persistent.Settings

/-!
Contract: the places that databases are kept in.

Owns:
- `Storage`, directories, files that are no databases, and database files with the
  connections that are open to them;
- opening a database by the settings of a tier, which makes missing directories,
  and the failures of it;
- what one connection sees of a file, and what its changes do to it.

Connections to one file share its table. A connection that locks exclusively keeps
all others out from the moment it is open; a file whose journal is written ahead
cannot be locked, or leave that mode, while others have it open.
-/

namespace ResultCache

abbrev Location := List String

namespace Location

/-- The location reached by one more component of a path: empty components and those
that stay in place change nothing, and one that goes up undoes the one before it. -/
def enter (location : Location) (component : String) : Location :=
  if component = "" || component = "." then location
  else if component = ".." then
    match location with
    | [] | ["/"] => location
    | _ => location.dropLast
  else location ++ [component]

/-- The location that a path names. A leading separator is a component of its own. -/
def ofPath (path : String) : Location :=
  (path.splitOn "/").foldl enter (if path.startsWith "/" then ["/"] else [])

end Location

/-- An open connection. -/
structure Connection where
  number : Nat
  exclusive : Bool
  deriving DecidableEq, Repr

/-- A database file. -/
structure DatabaseFile where
  content : Database
  /-- Whether the journal is written ahead. -/
  writeAhead : Bool
  connections : List Connection

/-- A connection to a file, by which a tier names its database. -/
structure Handle where
  location : Location
  number : Nat
  deriving DecidableEq, Repr

/-- The files that databases are opened among. -/
structure Storage where
  directories : List Location
  /-- Files that are no databases. -/
  others : List Location
  databases : List (Location × DatabaseFile)
  /-- The number of the next connection. -/
  nextNumber : Nat

namespace Storage

/-- Storage with a few directories and a few files that are no databases. -/
def ofFiles (directories others : List Location) : Storage := ⟨directories, others, [], 0⟩

def isDirectory (storage : Storage) (location : Location) : Bool :=
  location = [] || location = ["/"] || storage.directories.contains location

def file? (storage : Storage) (location : Location) : Option DatabaseFile :=
  (storage.databases.find? fun entry => entry.1 = location).map Prod.snd

def isFile (storage : Storage) (location : Location) : Bool :=
  storage.others.contains location || (storage.file? location).isSome

/-- The storage with the database file at a location set. -/
def setFile (storage : Storage) (location : Location) (file : DatabaseFile) : Storage :=
  { storage with
    databases := (location, file) :: storage.databases.filter fun entry => entry.1 ≠ location }

/-- The proper ancestors of a location, the nearest first. -/
def ancestors (location : Location) : List Location :=
  ((List.range location.length).map location.take).reverse

/-- The storage with the directory of a location made, and all above it. -/
def makeParents (storage : Storage) (location : Location) : Except CacheError Storage :=
  match ancestors location with
  | [] => .ok storage
  | parent :: above =>
    if storage.isFile parent then .error (.io .alreadyExists)
    else if above.any storage.isFile then .error (.io .notADirectory)
    else
      .ok { storage with
        directories := (parent :: above).filter (fun location => !storage.isDirectory location) ++
          storage.directories }

/-- Whether the connections of a file leave room for one more with some settings. -/
def admits (file : DatabaseFile) (settings : Persistent.Settings) : Bool :=
  file.connections.isEmpty ||
    (file.connections.all (fun connection => !connection.exclusive) &&
      (!file.writeAhead || (!settings.exclusiveLocking && settings.journalMode = .wal)))

def newFile : DatabaseFile := ⟨.withoutTable, false, []⟩

/-- Opens the database of some settings: a connection, where the database is a file,
and what is in the database. Paths that are empty or spell out memory name a private
database like no path at all. -/
def openDatabase (storage : Storage) (settings : Persistent.Settings) :
    Except CacheError (Option Handle × Database × Storage) :=
  match settings.path with
  | none => .ok (none, .withoutTable, storage)
  | some path =>
    if path = "" || path = ":memory:" then .ok (none, .withoutTable, storage)
    else
      let location := Location.ofPath path
      if storage.isDirectory location then .error (.configuration (.pathIsDirectory path))
      else do
        let storage ← storage.makeParents location
        if storage.others.contains location then throw .database
        let file := (storage.file? location).getD newFile
        if !admits file settings then throw .database
        let connection := ⟨storage.nextNumber, settings.exclusiveLocking⟩
        let opened :=
          { file with
            writeAhead := settings.journalMode = .wal
            connections := connection :: file.connections }
        return (some ⟨location, storage.nextNumber⟩, file.content,
          { storage.setFile location opened with nextNumber := storage.nextNumber + 1 })

def view (storage : Storage) (handle : Handle) : Database :=
  match storage.file? handle.location with
  | none => .withoutTable
  | some file =>
    if file.connections.any fun connection =>
        connection.exclusive && connection.number ≠ handle.number then .locked
    else file.content

/-- The storage after a connection has changed its file; a file that it is kept out
of stays as it is. -/
def save (storage : Storage) (handle : Handle) (database : Database) : Storage :=
  match storage.file? handle.location, storage.view handle with
  | none, _ => storage
  | some _, .locked => storage
  | some file, _ => storage.setFile handle.location { file with content := database }

def close (storage : Storage) (handle : Handle) : Storage :=
  match storage.file? handle.location with
  | none => storage
  | some file =>
    storage.setFile handle.location
      { file with
        connections := file.connections.filter fun connection => connection.number ≠ handle.number }

def closeAll (storage : Storage) : Storage :=
  { storage with
    databases := storage.databases.map fun (location, file) =>
      (location, { file with connections := [] }) }

/-- An edit of a database file through a connection of its own: how many rows it
touched, and the storage after it. -/
def edit (storage : Storage) (path : String) (change : Database.Edit) :
    Except CacheError (Nat × Storage) :=
  let location := Location.ofPath path
  match storage.file? location with
  | none => .error .database
  | some file => do
    if file.connections.any Connection.exclusive then throw .database
    let (touched, content) ← file.content.edit change
    return (touched, storage.setFile location { file with content })

end Storage

end ResultCache
