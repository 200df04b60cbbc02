import ResultCache.Compression

/-!
Contract: the settings of a persistent tier.

Owns: `JournalMode`, `Synchronous`, `Tuning` and `Persistent.Settings`, with their
names and the values that hold when nothing is asked for.
-/

namespace ResultCache

namespace Persistent

/-- How a database keeps its journal. -/
inductive JournalMode where
  | wal
  | delete
  | truncate
  | memory
  | off
  deriving DecidableEq, Repr

namespace JournalMode

def all : List JournalMode := [wal, delete, truncate, memory, off]

/-- The name of a mode, in configurations and in statements. -/
def name : JournalMode → String
  | wal => "wal"
  | delete => "delete"
  | truncate => "truncate"
  | memory => "memory"
  | off => "off"

def ofName? (name : String) : Option JournalMode := all.find? fun mode => mode.name = name

end JournalMode

/-- How hard a database tries to have writes on the disk. -/
inductive Synchronous where
  | off
  | normal
  | full
  deriving DecidableEq, Repr

namespace Synchronous

def all : List Synchronous := [off, normal, full]

/-- The name of a mode, in configurations and in statements. -/
def name : Synchronous → String
  | off => "off"
  | normal => "normal"
  | full => "full"

def ofName? (name : String) : Option Synchronous := all.find? fun mode => mode.name = name

end Synchronous

/-- Where a database is and how it is run. -/
structure Tuning where
  /-- The database file; without one the database is private and in memory. -/
  path : Option String
  /-- Whether content is stored as text. -/
  textFormat : Bool
  journalMode : JournalMode
  synchronous : Synchronous
  pageSize : Nat
  /-- Pages, or kibibytes when negative. -/
  cacheSize : Int
  /-- Whether the tier keeps every other connection out. -/
  exclusiveLocking : Bool
  deriving DecidableEq, Repr

/-- The tuning of a database about which nothing is said. -/
def Tuning.standard : Tuning where
  path := none
  textFormat := true
  journalMode := .wal
  synchronous := .normal
  pageSize := 4096
  cacheSize := -2000
  exclusiveLocking := true

/-- The settings of a persistent tier. -/
structure Settings extends Tuning where
  compression : Compression.Settings
  deriving DecidableEq, Repr

/-- The settings of a tier that asks for none in particular. -/
def Settings.standard : Settings := ⟨.standard, .ofAlgorithm .none⟩

end Persistent

end ResultCache
