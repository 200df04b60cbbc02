import ResultCache.Content
import ResultCache.Error
import ResultCache.KeyMap

/-!
Contract: the table that a persistent tier keeps its payloads in.

Owns:
- `Cell`, the two storage classes of content, and `StoredRow`;
- `Database`, one table of rows under keys, which may be missing, or out of reach
  behind another connection;
- statements on it, each of which fails with a database failure when the table
  cannot be reached, and rows read at the storage class that a tier expects.

Text in a row need not be UTF-8, since others write to the table too; reading it
is then a failure. Every statement either takes effect as a whole or not at all.
-/

namespace ResultCache

/-- The content of a row in its storage class. -/
inductive Cell where
  | text (octets : Bytes)
  | blob (octets : Bytes)
  deriving DecidableEq, Repr

namespace Cell

def octets : Cell → Bytes
  | text octets => octets
  | blob octets => octets

def ofContent : StoredContent → Cell
  | .text value => .text (Text.toBytes value)
  | .binary octets => .blob octets

/-- The content of a cell, read at the class that is expected. -/
def content? (expectText : Bool) : Cell → Option StoredContent
  | text octets => if expectText then (Text.ofBytes? octets).map .text else none
  | blob octets => if expectText then none else some (.binary octets)

end Cell

/-- A row: the query text, where there is one, and the content. -/
structure StoredRow where
  query : Option Bytes
  content : Cell
  deriving DecidableEq, Repr

namespace StoredRow

def ofContent (query : Option String) (content : StoredContent) : StoredRow :=
  ⟨query.map Text.toBytes, Cell.ofContent content⟩

def readQuery (row : StoredRow) : Except CacheError (Option String) :=
  match row.query with
  | none => .ok none
  | some octets =>
    match Text.ofBytes? octets with
    | some query => .ok (some query)
    | none => .error .database

end StoredRow

/-- A row as it is read back. -/
structure Record where
  key : Key
  query : Option String
  content : StoredContent
  deriving DecidableEq, Repr

/-- The table of rows. -/
inductive Database where
  /-- Another connection keeps everyone else out. -/
  | locked
  /-- There is no table. -/
  | withoutTable
  | table (rows : KeyMap StoredRow)

namespace Database

def empty : Database := table .empty

/-- The rows, when they can be reached. -/
def rows : Database → Except CacheError (KeyMap StoredRow)
  | table rows => .ok rows
  | locked | withoutTable => .error .database

def recreate : Database → Except CacheError Database
  | locked => .error .database
  | withoutTable | table _ => .ok empty

def upsert (database : Database) (key : Key) (row : StoredRow) : Except CacheError Database := do
  let rows ← database.rows
  return table (rows.insert key row)

/-- The row of a key, read at the class that is expected. -/
def record (database : Database) (expectText : Bool) (key : Key) :
    Except CacheError (Option Record) := do
  let rows ← database.rows
  match rows.get? key with
  | none => return none
  | some row =>
    let query ← row.readQuery
    match row.content.content? expectText with
    | some content => return some ⟨key, query, content⟩
    | none => throw .database

/-- The query text in the row of a key; none when there is no row or no text. -/
def queryText (database : Database) (key : Key) : Except CacheError (Option String) := do
  let rows ← database.rows
  match rows.get? key with
  | none => return none
  | some row => row.readQuery

/-- The octets of the content of a key, whatever its class. -/
def contentOctets (database : Database) (key : Key) : Except CacheError Bytes := do
  let rows ← database.rows
  match rows.get? key with
  | none => throw (.invalidOperation (.contentMissing key))
  | some row => return row.content.octets

def rowCount (database : Database) : Except CacheError Nat := do
  let rows ← database.rows
  return rows.size

/-! ### Statements of others -/

/-- A change that another user of the database makes. -/
inductive Edit where
  /-- Sets the content of a row. -/
  | setContent (key : Key) (content : Cell)
  /-- Sets the query text of a row, or takes it away. -/
  | setQuery (key : Key) (query : Option Bytes)
  | deleteRow (key : Key)
  | dropTable
  deriving DecidableEq, Repr

/-- The rows with the row of a key changed, and how many rows that are. -/
def changeRow (rows : KeyMap StoredRow) (key : Key) (change : StoredRow → StoredRow) :
    Nat × Database :=
  match rows.get? key with
  | none => (0, table rows)
  | some row => (1, table (rows.insert key (change row)))

/-- The database after an edit, and how many rows it touched. -/
def edit (database : Database) (change : Edit) : Except CacheError (Nat × Database) := do
  let rows ← database.rows
  match change with
  | .setContent key content => return changeRow rows key fun row => { row with content := content }
  | .setQuery key query => return changeRow rows key fun row => { row with query := query }
  | .deleteRow key => return (if rows.contains key then 1 else 0, table (rows.erase key))
  | .dropTable => return (0, withoutTable)

end Database

end ResultCache
