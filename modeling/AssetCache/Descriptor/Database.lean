import AssetCache.Descriptor.Disk
import AssetCache.Descriptor.Store
import AssetCache.Settings

/-!
# Descriptors in a database file

A descriptor store that keeps its rows in a database file. The file is opened, and created if it
is missing, before the first operation; an attempt that fails is made again before the next one.
-/

namespace AssetCache

/-- Where a database lies and how many connections it may use. -/
structure DatabaseConfig where
  path : String
  maxConnections : UInt32 := 4
deriving DecidableEq

namespace DatabaseConfig

/-- The options with another number of connections, but at least one. -/
def withMaxConnections (config : DatabaseConfig) (connections : UInt32) : DatabaseConfig :=
  { config with maxConnections := if connections = 0 then 1 else connections }

/-- The options that settings ask for; of the number of connections, the low 32 bits count. -/
def ofSettings (settings : Settings) : Except StoreError DatabaseConfig :=
  match settings.get? "sqlite.path" with
  | none => .error (.invalid "sqlite.path is not configured")
  | some path =>
    match settings.getNumber? "sqlite.max_connections" with
    | some connections => .ok (withMaxConnections ⟨path, 4⟩ connections.toUInt32)
    | none => .ok ⟨path, 4⟩

end DatabaseConfig

/-- Where a database lies. -/
inductive Location where
  /-- In no file: its rows are gone once it is closed. -/
  | nowhere
  | file (path : FilePath)
deriving DecidableEq

namespace Location

/-- The name that a text gives a database, and the options after it. A text that starts with the
word `file` and a colon is a locator: a question mark opens its options, and nothing counts after a
hash. -/
def parts (text : String) : List Char × List (List Char) :=
  let word := "file:".toList
  if word.isPrefixOf text.toList then
    let locator := (text.toList.drop word.length).takeWhile (· ≠ '#')
    (locator.takeWhile (· ≠ '?'), cut '&' ((locator.dropWhile (· ≠ '?')).drop 1))
  else (text.toList, [])

/-- Whether a text stands for a database in no file: it has no name or the name that is reserved
for databases in memory, or it is a locator that asks for one. -/
def isTransient (text : String) : Bool :=
  let (name, options) := parts text
  name = [] || name = ":memory:".toList || options.contains "mode=memory".toList

/-- The place that a text stands for, read from the root of the disk, with a slash at its start or
without. -/
def ofText (text : String) : Location :=
  if isTransient text then .nowhere
  else
    match (FilePath.ofText text).pieces with
    | "" :: pieces => .file ⟨pieces⟩
    | pieces => .file ⟨pieces⟩

end Location

/-- A database on a disk. -/
structure Database where
  disk : Disk
  location : Location
  /-- What the database holds, once it is open. -/
  session : Option Session

namespace Database

/-- A database that is not open yet. -/
def ofConfig (disk : Disk) (config : DatabaseConfig) : Database :=
  ⟨disk, .ofText config.path, none⟩

/-- Closes a database. -/
def close (database : Database) : Database :=
  { database with session := none }

/-- The rows of a database; none while it is not open. -/
def rows (database : Database) : Relation :=
  (database.session.map Session.rows).getD ∅

/-- The database with other rows, which are saved. -/
def withRows (database : Database) (rows : Relation) : Database :=
  { database with
    session := some { rows }
    disk := match database.location with
      | .file path => database.disk.save path rows
      | .nowhere => database.disk }

/-- Opens a database. -/
def connect (database : Database) : Except StoreError (Option Event) × Database :=
  match database.session, database.location with
  | some _, _ => (.ok none, database)
  | none, .nowhere =>
    (.ok (some .databaseOpened), { database with session := some { rows := ∅ } })
  | none, .file path =>
    match database.disk.openDatabase path with
    | (.error error, disk) => (.error error, { database with disk })
    | (.ok session, disk) =>
      (.ok (some .databaseOpened), { database with disk, session := some session })

/-- Carries out an operation on the rows and saves them, where they can be changed. -/
def update {α : Type} (database : Database)
    (change : Relation → Except StoreError α × Relation) : Except StoreError α × Database :=
  if database.session.any Session.isReadOnly then (.error (.backend none), database)
  else
    let (result, rows) := change database.rows
    (result, database.withRows rows)

end Database

instance : DescriptorStore Database where
  connect := Database.connect
  create database id descriptor := database.update fun rows => rows.create id descriptor
  read database id := database.rows.read id
  contains database id := .ok (database.rows.contains id.text)
  duplicate database id := database.update fun rows => rows.duplicate id
  delete database id := database.update fun rows => rows.delete id

end AssetCache
