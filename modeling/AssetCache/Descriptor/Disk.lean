import AssetCache.Descriptor.Relation
import AssetCache.FileTree

/-!
# Disks with databases

A tree of files, some of which are databases, and what opening a database comes to. The file of a
database is opened under the shortest path that leads to it; beside it the database keeps files of
its own, which must find room.
-/

namespace AssetCache

/-- What a database is seen to hold while it is open. -/
structure Session where
  rows : Relation
  /-- Whether the rows can be read but not changed. -/
  isReadOnly : Bool := false

/-- A tree of files, some of which are databases. -/
structure Disk where
  tree : FileTree
  /-- The rows of each database, under the names that lead to its file. -/
  databases : Table (List String) Relation

namespace Disk

/-- A disk without files, the path to which has a length. -/
def empty (depth : Nat) : Disk :=
  ⟨.empty depth, ∅⟩

/-! ### The place of a database -/

/-- The greatest length of a path on the way to a database, in bytes. -/
def stepLimit : Nat := 511

/-- The greatest length of the path of a database, in bytes: the names of its companions are longer
than its own. -/
def pathLimit : Nat := 504

/-- The length, in bytes, of the path that leads along some names. -/
def lengthOf (disk : Disk) (names : List String) : Nat :=
  FilePath.length disk.tree.depth ⟨names⟩

/-- The names that pieces come to, after some names: what is idle is passed over, and two dots take
back the name before them. There are none if the path is too long on the way. -/
def namesAlong (disk : Disk) (names : List String) : List String → Option (List String)
  | [] => some names
  | piece :: rest =>
    if FilePath.isIdle piece then disk.namesAlong names rest
    else if piece = FilePath.upward then disk.namesAlong names.dropLast rest
    else if stepLimit < disk.lengthOf (names ++ [piece]) then none
    else disk.namesAlong (names ++ [piece]) rest

/-- Whether there can be a database at the end of some names. -/
def admits (disk : Disk) (names : List String) : Bool :=
  names ≠ [] && disk.lengthOf names ≤ pathLimit &&
    !names.any fun name => FilePath.isBroken name || FilePath.isLong name

/-- The names that lead to the database at a path, if there can be one. -/
def place? (disk : Disk) (path : FilePath) : Option (List String) :=
  (disk.namesAlong [] path.pieces).filter disk.admits

/-! ### Companions -/

/-- The names that lead to a file that a database keeps beside its own. -/
def companion (names : List String) (ending : String) : List String :=
  names.dropLast ++ (names.getLast?.map (· ++ ending)).toList

/-- The names that lead to the journals of a database. -/
def journals (names : List String) : List (List String) :=
  [companion names "-journal", companion names "-wal"]

/-- The names that lead to the index of the second journal. -/
def index (names : List String) : List String :=
  companion names "-shm"

/-- Whether there can be a file at the end of some names: the last one is not too long, and there is
no directory. -/
def canKeep (disk : Disk) (names : List String) : Bool :=
  disk.tree.node? names ≠ some .directory && !names.any FilePath.isLong

/-- The disk without the file at the end of some names. -/
def discard (disk : Disk) (names : List String) : Disk :=
  if disk.tree.node? names = some .directory then disk
  else ⟨disk.tree.unset names, disk.databases.erase names⟩

/-! ### Opening -/

/-- The rows of the database in a file that is there, if it is one. A file of a single byte counts
as empty, and an empty file is a database without rows. -/
def rowsOf? (disk : Disk) (names : List String) : FileNode → Option Relation
  | .directory => none
  | .file bytes =>
    match disk.databases.get? names with
    | some rows => some rows
    | none => if bytes.length ≤ 1 then some ∅ else none

/-- The database at the end of some names, where a file is created if there is nothing. What lies in
the place of its companions goes. Without its journals it cannot be used; without the index it can
be read, if it has been in use before. -/
def openAt (disk : Disk) (names : List String) : Except StoreError Session × Disk :=
  let node := (disk.tree.node? names).getD (.file [])
  match disk.rowsOf? names node with
  | none => (.error (.backend none), disk)
  | some rows =>
    let disk := { disk with tree := disk.tree.set names node }
    let isReadOnly := !disk.canKeep (index names)
    if !(journals names).all disk.canKeep || isReadOnly && !disk.databases.contains names then
      (.error (.backend none), disk)
    else
      let disk := (index names :: journals names).foldl discard disk
      (.ok ⟨rows, isReadOnly⟩, { disk with databases := disk.databases.insert names rows })

/-- The database at a path. The directories above it are created first. -/
def openDatabase (disk : Disk) (path : FilePath) : Except StoreError Session × Disk :=
  match disk.tree.createDirectories path.parent with
  | (.error kind, tree) => (.error (.io (.ofSystem kind)), { disk with tree })
  | (.ok (), tree) =>
    let disk := { disk with tree }
    match disk.place? path with
    | none => (.error (.backend none), disk)
    | some names => disk.openAt names

/-- The disk with other rows in the database at a path. -/
def save (disk : Disk) (path : FilePath) (rows : Relation) : Disk :=
  match disk.place? path with
  | none => disk
  | some names => { disk with databases := disk.databases.insert names rows }

/-- The paths of all files whose name ends as given, in order. -/
def filesEnding (disk : Disk) (ending : String) : List String :=
  let files := disk.tree.nodes.entries.filter fun entry => entry.2 ≠ .directory
  let paths := files.map fun entry => "/".intercalate entry.1.2
  (paths.filter fun path => ending.toList.reverse.isPrefixOf path.toList.reverse).mergeSort (· ≤ ·)

end Disk

end AssetCache
