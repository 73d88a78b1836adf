import AssetCache.Bytes
import AssetCache.Error
import AssetCache.FilePath
import AssetCache.Table

/-!
# Trees of files

A tree of files and directories as the operating system keeps it, with the calls that the stores
make: creating directories, writing, removing and renaming. Each call fails with the kind of
failure that the system reports. But for the creation of directories, which may come half the way,
a call that fails has changed nothing.
-/

namespace AssetCache

/-- What lies under a name. -/
inductive FileNode where
  | file (bytes : Bytes)
  | directory
deriving DecidableEq

/-- Files and directories under the names that lead to them. The root is always there. -/
structure FileTree where
  /-- The length of the path to the root, in bytes. -/
  depth : Nat
  /-- What lies at the end of some names, under their number and the names. -/
  nodes : Table (Nat × List String) FileNode

/-- Where a path leads, whether or not there is something. -/
inductive Place where
  /-- To a directory that is there, without a name at the end of the path. -/
  | directory (names : List String)
  /-- To a name in a directory that is there; a slash may follow the name. -/
  | entry (parent : List String) (name : String) (slash : Bool)
deriving DecidableEq

namespace FileTree

/-- A tree in which the root is empty. -/
def empty (depth : Nat) : FileTree :=
  ⟨depth, ∅⟩

/-- What lies at the end of some names. -/
def node? (tree : FileTree) : List String → Option FileNode
  | [] => some .directory
  | names => tree.nodes.get? (names.length, names)

/-- The tree with something put at the end of some names. -/
def set (tree : FileTree) (names : List String) (node : FileNode) : FileTree :=
  { tree with nodes := tree.nodes.insert (names.length, names) node }

/-- The tree with what lies at the end of some names taken away. -/
def unset (tree : FileTree) (names : List String) : FileTree :=
  { tree with nodes := tree.nodes.erase (names.length, names) }

@[simp] theorem node?_nil (tree : FileTree) : tree.node? [] = some .directory := rfl

/-- What was put at the end of some names lies there, and all else lies where it did. -/
theorem node?_set (tree : FileTree) {names : List String} (h : names ≠ []) (node : FileNode)
    (other : List String) :
    (tree.set names node).node? other = if other = names then some node else tree.node? other := by
  cases other with
  | nil => simp [h.symm]
  | cons name rest =>
    simp only [node?, set, Table.get?_insert, Prod.mk.injEq]
    by_cases same : name :: rest = names <;> simp [same]

/-- What was taken away is gone, and all else lies where it did. -/
theorem node?_unset (tree : FileTree) {names : List String} (h : names ≠ [])
    (other : List String) :
    (tree.unset names).node? other = if other = names then none else tree.node? other := by
  cases other with
  | nil => simp [h.symm]
  | cons name rest =>
    simp only [node?, unset, Table.get?_erase, Prod.mk.injEq]
    by_cases same : name :: rest = names <;> simp [same]

/-! ### Looking up -/

/-- Follows pieces from a directory on. All names but a last one must be those of directories. -/
def follow (tree : FileTree) (here : List String) : List String → Except IoKind Place
  | [] => .ok (.directory here)
  | piece :: rest =>
    if FilePath.isIdle piece then tree.follow here rest
    else if piece = FilePath.upward then tree.follow here.dropLast rest
    else if rest.all (· = "") then .ok (.entry here piece (!rest.isEmpty))
    else if FilePath.isLong piece then .error .invalidFilename
    else
      match tree.node? (here ++ [piece]) with
      | none => .error .notFound
      | some (.file _) => .error .notADirectory
      | some .directory => tree.follow (here ++ [piece]) rest

/-- Whether the system takes a path at all. -/
def accepts (tree : FileTree) (path : FilePath) : Except IoKind Unit :=
  if path.hasBroken then .error .invalidInput
  else if FilePath.lengthLimit ≤ path.length tree.depth then .error .invalidFilename
  else .ok ()

/-- Where a path leads. -/
def locate (tree : FileTree) (path : FilePath) : Except IoKind Place := do
  tree.accepts path
  tree.follow [] path.pieces

/-- What lies at a place. Only a directory lies at a name with a slash after it. -/
def look (tree : FileTree) : Place → Except IoKind FileNode
  | .directory _ => .ok .directory
  | .entry parent name slash =>
    if FilePath.isLong name then .error .invalidFilename
    else
      match tree.node? (parent ++ [name]) with
      | none => .error .notFound
      | some .directory => .ok .directory
      | some (.file bytes) => if slash then .error .notADirectory else .ok (.file bytes)

/-- What a path leads to. -/
def find (tree : FileTree) (path : FilePath) : Except IoKind FileNode := do
  tree.look (← tree.locate path)

/-- Whether there is something at the end of a path. -/
def contains (tree : FileTree) (path : FilePath) : Except IoKind Bool :=
  match tree.find path with
  | .ok _ => .ok true
  | .error .notFound => .ok false
  | .error kind => .error kind

/-! ### Changing -/

/-- Creates the directories that are missing along some pieces; whether one was missing already is
given. The last one cannot be created as the directory that a dot stands for. -/
def createAlong (tree : FileTree) (here : List String) (missing : Bool) :
    List String → Except IoKind Unit × FileTree
  | [] => (.ok (), tree)
  | piece :: rest =>
    if FilePath.isIdle piece then tree.createAlong here missing rest
    else if piece = FilePath.upward then tree.createAlong here.dropLast missing rest
    else if FilePath.isLong piece then (.error .invalidFilename, tree)
    else
      let names := here ++ [piece]
      match tree.node? names, FilePath.ending? rest with
      | some .directory, _ => tree.createAlong names missing rest
      | some (.file _), none =>
        (.error (if missing then .alreadyExists else .notADirectory), tree)
      | some (.file _), some .dot => (.error .notADirectory, tree)
      | some (.file _), some _ => (.error .alreadyExists, tree)
      | none, some .dot => (.error .notFound, tree)
      | none, _ => (tree.set names .directory).createAlong names true rest

/-- Creates a directory and the directories above it. Those created before a failure remain. -/
def createDirectories (tree : FileTree) (path : FilePath) : Except IoKind Unit × FileTree :=
  match tree.accepts path with
  | .error kind => (.error kind, tree)
  | .ok () => tree.createAlong [] false path.pieces

/-- Writes a file, which is created if it is missing. -/
def write (tree : FileTree) (path : FilePath) (bytes : Bytes) : Except IoKind FileTree := do
  match ← tree.locate path with
  | .directory _ | .entry _ _ true => throw .isADirectory
  | .entry parent name false =>
    if FilePath.isLong name then throw .invalidFilename
    if tree.node? (parent ++ [name]) = some .directory then throw .isADirectory
    return tree.set (parent ++ [name]) (.file bytes)

/-- Removes a file. -/
def removeFile (tree : FileTree) (path : FilePath) : Except IoKind FileTree := do
  let place ← tree.locate path
  match place, ← tree.look place with
  | .entry parent name _, .file _ => return tree.unset (parent ++ [name])
  | _, _ => throw .isADirectory

/-- Whether something lies below some names. -/
def hasChildren (tree : FileTree) (names : List String) : Bool :=
  tree.nodes.keys.any fun (number, other) => names.length < number && names.isPrefixOf other

/-- Moves a directory with all that lies below it. -/
def moveBelow (tree : FileTree) (source target : List String) : FileTree :=
  tree.nodes.entries.foldl (fun tree ((_, names), node) =>
    if source.isPrefixOf names then
      (tree.unset names).set (target ++ names.drop source.length) node
    else tree) tree

/-- Puts what lies at one end in the place of what lies at another. -/
def move (tree : FileTree) (source target : List String) : Except IoKind FileTree :=
  match tree.node? source, tree.node? target with
  | none, _ => .error .notFound
  | some (.file _), some .directory => .error .isADirectory
  | some (.file bytes), _ => .ok ((tree.unset source).set target (.file bytes))
  | some .directory, some (.file _) => .error .notADirectory
  | some .directory, some .directory =>
    if tree.hasChildren target then .error .directoryNotEmpty
    else .ok (tree.moveBelow source target)
  | some .directory, none => .ok (tree.moveBelow source target)

/-- Renames what lies at a place to what another place says. Nothing can be renamed that has no
name, or be put below itself. -/
def relocate (tree : FileTree) : Place → Place → Except IoKind FileTree
  | .entry above name slash, .entry above' name' slash' => do
    if FilePath.isLong name then throw .invalidFilename
    let some node := tree.node? (above ++ [name]) | throw .notFound
    if FilePath.isLong name' then throw .invalidFilename
    if node ≠ .directory && (slash || slash') then throw .notADirectory
    if (above ++ [name]).isPrefixOf above' then throw .invalidInput
    if (above' ++ [name']).isPrefixOf above then throw .directoryNotEmpty
    if above ++ [name] = above' ++ [name'] then return tree
    tree.move (above ++ [name]) (above' ++ [name'])
  | _, _ => throw .resourceBusy

/-- Renames a file or a directory; a file that was there before is replaced. -/
def rename (tree : FileTree) (source target : FilePath) : Except IoKind FileTree := do
  if target.hasBroken then throw .invalidInput
  let old ← tree.locate source
  let new ← tree.locate target
  tree.relocate old new

/-! ### Listing -/

/-- A node as it is listed: a file with its size, a directory with a slash. -/
def listed (names : List String) : FileNode → String
  | .file bytes => "/".intercalate names ++ " " ++ toString bytes.length
  | .directory => "/".intercalate names ++ "/"

/-- All that lies in a tree, in the order of the texts. -/
def listing (tree : FileTree) : List String :=
  (tree.nodes.entries.map fun ((_, names), node) => listed names node).mergeSort (· ≤ ·)

end FileTree

end AssetCache
