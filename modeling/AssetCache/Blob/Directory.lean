import AssetCache.Blob.Path
import AssetCache.Blob.Store
import AssetCache.FileTree

/-!
# Blobs in a directory

A store that keeps every blob in a file of its own below a root directory. A blob is written to a
temporary file beside its place and renamed into it when it is complete, so that a file is always
a whole blob.
-/

namespace AssetCache

/-- A directory with the tree of files in which it lies. -/
structure DirectoryBlobs where
  tree : FileTree
  /-- The path to the directory. -/
  root : FilePath

namespace DirectoryBlobs

/-- A path below the directory, from the root of the tree on. -/
def pathOf (store : DirectoryBlobs) (path : FilePath) : FilePath :=
  store.root.join path

/-- The path of the temporary file for a path below the directory. -/
def temporaryOf (store : DirectoryBlobs) (path : FilePath) (token : Token) : FilePath :=
  store.pathOf (path.temporary token)

/-- A failure that the system reports. -/
def failure (kind : IoKind) : StoreError :=
  .io (.ofSystem kind)

/-- A failure that the system reports about a key; what is absent is named. -/
def failureOf (key : String) : IoKind → StoreError
  | .notFound => .notFound key
  | kind => failure kind

/-- The store with another tree. -/
def withTree (store : DirectoryBlobs) (tree : FileTree) : DirectoryBlobs :=
  { store with tree }

/-- Opens the directory at the end of a path, and creates it if it is missing. -/
def openAt (tree : FileTree) (root : FilePath) : Except StoreError DirectoryBlobs × FileTree :=
  match tree.createDirectories root with
  | (.error kind, tree) => (.error (failure kind), tree)
  | (.ok (), tree) => (.ok ⟨tree, root⟩, tree)

/-- Creates the directories above a path below the directory. -/
def createParent (store : DirectoryBlobs) (path : FilePath) :
    Except StoreError Unit × DirectoryBlobs :=
  match store.tree.createDirectories (store.pathOf path).parent with
  | (.error kind, tree) => (.error (failure kind), store.withTree tree)
  | (.ok (), tree) => (.ok (), store.withTree tree)

/-- The store after a call that leaves the tree as it is when it fails. -/
def attempt (store : DirectoryBlobs) (wording : IoKind → StoreError)
    (result : Except IoKind FileTree) : Except StoreError Unit × DirectoryBlobs :=
  match result with
  | .error kind => (.error (wording kind), store)
  | .ok tree => (.ok (), store.withTree tree)

/-- Creates the temporary file of a blob that will come in, and the directories above it. -/
def start (store : DirectoryBlobs) (key : String) (token : Token) :
    Except StoreError Unit × DirectoryBlobs :=
  match FilePath.ofKey key with
  | .error error => (.error error, store)
  | .ok path =>
    match store.createParent path with
    | (.error error, store) => (.error error, store)
    | (.ok (), store) => store.attempt failure (store.tree.write (store.temporaryOf path token) [])

/-- The store with other bytes in a temporary file, if it is there. -/
def holdAt (store : DirectoryBlobs) (temporary : FilePath) (bytes : Bytes) : DirectoryBlobs :=
  match store.tree.find temporary with
  | .ok (.file _) => (store.attempt failure (store.tree.write temporary bytes)).2
  | _ => store

/-- The store with other bytes in the temporary file of a key. -/
def hold (store : DirectoryBlobs) (key : String) (token : Token) (bytes : Bytes) :
    DirectoryBlobs :=
  match FilePath.ofKey? key with
  | none => store
  | some path => store.holdAt (store.temporaryOf path token) bytes

/-- The store without the temporary file of a key. -/
def abandon (store : DirectoryBlobs) (key : String) (token : Token) : DirectoryBlobs :=
  match FilePath.ofKey? key with
  | none => store
  | some path =>
    (store.attempt failure (store.tree.removeFile (store.temporaryOf path token))).2

/-- Renames the temporary file of a blob that is complete into its place. -/
def complete (store : DirectoryBlobs) (key : String) (token : Token) (bytes : Bytes) :
    Except StoreError Unit × DirectoryBlobs :=
  match FilePath.ofKey key with
  | .error error => (.error error, store)
  | .ok path =>
    let temporary := store.temporaryOf path token
    let held := store.holdAt temporary bytes
    match held.tree.rename temporary (store.pathOf path) with
    | .error kind => (.error (failure kind), held.abandon key token)
    | .ok tree => (.ok (), held.withTree tree)

/-- The bytes of a file, as a stream. A directory can be opened but not read. -/
def get (store : DirectoryBlobs) (key : String) : Except StoreError Source := do
  let path ← FilePath.ofKey key
  match store.tree.find (store.pathOf path) with
  | .error kind => throw (failureOf key kind)
  | .ok (.file bytes) => return .ofBytes bytes
  | .ok .directory => return ⟨[.error (.ofSystem .isADirectory)], none⟩

/-- Removes the file of a key. -/
def delete (store : DirectoryBlobs) (key : String) : Except StoreError Unit × DirectoryBlobs :=
  match FilePath.ofKey key with
  | .error error => (.error error, store)
  | .ok path => store.attempt (failureOf key) (store.tree.removeFile (store.pathOf path))

/-- Whether there is something under a key. -/
def contains (store : DirectoryBlobs) (key : String) : Except StoreError Bool := do
  let path ← FilePath.ofKey key
  match store.tree.contains (store.pathOf path) with
  | .error kind => throw (failure kind)
  | .ok found => return found

/-- Moves what is under a key to another key, and creates the directories above that. -/
def rename (store : DirectoryBlobs) (source target : String) :
    Except StoreError Unit × DirectoryBlobs :=
  match FilePath.ofKey source, FilePath.ofKey target with
  | .error error, _ => (.error error, store)
  | .ok _, .error error => (.error error, store)
  | .ok old, .ok new =>
    match store.createParent new with
    | (.error error, store) => (.error error, store)
    | (.ok (), store) =>
      store.attempt (failureOf source) (store.tree.rename (store.pathOf old) (store.pathOf new))

end DirectoryBlobs

instance : BlobStore DirectoryBlobs where
  start := DirectoryBlobs.start
  hold := DirectoryBlobs.hold
  abandon := DirectoryBlobs.abandon
  complete := DirectoryBlobs.complete
  get := DirectoryBlobs.get
  delete := DirectoryBlobs.delete
  contains := DirectoryBlobs.contains
  rename := DirectoryBlobs.rename

end AssetCache
