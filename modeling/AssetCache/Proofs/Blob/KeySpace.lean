import AssetCache.Blob.Directory
import AssetCache.Blob.Memory
import AssetCache.Proofs.Blob.Trees
import Mathlib.Data.Set.Defs

/-!
# Keys that lie side by side in a directory

A key space is a set of keys such that each of them can be a file below one directory, and none of
them lies below another (`KeySpace`). What a directory then shows of the keys is a table of blobs
(`KeySpace.Mirrors`): a file for each blob, and around the files nothing but directories that lead
to keys.
-/

namespace AssetCache

open FilePath (IsPlain)

/-- The names that a key stands for. -/
def namesOf (key : String) : List String :=
  (FilePath.ofText key).pieces

lemma namesOf_injective : Function.Injective namesOf := by
  intro key other same
  apply FilePath.ofText_injective
  exact congrArg FilePath.mk same

/-- Keys in normal form below a directory: their names are plain and not too long, and no key lies
in the place of a directory of another one. -/
structure KeySpace where
  /-- The names that lead to the directory. -/
  root : List String
  /-- The length of the path to the root of the tree, in bytes. -/
  depth : Nat
  keys : Set String
  rooted : ∀ piece ∈ root, IsPlain piece
  plain : ∀ key ∈ keys, ∀ piece ∈ namesOf key, IsPlain piece
  small : ∀ key ∈ keys, ∀ piece ∈ namesOf key, piece.utf8ByteSize ≤ 200
  short : ∀ key ∈ keys, FilePath.length depth ⟨root ++ namesOf key⟩ < FilePath.lengthLimit
  apart : ∀ key ∈ keys, ∀ other ∈ keys, namesOf key <+: namesOf other → key = other

namespace KeySpace

/-- A list of keys as a key space. -/
def ofList (root : List String) (depth : Nat) (keys : List String)
    (normal : (∀ piece ∈ root, IsPlain piece) ∧
      (∀ key ∈ keys, ∀ piece ∈ namesOf key, IsPlain piece ∧ piece.utf8ByteSize ≤ 200) ∧
      (∀ key ∈ keys, FilePath.length depth ⟨root ++ namesOf key⟩ < FilePath.lengthLimit) ∧
      ∀ key ∈ keys, ∀ other ∈ keys, namesOf key <+: namesOf other → key = other) : KeySpace where
  root := root
  depth := depth
  keys := { key | key ∈ keys }
  rooted := normal.1
  plain key known piece among := (normal.2.1 key known piece among).1
  small key known piece among := (normal.2.1 key known piece among).2
  short := normal.2.2.1
  apart := normal.2.2.2

variable {space : KeySpace} {store : DirectoryBlobs} {blobs : MemoryBlobs} {key : String}
  {tree : FileTree} {names above : List String} {name : String} {bytes : Bytes}

lemma names_ne_nil (space : KeySpace) (key : String) : space.root ++ namesOf key ≠ [] := by
  have named : namesOf key ≠ [] := FilePath.pieces_ofText_ne_nil key
  simp [named]

lemma names_concat (space : KeySpace) (split : namesOf key = above ++ [name]) :
    space.root ++ namesOf key = space.root ++ above ++ [name] := by
  rw [split, List.append_assoc]

/-- A store over a directory of a tree in which nothing lies. -/
structure Vacant (space : KeySpace) (store : DirectoryBlobs) : Prop where
  root : store.root = ⟨space.root⟩
  depth : store.tree.depth = space.depth
  closed : store.tree.Closed
  there : store.tree.node? space.root = some .directory
  empty (names : List String) : names ≠ [] → store.tree.node? (space.root ++ names) = none

/-- What a directory has when a table holds some blobs. -/
structure Mirrors (space : KeySpace) (store : DirectoryBlobs) (blobs : MemoryBlobs) : Prop where
  root : store.root = ⟨space.root⟩
  depth : store.tree.depth = space.depth
  closed : store.tree.Closed
  there : store.tree.node? space.root = some .directory
  known (key : String) (bytes : Bytes) : blobs.get? key = some bytes → key ∈ space.keys
  file (names : List String) (bytes : Bytes) :
    store.tree.node? (space.root ++ names) = some (.file bytes) ↔
      ∃ key, blobs.get? key = some bytes ∧ names = namesOf key
  /-- Below the directory there are directories on the way to keys only. -/
  leads (names : List String) :
    names ≠ [] → store.tree.node? (space.root ++ names) = some .directory →
      ∃ key ∈ space.keys, names <+: namesOf key ∧ names ≠ namesOf key

/-- A directory that was opened in an empty tree is empty. -/
lemma vacant_of_openAt
    (opened : DirectoryBlobs.openAt (.empty space.depth) ⟨space.root⟩ = (.ok store, tree)) :
    space.Vacant store := by
  have none (names : List String) (named : names ≠ []) :
      (FileTree.empty space.depth).node? names = none := by
    cases names with
    | nil => contradiction
    | cons _ _ => rfl
  have closed : (FileTree.empty space.depth).Closed := by
    intro names name found
    exact absurd (none _ (by simp)) found
  have isOpen : (FileTree.empty space.depth).IsOpen space.root := by
    intro front bytes _
    cases front <;> exact nofun
  by_cases short : FilePath.length space.depth ⟨space.root⟩ < FilePath.lengthLimit
  · obtain ⟨tree', created, grown⟩ :=
      FileTree.createDirectories_plain space.rooted short isOpen
    rw [DirectoryBlobs.openAt, created] at opened
    cases opened
    refine ⟨rfl, grown.depth, grown.closed closed, grown.directory List.prefix_rfl, ?_⟩
    intro names named
    have outside : ¬ space.root ++ names <+: space.root := by
      intro start
      have shorter := start.length_le
      rw [List.length_append] at shorter
      exact named (List.length_eq_zero_iff.1 (by omega))
    rw [grown.node, if_neg outside]
    exact none _ (by simp [named])
  · have refused : (FileTree.empty space.depth).accepts ⟨space.root⟩ = .error .invalidFilename := by
      rw [FileTree.accepts, FilePath.hasBroken_of_plain space.rooted]
      exact if_pos (Nat.not_lt.1 short)
    simp only [DirectoryBlobs.openAt, FileTree.createDirectories, refused] at opened
    cases opened

lemma Vacant.mirrors (vacant : space.Vacant store) : space.Mirrors store ∅ where
  root := vacant.root
  depth := vacant.depth
  closed := vacant.closed
  there := vacant.there
  known key bytes found := by simp at found
  file names bytes := by
    simp only [Table.get?_empty, reduceCtorEq, false_and, exists_false, iff_false]
    by_cases named : names = []
    · simp [named, vacant.there]
    · simp [vacant.empty names named]
  leads names named found := by
    rw [vacant.empty names named] at found
    contradiction

namespace Mirrors

/-- What lies under a key is its blob. -/
lemma node (mirrors : space.Mirrors store blobs) (known : key ∈ space.keys) :
    store.tree.node? (space.root ++ namesOf key) = (blobs.get? key).map .file := by
  cases found : blobs.get? key with
  | some bytes => exact (mirrors.file _ bytes).2 ⟨key, found, rfl⟩
  | none =>
    cases node : store.tree.node? (space.root ++ namesOf key) with
    | none => rfl
    | some node' =>
      cases node' with
      | file bytes =>
        obtain ⟨other, there, same⟩ := (mirrors.file _ bytes).1 node
        rw [namesOf_injective same, there] at found
        cases found
      | directory =>
        have named : namesOf key ≠ [] := FilePath.pieces_ofText_ne_nil key
        obtain ⟨other, among, start, different⟩ := mirrors.leads _ named node
        rw [space.apart key known other among start] at different
        exact absurd rfl different

/-- No file is in the way of a key. -/
lemma isOpen (mirrors : space.Mirrors store blobs) (known : key ∈ space.keys)
    (split : namesOf key = above ++ [name]) : store.tree.IsOpen (space.root ++ above) := by
  intro front bytes start
  rcases List.prefix_or_prefix_of_prefix start (List.prefix_append space.root above) with
    outer | ⟨names, rfl⟩
  · rw [mirrors.closed.directory_along mirrors.there outer]
    exact nofun
  · intro found
    obtain ⟨other, there, rfl⟩ := (mirrors.file names bytes).1 found
    have inner : namesOf other <+: above := (List.prefix_append_right_inj _).1 start
    have whole : above <+: namesOf key := by
      rw [split]
      exact List.prefix_append _ _
    rw [space.apart other (mirrors.known other bytes there) key known (inner.trans whole)] at inner
    have shorter := inner.length_le
    rw [split, List.length_append] at shorter
    simp at shorter

/-- The path of a key leads somewhere. -/
lemma reaches (mirrors : space.Mirrors store blobs) (known : key ∈ space.keys)
    (split : namesOf key = above ++ [name]) :
    store.tree.Reaches (space.root ++ above) name where
  plain piece among := by
    rw [← space.names_concat split] at among
    rcases List.mem_append.1 among with outer | inner
    · exact space.rooted piece outer
    · exact space.plain key known piece inner
  short := by
    rw [mirrors.depth, ← space.names_concat split]
    exact space.short key known
  isOpen := mirrors.isOpen known split

/-- Trees in which the same lies everywhere show the same blobs. -/
lemma congr (mirrors : space.Mirrors store blobs) (alike : store.tree.Alike tree) :
    space.Mirrors (store.withTree tree) blobs where
  root := mirrors.root
  depth := alike.depth.trans mirrors.depth
  closed := mirrors.closed.congr alike
  there := (congrFun alike.node _).trans mirrors.there
  known := mirrors.known
  file names bytes := by
    rw [← mirrors.file names bytes, ← congrFun alike.node]
    rfl
  leads names named found :=
    mirrors.leads names named ((congrFun alike.node _).symm.trans found)

/-- Directories that are created on the way to a key show nothing. -/
lemma grow (mirrors : space.Mirrors store blobs) (known : key ∈ space.keys)
    (split : namesOf key = above ++ [name]) (grown : store.tree.Grown (space.root ++ above) tree) :
    space.Mirrors (store.withTree tree) blobs where
  root := mirrors.root
  depth := grown.depth.trans mirrors.depth
  closed := grown.closed mirrors.closed
  there := grown.directory (List.prefix_append _ _)
  known := mirrors.known
  file names bytes := by
    rw [← mirrors.file names bytes, DirectoryBlobs.withTree, grown.node]
    split
    · next start =>
      have noFile := mirrors.isOpen known split _ bytes start
      simp [noFile]
    · rfl
  leads names named found := by
    rw [DirectoryBlobs.withTree, grown.node] at found
    split at found
    · next start =>
      have inner := (List.prefix_append_right_inj _).1 start
      refine ⟨key, known, ?_, ?_⟩
      · rw [split]
        exact inner.trans (List.prefix_append _ _)
      · rintro rfl
        have shorter := inner.length_le
        rw [split, List.length_append] at shorter
        simp at shorter
    · exact mirrors.leads names named found

/-- What lies under one key changes, in the directory as in the table. -/
lemma update (mirrors : space.Mirrors store blobs) (known : key ∈ space.keys)
    (content : Option Bytes) {blobs' : MemoryBlobs} (depth : tree.depth = store.tree.depth)
    (closed : tree.Closed)
    (view : ∀ names, tree.node? (space.root ++ names) =
      if names = namesOf key then content.map .file else store.tree.node? (space.root ++ names))
    (held : ∀ other, blobs'.get? other = if other = key then content else blobs.get? other) :
    space.Mirrors (store.withTree tree) blobs' := by
  have named : namesOf key ≠ [] := FilePath.pieces_ofText_ne_nil key
  refine ⟨mirrors.root, depth.trans mirrors.depth, closed, ?_, ?_, ?_, ?_⟩
  · have outer := view []
    rw [List.append_nil, if_neg (Ne.symm named)] at outer
    exact outer.trans mirrors.there
  · intro other bytes found
    rw [held] at found
    split at found
    · next same => exact same ▸ known
    · exact mirrors.known other bytes found
  · intro names bytes
    rw [DirectoryBlobs.withTree, view]
    split
    · next same =>
      subst same
      constructor
      · intro found
        refine ⟨key, ?_, rfl⟩
        rw [held, if_pos rfl]
        exact Option.map_injective (fun _ _ => FileNode.file.inj) found
      · rintro ⟨other, found, same⟩
        rw [held, if_pos (namesOf_injective same.symm)] at found
        rw [found]
        rfl
    · next different =>
      rw [mirrors.file]
      constructor
      · rintro ⟨other, found, rfl⟩
        refine ⟨other, ?_, rfl⟩
        rw [held, if_neg, found]
        rintro rfl
        exact different rfl
      · rintro ⟨other, found, rfl⟩
        rw [held] at found
        split at found
        · next same => exact absurd (congrArg namesOf same) different
        · exact ⟨other, found, rfl⟩
  · intro names inside found
    rw [DirectoryBlobs.withTree, view] at found
    split at found
    · cases content <;> cases found
    · exact mirrors.leads names inside found

/-- No directory lies under a key. -/
lemma vacant (mirrors : space.Mirrors store blobs) (known : key ∈ space.keys) :
    store.tree.node? (space.root ++ namesOf key) ≠ some .directory := by
  rw [mirrors.node known]
  cases blobs.get? key <;> exact nofun

/-- A file that is removed is a blob that is erased. -/
lemma erase (mirrors : space.Mirrors store blobs) (known : key ∈ space.keys) :
    space.Mirrors (store.withTree (store.tree.unset (space.root ++ namesOf key)))
      (blobs.erase key) := by
  have whole := names_ne_nil space key
  have closed := mirrors.closed.unset whole (mirrors.vacant known)
  refine mirrors.update known none ?_ closed ?_ ?_
  · rfl
  · intro names
    rw [FileTree.node?_unset _ whole]
    simp only [List.append_cancel_left_eq, Option.map_none]
  · exact fun other => Table.get?_erase blobs key other

/-- A file that is put in its place is a blob that is inserted. -/
lemma insert (mirrors : space.Mirrors store blobs) (known : key ∈ space.keys)
    (split : namesOf key = above ++ [name])
    (there : store.tree.node? (space.root ++ above) = some .directory) (bytes : Bytes) :
    space.Mirrors (store.withTree (store.tree.set (space.root ++ namesOf key) (.file bytes)))
      (blobs.insert key bytes) := by
  have closed : (store.tree.set (space.root ++ namesOf key) (.file bytes)).Closed := by
    have vacant := mirrors.vacant known
    rw [space.names_concat split] at vacant ⊢
    exact mirrors.closed.set_file there vacant bytes
  refine mirrors.update known (some bytes) ?_ closed ?_ ?_
  · rfl
  · intro names
    rw [FileTree.node?_set _ (names_ne_nil space key)]
    simp only [List.append_cancel_left_eq, Option.map_some]
  · exact fun other => Table.get?_insert blobs key other bytes

/-- A file that is moved from one key to another, or to the one that it has. -/
lemma move {target : String} (mirrors : space.Mirrors store blobs) (known : key ∈ space.keys)
    (known' : target ∈ space.keys) (split : namesOf target = above ++ [name])
    (there : store.tree.node? (space.root ++ above) = some .directory)
    (found : blobs.get? key = some bytes) :
    space.Mirrors
      (store.withTree (if space.root ++ namesOf key = space.root ++ namesOf target then store.tree
        else (store.tree.unset (space.root ++ namesOf key)).set (space.root ++ namesOf target)
          (.file bytes)))
      ((blobs.erase key).insert target bytes) := by
  have whole := names_ne_nil space key
  have node := mirrors.node known
  rw [found] at node
  have still : (store.tree.unset (space.root ++ namesOf key)).node? (space.root ++ above) =
      some .directory := by
    rw [FileTree.node?_unset _ whole, if_neg, there]
    intro same
    rw [same, node] at there
    cases there
  have moved := (mirrors.erase known).insert known' split still bytes
  split
  · next same =>
    -- The file was taken away only to be put where it was.
    refine moved.congr ⟨?_, ?_⟩
    · rfl
    · funext names
      simp only [DirectoryBlobs.withTree]
      rw [← same, FileTree.node?_set _ whole, FileTree.node?_unset _ whole]
      split
      · next here =>
        rw [here, node]
        rfl
      · rfl
  · exact moved

end Mirrors

end KeySpace

end AssetCache
