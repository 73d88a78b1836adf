import AssetCache.FileTree
import AssetCache.Proofs.Blob.Paths
import Mathlib.Data.List.Infix

/-!
# Trees along plain names

What the calls on a tree of files do where all names of a path are plain. Directories are created
along the names and nowhere else (`FileTree.Grown`); what is looked up is what lies at the end of
the names; a file is written, removed or renamed at the end of its names and nothing else is
touched. In all this the tree stays closed: whatever lies somewhere lies in a directory.
-/

namespace AssetCache.FileTree

open FilePath (IsPlain)

variable {tree tree' : FileTree} {names here front above rest tail : List String}
  {name piece : String} {bytes : Bytes}

/-- What lies somewhere lies in a directory. -/
def Closed (tree : FileTree) : Prop :=
  ∀ names name, tree.node? (names ++ [name]) ≠ none → tree.node? names = some .directory

/-- No file lies on the way along some names, and none at their end. -/
def IsOpen (tree : FileTree) (names : List String) : Prop :=
  ∀ front bytes, front <+: names → tree.node? front ≠ some (.file bytes)

/-- All names before something that is there are those of directories. -/
lemma Closed.on_way (closed : tree.Closed) (there : tree.node? names ≠ none)
    (start : front <+: names) (other : front ≠ names) : tree.node? front = some .directory := by
  induction names using List.reverseRecOn with
  | nil => exact absurd (List.prefix_nil.1 start) other
  | append_singleton names name ih =>
    have directory := closed names name there
    rcases List.prefix_concat_iff.1 start with whole | start
    · exact absurd whole other
    · by_cases last : front = names
      · rw [last]
        exact directory
      · exact ih (by rw [directory]; exact nofun) start last

lemma Closed.directory_along (closed : tree.Closed)
    (there : tree.node? names = some .directory) (start : front <+: names) :
    tree.node? front = some .directory := by
  by_cases whole : front = names
  · rw [whole]
    exact there
  · exact closed.on_way (by rw [there]; exact nofun) start whole

lemma Closed.isOpen (closed : tree.Closed) (there : tree.node? names = some .directory) :
    tree.IsOpen names := by
  intro front bytes start
  rw [closed.directory_along there start]
  exact nofun

/-! ### Changes that keep a tree closed -/

/-- A tree and another one in which the same lies everywhere. -/
structure Alike (tree tree' : FileTree) : Prop where
  depth : tree'.depth = tree.depth
  node : tree'.node? = tree.node?

lemma Closed.congr (closed : tree.Closed) (alike : tree.Alike tree') : tree'.Closed := by
  intro names name there
  rw [alike.node] at there ⊢
  exact closed names name there

lemma Closed.set_file (closed : tree.Closed) (there : tree.node? above = some .directory)
    (vacant : tree.node? (above ++ [name]) ≠ some .directory) (bytes : Bytes) :
    (tree.set (above ++ [name]) (.file bytes)).Closed := by
  have named : above ++ [name] ≠ [] := by simp
  intro names other found
  have kept (directory : tree.node? names = some .directory) :
      (tree.set (above ++ [name]) (.file bytes)).node? names = some .directory := by
    rw [node?_set _ named, if_neg, directory]
    rintro rfl
    exact vacant directory
  rw [node?_set _ named] at found
  split at found
  · next same =>
    obtain ⟨rfl, -⟩ := List.append_inj' same rfl
    exact kept there
  · exact kept (closed names other found)

lemma Closed.unset (closed : tree.Closed) (named : names ≠ [])
    (vacant : tree.node? names ≠ some .directory) : (tree.unset names).Closed := by
  intro above name found
  rw [node?_unset _ named] at found ⊢
  split at found
  · contradiction
  · have directory := closed above name found
    rw [if_neg, directory]
    rintro rfl
    exact vacant directory

/-! ### Creating directories -/

/-- A tree and what is left of it when directories were created along some names. -/
structure Grown (tree : FileTree) (names : List String) (tree' : FileTree) : Prop where
  depth : tree'.depth = tree.depth
  node (other : List String) :
    tree'.node? other = if other <+: names then some .directory else tree.node? other

lemma Grown.directory (grown : tree.Grown names tree') (start : front <+: names) :
    tree'.node? front = some .directory := by
  rw [grown.node, if_pos start]

lemma Grown.closed (grown : tree.Grown names tree') (closed : tree.Closed) : tree'.Closed := by
  intro above name found
  rw [grown.node] at found ⊢
  split
  · rfl
  · next outside =>
    rw [if_neg fun start => outside ((List.prefix_append _ _).trans start)] at found
    exact closed above name found

lemma ending?_ne_dot (plain : ∀ piece ∈ rest, IsPlain piece) :
    FilePath.ending? rest ≠ some .dot := by
  cases rest with
  | nil => exact nofun
  | cons piece rest =>
    have busy := (plain piece List.mem_cons_self).busy
    simp [FilePath.ending?, busy]

lemma createAlong_of_absent (missing : Bool) (plain : ∀ other ∈ piece :: rest, IsPlain other)
    (absent : tree.node? (here ++ [piece]) = none) :
    tree.createAlong here missing (piece :: rest) =
      (tree.set (here ++ [piece]) .directory).createAlong (here ++ [piece]) true rest := by
  obtain ⟨first, others⟩ := List.forall_mem_cons.1 plain
  have dotless := ending?_ne_dot others
  simp only [createAlong, first.busy, first.short, first.down, if_false, Bool.false_eq_true, absent]

lemma createAlong_of_directory (missing : Bool) (plain : IsPlain piece)
    (there : tree.node? (here ++ [piece]) = some .directory) :
    tree.createAlong here missing (piece :: rest) =
      tree.createAlong (here ++ [piece]) missing rest := by
  simp only [createAlong, plain.busy, plain.short, plain.down, if_false, Bool.false_eq_true, there]

/-- Directories can be created along plain names where no file is in the way. -/
lemma createAlong_plain (missing : Bool) (plain : ∀ piece ∈ rest, IsPlain piece)
    (along : ∀ front, front <+: here → tree.node? front = some .directory)
    (isOpen : tree.IsOpen (here ++ rest)) :
    ∃ tree', tree.createAlong here missing rest = (.ok (), tree') ∧
      tree.Grown (here ++ rest) tree' := by
  induction rest generalizing tree here missing with
  | nil =>
    refine ⟨tree, rfl, rfl, ?_⟩
    intro other
    rw [List.append_nil]
    split
    · next start => exact along other start
    · rfl
  | cons piece rest ih =>
    obtain ⟨first, others⟩ := List.forall_mem_cons.1 plain
    have step : here ++ piece :: rest = (here ++ [piece]) ++ rest := by simp
    have start : here ++ [piece] <+: (here ++ [piece]) ++ rest := List.prefix_append _ _
    rw [step] at isOpen ⊢
    cases node : tree.node? (here ++ [piece]) with
    | none =>
      -- The new directory is on the way that is open, so the rest of the way still is.
      have named : here ++ [piece] ≠ [] := by simp
      rw [createAlong_of_absent missing plain node]
      have along' (front : List String) (start : front <+: here ++ [piece]) :
          (tree.set (here ++ [piece]) .directory).node? front = some .directory := by
        rw [node?_set _ named]
        split
        · rfl
        · next other =>
          exact along front ((List.prefix_concat_iff.1 start).resolve_left other)
      have isOpen' :
          (tree.set (here ++ [piece]) .directory).IsOpen ((here ++ [piece]) ++ rest) := by
        intro front bytes start
        rw [node?_set _ named]
        split
        · exact nofun
        · exact isOpen front bytes start
      obtain ⟨tree', created, grown⟩ := ih true others along' isOpen'
      refine ⟨tree', created, grown.depth, ?_⟩
      intro other
      rw [grown.node]
      split
      · rfl
      · next outside =>
        rw [node?_set _ named, if_neg]
        rintro rfl
        exact outside start
    | some node' =>
      cases node' with
      | file bytes => exact absurd node (isOpen _ bytes start)
      | directory =>
        rw [createAlong_of_directory missing first node]
        apply ih missing others _ isOpen
        intro front start
        rcases List.prefix_concat_iff.1 start with rfl | start
        · exact node
        · exact along front start

lemma accepts_plain {path : FilePath} (whole : path.hasBroken = false)
    (short : path.length tree.depth < FilePath.lengthLimit) : tree.accepts path = .ok () := by
  rw [accepts, if_neg (by simp [whole]), if_neg (Nat.not_le.2 short)]

lemma createDirectories_plain (plain : ∀ piece ∈ names, IsPlain piece)
    (short : FilePath.length tree.depth ⟨names⟩ < FilePath.lengthLimit)
    (isOpen : tree.IsOpen names) :
    ∃ tree', tree.createDirectories ⟨names⟩ = (.ok (), tree') ∧ tree.Grown names tree' := by
  rw [createDirectories, accepts_plain (FilePath.hasBroken_of_plain plain) short]
  apply createAlong_plain false plain _ isOpen
  intro front start
  rw [List.prefix_nil.1 start]
  rfl

/-! ### Looking up -/

/-- A step down, where the path goes on after it. -/
lemma follow_cons (plain : IsPlain piece) (more : ∃ other ∈ rest, other ≠ "") :
    tree.follow here (piece :: rest) =
      match tree.node? (here ++ [piece]) with
      | none => .error .notFound
      | some (.file _) => .error .notADirectory
      | some .directory => tree.follow (here ++ [piece]) rest := by
  have goesOn : rest.all (· = "") = false := by
    obtain ⟨other, among, named⟩ := more
    simp only [List.all_eq_false, decide_eq_true_eq]
    exact ⟨other, among, named⟩
  rcases node : tree.node? (here ++ [piece]) with _ | _ | _ <;>
    simp only [follow, plain.busy, plain.short, plain.down, goesOn, node, if_false,
      Bool.false_eq_true]

lemma follow_last (plain : IsPlain name) :
    tree.follow here [name] = .ok (.entry here name false) := by
  simp [follow, plain.busy, plain.down]

lemma follow_upward : tree.follow here [FilePath.upward] = .ok (.directory here.dropLast) := by
  have busy : FilePath.isIdle FilePath.upward = false := by decide
  simp [follow, busy]

/-- Names of directories lead to the last of them, where the path goes on after it. -/
lemma follow_append (closed : tree.Closed) (plain : ∀ piece ∈ rest, IsPlain piece)
    (there : tree.node? (here ++ rest) = some .directory) (more : ∃ piece ∈ tail, piece ≠ "") :
    tree.follow here (rest ++ tail) = tree.follow (here ++ rest) tail := by
  induction rest generalizing here with
  | nil => simp
  | cons piece rest ih =>
    obtain ⟨first, others⟩ := List.forall_mem_cons.1 plain
    have step : here ++ piece :: rest = (here ++ [piece]) ++ rest := by simp
    have more' : ∃ other ∈ rest ++ tail, other ≠ "" := by
      obtain ⟨other, among, named⟩ := more
      exact ⟨other, List.mem_append_right _ among, named⟩
    rw [step] at there ⊢
    have next := closed.directory_along there (List.prefix_append _ _)
    rw [List.cons_append, follow_cons first more', next]
    exact ih others there

/-- Where a directory is missing on the way, and no file is in its place, nothing is found. -/
lemma follow_of_missing (plain : ∀ piece ∈ rest, IsPlain piece)
    (there : tree.node? here = some .directory) (isOpen : tree.IsOpen (here ++ rest))
    (missing : tree.node? (here ++ rest) ≠ some .directory) (more : ∃ piece ∈ tail, piece ≠ "") :
    tree.follow here (rest ++ tail) = .error .notFound := by
  induction rest generalizing here with
  | nil =>
    rw [List.append_nil] at missing
    exact absurd there missing
  | cons piece rest ih =>
    obtain ⟨first, others⟩ := List.forall_mem_cons.1 plain
    have step : here ++ piece :: rest = (here ++ [piece]) ++ rest := by simp
    have more' : ∃ other ∈ rest ++ tail, other ≠ "" := by
      obtain ⟨other, among, named⟩ := more
      exact ⟨other, List.mem_append_right _ among, named⟩
    rw [step] at isOpen missing
    rw [List.cons_append, follow_cons first more']
    cases node : tree.node? (here ++ [piece]) with
    | none => rfl
    | some node' =>
      cases node' with
      | file bytes => exact absurd node (isOpen _ bytes (List.prefix_append _ _))
      | directory => exact ih others node isOpen missing

/-- A path of plain names to something that may lie in a tree: the tree takes the path, and no file
is in the way of it. -/
structure Reaches (tree : FileTree) (above : List String) (name : String) : Prop where
  plain : ∀ piece ∈ above ++ [name], IsPlain piece
  short : FilePath.length tree.depth ⟨above ++ [name]⟩ < FilePath.lengthLimit
  isOpen : tree.IsOpen above

namespace Reaches

lemma last (reaches : tree.Reaches above name) : IsPlain name :=
  reaches.plain name (by simp)

lemma first (reaches : tree.Reaches above name) : ∀ piece ∈ above, IsPlain piece :=
  fun piece among => reaches.plain piece (List.mem_append_left _ among)

lemma accepts (reaches : tree.Reaches above name) : tree.accepts ⟨above ++ [name]⟩ = .ok () :=
  accepts_plain (FilePath.hasBroken_of_plain reaches.plain) reaches.short

/-- A path leads to a name in its directory, if that is there. -/
lemma locate (reaches : tree.Reaches above name) (closed : tree.Closed) :
    tree.locate ⟨above ++ [name]⟩ =
      if tree.node? above = some .directory then .ok (.entry above name false)
      else .error .notFound := by
  have more : ∃ piece ∈ [name], piece ≠ "" := ⟨name, by simp, reaches.last.ne_empty⟩
  simp only [FileTree.locate, reaches.accepts]
  split
  · next there =>
    have down : tree.follow [] (above ++ [name]) = tree.follow above [name] :=
      follow_append closed reaches.first there more
    exact down.trans (follow_last reaches.last)
  · next missing => exact follow_of_missing reaches.first rfl reaches.isOpen missing more

lemma locate_of_directory (reaches : tree.Reaches above name) (closed : tree.Closed)
    (there : tree.node? above = some .directory) :
    tree.locate ⟨above ++ [name]⟩ = .ok (.entry above name false) := by
  rw [reaches.locate closed, if_pos there]

lemma look (reaches : tree.Reaches above name) :
    tree.look (.entry above name false) =
      match tree.node? (above ++ [name]) with
      | none => .error .notFound
      | some node => .ok node := by
  simp only [FileTree.look, reaches.last.short, Bool.false_eq_true, if_false]
  cases tree.node? (above ++ [name]) with
  | none => rfl
  | some node => cases node <;> rfl

/-- What is found at the end of a path is what lies there. -/
lemma find (reaches : tree.Reaches above name) (closed : tree.Closed) :
    tree.find ⟨above ++ [name]⟩ =
      match tree.node? (above ++ [name]) with
      | none => .error .notFound
      | some node => .ok node := by
  simp only [FileTree.find, reaches.locate closed]
  split
  · exact reaches.look
  · next missing =>
    have absent : tree.node? (above ++ [name]) = none := by
      by_contra found
      exact missing (closed above name found)
    rw [absent]
    rfl

/-! ### Writing, removing and renaming files -/

lemma write (reaches : tree.Reaches above name) (closed : tree.Closed)
    (there : tree.node? above = some .directory)
    (vacant : tree.node? (above ++ [name]) ≠ some .directory) (bytes : Bytes) :
    tree.write ⟨above ++ [name]⟩ bytes = .ok (tree.set (above ++ [name]) (.file bytes)) := by
  simp [FileTree.write, reaches.locate_of_directory closed there, reaches.last.short, vacant,
    bind, Except.bind, pure, Except.pure]

lemma removeFile_of_file (reaches : tree.Reaches above name) (closed : tree.Closed)
    (found : tree.node? (above ++ [name]) = some (.file bytes)) :
    tree.removeFile ⟨above ++ [name]⟩ = .ok (tree.unset (above ++ [name])) := by
  have there := closed above name (by rw [found]; exact nofun)
  simp [FileTree.removeFile, reaches.locate_of_directory closed there, reaches.look, found,
    bind, Except.bind, pure, Except.pure]

lemma removeFile_of_absent (reaches : tree.Reaches above name) (closed : tree.Closed)
    (absent : tree.node? (above ++ [name]) = none) :
    tree.removeFile ⟨above ++ [name]⟩ = .error .notFound := by
  simp only [FileTree.removeFile, reaches.locate closed]
  split
  · simp [reaches.look, absent, bind, Except.bind]
  · rfl

variable {above' : List String} {name' : String}

lemma rename_of_absent (source : tree.Reaches above name) (target : tree.Reaches above' name')
    (closed : tree.Closed) (there : tree.node? above' = some .directory)
    (absent : tree.node? (above ++ [name]) = none) :
    tree.rename ⟨above ++ [name]⟩ ⟨above' ++ [name']⟩ = .error .notFound := by
  have whole := FilePath.hasBroken_of_plain target.plain
  simp only [rename, whole, source.locate closed, target.locate_of_directory closed there,
    Bool.false_eq_true, if_false]
  split
  · simp [relocate, source.last.short, absent, bind, Except.bind, throw, throwThe,
      MonadExceptOf.throw]
  · rfl

/-- A file is put in its place, unless it is in it already. -/
lemma rename_of_file (source : tree.Reaches above name) (target : tree.Reaches above' name')
    (closed : tree.Closed) (there : tree.node? above' = some .directory)
    (found : tree.node? (above ++ [name]) = some (.file bytes))
    (vacant : tree.node? (above' ++ [name']) ≠ some .directory) :
    tree.rename ⟨above ++ [name]⟩ ⟨above' ++ [name']⟩ =
      .ok (if above ++ [name] = above' ++ [name'] then tree
        else (tree.unset (above ++ [name])).set (above' ++ [name']) (.file bytes)) := by
  have whole := FilePath.hasBroken_of_plain target.plain
  have directory : tree.node? above = some .directory :=
    closed above name (by rw [found]; exact nofun)
  have outside : ¬ above ++ [name] <+: above' := by
    intro start
    rw [closed.directory_along there start] at found
    cases found
  have outside' : ¬ above' ++ [name'] <+: above := fun start =>
    vacant (closed.directory_along directory start)
  have moved : tree.move (above ++ [name]) (above' ++ [name']) =
      .ok ((tree.unset (above ++ [name])).set (above' ++ [name']) (.file bytes)) := by
    rw [move, found]
    cases node : tree.node? (above' ++ [name']) with
    | none => rfl
    | some node' =>
      cases node' with
      | directory => exact absurd node vacant
      | file _ => rfl
  have relocated : tree.relocate (.entry above name false) (.entry above' name' false) =
      .ok (if above ++ [name] = above' ++ [name'] then tree
        else (tree.unset (above ++ [name])).set (above' ++ [name']) (.file bytes)) := by
    by_cases same : above ++ [name] = above' ++ [name']
    · obtain ⟨rfl, last⟩ := List.append_inj' same rfl
      obtain rfl := List.singleton_inj.1 last
      simp [relocate, source.last.short, found, outside, pure, Except.pure]
    · simp [relocate, source.last.short, target.last.short, found, outside, outside', same, moved]
  simp only [rename, whole, source.locate_of_directory closed directory,
    target.locate_of_directory closed there, Bool.false_eq_true, if_false]
  exact relocated

end Reaches

/-! ### Files that cannot be written -/

/-- A directory is not written to. -/
lemma write_upward (closed : tree.Closed) (plain : ∀ piece ∈ above, IsPlain piece)
    (there : tree.node? above = some .directory)
    (short : FilePath.length tree.depth ⟨above ++ [FilePath.upward]⟩ < FilePath.lengthLimit)
    (bytes : Bytes) : tree.write ⟨above ++ [FilePath.upward]⟩ bytes = .error .isADirectory := by
  have readable : FilePath.isBroken FilePath.upward = false := by decide
  have whole := FilePath.hasBroken_concat plain readable
  have up : tree.follow [] (above ++ [FilePath.upward]) = .ok (.directory above.dropLast) := by
    have down : tree.follow [] (above ++ [FilePath.upward]) = tree.follow above [FilePath.upward] :=
      follow_append closed plain there ⟨FilePath.upward, by simp, by decide⟩
    exact down.trans follow_upward
  simp [FileTree.write, FileTree.locate, accepts_plain whole short, up, bind, Except.bind, throw,
    throwThe, MonadExceptOf.throw]

/-- A path that is too long leads nowhere. -/
lemma write_long {path : FilePath} (whole : path.hasBroken = false)
    (long : FilePath.lengthLimit ≤ path.length tree.depth) (bytes : Bytes) :
    tree.write path bytes = .error .invalidFilename := by
  have refused : tree.accepts path = .error .invalidFilename := by
    rw [accepts, if_neg (by simp [whole]), if_pos long]
  simp [FileTree.write, FileTree.locate, refused, bind, Except.bind]

end AssetCache.FileTree
