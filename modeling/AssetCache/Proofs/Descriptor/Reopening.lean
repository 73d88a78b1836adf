import AssetCache.Descriptor.Database
import AssetCache.Proofs.Descriptor.Lifecycle

/-!
# Databases that are closed and opened again

Opening a database leaves the disk such that it can be opened again: the directories above its file
are there, there is room for its companions, and its rows are found under the same names
(`Disk.Ready`). What is saved while it is open is found when it is opened the next time, so that
closing it and opening it again changes nothing that can be seen (`Database.Persists.close`,
`Database.Persists.answer`).
-/

namespace AssetCache

/-! ### Directories that are there already -/

namespace FileTree

/-- All directories of a tree are directories of another one. -/
structure Extends (tree tree' : FileTree) : Prop where
  depth : tree'.depth = tree.depth
  directory (names : List String) :
    tree.node? names = some .directory → tree'.node? names = some .directory

variable {tree tree' tree'' : FileTree} {names here pieces : List String} {missing : Bool}

lemma Extends.refl (tree : FileTree) : tree.Extends tree :=
  ⟨rfl, fun _ there => there⟩

lemma Extends.trans (first : tree.Extends tree') (second : tree'.Extends tree'') :
    tree.Extends tree'' :=
  ⟨second.depth.trans first.depth, fun names there =>
    second.directory names (first.directory names there)⟩

/-- Something may be put wherever there is no directory. -/
lemma extends_set (named : names ≠ []) (vacant : tree.node? names ≠ some .directory)
    (node : FileNode) : tree.Extends (tree.set names node) := by
  refine ⟨rfl, ?_⟩
  intro other there
  rw [node?_set _ named]
  split
  · next same => exact absurd (same ▸ there) vacant
  · exact there

lemma extends_unset (named : names ≠ []) (vacant : tree.node? names ≠ some .directory) :
    tree.Extends (tree.unset names) := by
  refine ⟨rfl, ?_⟩
  intro other there
  rw [node?_unset _ named]
  split
  · next same => exact absurd (same ▸ there) vacant
  · exact there

/-- A name after another one leads somewhere. -/
lemma append_singleton_ne_nil (here : List String) (piece : String) : here ++ [piece] ≠ [] := by
  simp

lemma extends_createAlong (tree : FileTree) (here : List String) (missing : Bool)
    (pieces : List String) : tree.Extends (tree.createAlong here missing pieces).2 := by
  induction pieces generalizing tree here missing with
  | nil => exact .refl _
  | cons piece rest ih =>
    unfold createAlong
    split
    · exact ih _ _ _
    split
    · exact ih _ _ _
    split
    · exact .refl _
    dsimp only
    split
    · exact ih _ _ _
    · exact .refl _
    · exact .refl _
    · exact .refl _
    · exact .refl _
    · next absent _ =>
      exact (extends_set (append_singleton_ne_nil _ _) (by rw [absent]; exact nofun) _).trans
        (ih _ _ _)

/-- Where directories were created, there is nothing left to create. -/
lemma createAlong_again (missing' : Bool)
    (created : tree.createAlong here missing pieces = (.ok (), tree'))
    (extended : tree'.Extends tree'') :
    tree''.createAlong here missing' pieces = (.ok (), tree'') := by
  -- Nothing that was a directory on the way has gone since.
  have kept {start : FileTree} {names : List String} {absent : Bool} {rest : List String}
      (run : start.createAlong names absent rest = (.ok (), tree'))
      (there : start.node? names = some .directory) : tree''.node? names = some .directory := by
    have grown := extends_createAlong start names absent rest
    rw [run] at grown
    exact (grown.trans extended).directory _ there
  induction pieces generalizing tree here missing missing' with
  | nil => rfl
  | cons piece rest ih =>
    unfold createAlong at created ⊢
    split at created
    · next idle =>
      rw [if_pos idle]
      exact ih missing' created
    next busy =>
    rw [if_neg busy]
    split at created
    · next up =>
      rw [if_pos up]
      exact ih missing' created
    next down =>
    rw [if_neg down]
    split at created
    · cases created
    next short =>
    rw [if_neg short]
    dsimp only at created ⊢
    split at created
    · next there =>
      simp only [kept created there]
      exact ih missing' created
    · cases created
    · cases created
    · cases created
    · cases created
    · have there := tree.node?_set (append_singleton_ne_nil here piece) .directory (here ++ [piece])
      rw [if_pos rfl] at there
      simp only [kept created there]
      exact ih missing' created

lemma createDirectories_again {path : FilePath}
    (created : tree.createDirectories path = (.ok (), tree')) (extended : tree'.Extends tree'') :
    tree''.createDirectories path = (.ok (), tree'') := by
  unfold createDirectories at created ⊢
  have depth : tree''.depth = tree.depth := by
    have grown := extends_createAlong tree [] false path.pieces
    split at created
    · cases created
    · rw [created] at grown
      exact (grown.trans extended).depth
  have same : tree''.accepts path = tree.accepts path := by
    simp only [accepts, depth]
  rw [same]
  split at created
  · cases created
  · exact createAlong_again false created extended

end FileTree

/-! ### The disk below a database that was opened -/

namespace Disk

variable {disk disk' : Disk} {path : FilePath} {names other : List String} {rows rows' : Relation}
  {session : Session}

/-- A disk on which the database at a path can be opened, and has some rows then. -/
structure Ready (disk : Disk) (path : FilePath) (names : List String) (rows : Relation) : Prop where
  /-- The directories above the database are there. -/
  above : disk.tree.createDirectories path.parent = (.ok (), disk.tree)
  place : disk.place? path = some names
  file : ∃ bytes, disk.tree.node? names = some (.file bytes)
  held : disk.databases.get? names = some rows
  /-- There is room for all companions. -/
  room : ∀ beside ∈ index names :: journals names, disk.canKeep beside = true

lemma namesAlong_congr (same : disk'.lengthOf = disk.lengthOf) (names pieces : List String) :
    disk'.namesAlong names pieces = disk.namesAlong names pieces := by
  induction pieces generalizing names with
  | nil => rfl
  | cons piece rest ih =>
    unfold namesAlong
    rw [same, ih, ih, ih]

/-- Where a database lies depends on nothing that lies on the disk. -/
lemma place?_congr (disk : Disk) (path : FilePath) (same : disk'.tree.depth = disk.tree.depth) :
    disk'.place? path = disk.place? path := by
  have lengths : disk'.lengthOf = disk.lengthOf := by
    funext names
    rw [lengthOf, lengthOf, same]
  have admitted : disk'.admits = disk.admits := by
    funext names
    unfold admits
    rw [lengths]
  rw [place?, place?, namesAlong_congr lengths, admitted]

lemma ne_nil_of_place (place : disk.place? path = some names) : names ≠ [] := by
  have admitted := (Option.filter_eq_some_iff.1 place).2
  rintro rfl
  simp [admits] at admitted

/-- A companion has a longer name than its database. -/
lemma companion_ne {ending : String} (named : names ≠ []) (longer : ending ≠ "") :
    companion names ending ≠ [] ∧ companion names ending ≠ names := by
  obtain ⟨front, last, rfl⟩ := (List.eq_nil_or_concat' names).resolve_left named
  simp [companion, longer]

lemma beside_ne (named : names ≠ []) {beside : List String}
    (among : beside ∈ index names :: journals names) : beside ≠ [] ∧ beside ≠ names := by
  simp only [index, journals, List.mem_cons, List.not_mem_nil, or_false] at among
  rcases among with rfl | rfl | rfl
  · exact companion_ne named (by decide)
  · exact companion_ne named (by decide)
  · exact companion_ne named (by decide)

/-- What stays of a disk when something is discarded. -/
structure Spares (disk disk' : Disk) (names : List String) : Prop where
  extended : disk.tree.Extends disk'.tree
  node : disk'.tree.node? names = disk.tree.node? names
  room (other : List String) : disk.canKeep other = true → disk'.canKeep other = true

lemma spares_discard (disk : Disk) {beside : List String} (named : beside ≠ [])
    (different : beside ≠ names) : disk.Spares (disk.discard beside) names := by
  unfold discard
  split
  · exact ⟨.refl _, rfl, fun _ kept => kept⟩
  · next vacant =>
    refine ⟨FileTree.extends_unset named vacant, ?_, ?_⟩
    · rw [FileTree.node?_unset _ named, if_neg (Ne.symm different)]
    · intro other kept
      simp only [canKeep, FileTree.node?_unset _ named, Bool.and_eq_true,
        decide_eq_true_eq] at kept ⊢
      refine ⟨?_, kept.2⟩
      split
      · exact nofun
      · exact kept.1

lemma spares_foldl_discard (disk : Disk) {companions : List (List String)}
    (apart : ∀ beside ∈ companions, beside ≠ [] ∧ beside ≠ names) :
    disk.Spares (companions.foldl discard disk) names := by
  induction companions generalizing disk with
  | nil => exact ⟨.refl _, rfl, fun _ kept => kept⟩
  | cons beside rest ih =>
    obtain ⟨named, different⟩ := apart beside List.mem_cons_self
    have first := disk.spares_discard named different
    have others := ih (disk.discard beside) fun other later =>
      apart other (List.mem_cons_of_mem _ later)
    exact ⟨first.extended.trans others.extended, others.node.trans first.node,
      fun other kept => others.room other (first.room other kept)⟩

/-- A disk with the file of a database. -/
def placed (disk : Disk) (names : List String) (bytes : Bytes) : Disk :=
  { disk with tree := disk.tree.set names (.file bytes) }

/-- What there was to a disk on which a database could be opened, and what was done to it. -/
lemma of_openAt (opened : disk.openAt names = (.ok session, disk'))
    (writable : session.isReadOnly = false) :
    ∃ bytes, (disk.tree.node? names).getD (.file []) = .file bytes ∧
      (∀ beside ∈ index names :: journals names,
        (disk.placed names bytes).canKeep beside = true) ∧
      disk' =
        let left := (index names :: journals names).foldl discard (disk.placed names bytes)
        { left with databases := left.databases.insert names session.rows } := by
  unfold openAt at opened
  dsimp only at opened
  split at opened
  · cases opened
  next rows found =>
  split at opened
  · cases opened
  next usable =>
  cases opened
  cases node : (disk.tree.node? names).getD (.file []) with
  | directory =>
    rw [node] at found
    contradiction
  | file bytes =>
    rw [node] at usable writable
    refine ⟨bytes, rfl, ?_, rfl⟩
    have kept : (disk.placed names bytes).canKeep (index names) = true := by
      simpa [placed] using writable
    have usable : ¬ (!(journals names).all (disk.placed names bytes).canKeep ||
      !(disk.placed names bytes).canKeep (index names) && !disk.databases.contains names) = true :=
        usable
    simp only [kept, Bool.not_true, Bool.false_and, Bool.or_false, Bool.not_eq_true',
      Bool.not_eq_false] at usable
    intro beside among
    rcases List.mem_cons.1 among with rfl | among
    · exact kept
    · exact List.all_eq_true.1 usable beside among

/-- A database that could be opened can be opened again. -/
lemma ready_of_openDatabase (opened : disk.openDatabase path = (.ok session, disk'))
    (writable : session.isReadOnly = false) :
    ∃ names, disk'.Ready path names session.rows := by
  unfold openDatabase at opened
  split at opened
  · cases opened
  next tree created =>
  dsimp only at opened
  split at opened
  · cases opened
  next names place =>
  obtain ⟨bytes, node, room, rfl⟩ := of_openAt opened writable
  have named := ne_nil_of_place place
  have spared := spares_foldl_discard (placed { disk with tree } names bytes)
    fun beside among => beside_ne named among
  have vacant : tree.node? names ≠ some .directory := by
    intro directory
    rw [directory] at node
    contradiction
  have extended := (FileTree.extends_set named vacant (.file bytes)).trans spared.extended
  refine ⟨names, ?_, ?_, ?_, ?_, ?_⟩
  · exact FileTree.createDirectories_again created extended
  · exact (place?_congr _ path extended.depth).trans place
  · have there := tree.node?_set named (.file bytes) names
    rw [if_pos rfl] at there
    exact ⟨bytes, spared.node.trans there⟩
  · exact Table.get?_insert_self _ _ _
  · intro beside among
    exact spared.room beside (room beside among)

/-- A disk that is ready for a database opens it, with the rows that it holds. -/
lemma Ready.openDatabase (ready : disk.Ready path names rows) :
    ∃ disk', disk.openDatabase path = (.ok { rows }, disk') := by
  have named := ne_nil_of_place ready.place
  obtain ⟨bytes, node⟩ := ready.file
  have room (beside : List String) (among : beside ∈ index names :: journals names) :
      (disk.placed names bytes).canKeep beside = true := by
    have kept := ready.room beside among
    have same : (disk.tree.set names (.file bytes)).node? beside = disk.tree.node? beside := by
      rw [FileTree.node?_set _ named, if_neg (beside_ne named among).2]
    simpa only [canKeep, placed, same] using kept
  have found : disk.rowsOf? names (.file bytes) = some rows := by
    simp only [rowsOf?, ready.held]
  have journaled : (journals names).all (disk.placed names bytes).canKeep = true :=
    List.all_eq_true.2 fun beside among => room beside (List.mem_cons_of_mem _ among)
  have indexed := room (index names) List.mem_cons_self
  simp only [placed] at journaled indexed
  simp only [Disk.openDatabase, ready.above, ready.place, openAt, node, Option.getD_some, found,
    journaled, indexed, Bool.not_true, Bool.false_and, Bool.or_self, Bool.false_eq_true, if_false]
  exact ⟨_, rfl⟩

/-- Saving other rows leaves the disk ready for them. -/
lemma Ready.save (ready : disk.Ready path names rows) (rows' : Relation) :
    (disk.save path rows').Ready path names rows' := by
  have same : place? { disk with databases := disk.databases.insert names rows' } path =
    disk.place? path := place?_congr disk path rfl
  simp only [Disk.save, ready.place]
  exact ⟨ready.above, same.trans ready.place, ready.file, Table.get?_insert_self _ _ _, ready.room⟩

end Disk

/-! ### Databases that keep their rows -/

namespace Database

variable {database database' : Database} {rows : Relation} {event : Option Event}

/-- A database that is open and has some rows, and has them still when it is opened the next
time. -/
structure Serves (database : Database) (rows : Relation) : Prop where
  session : database.session = some { rows }
  ready (path : FilePath) :
    database.location = .file path → ∃ names, database.disk.Ready path names rows

/-- A database that has some rows once it is open. -/
def Persists (database : Database) (rows : Relation) : Prop :=
  ∃ event database', database.connect = (.ok event, database') ∧ database'.Serves rows ∧
    database'.location = database.location

lemma Serves.persists (serves : database.Serves rows) : database.Persists rows :=
  ⟨none, database, by simp only [connect, serves.session], serves, rfl⟩

/-- A database that could be opened persists with the rows that were found. -/
lemma persists_of_connect (closed : database.session = none)
    (opens : database.connect = (.ok event, database'))
    (found : database'.session = some { rows }) :
    database.Persists rows := by
  refine ⟨event, database', opens, ⟨found, ?_⟩, ?_⟩
  · intro path file
    unfold connect at opens
    split at opens
    · next opened =>
      rw [closed] at opened
      cases opened
    · cases opens
      next nowhere =>
      rw [nowhere] at file
      cases file
    · next path' located =>
      split at opens
      · cases opens
      · next session disk opened =>
        cases opens
        cases found
        rw [located] at file
        cases file
        exact Disk.ready_of_openDatabase opened rfl
  · unfold connect at opens
    split at opens
    · cases opens
      rfl
    · cases opens
      rfl
    · split at opens
      · cases opens
      · cases opens
        rfl

/-- A database in a file can be closed at any time. -/
lemma Persists.close (persists : database.Persists rows) (kept : database.location ≠ .nowhere) :
    database.close.Persists rows := by
  obtain ⟨disk, location, session⟩ := database
  cases session with
  | none => exact persists
  | some session =>
    obtain ⟨event, database', opens, serves, -⟩ := persists
    cases opens
    cases location with
    | nowhere => contradiction
    | file path =>
      obtain ⟨names, ready⟩ := serves.ready path rfl
      obtain ⟨disk', opened⟩ := ready.openDatabase
      have opens : (Database.close ⟨disk, .file path, some session⟩).connect =
          (.ok (some .databaseOpened), ⟨disk', .file path, some { rows }⟩) := by
        simp only [connect, Database.close, opened]
      exact persists_of_connect rfl opens rfl

/-! ### Calls -/

lemma Serves.rows_eq (serves : database.Serves rows) : database.rows = rows := by
  simp only [Database.rows, serves.session, Option.map_some, Option.getD_some]

lemma Serves.withRows (serves : database.Serves rows) (rows' : Relation) :
    (database.withRows rows').Serves rows' := by
  refine ⟨rfl, ?_⟩
  intro path file
  obtain ⟨names, ready⟩ := serves.ready path file
  have located : database.location = .file path := file
  simp only [Database.withRows, located]
  exact ⟨names, ready.save rows'⟩

lemma Serves.update {α : Type} (serves : database.Serves rows)
    (change : Relation → Except StoreError α × Relation) :
    database.update change = ((change rows).1, database.withRows (change rows).2) := by
  simp only [Database.update, serves.session, serves.rows_eq, Option.any_some, Bool.false_eq_true,
    if_false]

/-- A database answers as its rows do. -/
lemma Serves.perform (serves : database.Serves rows) (call : DescriptorCall) :
    (DescriptorStore.perform database call).1 = (DescriptorStore.perform rows call).1 ∧
      (DescriptorStore.perform database call).2.Serves (DescriptorStore.perform rows call).2 ∧
      (DescriptorStore.perform database call).2.location = database.location := by
  have changed {α : Type} (change : Relation → Except StoreError α × Relation) :
      (database.update change).1 = (change rows).1 ∧
        (database.update change).2.Serves (change rows).2 ∧
        (database.update change).2.location = database.location := by
    rw [serves.update]
    exact ⟨rfl, serves.withRows _, rfl⟩
  cases call with
  | create id descriptor => exact changed fun rows => rows.create id descriptor
  | duplicate id => exact changed fun rows => rows.duplicate id
  | delete id => exact changed fun rows => rows.delete id
  | read id => exact ⟨congrArg (Relation.read · id) serves.rows_eq, serves, rfl⟩
  | contains id =>
    exact ⟨congrArg (fun rows : Relation => Except.ok (rows.contains id.text)) serves.rows_eq,
      serves, rfl⟩

lemma Persists.answer (persists : database.Persists rows) (call : DescriptorCall) :
    (DescriptorStore.answer database call).1 = (DescriptorStore.answer rows call).1 ∧
      (DescriptorStore.answer database call).2.1.Persists
        (DescriptorStore.answer rows call).2.1 ∧
      (DescriptorStore.answer database call).2.1.location = database.location := by
  obtain ⟨event, database', opens, serves, same⟩ := persists
  obtain ⟨answered, served, located⟩ := serves.perform call
  have opens : DescriptorStore.connect database = (.ok event, database') := opens
  have answer : DescriptorStore.answer database call =
      ((DescriptorStore.perform database' call).1, (DescriptorStore.perform database' call).2,
        event) := by
    simp only [DescriptorStore.answer, opens]
  rw [answer]
  exact ⟨answered, served.persists, located.trans same⟩

end Database

end AssetCache
