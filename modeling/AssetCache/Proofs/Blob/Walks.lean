import AssetCache.Proofs.Blob.KeyPaths
import AssetCache.Proofs.Blob.Trees

/-!
# Trees along any pieces

What the calls on a tree of files do along pieces of every kind: empty ones, dots, steps up, and
names that are too long. Pieces lead from a directory to a directory (`FileTree.Leads`); what is
looked up or created after them is looked up or created from there on. Directories are only ever
added by creating them (`FileTree.Widened`), and where they were created the pieces lead to the last
of them. Each call is an equation over the place that its path leads to; one that writes or renames a
file and does not fail has found a directory and a name in it (`FileTree.exists_of_write`,
`FileTree.exists_of_rename`).
-/

namespace AssetCache.FileTree

variable {tree tree' : FileTree} {here there names above rest front back : List String}
  {piece name : String} {bytes : Bytes} {place : Place} {path : FilePath}

/-- Pieces lead from one directory to another: past directories that are there, one step up for two
dots, and nowhere else for what is idle. -/
inductive Leads (tree : FileTree) : List String → List String → List String → Prop
  | nil (here : List String) : Leads tree here [] here
  | idle {here there rest : List String} {piece : String} (idle : FilePath.isIdle piece = true)
      (onward : Leads tree here rest there) : Leads tree here (piece :: rest) there
  | up {here there rest : List String} (onward : Leads tree here.dropLast rest there) :
      Leads tree here (FilePath.upward :: rest) there
  | down {here there rest : List String} {piece : String} (busy : FilePath.isIdle piece = false)
      (down : piece ≠ FilePath.upward) (short : FilePath.isLong piece = false)
      (directory : tree.node? (here ++ [piece]) = some .directory)
      (onward : Leads tree (here ++ [piece]) rest there) : Leads tree here (piece :: rest) there

lemma isIdle_upward : FilePath.isIdle FilePath.upward = false := by
  decide

lemma ne_empty_of_busy (busy : FilePath.isIdle piece = false) : piece ≠ "" := by
  rintro rfl
  exact absurd busy (by decide)

namespace Leads

lemma append (first : tree.Leads here front there) {last : List String}
    (second : tree.Leads there back last) : tree.Leads here (front ++ back) last := by
  induction first with
  | nil here => exact second
  | idle idle _ ih => exact .idle idle (ih second)
  | up _ ih => exact .up (ih second)
  | down busy down short directory _ ih => exact .down busy down short directory (ih second)

/-- Pieces lead to one directory at most. -/
lemma unique {there' : List String} (leads : tree.Leads here names there)
    (leads' : tree.Leads here names there') : there' = there := by
  induction leads with
  | nil here => cases leads'; rfl
  | idle idle _ ih =>
    cases leads' with
    | idle _ onward => exact ih onward
    | up => exact absurd idle (by decide)
    | down busy => simp [idle] at busy
  | up _ ih =>
    cases leads' with
    | idle idle => exact absurd idle (by decide)
    | up onward => exact ih onward
    | down _ down => exact absurd rfl down
  | down busy down _ _ _ ih =>
    cases leads' with
    | idle idle => simp [idle] at busy
    | up => exact absurd rfl down
    | down _ _ _ _ onward => exact ih onward

/-- Pieces that lead somewhere lead to a directory on the way first. -/
lemma split (leads : tree.Leads here (front ++ back) there) :
    ∃ middle, tree.Leads here front middle ∧ tree.Leads middle back there := by
  induction front generalizing here with
  | nil => exact ⟨here, .nil here, leads⟩
  | cons piece rest ih =>
    cases leads with
    | idle idle onward =>
      obtain ⟨middle, first, second⟩ := ih onward
      exact ⟨middle, .idle idle first, second⟩
    | up onward =>
      obtain ⟨middle, first, second⟩ := ih onward
      exact ⟨middle, .up first, second⟩
    | down busy down short directory onward =>
      obtain ⟨middle, first, second⟩ := ih onward
      exact ⟨middle, .down busy down short directory first, second⟩

lemma of_idle (here : List String) (idle : ∀ piece ∈ rest, FilePath.isIdle piece = true) :
    tree.Leads here rest here := by
  induction rest with
  | nil => exact .nil here
  | cons piece rest ih =>
    obtain ⟨first, others⟩ := List.forall_mem_cons.1 idle
    exact .idle first (ih others)

/-- Pieces lead where they led as long as the directories remain. -/
lemma kept (leads : tree.Leads here names there)
    (remain : ∀ names, tree.node? names = some .directory → tree'.node? names = some .directory) :
    tree'.Leads here names there := by
  induction leads with
  | nil here => exact .nil here
  | idle idle _ ih => exact .idle idle ih
  | up _ ih => exact .up ih
  | down busy down short directory _ ih => exact .down busy down short (remain _ directory) ih

/-- Without a step up, pieces lead to the directory that their names say. -/
lemma eq_append_names (leads : tree.Leads here names there) (down : FilePath.upward ∉ names) :
    there = here ++ names.filter fun piece => !FilePath.isIdle piece := by
  induction leads with
  | nil here => simp
  | idle idle _ ih =>
    rw [ih fun among => down (List.mem_cons_of_mem _ among)]
    simp [idle]
  | up => exact absurd List.mem_cons_self down
  | down busy _ _ _ _ ih =>
    rw [ih fun among => down (List.mem_cons_of_mem _ among)]
    simp [busy]

/-- A path leads where it leads without a slash at its end. -/
lemma footing_iff {root : FilePath} :
    tree.Leads here root.footing there ↔ tree.Leads here root.pieces there := by
  rcases root.pieces_eq_footing with same | slash
  · rw [same]
  · rw [slash]
    have idle : FilePath.isIdle "" = true := by decide
    constructor
    · exact fun leads => leads.append (.idle idle (.nil there))
    · intro leads
      obtain ⟨middle, first, second⟩ := leads.split
      rwa [second.unique (.idle idle (.nil middle))] at first

/-- What is idle at the end of a path leads nowhere. -/
lemma rdropWhile_iff : tree.Leads here (rest.rdropWhile FilePath.isIdle) there ↔
    tree.Leads here rest there := by
  have idle (here : List String) : tree.Leads here (rest.rtakeWhile FilePath.isIdle) here :=
    of_idle here fun _ => List.mem_rtakeWhile_imp
  have whole : rest.rdropWhile FilePath.isIdle ++ rest.rtakeWhile FilePath.isIdle = rest :=
    List.rdropWhile_append_rtakeWhile
  constructor
  · intro leads
    have further := leads.append (idle there)
    rwa [whole] at further
  · intro leads
    rw [← whole] at leads
    obtain ⟨middle, first, second⟩ := leads.split
    rwa [second.unique (idle middle)] at first

/-! ### Looking up and creating after pieces that lead somewhere -/

/-- What a path leads to that goes on after some pieces is found from their directory on. -/
lemma follow (leads : tree.Leads here front there) (more : ∃ piece ∈ back, piece ≠ "") :
    tree.follow here (front ++ back) = tree.follow there back := by
  induction leads with
  | nil here => rfl
  | idle idle _ ih => rw [List.cons_append, FileTree.follow, if_pos idle, ih]
  | up _ ih =>
    rw [List.cons_append, FileTree.follow, isIdle_upward, if_neg Bool.false_ne_true, if_pos rfl, ih]
  | @down here there rest piece busy down short directory _ ih =>
    have goesOn : (rest ++ back).all (· = "") = false := by
      obtain ⟨other, among, named⟩ := more
      simp only [List.all_eq_false, decide_eq_true_eq]
      exact ⟨other, List.mem_append_right _ among, named⟩
    rw [List.cons_append, FileTree.follow, busy, short, goesOn, directory]
    simpa [down] using ih

lemma createAlong (leads : tree.Leads here front there) (missing : Bool) (back : List String) :
    tree.createAlong here missing (front ++ back) = tree.createAlong there missing back := by
  induction leads with
  | nil here => rfl
  | idle idle _ ih => rw [List.cons_append, FileTree.createAlong, if_pos idle, ih]
  | up _ ih =>
    rw [List.cons_append, FileTree.createAlong, isIdle_upward, if_neg Bool.false_ne_true,
      if_pos rfl, ih]
  | down busy down short directory _ ih =>
    simp only [List.cons_append, FileTree.createAlong, busy, short, down, directory, if_false,
      Bool.false_eq_true, ih]

end Leads

/-- A path leads where it led as long as the directories remain. -/
lemma follow_of_remaining (found : tree.follow here names = .ok place)
    (remain : ∀ names, tree.node? names = some .directory → tree'.node? names = some .directory) :
    tree'.follow here names = .ok place := by
  fun_induction FileTree.follow tree here names with
  | case1 here => simpa [FileTree.follow] using found
  | case2 here piece rest idle ih => simpa [FileTree.follow, idle] using ih found
  | case3 here rest busy ih => simpa [FileTree.follow, busy] using ih found
  | case4 here piece rest busy down last =>
    rw [FileTree.follow, if_neg busy, if_neg down, if_pos last]
    exact found
  | case5 | case6 | case7 => cases found
  | case8 here piece rest busy down more short directory ih =>
    rw [FileTree.follow, if_neg busy, if_neg down, if_neg more, if_neg short, remain _ directory]
    exact ih found

/-! ### Creating directories -/

/-- A tree and what is left of it when directories were added. -/
structure Widened (tree tree' : FileTree) : Prop where
  depth : tree'.depth = tree.depth
  node (names : List String) : tree'.node? names = tree.node? names ∨
    tree.node? names = none ∧ tree'.node? names = some .directory

namespace Widened

lemma refl (tree : FileTree) : tree.Widened tree :=
  ⟨rfl, fun _ => .inl rfl⟩

lemma trans {tree'' : FileTree} (first : tree.Widened tree') (second : tree'.Widened tree'') :
    tree.Widened tree'' := by
  refine ⟨second.depth.trans first.depth, fun names => ?_⟩
  rcases second.node names with same | ⟨absent, directory⟩
  · rw [same]
    exact first.node names
  · rcases first.node names with same | ⟨_, found⟩
    · exact .inr ⟨same ▸ absent, directory⟩
    · rw [absent] at found
      cases found

lemma congr {tree'' : FileTree} (widened : tree.Widened tree') (alike : tree'.Alike tree'') :
    tree.Widened tree'' := by
  refine ⟨alike.depth.trans widened.depth, fun names => ?_⟩
  rw [alike.node]
  exact widened.node names

lemma set_directory (absent : tree.node? names = none) :
    tree.Widened (tree.set names .directory) := by
  have named : names ≠ [] := by
    rintro rfl
    cases absent
  refine ⟨rfl, fun other => ?_⟩
  rw [node?_set _ named]
  split
  · next same => exact .inr ⟨same ▸ absent, rfl⟩
  · exact .inl rfl

lemma remains (widened : tree.Widened tree') (names : List String)
    (directory : tree.node? names = some .directory) : tree'.node? names = some .directory := by
  rcases widened.node names with same | ⟨absent, _⟩
  · exact same.trans directory
  · rw [directory] at absent
    cases absent

/-- No file is lost, and none is added. -/
lemma file_iff (widened : tree.Widened tree') :
    tree'.node? names = some (.file bytes) ↔ tree.node? names = some (.file bytes) := by
  rcases widened.node names with same | ⟨absent, directory⟩
  · rw [same]
  · simp [absent, directory]

/-- No file lies below a directory that was added. -/
lemma no_file_below (widened : tree.Widened tree') (closed : tree.Closed)
    (absent : tree.node? names = none) (below : List String) (bytes : Bytes) :
    tree'.node? (names ++ below) ≠ some (.file bytes) := by
  rw [Ne, widened.file_iff]
  intro found
  have start : names <+: names ++ below := List.prefix_append _ _
  by_cases whole : names = names ++ below
  · rw [← whole, absent] at found
    cases found
  · have directory := closed.on_way (by rw [found]; exact nofun) start whole
    rw [absent] at directory
    cases directory

end Widened

/-- Directories are added and nothing is taken away, also where the creation fails halfway. -/
lemma createAlong_widened (tree : FileTree) (here : List String) (missing : Bool)
    (rest : List String) : tree.Widened (tree.createAlong here missing rest).2 := by
  fun_induction FileTree.createAlong tree here missing rest with
  | case1 | case4 | case6 | case7 | case8 | case9 => exact .refl _
  | case2 _ _ _ _ _ _ ih | case3 _ _ _ _ _ ih | case5 _ _ _ _ _ _ _ _ _ _ ih => exact ih
  | case10 _ _ _ _ _ _ _ _ _ absent _ ih => exact (Widened.set_directory absent).trans ih

/-- Where directories were created along some pieces, the pieces lead to the last of them. -/
lemma leads_of_createAlong (tree : FileTree) (here : List String) (missing : Bool)
    (rest : List String) (created : (tree.createAlong here missing rest).1 = .ok ()) :
    ∃ there, (tree.createAlong here missing rest).2.Leads here rest there := by
  fun_induction FileTree.createAlong tree here missing rest with
  | case1 => exact ⟨_, .nil _⟩
  | case2 tree here missing piece rest idle ih =>
    obtain ⟨there, leads⟩ := ih created
    exact ⟨there, .idle idle leads⟩
  | case3 tree here missing rest busy ih =>
    obtain ⟨there, leads⟩ := ih created
    exact ⟨there, .up leads⟩
  | case4 | case6 | case7 | case8 | case9 => cases created
  | case5 tree here missing piece rest busy down short names directory ih =>
    obtain ⟨there, leads⟩ := ih created
    have remains := (tree.createAlong_widened names missing rest).remains names directory
    exact ⟨there, .down (by simpa using busy) down (by simpa using short) remains leads⟩
  | case10 tree here missing piece rest busy down short names absent dotless ih =>
    obtain ⟨there, leads⟩ := ih created
    have named : names ≠ [] := by simp [names]
    have there' : (tree.set names .directory).node? names = some .directory := by
      rw [node?_set _ named, if_pos rfl]
    have remains := ((tree.set names .directory).createAlong_widened names true rest).remains
      names there'
    exact ⟨there, .down (by simpa using busy) down (by simpa using short) remains leads⟩

lemma createDirectories_widened (tree : FileTree) (path : FilePath) :
    tree.Widened (tree.createDirectories path).2 := by
  unfold createDirectories
  split
  · exact .refl tree
  · exact tree.createAlong_widened [] false path.pieces

lemma leads_of_createDirectories
    (created : tree.createDirectories path = (.ok (), tree')) :
    ∃ there, tree'.Leads [] path.pieces there := by
  unfold createDirectories at created
  split at created
  · cases created
  · have result : (tree.createAlong [] false path.pieces).2 = tree' := congrArg Prod.snd created
    rw [← result]
    exact tree.leads_of_createAlong [] false path.pieces (congrArg Prod.fst created)

/-! ### The calls by the place that a path leads to -/

lemma find_eq (tree : FileTree) (path : FilePath) :
    tree.find path =
      match tree.locate path with
      | .error kind => .error kind
      | .ok place => tree.look place := by
  unfold find
  cases tree.locate path <;> rfl

lemma write_eq (tree : FileTree) (path : FilePath) (bytes : Bytes) :
    tree.write path bytes =
      match tree.locate path with
      | .error kind => .error kind
      | .ok (.directory _) | .ok (.entry _ _ true) => .error .isADirectory
      | .ok (.entry above name false) =>
        if FilePath.isLong name then .error .invalidFilename
        else if tree.node? (above ++ [name]) = some .directory then .error .isADirectory
        else .ok (tree.set (above ++ [name]) (.file bytes)) := by
  unfold write
  rcases tree.locate path with kind | (names | ⟨above, name, _ | _⟩) <;> rfl

lemma removeFile_eq (tree : FileTree) (path : FilePath) :
    tree.removeFile path =
      match tree.locate path with
      | .error kind => .error kind
      | .ok (.directory _) => .error .isADirectory
      | .ok (.entry above name slash) =>
        match tree.look (.entry above name slash) with
        | .error kind => .error kind
        | .ok .directory => .error .isADirectory
        | .ok (.file _) => .ok (tree.unset (above ++ [name])) := by
  unfold removeFile
  rcases tree.locate path with kind | (names | ⟨above, name, slash⟩)
  · rfl
  · rfl
  · rcases looked : tree.look (.entry above name slash) with kind | (_ | _) <;>
      simp [looked, bind, Except.bind, throw, throwThe, MonadExceptOf.throw, pure, Except.pure]

lemma rename_eq (tree : FileTree) (source target : FilePath) :
    tree.rename source target =
      if target.hasBroken then .error .invalidInput
      else
        match tree.locate source, tree.locate target with
        | .error kind, _ => .error kind
        | .ok _, .error kind => .error kind
        | .ok old, .ok new => tree.relocate old new := by
  unfold rename
  rcases tree.locate source with _ | _ <;> rcases tree.locate target with _ | _ <;> rfl

lemma relocate_eq (tree : FileTree) (above above' : List String) (name name' : String)
    (slash slash' : Bool) :
    tree.relocate (.entry above name slash) (.entry above' name' slash') =
      if FilePath.isLong name then .error .invalidFilename
      else
        match tree.node? (above ++ [name]) with
        | none => .error .notFound
        | some node =>
          if FilePath.isLong name' then .error .invalidFilename
          else if node ≠ .directory && (slash || slash') then .error .notADirectory
          else if (above ++ [name]).isPrefixOf above' then .error .invalidInput
          else if (above' ++ [name']).isPrefixOf above then .error .directoryNotEmpty
          else if above ++ [name] = above' ++ [name'] then .ok tree
          else tree.move (above ++ [name]) (above' ++ [name']) := by
  unfold relocate
  dsimp only
  cases tree.node? (above ++ [name]) <;> rfl

/-! ### Files that were written, removed and renamed -/

lemma look_of_file (short : FilePath.isLong name = false)
    (found : tree.node? (above ++ [name]) = some (.file bytes)) :
    tree.look (.entry above name false) = .ok (.file bytes) := by
  simp [look, short, found]

/-- Directories remain where a file takes the place of none of them. -/
lemma remains_of_file (vacant : tree.node? names ≠ some .directory)
    (node : ∀ other, tree'.node? other =
      if other = names then some (.file bytes) else tree.node? other)
    (other : List String) (directory : tree.node? other = some .directory) :
    tree'.node? other = some .directory := by
  rw [node, if_neg, directory]
  rintro rfl
  exact vacant directory

/-- A file that was written lies where its path leads, in the place of nothing or of a file. -/
lemma exists_of_write (written : tree.write path bytes = .ok tree') :
    ∃ above name, tree.locate path = .ok (.entry above name false) ∧
      FilePath.isLong name = false ∧ tree.node? (above ++ [name]) ≠ some .directory ∧
        tree' = tree.set (above ++ [name]) (.file bytes) := by
  rw [write_eq] at written
  split at written
  · cases written
  · cases written
  · cases written
  · next above name located =>
    split_ifs at written with long vacant
    exact ⟨above, name, located, by simpa using long, vacant, (Except.ok.inj written).symm⟩

lemma removeFile_of_entry (located : tree.locate path = .ok (.entry above name false))
    (short : FilePath.isLong name = false)
    (found : tree.node? (above ++ [name]) = some (.file bytes)) :
    tree.removeFile path = .ok (tree.unset (above ++ [name])) := by
  rw [removeFile_eq, located]
  simp only [look_of_file short found]

lemma move_of_file (found : tree.node? names = some (.file bytes)) (target : List String) :
    tree.move names target =
      if tree.node? target = some .directory then .error .isADirectory
      else .ok ((tree.unset names).set target (.file bytes)) := by
  rcases node : tree.node? target with _ | (_ | _) <;> simp [move, found, node]

/-- A file that was renamed has taken the place of nothing or of a file, if not its own, and it is
no longer where it was. -/
lemma exists_of_rename {target : FilePath}
    (located : tree.locate path = .ok (.entry above name false))
    (found : tree.node? (above ++ [name]) = some (.file bytes))
    (renamed : tree.rename path target = .ok tree') :
    ∃ above' name', tree.locate target = .ok (.entry above' name' false) ∧
      FilePath.isLong name' = false ∧ tree.node? (above' ++ [name']) ≠ some .directory ∧
        tree'.depth = tree.depth ∧ ∀ names, tree'.node? names =
          if names = above' ++ [name'] then some (.file bytes)
          else if names = above ++ [name] then none else tree.node? names := by
  rw [rename_eq, located] at renamed
  split_ifs at renamed
  split at renamed
  · cases renamed
  · cases renamed
  · next old new same target =>
    obtain rfl := Except.ok.inj same
    cases new with
    | directory names => cases renamed
    | entry above' name' slash' =>
      rw [relocate_eq, found, move_of_file found] at renamed
      simp only [ne_eq, reduceCtorEq, not_false_eq_true, decide_true, Bool.true_and,
        Bool.false_or] at renamed
      split_ifs at renamed with long long' slash inside outside own vacant
      · obtain rfl := Bool.not_eq_true _ ▸ slash
        obtain rfl := Except.ok.inj renamed
        refine ⟨above', name', target, Bool.not_eq_true _ ▸ long', ?_, rfl, fun names => ?_⟩
        · rw [← own, found]
          exact nofun
        · rw [← own]
          split_ifs with same
          · rw [same, found]
          · rfl
      · obtain rfl := Bool.not_eq_true _ ▸ slash
        obtain rfl := Except.ok.inj renamed
        refine ⟨above', name', target, Bool.not_eq_true _ ▸ long', vacant, rfl, fun names => ?_⟩
        rw [node?_set _ (by simp), node?_unset _ (by simp)]

/-! ### Names at the end of a path -/

/-- A name with nothing but slashes after it is the name of an entry. -/
lemma follow_name (busy : FilePath.isIdle name = false) (down : name ≠ FilePath.upward)
    (slashes : ∀ piece ∈ rest, piece = "") :
    tree.follow here (name :: rest) = .ok (.entry here name (!rest.isEmpty)) := by
  have last : rest.all (· = "") = true := by simpa using slashes
  rw [FileTree.follow, busy, if_neg Bool.false_ne_true, if_neg down, if_pos last]

lemma follow_of_idle (here : List String) (idle : ∀ piece ∈ rest, FilePath.isIdle piece = true) :
    tree.follow here rest = .ok (.directory here) := by
  induction rest with
  | nil => rfl
  | cons piece rest ih =>
    obtain ⟨first, others⟩ := List.forall_mem_cons.1 idle
    rw [FileTree.follow, if_pos first, ih others]

/-- An entry without a slash is one whose name comes last. -/
lemma eq_of_follow_name (busy : FilePath.isIdle name = false) (down : name ≠ FilePath.upward)
    (idle : ∀ piece ∈ rest, FilePath.isIdle piece = true) {name' : String}
    (found : tree.follow here (name :: rest) = .ok (.entry above name' false)) :
    rest = [] ∧ above = here ∧ name' = name := by
  by_cases slashes : ∀ piece ∈ rest, piece = ""
  · rw [follow_name busy down slashes, Except.ok.injEq, Place.entry.injEq] at found
    obtain ⟨rfl, rfl, last⟩ := found
    exact ⟨by simpa using last, rfl, rfl⟩
  · have goesOn : ¬ rest.all (· = "") = true := by simpa using slashes
    rw [FileTree.follow, busy, if_neg Bool.false_ne_true, if_neg down, if_neg goesOn,
      follow_of_idle _ idle] at found
    split_ifs at found
    split at found <;> cases found

lemma locate_eq_ok_iff : tree.locate path = .ok place ↔
    tree.accepts path = .ok () ∧ tree.follow [] path.pieces = .ok place := by
  unfold locate
  cases tree.accepts path <;> simp [bind, Except.bind]

/-- A path leads where it led as long as the directories remain. -/
lemma locate_of_remaining (located : tree.locate path = .ok place)
    (depth : tree'.depth = tree.depth)
    (remain : ∀ names, tree.node? names = some .directory → tree'.node? names = some .directory) :
    tree'.locate path = .ok place := by
  obtain ⟨accepted, found⟩ := locate_eq_ok_iff.1 located
  have same : tree'.accepts path = tree.accepts path := by rw [accepts, accepts, depth]
  exact locate_eq_ok_iff.2 ⟨same.trans accepted, follow_of_remaining found remain⟩

end AssetCache.FileTree
