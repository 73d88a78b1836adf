import AssetCache.Proofs.Blob.Directory
import AssetCache.Proofs.Blob.Moves
import AssetCache.Proofs.Blob.Walks

/-!
# No key leaves the root

A directory store works below its root and nowhere else. Two stores are compared whose roots lead to
the same directory and below which the same lies: every call gets the same answer from both and
leaves the same below both, so nothing else was read; and whatever it changes lies below the
directory (`DirectoryBlobs.keeps_below`). The directory itself is never changed. A key that would
lead elsewhere is refused, and then nothing is changed at all.
-/

namespace AssetCache

namespace FileTree

open FilePath (upward isIdle isLong)

variable {tree tree' middle : FileTree} {base front back pieces rest above above' : List String}
  {name name' : String} {slash slash' : Bool} {path source target : FilePath}

/-! ### Trees that agree below a directory -/

/-- Below a directory, the same lies in both trees. -/
structure AgreeBelow (base : List String) (tree tree' : FileTree) : Prop where
  depth : tree'.depth = tree.depth
  counted : tree.IsCounted
  counted' : tree'.IsCounted
  node (rest : List String) : rest ≠ [] → tree'.node? (base ++ rest) = tree.node? (base ++ rest)

/-- A tree and what is left of it, where only what lies below a directory has changed. -/
structure ChangedBelow (base : List String) (tree tree' : FileTree) : Prop where
  depth : tree'.depth = tree.depth
  node (names : List String) : tree'.node? names ≠ tree.node? names →
    ∃ rest, rest ≠ [] ∧ names = base ++ rest

namespace ChangedBelow

lemma refl (base : List String) (tree : FileTree) : tree.ChangedBelow base tree :=
  ⟨rfl, fun _ changed => absurd rfl changed⟩

lemma trans (first : tree.ChangedBelow base middle) (second : middle.ChangedBelow base tree') :
    tree.ChangedBelow base tree' := by
  refine ⟨second.depth.trans first.depth, fun names changed => ?_⟩
  by_cases same : middle.node? names = tree.node? names
  · exact second.node names (same ▸ changed)
  · exact first.node names same

lemma set (tree : FileTree) (inhabited : rest ≠ []) (node : FileNode) :
    tree.ChangedBelow base (tree.set (base ++ rest) node) := by
  refine ⟨rfl, fun names changed => ⟨rest, inhabited, ?_⟩⟩
  by_contra other
  rw [node?_set _ (by simp [inhabited]), if_neg other] at changed
  exact changed rfl

lemma unset (tree : FileTree) (inhabited : rest ≠ []) :
    tree.ChangedBelow base (tree.unset (base ++ rest)) := by
  refine ⟨rfl, fun names changed => ⟨rest, inhabited, ?_⟩⟩
  by_contra other
  rw [node?_unset _ (by simp [inhabited]), if_neg other] at changed
  exact changed rfl

lemma moveBelow (tree : FileTree) {rest' : List String} (inhabited : rest ≠ [])
    (inhabited' : rest' ≠ []) (apart : Apart (base ++ rest) (base ++ rest')) :
    tree.ChangedBelow base (tree.moveBelow (base ++ rest) (base ++ rest')) := by
  refine ⟨tree.depth_moveBelow _ _, fun names changed => ?_⟩
  by_cases old : base ++ rest <+: names
  · obtain ⟨more, rfl⟩ := old
    exact ⟨rest ++ more, by simp [inhabited], List.append_assoc _ _ _⟩
  · by_cases new : base ++ rest' <+: names
    · obtain ⟨more, rfl⟩ := new
      exact ⟨rest' ++ more, by simp [inhabited'], List.append_assoc _ _ _⟩
    · exact absurd (node?_moveBelow_other apart old new) changed

end ChangedBelow

namespace AgreeBelow

lemma refl (base : List String) (counted : tree.IsCounted) : tree.AgreeBelow base tree :=
  ⟨rfl, counted, counted, fun _ _ => rfl⟩

lemma set (agree : tree.AgreeBelow base tree') (inhabited : rest ≠ []) (node : FileNode) :
    (tree.set (base ++ rest) node).AgreeBelow base (tree'.set (base ++ rest) node) := by
  have named : base ++ rest ≠ [] := by simp [inhabited]
  refine ⟨agree.depth, agree.counted.set _ _, agree.counted'.set _ _, fun other inhabited => ?_⟩
  rw [node?_set _ named, node?_set _ named, agree.node other inhabited]

lemma unset (agree : tree.AgreeBelow base tree') (inhabited : rest ≠ []) :
    (tree.unset (base ++ rest)).AgreeBelow base (tree'.unset (base ++ rest)) := by
  have named : base ++ rest ≠ [] := by simp [inhabited]
  refine ⟨agree.depth, agree.counted.unset _, agree.counted'.unset _, fun other inhabited => ?_⟩
  rw [node?_unset _ named, node?_unset _ named, agree.node other inhabited]

lemma moveBelow (agree : tree.AgreeBelow base tree') {rest' : List String} (inhabited : rest ≠ [])
    (inhabited' : rest' ≠ []) (apart : Apart (base ++ rest) (base ++ rest')) :
    (tree.moveBelow (base ++ rest) (base ++ rest')).AgreeBelow base
      (tree'.moveBelow (base ++ rest) (base ++ rest')) := by
  refine ⟨?_, agree.counted.moveBelow _ _, agree.counted'.moveBelow _ _, fun other named => ?_⟩
  · rw [depth_moveBelow, depth_moveBelow, agree.depth]
  by_cases old : base ++ rest <+: base ++ other
  · obtain ⟨more, same⟩ := old
    rw [← same, node?_moveBelow_source agree.counted apart,
      node?_moveBelow_source agree.counted' apart]
  · by_cases new : base ++ rest' <+: base ++ other
    · obtain ⟨more, same⟩ := new
      have moved := agree.node (rest ++ more) (by simp [inhabited])
      have replaced := agree.node (rest' ++ more) (by simp [inhabited'])
      rw [← List.append_assoc] at moved replaced
      rw [← same, node?_moveBelow_target agree.counted apart,
        node?_moveBelow_target agree.counted' apart, moved, replaced]
    · rw [node?_moveBelow_other apart old new, node?_moveBelow_other apart old new,
        agree.node other named]

/-- Below the directory, the same lies under any name. -/
lemma node_concat (agree : tree.AgreeBelow base tree') (inside : base <+: above) (name : String) :
    tree'.node? (above ++ [name]) = tree.node? (above ++ [name]) := by
  obtain ⟨front, rfl⟩ := inside
  rw [List.append_assoc]
  exact agree.node _ (by simp)

lemma hasChildren (agree : tree.AgreeBelow base tree') (inhabited : rest ≠ []) :
    tree'.hasChildren (base ++ rest) = tree.hasChildren (base ++ rest) := by
  have same : tree'.hasChildren (base ++ rest) = true ↔ tree.hasChildren (base ++ rest) = true := by
    rw [hasChildren_iff agree.counted, hasChildren_iff agree.counted']
    have node (more : List String) := agree.node (rest ++ more) (by simp [inhabited])
    simp only [← List.append_assoc] at node
    simp only [node]
  exact Bool.eq_iff_iff.2 same

/-! ### Looking up -/

/-- A path that leads into the directory leads to the same place in both trees, as long as no step
up comes before its end. -/
lemma follow (agree : tree.AgreeBelow base tree') (down : upward ∉ pieces.dropLast)
    {here : List String} (inside : base <+: here) :
    tree'.follow here pieces = tree.follow here pieces ∧
      ∀ above name slash, tree.follow here pieces = .ok (.entry above name slash) →
        base <+: above := by
  induction pieces generalizing here with
  | nil => exact ⟨rfl, by simp [FileTree.follow]⟩
  | cons piece rest ih =>
    have later : upward ∉ rest.dropLast := by
      cases rest with
      | nil => exact List.not_mem_nil
      | cons next rest => exact fun among => down (List.mem_cons_of_mem _ among)
    rw [FileTree.follow, FileTree.follow]
    by_cases idle : isIdle piece = true
    · rw [if_pos idle, if_pos idle]
      exact ih later inside
    · rw [if_neg idle, if_neg idle]
      by_cases up : piece = upward
      · -- A step up is the last piece, so what lies above the directory is not looked up.
        have last : rest = [] := by
          cases rest with
          | nil => rfl
          | cons next rest => exact absurd (by simp [up]) down
        rw [if_pos up, if_pos up, last]
        exact ⟨rfl, by simp [FileTree.follow]⟩
      · rw [if_neg up, if_neg up, agree.node_concat inside]
        split_ifs
        · refine ⟨rfl, ?_⟩
          rintro above name slash same
          cases same
          exact inside
        · exact ⟨rfl, by simp⟩
        · cases tree.node? (here ++ [piece]) with
          | none => exact ⟨rfl, by simp⟩
          | some node =>
            cases node with
            | file bytes => exact ⟨rfl, by simp⟩
            | directory => exact ih later (inside.trans (List.prefix_append _ _))

end AgreeBelow

/-- A path leads to the same place in two trees that agree below a directory, and that is below
the directory if it has a name. -/
structure Aims (base : List String) (tree tree' : FileTree) (path : FilePath) : Prop where
  agree : tree.AgreeBelow base tree'
  located : tree'.locate path = tree.locate path
  inside (above : List String) (name : String) (slash : Bool) :
    tree.locate path = .ok (.entry above name slash) → base <+: above

lemma AgreeBelow.aims (agree : tree.AgreeBelow base tree') (leads : tree.Leads [] front base)
    (leads' : tree'.Leads [] front base) (more : ∃ piece ∈ back, piece ≠ "")
    (down : upward ∉ back.dropLast) : Aims base tree tree' ⟨front ++ back⟩ := by
  obtain ⟨same, inside⟩ := agree.follow down List.prefix_rfl
  have accepts : tree'.accepts ⟨front ++ back⟩ = tree.accepts ⟨front ++ back⟩ := by
    rw [accepts, accepts, agree.depth]
  refine ⟨agree, ?_, fun above name slash located => ?_⟩
  · simp only [locate, accepts, leads.follow more, leads'.follow more, same]
  · have found := (locate_eq_ok_iff.1 located).2
    rw [leads.follow more] at found
    exact inside above name slash found

/-- Two calls fail alike, or they leave trees that agree below a directory, and one of them has
changed nothing else. -/
inductive ChangeAlike (base : List String) (tree : FileTree) :
    Except IoKind FileTree → Except IoKind FileTree → Prop
  | error (kind : IoKind) : ChangeAlike base tree (.error kind) (.error kind)
  | ok {new new' : FileTree} (agree : new.AgreeBelow base new')
      (changed : tree.ChangedBelow base new) : ChangeAlike base tree (.ok new) (.ok new')

lemma exists_concat (inside : base <+: above) (name : String) :
    ∃ rest, rest ≠ [] ∧ above ++ [name] = base ++ rest := by
  obtain ⟨front, rfl⟩ := inside
  exact ⟨front ++ [name], by simp, List.append_assoc _ _ _⟩

namespace Aims

lemma look (aims : Aims base tree tree' path) {place : Place}
    (located : tree.locate path = .ok place) : tree'.look place = tree.look place := by
  cases place with
  | directory names => rfl
  | entry above name slash =>
    rw [FileTree.look, FileTree.look, aims.agree.node_concat (aims.inside _ _ _ located)]

lemma find (aims : Aims base tree tree' path) : tree'.find path = tree.find path := by
  rw [find_eq, find_eq, aims.located]
  cases located : tree.locate path with
  | error kind => rfl
  | ok place => exact aims.look located

lemma write (aims : Aims base tree tree' path) (bytes : Bytes) :
    ChangeAlike base tree (tree.write path bytes) (tree'.write path bytes) := by
  rw [write_eq, write_eq, aims.located]
  rcases located : tree.locate path with kind | (names | ⟨above, name, _ | _⟩)
  · exact .error kind
  · exact .error .isADirectory
  · have inside := aims.inside _ _ _ located
    simp only [aims.agree.node_concat inside]
    split_ifs
    · exact .error .invalidFilename
    · exact .error .isADirectory
    · obtain ⟨rest, inhabited, same⟩ := exists_concat inside name
      rw [same]
      exact .ok (aims.agree.set inhabited _) (.set _ inhabited _)
  · exact .error .isADirectory

lemma removeFile (aims : Aims base tree tree' path) :
    ChangeAlike base tree (tree.removeFile path) (tree'.removeFile path) := by
  rw [removeFile_eq, removeFile_eq, aims.located]
  rcases located : tree.locate path with kind | (names | ⟨above, name, slash⟩)
  · exact .error kind
  · exact .error .isADirectory
  · simp only [aims.look located]
    rcases tree.look (.entry above name slash) with kind | (bytes | _)
    · exact .error kind
    · obtain ⟨rest, inhabited, same⟩ := exists_concat (aims.inside _ _ _ located) name
      simp only [same]
      exact .ok (aims.agree.unset inhabited) (.unset _ inhabited)
    · exact .error .isADirectory

end Aims

/-! ### Renaming -/

lemma AgreeBelow.move (agree : tree.AgreeBelow base tree') {rest' : List String}
    (inhabited : rest ≠ []) (inhabited' : rest' ≠ [])
    (apart : Apart (base ++ rest) (base ++ rest')) :
    ChangeAlike base tree (tree.move (base ++ rest) (base ++ rest'))
      (tree'.move (base ++ rest) (base ++ rest')) := by
  have moved := ChangeAlike.ok (agree.moveBelow inhabited inhabited' apart)
    (.moveBelow tree inhabited inhabited' apart)
  rw [FileTree.move, FileTree.move, agree.node rest inhabited, agree.node rest' inhabited']
  rcases tree.node? (base ++ rest) with _ | (bytes | _)
  · exact .error .notFound
  · have renamed := ChangeAlike.ok ((agree.unset inhabited).set inhabited' (.file bytes))
      ((ChangedBelow.unset tree inhabited).trans (.set _ inhabited' _))
    rcases tree.node? (base ++ rest') with _ | (bytes' | _)
    · exact renamed
    · exact renamed
    · exact .error .isADirectory
  · rcases tree.node? (base ++ rest') with _ | (bytes' | _)
    · exact moved
    · exact .error .notADirectory
    · dsimp only
      rw [agree.hasChildren inhabited']
      split_ifs
      · exact .error .directoryNotEmpty
      · exact moved

lemma AgreeBelow.relocate (agree : tree.AgreeBelow base tree') (inside : base <+: above)
    (inside' : base <+: above') (name name' : String) (slash slash' : Bool) :
    ChangeAlike base tree
      (tree.relocate (.entry above name slash) (.entry above' name' slash'))
      (tree'.relocate (.entry above name slash) (.entry above' name' slash')) := by
  rw [relocate_eq, relocate_eq, agree.node_concat inside]
  cases long : isLong name with
  | true => exact .error .invalidFilename
  | false =>
    cases tree.node? (above ++ [name]) with
    | none => exact .error .notFound
    | some node =>
      simp only [Bool.false_eq_true, if_false]
      split_ifs with long' slashes before after own
      · exact .error .invalidFilename
      · exact .error .notADirectory
      · exact .error .invalidInput
      · exact .error .directoryNotEmpty
      · exact .ok agree (.refl base tree)
      · -- Of two different names, one starts with the other only if it lies below it.
        have apart : Apart (above ++ [name]) (above' ++ [name']) := by
          rw [List.isPrefixOf_iff_prefix] at before after
          refine ⟨fun start => ?_, fun start => ?_⟩
          · exact (List.prefix_concat_iff.1 start).elim own before
          · exact (List.prefix_concat_iff.1 start).elim (own ·.symm) after
        obtain ⟨rest, inhabited, source⟩ := exists_concat inside name
        obtain ⟨rest', inhabited', target⟩ := exists_concat inside' name'
        rw [source, target] at apart ⊢
        exact agree.move inhabited inhabited' apart

lemma Aims.rename (aims : Aims base tree tree' source) (aims' : Aims base tree tree' target) :
    ChangeAlike base tree (tree.rename source target) (tree'.rename source target) := by
  rw [rename_eq, rename_eq, aims.located, aims'.located]
  split_ifs
  · exact .error .invalidInput
  · rcases old : tree.locate source with kind | (names | ⟨above, name, slash⟩) <;>
      rcases new : tree.locate target with kind' | (names' | ⟨above', name', slash'⟩)
    · exact .error kind
    · exact .error kind
    · exact .error kind
    · exact .error kind'
    · exact .error .resourceBusy
    · exact .error .resourceBusy
    · exact .error kind'
    · exact .error .resourceBusy
    · exact aims.agree.relocate (aims.inside _ _ _ old) (aims'.inside _ _ _ new) _ _ _ _

/-! ### Creating directories -/

lemma isCounted_createDirectories (tree : FileTree) (counted : tree.IsCounted) (path : FilePath) :
    (tree.createDirectories path).2.IsCounted := by
  have along (here : List String) (missing : Bool) (pieces : List String) :
      (tree.createAlong here missing pieces).2.IsCounted := by
    fun_induction FileTree.createAlong tree here missing pieces with
    | case1 | case4 | case6 | case7 | case8 | case9 => exact counted
    | case2 _ _ _ _ _ _ ih | case3 _ _ _ _ _ ih | case5 _ _ _ _ _ _ _ _ _ _ ih =>
      exact ih counted
    | case10 _ _ _ _ _ _ _ _ _ _ _ ih => exact ih (counted.set _ _)
  unfold createDirectories
  split
  · exact counted
  · exact along _ _ _

lemma AgreeBelow.createAlong (agree : tree.AgreeBelow base tree') (down : upward ∉ pieces)
    {here : List String} (inside : base <+: here) (missing : Bool) :
    (tree'.createAlong here missing pieces).1 = (tree.createAlong here missing pieces).1 ∧
      (tree.createAlong here missing pieces).2.AgreeBelow base
        (tree'.createAlong here missing pieces).2 ∧
      tree.ChangedBelow base (tree.createAlong here missing pieces).2 := by
  induction pieces generalizing tree tree' here missing with
  | nil => exact ⟨rfl, agree, .refl _ _⟩
  | cons piece rest ih =>
    obtain ⟨other, later⟩ := List.ne_and_not_mem_of_not_mem_cons down
    rw [FileTree.createAlong, FileTree.createAlong]
    by_cases idle : isIdle piece = true
    · rw [if_pos idle, if_pos idle]
      exact ih agree later inside missing
    · have inside' : base <+: here ++ [piece] := inside.trans (List.prefix_append _ _)
      rw [if_neg idle, if_neg idle, if_neg other.symm, if_neg other.symm]
      cases long : isLong piece with
      | true => exact ⟨rfl, agree, .refl _ _⟩
      | false =>
        have unchanged {answer : Except IoKind Unit} :
            answer = answer ∧ tree.AgreeBelow base tree' ∧ tree.ChangedBelow base tree :=
          ⟨rfl, agree, .refl _ _⟩
        simp only [Bool.false_eq_true, if_false, agree.node_concat inside]
        rcases tree.node? (here ++ [piece]) with _ | (bytes | _)
        · obtain ⟨below, inhabited, same⟩ := exists_concat inside piece
          have created := ih (agree.set inhabited .directory) later (same ▸ inside') true
          have whole : tree.ChangedBelow base (tree.set (base ++ below) .directory) :=
            .set tree inhabited _
          rw [same]
          rcases FilePath.ending? rest with _ | (_ | _ | _)
          · exact ⟨created.1, created.2.1, whole.trans created.2.2⟩
          · exact ⟨created.1, created.2.1, whole.trans created.2.2⟩
          · exact ⟨created.1, created.2.1, whole.trans created.2.2⟩
          · exact unchanged
        · rcases FilePath.ending? rest with _ | (_ | _ | _) <;> exact unchanged
        · exact ih agree later inside' missing

lemma AgreeBelow.createDirectories (agree : tree.AgreeBelow base tree')
    (leads : tree.Leads [] front base) (leads' : tree'.Leads [] front base)
    (down : upward ∉ above) :
    let path : FilePath := ⟨(front ++ above).rdropWhile isIdle⟩
    (tree'.createDirectories path).1 = (tree.createDirectories path).1 ∧
      (tree.createDirectories path).2.AgreeBelow base (tree'.createDirectories path).2 ∧
      tree.ChangedBelow base (tree.createDirectories path).2 := by
  intro path
  have later : upward ∉ above.rdropWhile isIdle := fun among =>
    down ((List.rdropWhile_prefix _ _).subset among)
  have along (tree : FileTree) (leads : tree.Leads [] front base) :
      tree.createAlong [] false path.pieces =
        tree.createAlong base false (above.rdropWhile isIdle) := by
    have leads' : tree.Leads []
        (if above.rdropWhile isIdle = [] then front.rdropWhile isIdle else front) base := by
      split
      · exact Leads.rdropWhile_iff.2 leads
      · exact leads
    change tree.createAlong [] false ((front ++ above).rdropWhile isIdle) = _
    rw [FilePath.rdropWhile_isIdle_append, leads'.createAlong]
  have accepts : tree'.accepts path = tree.accepts path := by
    rw [accepts, accepts, agree.depth]
  rw [FileTree.createDirectories, FileTree.createDirectories, accepts, along tree leads,
    along tree' leads']
  cases tree.accepts path with
  | error kind => exact ⟨rfl, agree, .refl _ _⟩
  | ok _ => exact agree.createAlong later List.prefix_rfl false

end FileTree

/-- The keys of a call, in the order in which they are checked. -/
def BlobCall.keys : BlobCall → List String
  | .put transfer => [transfer.key]
  | .get key | .delete key | .contains key => [key]
  | .rename source target => [source, target]

namespace DirectoryBlobs

open FileTree (ChangeAlike)
open FilePath (upward isIdle)

variable {store store' : DirectoryBlobs} {base : List String} {key : String}
  {path : FilePath} {token : Token} {α : Type}

lemma pathOf_congr (same : store'.root = store.root) (path : FilePath) :
    store'.pathOf path = store.pathOf path := by
  rw [pathOf, pathOf, same]

lemma temporaryOf_congr (same : store'.root = store.root) (path : FilePath) (token : Token) :
    store'.temporaryOf path token = store.temporaryOf path token :=
  pathOf_congr same _

/-- Two stores with one root, which leads to a directory in both, and the same lies below it. -/
structure AgreeBelow (base : List String) (store store' : DirectoryBlobs) : Prop where
  root : store'.root = store.root
  leads : store.tree.Leads [] store.root.pieces base
  leads' : store'.tree.Leads [] store.root.pieces base
  tree : store.tree.AgreeBelow base store'.tree

/-- What a call comes to in a store, beside what it comes to in another one. -/
structure Alike (base : List String) (store : DirectoryBlobs)
    (result result' : α × DirectoryBlobs) : Prop where
  answer : result'.1 = result.1
  root : result.2.root = store.root
  root' : result'.2.root = store.root
  agree : result.2.tree.AgreeBelow base result'.2.tree
  changed : store.tree.ChangedBelow base result.2.tree

lemma Alike.after {middle : DirectoryBlobs} {result result' : α × DirectoryBlobs}
    (alike : Alike base middle result result') (root : middle.root = store.root)
    (changed : store.tree.ChangedBelow base middle.tree) : Alike base store result result' :=
  ⟨alike.answer, alike.root.trans root, alike.root'.trans root, alike.agree,
    changed.trans alike.changed⟩

/-- What comes after a call that may fail. -/
def andThen {β ε : Type} (fail : ε → β) (next : DirectoryBlobs → β × DirectoryBlobs) :
    Except ε Unit × DirectoryBlobs → β × DirectoryBlobs
  | (.error error, store) => (fail error, store)
  | (.ok (), store) => next store

lemma start_of_taken (store : DirectoryBlobs) (taken : FilePath.ofKey key = .ok path)
    (token : Token) : store.start key token = andThen .error
      (fun store => store.attempt failure (store.tree.write (store.temporaryOf path token) []))
      (store.createParent path) := by
  simp only [start, taken]
  rcases store.createParent path with ⟨_ | _, _⟩ <;> rfl

lemma rename_of_taken (store : DirectoryBlobs) {target : String} {path' : FilePath}
    (taken : FilePath.ofKey key = .ok path) (taken' : FilePath.ofKey target = .ok path') :
    store.rename key target = andThen .error
      (fun store => store.attempt (failureOf key)
        (store.tree.rename (store.pathOf path) (store.pathOf path')))
      (store.createParent path') := by
  simp only [rename, taken, taken']
  rcases store.createParent path' with ⟨_ | _, _⟩ <;> rfl

lemma settle_eq (store : DirectoryBlobs) (key : String) (token : Token) (bytes : Bytes)
    (outcome : Option Outcome) : BlobStore.settle store key token bytes outcome = andThen
      (fun error => (⟨.error error, outcome⟩ : PutReply))
      (fun store => (⟨.ok bytes.length, outcome⟩, store))
      (store.complete key token bytes) := by
  have completed : BlobStore.complete store key token bytes = store.complete key token bytes := rfl
  rw [BlobStore.settle, completed]
  rcases store.complete key token bytes with ⟨_ | _, _⟩ <;> rfl

lemma put_eq (store : DirectoryBlobs) (token : Token) (transfer : Transfer) :
    BlobStore.put store token transfer = andThen
      (fun error => (⟨.error error, transfer.upload.outcome?⟩ : PutReply))
      (fun store =>
        match transfer.upload.collect with
        | (.error error, outcome) =>
          (⟨.error (.io error), outcome⟩, store.abandon transfer.key token)
        | (.ok bytes, outcome) => BlobStore.settle store transfer.key token bytes outcome)
      (store.start transfer.key token) := by
  have started : BlobStore.start store transfer.key token = store.start transfer.key token := rfl
  rw [BlobStore.put, started]
  rcases store.start transfer.key token with ⟨_ | _, _⟩
  · rfl
  · rcases transfer.upload.collect with ⟨_ | _, _⟩ <;> rfl

/-- Where one goes on, the other does too, and they go on alike. -/
lemma Alike.andThen {β ε : Type} {result result' : Except ε Unit × DirectoryBlobs}
    (alike : Alike base store result result') (fail : ε → β)
    (next : DirectoryBlobs → β × DirectoryBlobs)
    (further : Alike base result.2 (next result.2) (next result'.2)) :
    Alike base store (DirectoryBlobs.andThen fail next result)
      (DirectoryBlobs.andThen fail next result') := by
  obtain ⟨answer, left⟩ := result
  obtain ⟨answer', left'⟩ := result'
  obtain rfl : answer' = answer := alike.answer
  cases answer' with
  | error error => exact ⟨rfl, alike.root, alike.root', alike.agree, alike.changed⟩
  | ok _ => exact further.after alike.root alike.changed

namespace AgreeBelow

lemma unchanged (agree : AgreeBelow base store store') (answer : α) :
    Alike base store (answer, store) (answer, store') :=
  ⟨rfl, rfl, agree.root, agree.tree, .refl _ _⟩

lemma attempt (agree : AgreeBelow base store store') (wording : IoKind → StoreError)
    {result result' : Except IoKind FileTree}
    (alike : ChangeAlike base store.tree result result') :
    Alike base store (store.attempt wording result) (store'.attempt wording result') := by
  cases alike with
  | error kind => exact agree.unchanged _
  | ok trees changed => exact ⟨rfl, rfl, agree.root, trees, changed⟩

/-- The path of a key leads below the directory, -/
lemma aims (agree : AgreeBelow base store store') (taken : FilePath.ofKey key = .ok path) :
    FileTree.Aims base store.tree store'.tree (store.pathOf path) := by
  obtain ⟨above, name, idle, ends⟩ := FilePath.exists_ends_of_ofKey taken
  have more : ∃ piece ∈ path.pieces, piece ≠ "" :=
    ⟨name, by simp [ends.pieces], FileTree.ne_empty_of_busy ends.busy⟩
  have down : upward ∉ path.pieces.dropLast := fun among =>
    ends.down (List.dropLast_subset _ among)
  rw [pathOf, FilePath.join_eq]
  exact agree.tree.aims (FileTree.Leads.footing_iff.2 agree.leads)
    (FileTree.Leads.footing_iff.2 agree.leads') more down

/-- and so does the path of the temporary file, if it leads to a file at all. -/
lemma aims_temporary (agree : AgreeBelow base store store')
    (taken : FilePath.ofKey key = .ok path) (token : Token) :
    FileTree.Aims base store.tree store'.tree (store.temporaryOf path token) := by
  obtain ⟨above, name, idle, ends⟩ := FilePath.exists_ends_of_ofKey taken
  have busy := FilePath.isIdle_temporaryName name (idle = []) token
  have more : ∃ piece ∈ above ++ [FilePath.temporaryName name (idle = []) token], piece ≠ "" :=
    ⟨_, by simp, FileTree.ne_empty_of_busy busy⟩
  have down : upward ∉ (above ++ [FilePath.temporaryName name (idle = []) token]).dropLast := by
    rw [List.dropLast_concat]
    exact fun among => ends.down (by simp [ends.pieces, among])
  rw [temporaryOf, pathOf, FilePath.join_eq, ends.temporary]
  exact agree.tree.aims (FileTree.Leads.footing_iff.2 agree.leads)
    (FileTree.Leads.footing_iff.2 agree.leads') more down

lemma pathOf_eq (agree : AgreeBelow base store store') (path : FilePath) :
    store'.pathOf path = store.pathOf path :=
  pathOf_congr agree.root path

lemma temporaryOf_eq (agree : AgreeBelow base store store') (path : FilePath) (token : Token) :
    store'.temporaryOf path token = store.temporaryOf path token :=
  temporaryOf_congr agree.root path token

/-- Stores still agree as long as the directories remain. -/
lemma of_alike {result result' : α × DirectoryBlobs} (agree : AgreeBelow base store store')
    (alike : Alike base store result result')
    (remain : ∀ names, store.tree.node? names = some .directory →
      result.2.tree.node? names = some .directory)
    (remain' : ∀ names, store'.tree.node? names = some .directory →
      result'.2.tree.node? names = some .directory) :
    AgreeBelow base result.2 result'.2 := by
  refine ⟨alike.root'.trans alike.root.symm, ?_, ?_, alike.agree⟩
  · rw [alike.root]
    exact agree.leads.kept remain
  · rw [alike.root]
    exact agree.leads'.kept remain'

end AgreeBelow

/-! ### Directories that remain -/

lemma createParent_remains (store : DirectoryBlobs) (path : FilePath) (names : List String)
    (directory : store.tree.node? names = some .directory) :
    (store.createParent path).2.tree.node? names = some .directory := by
  have remains := (store.tree.createDirectories_widened (store.pathOf path).parent).remains names
    directory
  unfold createParent
  split
  · next created => rwa [created] at remains
  · next created => rwa [created] at remains

lemma attempt_write_remains (store : DirectoryBlobs) (wording : IoKind → StoreError)
    (path : FilePath) (bytes : Bytes) (names : List String)
    (directory : store.tree.node? names = some .directory) :
    (store.attempt wording (store.tree.write path bytes)).2.tree.node? names =
      some .directory := by
  cases written : store.tree.write path bytes with
  | error kind => exact directory
  | ok tree =>
    obtain ⟨above, name, -, -, vacant, rfl⟩ := FileTree.exists_of_write written
    exact FileTree.remains_of_file vacant
      (fun other => FileTree.node?_set store.tree (by simp) _ other) names directory

lemma start_remains (store : DirectoryBlobs) (key : String) (token : Token) (names : List String)
    (directory : store.tree.node? names = some .directory) :
    (store.start key token).2.tree.node? names = some .directory := by
  unfold start
  split
  · exact directory
  · next path _ =>
    have opened := store.createParent_remains path names directory
    split
    · next created => rwa [created] at opened
    · next created =>
      rw [created] at opened
      exact attempt_write_remains _ _ _ _ _ opened

lemma holdAt_remains (store : DirectoryBlobs) (temporary : FilePath) (bytes : Bytes)
    (names : List String) (directory : store.tree.node? names = some .directory) :
    (store.holdAt temporary bytes).tree.node? names = some .directory := by
  unfold holdAt
  split
  · exact attempt_write_remains _ _ _ _ _ directory
  · exact directory

/-! ### The calls -/

namespace AgreeBelow

lemma createParent (agree : AgreeBelow base store store')
    (taken : FilePath.ofKey key = .ok path) :
    Alike base store (store.createParent path) (store'.createParent path) := by
  obtain ⟨above, name, idle, ends⟩ := FilePath.exists_ends_of_ofKey taken
  have down : upward ∉ above := fun among => ends.down (by simp [ends.pieces, among])
  obtain ⟨answer, trees, changed⟩ := agree.tree.createDirectories
    (FileTree.Leads.footing_iff.2 agree.leads) (FileTree.Leads.footing_iff.2 agree.leads') down
  unfold DirectoryBlobs.createParent
  rw [agree.pathOf_eq, pathOf, ends.parent]
  generalize store.tree.createDirectories _ = made at answer trees changed ⊢
  generalize store'.tree.createDirectories _ = made' at answer trees ⊢
  obtain ⟨result, tree⟩ := made
  obtain ⟨result', tree'⟩ := made'
  obtain rfl : result' = result := answer
  cases result' with
  | error kind => exact ⟨rfl, rfl, agree.root, trees, changed⟩
  | ok _ => exact ⟨rfl, rfl, agree.root, trees, changed⟩

lemma start (agree : AgreeBelow base store store') (key : String) (token : Token) :
    Alike base store (store.start key token) (store'.start key token) := by
  cases taken : FilePath.ofKey key with
  | error error =>
    simp only [DirectoryBlobs.start, taken]
    exact agree.unchanged _
  | ok path =>
    have opened := agree.createParent taken
    have agree' := agree.of_alike opened (store.createParent_remains _)
      (store'.createParent_remains _)
    rw [store.start_of_taken taken, store'.start_of_taken taken]
    refine opened.andThen _ _ ?_
    rw [agree'.temporaryOf_eq]
    exact agree'.attempt failure ((agree'.aims_temporary taken token).write [])

/-- The bytes of a temporary file change alike. -/
lemma holdAt (agree : AgreeBelow base store store') {temporary : FilePath}
    (aims : FileTree.Aims base store.tree store'.tree temporary) (bytes : Bytes) :
    Alike base store ((), store.holdAt temporary bytes) ((), store'.holdAt temporary bytes) := by
  unfold DirectoryBlobs.holdAt
  rw [aims.find]
  rcases store.tree.find temporary with kind | (bytes' | _)
  · exact agree.unchanged ()
  · have written := agree.attempt failure (aims.write bytes)
    exact ⟨rfl, written.root, written.root', written.agree, written.changed⟩
  · exact agree.unchanged ()

lemma abandon (agree : AgreeBelow base store store') (key : String) (token : Token) (answer : α) :
    Alike base store (answer, store.abandon key token) (answer, store'.abandon key token) := by
  unfold DirectoryBlobs.abandon
  cases taken : FilePath.ofKey? key with
  | none => exact agree.unchanged _
  | some path =>
    have taken' := FilePath.ofKey_eq_ok_iff.2 taken
    have removed := agree.attempt failure (agree.aims_temporary taken' token).removeFile
    dsimp only
    rw [agree.temporaryOf_eq]
    exact ⟨rfl, removed.root, removed.root', removed.agree, removed.changed⟩

lemma complete (agree : AgreeBelow base store store') (key : String) (token : Token)
    (bytes : Bytes) :
    Alike base store (store.complete key token bytes) (store'.complete key token bytes) := by
  unfold DirectoryBlobs.complete
  cases taken : FilePath.ofKey key with
  | error error => exact agree.unchanged _
  | ok path =>
    have held := agree.holdAt (agree.aims_temporary taken token) bytes
    have agree' := agree.of_alike held (store.holdAt_remains _ bytes)
      (store'.holdAt_remains _ bytes)
    dsimp only at agree' ⊢
    rw [agree.temporaryOf_eq, agree.pathOf_eq]
    generalize store.holdAt (store.temporaryOf path token) bytes = middle at held agree' ⊢
    generalize store'.holdAt (store.temporaryOf path token) bytes = middle' at held agree' ⊢
    have renamed := (agree'.aims_temporary taken token).rename (agree'.aims taken)
    rw [temporaryOf_congr held.root, pathOf_congr held.root] at renamed
    generalize middle.tree.rename _ _ = result at renamed ⊢
    generalize middle'.tree.rename _ _ = result' at renamed ⊢
    cases renamed with
    | error kind => exact (agree'.abandon key token _).after held.root held.changed
    | ok trees changed =>
      exact ⟨rfl, held.root, held.root', trees, held.changed.trans changed⟩

lemma get (agree : AgreeBelow base store store') (key : String) :
    store'.get key = store.get key := by
  unfold DirectoryBlobs.get
  cases taken : FilePath.ofKey key with
  | error error => rfl
  | ok path =>
    simp only [bind, Except.bind, agree.pathOf_eq, (agree.aims taken).find]

lemma contains (agree : AgreeBelow base store store') (key : String) :
    store'.contains key = store.contains key := by
  unfold DirectoryBlobs.contains
  cases taken : FilePath.ofKey key with
  | error error => rfl
  | ok path =>
    simp only [bind, Except.bind, FileTree.contains, agree.pathOf_eq, (agree.aims taken).find]

lemma delete (agree : AgreeBelow base store store') (key : String) :
    Alike base store (store.delete key) (store'.delete key) := by
  unfold DirectoryBlobs.delete
  cases taken : FilePath.ofKey key with
  | error error => exact agree.unchanged _
  | ok path =>
    dsimp only
    rw [agree.pathOf_eq]
    exact agree.attempt _ (agree.aims taken).removeFile

lemma rename (agree : AgreeBelow base store store') (source target : String) :
    Alike base store (store.rename source target) (store'.rename source target) := by
  cases taken : FilePath.ofKey source with
  | error error =>
    simp only [DirectoryBlobs.rename, taken]
    exact agree.unchanged _
  | ok old =>
    cases taken' : FilePath.ofKey target with
    | error error =>
      simp only [DirectoryBlobs.rename, taken, taken']
      exact agree.unchanged _
    | ok new =>
      have opened := agree.createParent taken'
      have agree' := agree.of_alike opened (store.createParent_remains _)
        (store'.createParent_remains _)
      rw [store.rename_of_taken taken taken', store'.rename_of_taken taken taken']
      refine opened.andThen _ _ ?_
      rw [agree'.pathOf_eq, agree'.pathOf_eq]
      exact agree'.attempt _ ((agree'.aims taken).rename (agree'.aims taken'))

lemma settle (agree : AgreeBelow base store store') (key : String) (token : Token) (bytes : Bytes)
    (outcome : Option Outcome) :
    Alike base store (BlobStore.settle store key token bytes outcome)
      (BlobStore.settle store' key token bytes outcome) := by
  have completed := agree.complete key token bytes
  rw [settle_eq, settle_eq]
  refine completed.andThen _ _ ?_
  exact ⟨rfl, rfl, completed.root'.trans completed.root.symm, completed.agree, .refl _ _⟩

lemma put (agree : AgreeBelow base store store') (token : Token) (transfer : Transfer) :
    Alike base store (BlobStore.put store token transfer)
      (BlobStore.put store' token transfer) := by
  have started := agree.start transfer.key token
  have agree' := agree.of_alike started (store.start_remains _ _) (store'.start_remains _ _)
  rw [put_eq, put_eq]
  refine started.andThen _ _ ?_
  rcases transfer.upload.collect with ⟨error | bytes, outcome⟩
  · exact agree'.abandon transfer.key token _
  · exact agree'.settle transfer.key token bytes outcome

/-- Every call is answered alike. -/
lemma answer (agree : AgreeBelow base store store') (token : Token) (call : BlobCall) :
    Alike base store (BlobStore.answer token store call) (BlobStore.answer token store' call) := by
  cases call with
  | put transfer => exact agree.put token transfer
  | get key =>
    have same : BlobStore.get store' key = BlobStore.get store key := agree.get key
    simp only [BlobStore.answer, same]
    exact agree.unchanged _
  | delete key => exact agree.delete key
  | contains key =>
    have same : BlobStore.contains store' key = BlobStore.contains store key := agree.contains key
    simp only [BlobStore.answer, same]
    exact agree.unchanged _
  | rename source target => exact agree.rename source target

/-- The bytes that have come in so far are held alike. -/
lemma hold (agree : AgreeBelow base store store') (key : String) (token : Token) (bytes : Bytes) :
    Alike base store ((), store.hold key token bytes) ((), store'.hold key token bytes) := by
  unfold DirectoryBlobs.hold
  cases taken : FilePath.ofKey? key with
  | none => exact agree.unchanged ()
  | some path =>
    have taken' := FilePath.ofKey_eq_ok_iff.2 taken
    dsimp only
    rw [agree.temporaryOf_eq]
    exact agree.holdAt (agree.aims_temporary taken' token) bytes

end AgreeBelow

/-- The root of a store that was opened leads to a directory. -/
theorem leads_of_openAt {tree left : FileTree} {root : FilePath} (counted : tree.IsCounted)
    (opened : openAt tree root = (.ok store, left)) :
    (∃ base, store.tree.Leads [] store.root.pieces base) ∧ store.tree.IsCounted := by
  have counted' := tree.isCounted_createDirectories counted root
  unfold openAt at opened
  split at opened
  · cases opened
  · next created =>
    obtain ⟨same, -⟩ := Prod.mk.inj opened
    obtain rfl := Except.ok.inj same
    rw [created] at counted'
    exact ⟨FileTree.leads_of_createDirectories created, counted'⟩

lemma AgreeBelow.refl (leads : store.tree.Leads [] store.root.pieces base)
    (counted : store.tree.IsCounted) : AgreeBelow base store store :=
  ⟨rfl, leads, leads, .refl base counted⟩

/-- The store that a step of a transfer leaves. -/
def progressed (store : DirectoryBlobs) : Transfer.Progress DirectoryBlobs → DirectoryBlobs
  | .finished _ left => left
  | .moved _ left => left
  | .waiting => store

/-- A transfer that is taken step by step changes nothing above in any step. -/
lemma changed_of_advance (leads : store.tree.Leads [] store.root.pieces base)
    (counted : store.tree.IsCounted) (fresh : Token) (transfer : Transfer) :
    store.tree.ChangedBelow base (store.progressed (transfer.advance store fresh)).tree := by
  have agree := AgreeBelow.refl leads counted
  unfold Transfer.advance
  split
  · have started : store.tree.ChangedBelow base (BlobStore.start store transfer.key fresh).2.tree :=
      (agree.start transfer.key fresh).changed
    split
    · next failed => rwa [failed] at started
    · next begun => rwa [begun] at started
  · next token _ =>
    split
    · exact .refl _ _
    · split
      · exact (agree.hold transfer.key token _).changed
      · exact .refl _ _
      · exact (agree.abandon transfer.key token ()).changed
      · next upload _ =>
        exact (agree.settle transfer.key token transfer.received upload.outcome?).changed

/-! ### Calls that are refused, and all others -/

/-- A call with a key that is not taken as a path is refused, and nothing has changed. -/
lemma answer_of_refused (store : DirectoryBlobs) (token : Token) {call : BlobCall}
    (refused : call.keys.find? (fun key => (FilePath.ofKey? key).isNone) = some key) :
    BlobStore.answer token store call =
      (call.failure (.invalid ("invalid blob key: " ++ Text.quoted key)), store) := by
  have none : FilePath.ofKey? key = none := by
    have none := List.find?_some refused
    simpa using none
  have error := FilePath.ofKey_of_refused none
  have among := List.mem_of_find?_eq_some refused
  generalize StoreError.invalid ("invalid blob key: " ++ Text.quoted key) = refusal at error ⊢
  cases call with
  | put transfer =>
    obtain rfl := List.mem_singleton.1 among
    have started : store.start transfer.key token = (.error refusal, store) := by
      simp only [start, error]
    rw [BlobStore.answer, put_eq, started]
    rfl
  | get other =>
    obtain rfl := List.mem_singleton.1 among
    have got : BlobStore.get store key = .error refusal := by
      simp only [BlobStore.get, DirectoryBlobs.get, error, bind, Except.bind]
    rw [BlobStore.answer, got]
    rfl
  | delete other =>
    obtain rfl := List.mem_singleton.1 among
    simp only [BlobStore.answer, BlobStore.delete, DirectoryBlobs.delete, error]
    rfl
  | contains other =>
    obtain rfl := List.mem_singleton.1 among
    have answered : BlobStore.contains store key = .error refusal := by
      simp only [BlobStore.contains, DirectoryBlobs.contains, error, bind, Except.bind]
    rw [BlobStore.answer, answered]
    rfl
  | rename source target =>
    simp only [BlobStore.answer, BlobStore.rename, DirectoryBlobs.rename]
    cases taken : FilePath.ofKey? source with
    | none =>
      obtain rfl : source = key := by simpa [BlobCall.keys, taken] using refused
      simp only [error]
      rfl
    | some path =>
      have later : target = key := by
        have found : [target].find? (fun key => (FilePath.ofKey? key).isNone) = some key := by
          simpa [BlobCall.keys, taken] using refused
        exact (List.mem_singleton.1 (List.mem_of_find?_eq_some found)).symm
      subst later
      simp only [FilePath.ofKey_eq_ok_iff.2 taken, error]
      rfl

/-- What a call to a store comes to whose root leads to a directory. -/
structure KeepsBelow (store : DirectoryBlobs) (token : Token) (base : List String)
    (call : BlobCall) : Prop where
  /-- A key is taken if it is a relative path with a component, of which the first is no dot and
  none leads up, -/
  taken (key : String) : (∃ path, FilePath.ofKey key = .ok path) ↔
    key ≠ "" ∧ key.toList.head? ≠ some '/' ∧ (FilePath.ofText key).components ≠ [] ∧
      (FilePath.ofText key).components.head? ≠ some .current ∧
      FilePath.Component.up ∉ (FilePath.ofText key).components
  /-- and then its path has the components of the root and after them those of the key. -/
  resolved (key : String) (path : FilePath) : FilePath.ofKey key = .ok path →
    (store.pathOf path).components =
      store.root.components ++ (FilePath.ofText key).components
  /-- The first key that is not taken is what the call is refused for; nothing has changed. -/
  refused (key : String) :
    call.keys.find? (fun key => (FilePath.ofKey? key).isNone) = some key →
      BlobStore.answer token store call =
        (call.failure (.invalid ("invalid blob key: " ++ Text.quoted key)), store)
  /-- What has changed lies below the directory, -/
  changed : store.tree.ChangedBelow base (BlobStore.answer token store call).2.tree
  /-- also while a blob is put. -/
  progressed (fresh : Token) (transfer : Transfer) : call = .put transfer →
    store.tree.ChangedBelow base (store.progressed (transfer.advance store fresh)).tree
  /-- What was read lies below the directory: nothing else makes a difference to the answer, or to
  what the call leaves there. -/
  read (store' : DirectoryBlobs) : AgreeBelow base store store' →
    (BlobStore.answer token store' call).1 = (BlobStore.answer token store call).1 ∧
      (BlobStore.answer token store call).2.tree.AgreeBelow base
        (BlobStore.answer token store' call).2.tree

/-- No key leads out of the root of a store. -/
theorem keeps_below (store : DirectoryBlobs) (token : Token) (call : BlobCall) {base : List String}
    (leads : store.tree.Leads [] store.root.pieces base) (counted : store.tree.IsCounted) :
    KeepsBelow store token base call where
  taken := FilePath.exists_ofKey_iff
  resolved key path taken := by
    obtain ⟨rfl, stays⟩ := FilePath.ofKey?_eq_some_iff.1 (FilePath.ofKey_eq_ok_iff.1 taken)
    exact FilePath.components_join store.root stays
  refused _ refused := store.answer_of_refused token refused
  changed := ((AgreeBelow.refl leads counted).answer token call).changed
  progressed fresh transfer _ := changed_of_advance leads counted fresh transfer
  read store' agree := ⟨(agree.answer token call).answer, (agree.answer token call).agree⟩

/-- A blob is put below the root, whatever lies beside that; it cannot be renamed out of it. -/
theorem keeps_below_beside :
    let store := KeySpace.blank
    let beside := store.withTree (store.tree.set ["beside"] (.file [1]))
    let put : BlobCall := .ofStream "a/b" (.ofBytes [120])
    let rename : BlobCall := .rename "a" "b/../../beside"
    store.tree.Leads [] store.root.pieces ["data"] ∧ store.tree.IsCounted ∧
      KeepsBelow store ⟨0⟩ ["data"] put ∧ KeepsBelow store ⟨0⟩ ["data"] rename ∧
      AgreeBelow ["data"] store beside ∧
      (BlobStore.answer ⟨0⟩ beside put).2.tree.node? ["data", "a", "b"] = some (.file [120]) ∧
      BlobStore.answer ⟨0⟩ store rename =
        (.error (.invalid ("invalid blob key: " ++ Text.quoted "b/../../beside")), store) := by
  intro store beside put rename
  have leads : store.tree.Leads [] store.root.pieces ["data"] :=
    .down (by decide) (by decide) (by decide) (by decide) (.nil ["data"])
  have leads' : beside.tree.Leads [] store.root.pieces ["data"] :=
    .down (by decide) (by decide) (by decide) (by decide) (.nil ["data"])
  have counted : store.tree.IsCounted := (FileTree.IsCounted.empty 0).set _ _
  have agree : AgreeBelow ["data"] store beside := by
    refine ⟨rfl, leads, leads', rfl, counted, counted.set _ _, fun rest inhabited => ?_⟩
    refine (FileTree.node?_set _ (by decide) _ _).trans (if_neg fun same => ?_)
    exact absurd (List.cons.inj same).1 (by decide)
  have kept := keeps_below store ⟨0⟩ put leads counted
  have refused := keeps_below store ⟨0⟩ rename leads counted
  refine ⟨leads, counted, kept, refused, agree, ?_, refused.refused _ (by decide)⟩
  have same := (kept.read beside agree).2.node ["a", "b"] (by decide)
  have stored : (BlobStore.answer ⟨0⟩ store put).2.tree.node? ["data", "a", "b"] =
      some (.file [120]) := by decide
  exact same.trans stored

end DirectoryBlobs

end AssetCache
