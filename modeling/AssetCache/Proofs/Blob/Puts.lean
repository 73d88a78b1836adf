import AssetCache.Proofs.Blob.Directory
import AssetCache.Proofs.Blob.KeyPaths
import AssetCache.Proofs.Blob.Walks
import AssetCache.Proofs.Stream.Polls
import AssetCache.Proofs.Transfers

/-!
# Blobs that are put into a directory whole or not at all

A blob comes into a directory through a temporary file. Whatever stands in its way, before the
temporary file is there, while its stream is read, or when it is renamed into its place, a put
that fails leaves every file as it was; a put that succeeds has changed the file of its key and no
other (`DirectoryBlobs.puts_whole`). This holds for every tree and every key, however strange:
nothing is assumed of the names but that none of them is the name of the temporary file.
-/

namespace AssetCache

/-! ### What is still to come of a stream -/

namespace Upload

/-- The items that are still to come, up to the end of the stream. -/
def remaining (upload : Upload) : List Item :=
  if upload.isDone then [] else upload.source.items.takeWhile (· ≠ .ended)

/-- An item is passed on as it is, or an error is in its place. -/
lemma pass_cases {digest : Option Digest} (undone : digest.any (·.done) = false) (item : Item) :
    (∃ error, (pass digest item).1 = .error error) ∨
      (pass digest item).1 = item ∧
        (item.isLast = false → (pass digest item).2.any (·.done) = false) := by
  cases digest with
  | none => exact .inr ⟨rfl, fun _ => rfl⟩
  | some digest =>
    have undone' : digest.done = false := undone
    cases item with
    | error error => exact .inl ⟨error, by simp [pass, undone', Digest.absorb]⟩
    | notReady => exact .inr ⟨by simp [pass, undone', Digest.absorb], fun _ => by
        simp [pass, undone', Digest.absorb]⟩
    | ended => exact .inr ⟨by simp [pass, undone', Digest.absorb], by simp [Item.isLast]⟩
    | chunk bytes =>
      by_cases large : digest.limits.maxBytes < digest.size + bytes.length
      · exact .inl ⟨Digest.tooLarge digest.limits, by simp [pass, undone', Digest.absorb, large]⟩
      · exact .inr ⟨by simp [pass, undone', Digest.absorb, large], fun _ => by
          simp [pass, undone', Digest.absorb, large]⟩

lemma eq_content_of_collectItems {digest : Option Digest} {items : List Item} {bytes : Bytes}
    (undone : digest.any (·.done) = false)
    (read : (collectItems digest items).1 = .ok bytes) :
    bytes = Item.content (items.takeWhile (· ≠ .ended)) ∧
      ∀ error, .error error ∉ items.takeWhile (· ≠ .ended) := by
  induction items generalizing digest bytes with
  | nil =>
    obtain rfl := Except.ok.inj read
    exact ⟨rfl, fun _ => List.not_mem_nil⟩
  | cons item rest ih =>
    rw [collectItems] at read
    rcases pass_cases undone item with ⟨error, passed⟩ | ⟨passed, undone'⟩
    · generalize pass digest item = result at passed read
      obtain ⟨_, digest'⟩ := result
      subst passed
      cases read
    · generalize pass digest item = result at passed read undone'
      obtain ⟨item', digest'⟩ := result
      obtain rfl : item' = item := passed
      cases item' with
      | error error => cases read
      | ended =>
        obtain rfl := Except.ok.inj read
        exact ⟨rfl, fun _ => List.not_mem_nil⟩
      | notReady =>
        obtain ⟨rfl, whole⟩ := ih (undone' rfl) read
        rw [List.takeWhile_cons_of_pos (by simp)]
        refine ⟨rfl, fun error => ?_⟩
        simpa using whole error
      | chunk first =>
        cases others : (collectItems digest' rest).1 with
        | error error => simp [others, Functor.map, Except.map] at read
        | ok later =>
          obtain ⟨rfl, whole⟩ := ih (undone' rfl) others
          have joined : first ++ Item.content (rest.takeWhile (· ≠ .ended)) = bytes := by
            simpa [others, Functor.map, Except.map] using read
          rw [List.takeWhile_cons_of_pos (by simp), ← joined]
          refine ⟨rfl, fun error => ?_⟩
          simpa using whole error

/-- A stream that is read without an error comes to all the bytes that were still to come. -/
lemma eq_content_of_collect {upload : Upload} {bytes : Bytes}
    (read : upload.collect.1 = .ok bytes) :
    bytes = Item.content upload.remaining ∧ ∀ error, .error error ∉ upload.remaining := by
  cases done : upload.isDone with
  | true =>
    have nothing (items : List Item) : (collectItems upload.digest items).1 = .ok [] := by
      cases items <;> simp only [collectItems, pass_of_done done]
    obtain rfl := Except.ok.inj ((nothing _).symm.trans read)
    rw [remaining, done, if_pos rfl]
    exact ⟨rfl, fun _ => List.not_mem_nil⟩
  | false =>
    rw [remaining, done, if_neg Bool.false_ne_true]
    exact eq_content_of_collectItems done read

end Upload

/-! ### Trees in which the files remain -/

namespace FileTree

variable {tree middle tree' : FileTree} {target : List String} {bytes : Bytes}

/-- A tree and what is left of it, where all files remain but those at some names. -/
structure KeepsFiles (tree : FileTree) (changed : List (List String)) (tree' : FileTree) :
    Prop where
  /-- Every other file is there with its bytes, and no other one was added. -/
  files (names : List String) (other : names ∉ changed) (bytes : Bytes) :
    tree'.node? names = some (.file bytes) ↔ tree.node? names = some (.file bytes)
  directories (names : List String) :
    tree.node? names = some .directory → tree'.node? names = some .directory
  /-- There is no other file below a directory that was added. -/
  added (names below : List String) (bytes : Bytes) : tree.node? names = none →
    tree'.node? names = some .directory → names ++ below ∉ changed →
      tree'.node? (names ++ below) ≠ some (.file bytes)

lemma Widened.keepsFiles (widened : tree.Widened tree') (closed : tree.Closed) :
    tree.KeepsFiles [] tree' where
  files _ _ _ := widened.file_iff
  directories := widened.remains
  added _ below bytes absent _ _ := widened.no_file_below closed absent below bytes

lemma Widened.keepsFiles_of_file (widened : tree.Widened middle) (closed : tree.Closed)
    (vacant : middle.node? target ≠ some .directory)
    (node : ∀ names, tree'.node? names =
      if names = target then some (.file bytes) else middle.node? names) :
    tree.KeepsFiles [target] tree' where
  files names other bytes := by
    rw [node, if_neg (by simpa using other), widened.file_iff]
  directories names directory :=
    remains_of_file vacant node names (widened.remains names directory)
  added names below bytes absent _ other := by
    rw [node, if_neg (by simpa using other)]
    exact widened.no_file_below closed absent below bytes

end FileTree

/-! ### Blobs on their way -/

namespace DirectoryBlobs

open FilePath (upward isIdle isLong)

variable {store opened begun : DirectoryBlobs} {key name temporary : String} {path : FilePath}
  {token : Token} {above idle here : List String} {bytes : Bytes}

/-- Nothing has the name of the temporary file that a blob would come in through. -/
def IsFresh (store : DirectoryBlobs) (key : String) (token : Token) : Prop :=
  ∀ path, FilePath.ofKey? key = some path →
    ∀ name, (path.temporary token).pieces.getLast? = some name →
      ∀ above, store.tree.node? (above ++ [name]) = none

/-- The directories above a key are there, and the pieces before its name lead to the last. -/
structure Opened (store opened : DirectoryBlobs) (above here : List String) : Prop where
  root : opened.root = store.root
  widened : store.tree.Widened opened.tree
  leads : opened.tree.Leads [] (opened.root.footing ++ above) here

/-- A store with the bytes of a blob in a temporary file, which was not there before. -/
structure Held (opened store : DirectoryBlobs) (path : FilePath) (token : Token)
    (here : List String) (temporary : String) (bytes : Bytes) : Prop where
  root : store.root = opened.root
  depth : store.tree.depth = opened.tree.depth
  located : store.tree.locate (store.temporaryOf path token) = .ok (.entry here temporary false)
  short : isLong temporary = false
  absent : opened.tree.node? (here ++ [temporary]) = none
  node (names : List String) : store.tree.node? names =
    if names = here ++ [temporary] then some (.file bytes) else opened.tree.node? names

/-- What a blob that is complete leaves: the file of its key with its bytes, and all else as it was
before the temporary file. -/
structure Completed (opened : DirectoryBlobs) (path : FilePath) (here : List String) (name : String)
    (bytes : Bytes) (left : DirectoryBlobs) : Prop where
  root : left.root = opened.root
  located : left.tree.locate (left.pathOf path) = .ok (.entry here name false)
  short : isLong name = false
  vacant : opened.tree.node? (here ++ [name]) ≠ some .directory
  node (names : List String) : left.tree.node? names =
    if names = here ++ [name] then some (.file bytes) else opened.tree.node? names

namespace Held

lemma found (held : opened.Held store path token here temporary bytes) :
    store.tree.node? (here ++ [temporary]) = some (.file bytes) := by
  rw [held.node, if_pos rfl]

lemma remains (held : opened.Held store path token here temporary bytes) (names : List String)
    (directory : opened.tree.node? names = some .directory) :
    store.tree.node? names = some .directory :=
  FileTree.remains_of_file (by simp [held.absent]) held.node names directory

/-- A temporary file is there once it was written. -/
lemma first (located : opened.tree.locate (opened.temporaryOf path token) =
      .ok (.entry here temporary false))
    (short : isLong temporary = false) (absent : opened.tree.node? (here ++ [temporary]) = none)
    (bytes : Bytes) :
    opened.Held (opened.holding (here ++ [temporary]) bytes) path token here temporary bytes := by
  have node := node?_holding opened here temporary bytes
  have remain := FileTree.remains_of_file (by simp [absent]) node
  exact ⟨rfl, rfl, FileTree.locate_of_remaining located rfl remain, short, absent, node⟩

/-- The temporary file takes in other bytes. -/
lemma holdAt (held : opened.Held store path token here temporary bytes) (bytes' : Bytes) :
    opened.Held (store.holdAt (store.temporaryOf path token) bytes') path token here temporary
      bytes' := by
  have found := held.found
  have named : here ++ [temporary] ≠ [] := by simp
  have written : store.holdAt (store.temporaryOf path token) bytes' =
      store.holding (here ++ [temporary]) bytes' := by
    have looked : store.tree.find (store.temporaryOf path token) = .ok (.file bytes) := by
      rw [FileTree.find_eq, held.located]
      exact FileTree.look_of_file held.short found
    have write : store.tree.write (store.temporaryOf path token) bytes' =
        .ok (store.tree.set (here ++ [temporary]) (.file bytes')) := by
      rw [FileTree.write_eq, held.located]
      simp [held.short, found]
    simp only [DirectoryBlobs.holdAt, looked, write]
    rfl
  have node (names : List String) :
      (store.holding (here ++ [temporary]) bytes').tree.node? names =
        if names = here ++ [temporary] then some (.file bytes') else opened.tree.node? names := by
    rw [node?_holding]
    split
    · rfl
    · next other => rw [held.node, if_neg other]
  have remain := FileTree.remains_of_file (by simp [found])
    (node?_holding store here temporary bytes')
  rw [written]
  exact ⟨held.root, held.depth, FileTree.locate_of_remaining held.located rfl remain, held.short,
    held.absent, node⟩

/-- A blob that is given up leaves nothing behind. -/
lemma abandon (held : opened.Held store path token here temporary bytes)
    (taken : FilePath.ofKey? key = some path) :
    (store.abandon key token).root = opened.root ∧
      opened.tree.Alike (store.abandon key token).tree := by
  have named : here ++ [temporary] ≠ [] := by simp
  have removed := FileTree.removeFile_of_entry held.located held.short held.found
  have left : store.abandon key token =
      store.withTree (store.tree.unset (here ++ [temporary])) := by
    simp only [DirectoryBlobs.abandon, taken, removed]
    rfl
  rw [left]
  refine ⟨held.root, held.depth, ?_⟩
  funext names
  have node : (store.tree.unset (here ++ [temporary])).node? names = opened.tree.node? names := by
    rw [FileTree.node?_unset _ named]
    split
    · next same => rw [same, held.absent]
    · next other => rw [held.node, if_neg other]
  exact node

/-- Where the temporary file was renamed, it has become the file of the key. -/
lemma completed {tree : FileTree} (held : opened.Held store path token here temporary bytes)
    (ends : path.Ends above name idle)
    (leads : opened.tree.Leads [] (opened.root.footing ++ above) here)
    (renamed : store.tree.rename (store.temporaryOf path token) (store.pathOf path) = .ok tree) :
    idle = [] ∧ Completed opened path here name bytes (store.withTree tree) := by
  obtain ⟨above', name', located, short, vacant, depth, moved⟩ :=
    FileTree.exists_of_rename held.located held.found renamed
  have more : ∃ piece ∈ name :: idle, piece ≠ "" :=
    ⟨name, List.mem_cons_self, FileTree.ne_empty_of_busy ends.busy⟩
  have found := (FileTree.locate_eq_ok_iff.1 located).2
  rw [pathOf, FilePath.join_eq, held.root, ends.pieces, ← List.append_assoc,
    (leads.kept held.remains).follow more] at found
  obtain ⟨last, rfl, rfl⟩ := FileTree.eq_of_follow_name ends.busy ends.name_ne_upward ends.idle found
  have node (names : List String) : tree.node? names =
      if names = above' ++ [name'] then some (.file bytes) else opened.tree.node? names := by
    rw [moved]
    split_ifs with target own
    · rfl
    · rw [own, held.absent]
    · rw [held.node, if_neg own]
  have vacant' : opened.tree.node? (above' ++ [name']) ≠ some .directory := fun directory =>
    vacant (held.remains _ directory)
  have remain (names : List String) (directory : store.tree.node? names = some .directory) :
      tree.node? names = some .directory := by
    rw [held.node] at directory
    split at directory
    · cases directory
    · exact FileTree.remains_of_file vacant' node names directory
  exact ⟨last, held.root, FileTree.locate_of_remaining located depth remain, short, vacant', node⟩

/-- A blob that is complete is put in its place, or nothing has changed. -/
lemma complete (held : opened.Held store path token here temporary bytes)
    (taken : FilePath.ofKey? key = some path) (ends : path.Ends above name idle)
    (leads : opened.tree.Leads [] (opened.root.footing ++ above) here) (bytes' : Bytes) :
    (∃ error left, store.complete key token bytes' = (.error error, left) ∧
      left.root = opened.root ∧ opened.tree.Alike left.tree) ∨
    ∃ left, store.complete key token bytes' = (.ok (), left) ∧ idle = [] ∧
      Completed opened path here name bytes' left := by
  have held' := held.holdAt bytes'
  have same : (store.holdAt (store.temporaryOf path token) bytes').root = store.root :=
    held'.root.trans held.root.symm
  generalize into : store.holdAt (store.temporaryOf path token) bytes' = store' at held' same
  have key' : FilePath.ofKey key = .ok path := FilePath.ofKey_eq_ok_iff.2 taken
  have temp : store.temporaryOf path token = store'.temporaryOf path token := by
    simp only [temporaryOf, pathOf, same]
  have target : store.pathOf path = store'.pathOf path := by simp only [pathOf, same]
  simp only [DirectoryBlobs.complete, key', into]
  rw [temp, target]
  cases renamed : store'.tree.rename (store'.temporaryOf path token) (store'.pathOf path) with
  | error kind => exact .inl ⟨_, _, rfl, held'.abandon taken⟩
  | ok tree => exact .inr ⟨_, rfl, held'.completed ends leads renamed⟩

end Held

/-! ### Putting a blob -/

/-- The directories above a key can be created, or only some of them. -/
lemma createParent_cases (store : DirectoryBlobs) (ends : path.Ends above name idle) :
    (∃ error left, store.createParent path = (.error error, left) ∧ left.root = store.root ∧
      store.tree.Widened left.tree) ∨
    ∃ here opened, store.createParent path = (.ok (), opened) ∧
      store.Opened opened above here := by
  have widened := store.tree.createDirectories_widened (store.pathOf path).parent
  unfold createParent
  rcases created : store.tree.createDirectories (store.pathOf path).parent with ⟨kind | _, tree⟩
  · rw [created] at widened
    exact .inl ⟨_, _, rfl, rfl, widened⟩
  · rw [created] at widened
    obtain ⟨here, leads⟩ := FileTree.leads_of_createDirectories created
    rw [pathOf, ends.parent] at leads
    exact .inr ⟨here, _, rfl, rfl, widened, FileTree.Leads.rdropWhile_iff.1 leads⟩

/-- The path of the temporary file leads beside the key, if it leads to a name at all. -/
lemma eq_of_locate_temporary {here' : List String} (ends : path.Ends above name idle)
    (isOpened : store.Opened opened above here)
    (located : opened.tree.locate (opened.temporaryOf path token) =
      .ok (.entry here' temporary false)) :
    here' = here ∧ temporary = FilePath.temporaryName name (idle = []) token := by
  have busy := FilePath.isIdle_temporaryName name (idle = []) token
  have found := (FileTree.locate_eq_ok_iff.1 located).2
  rw [temporaryOf, pathOf, FilePath.join_eq, ends.temporary, ← List.append_assoc,
    isOpened.leads.follow ⟨_, List.mem_cons_self, FileTree.ne_empty_of_busy busy⟩] at found
  by_cases up : FilePath.temporaryName name (idle = []) token = upward
  · rw [up, FileTree.follow_upward] at found
    cases found
  · exact (FileTree.eq_of_follow_name busy up (by simp) found).2

/-- A blob can begin to come in, or only directories have been added. -/
lemma start_cases (store : DirectoryBlobs) (token : Token) (fresh : store.IsFresh key token) :
    (∃ error left, store.start key token = (.error error, left) ∧ left.root = store.root ∧
      store.tree.Widened left.tree) ∨
    ∃ path above name idle here temporary opened begun,
      FilePath.ofKey? key = some path ∧ path.Ends above name idle ∧
      store.Opened opened above here ∧ store.start key token = (.ok (), begun) ∧
      opened.Held begun path token here temporary [] := by
  cases taken : FilePath.ofKey? key with
  | none =>
    refine .inl ⟨.invalid ("invalid blob key: " ++ Text.quoted key), store, ?_, rfl, .refl _⟩
    simp only [start, FilePath.ofKey_of_refused taken]
  | some path =>
    have ofKey := FilePath.ofKey_eq_ok_iff.2 taken
    obtain ⟨above, name, idle, ends⟩ := FilePath.exists_ends_of_ofKey ofKey
    rcases store.createParent_cases ends with
      ⟨error, left, created, root, widened⟩ | ⟨here, opened, created, isOpened⟩
    · exact .inl ⟨error, left, by simp only [start, ofKey, created], root, widened⟩
    · cases written : opened.tree.write (opened.temporaryOf path token) [] with
      | error kind =>
        refine .inl ⟨failure kind, opened, ?_, isOpened.root, isOpened.widened⟩
        simp only [start, ofKey, created, written]
        rfl
      | ok tree =>
        obtain ⟨here', temporary, located, short, vacant, rfl⟩ := FileTree.exists_of_write written
        obtain ⟨rfl, rfl⟩ := eq_of_locate_temporary ends isOpened located
        have unused := fresh _ taken (FilePath.temporaryName name (idle = []) token)
          (by simp [ends.temporary]) here'
        have absent := (isOpened.widened.node _).elim (·.trans unused) fun added =>
          absurd added.2 vacant
        refine .inr ⟨path, above, name, idle, here', _, opened, _, rfl, ends, isOpened, ?_,
          .first located short absent []⟩
        simp only [start, ofKey, created, written]
        rfl

/-- What putting a blob comes to, beside the store before. -/
structure PutsWhole (store : DirectoryBlobs) (token : Token) (transfer : Transfer)
    (size : Except StoreError Nat) (left : DirectoryBlobs) : Prop where
  root : left.root = store.root
  /-- A put that fails leaves all files as they were, and adds nothing but directories without
  files. -/
  failed (error : StoreError) : size = .error error → store.tree.KeepsFiles [] left.tree
  /-- A put that succeeds has read its stream to the end. The file of the key has its bytes, and all
  other files are as they were. -/
  stored (number : Nat) : size = .ok number → ∃ path base,
    FilePath.ofKey? transfer.key = some path ∧ left.tree.Leads [] store.root.pieces base ∧
      (∀ error, .error error ∉ transfer.upload.remaining) ∧
      number = (Item.content transfer.upload.remaining).length ∧
      left.tree.node? (base ++ path.names) =
        some (.file (Item.content transfer.upload.remaining)) ∧
      left.get transfer.key = .ok (.ofBytes (Item.content transfer.upload.remaining)) ∧
      store.tree.KeepsFiles [base ++ path.names] left.tree
  /-- There is no file with the name of the temporary file. -/
  removed (path : FilePath) (name : String) (above : List String) (bytes : Bytes) :
    FilePath.ofKey? transfer.key = some path →
      (path.temporary token).pieces.getLast? = some name →
        left.tree.node? (above ++ [name]) ≠ some (.file bytes)

variable {transfer : Transfer} {left : DirectoryBlobs} {error : StoreError}

/-- A put that fails before there is a temporary file, or after it is gone. -/
lemma puts_whole_of_failed (closed : store.tree.Closed) (fresh : store.IsFresh transfer.key token)
    (root : left.root = store.root) (widened : store.tree.Widened left.tree) :
    PutsWhole store token transfer (.error error) left where
  root := root
  failed _ _ := widened.keepsFiles closed
  stored _ same := by cases same
  removed path name above bytes taken last := by
    rw [Ne, widened.file_iff, fresh path taken name last above]
    exact nofun

lemma puts_whole_of_completed (closed : store.tree.Closed)
    (fresh : store.IsFresh transfer.key token) (taken : FilePath.ofKey? transfer.key = some path)
    (ends : path.Ends above name []) (isOpened : store.Opened opened above here)
    (read : transfer.upload.collect.1 = .ok bytes)
    (completed : Completed opened path here name bytes left) :
    PutsWhole store token transfer (.ok bytes.length) left := by
  obtain ⟨rfl, whole⟩ := Upload.eq_content_of_collect read
  obtain ⟨base, first, second⟩ := isOpened.leads.split
  have down : upward ∉ above := fun among => ends.down (by simp [ends.pieces, among])
  have place : base ++ path.names = here ++ [name] := by
    rw [ends.names, second.eq_append_names down, List.append_assoc]
  have remain := FileTree.remains_of_file completed.vacant completed.node
  have found : left.tree.node? (here ++ [name]) =
      some (.file (Item.content transfer.upload.remaining)) := by
    rw [completed.node, if_pos rfl]
  have leads : left.tree.Leads [] store.root.pieces base := by
    rw [← isOpened.root]
    exact (FileTree.Leads.footing_iff.1 first).kept remain
  have got : left.get transfer.key = .ok (.ofBytes (Item.content transfer.upload.remaining)) := by
    have ofKey := FilePath.ofKey_eq_ok_iff.2 taken
    have looked : left.tree.find (left.pathOf path) =
        .ok (.file (Item.content transfer.upload.remaining)) := by
      rw [FileTree.find_eq, completed.located]
      exact FileTree.look_of_file completed.short found
    simp [DirectoryBlobs.get, ofKey, looked, bind, Except.bind, pure, Except.pure]
  constructor
  · exact completed.root.trans isOpened.root
  · intro error same
    cases same
  · intro number same
    obtain rfl := Except.ok.inj same
    rw [← place] at found
    refine ⟨path, base, taken, leads, whole, rfl, found, got, ?_⟩
    rw [place]
    exact isOpened.widened.keepsFiles_of_file closed completed.vacant completed.node
  · intro path' name' above' bytes taken' last
    obtain rfl := Option.some.inj (taken.symm.trans taken')
    have unused := fresh path taken name' last above'
    rw [ends.temporary, List.getLast?_concat, Option.some.injEq] at last
    rw [completed.node, if_neg, Ne, isOpened.widened.file_iff, unused]
    · simp
    · intro same
      obtain ⟨-, own⟩ := List.append_inj' same rfl
      exact FilePath.temporaryName_ne ends.name_ne_upward _ token
        (last.trans (List.singleton_inj.1 own))

/-- A blob is put into a directory whole or not at all. -/
theorem puts_whole (store : DirectoryBlobs) (token : Token) (transfer : Transfer)
    (closed : store.tree.Closed) (fresh : store.IsFresh transfer.key token) :
    PutsWhole store token transfer (BlobStore.put store token transfer).1.size
      (BlobStore.put store token transfer).2 := by
  unfold BlobStore.put
  rcases store.start_cases token fresh with ⟨error, left, failed, root, widened⟩ |
    ⟨path, above, name, idle, here, temporary, opened, begun, taken, ends, isOpened, started, held⟩
  · have failed' : BlobStore.start store transfer.key token = (.error error, left) := failed
    rw [failed']
    exact puts_whole_of_failed closed fresh root widened
  · have started' : BlobStore.start store transfer.key token = (.ok (), begun) := started
    rw [started']
    dsimp only
    rcases collected : transfer.upload.collect with ⟨error | bytes, outcome⟩
    · obtain ⟨root, alike⟩ := held.abandon taken
      exact puts_whole_of_failed closed fresh (root.trans isOpened.root)
        (isOpened.widened.congr alike)
    · simp only [BlobStore.settle]
      rcases held.complete taken ends isOpened.leads bytes with
        ⟨error, left, failed, root, alike⟩ | ⟨left, completed, rfl, stored⟩
      · have failed' : BlobStore.complete begun transfer.key token bytes = (.error error, left) :=
          failed
        rw [failed']
        exact puts_whole_of_failed closed fresh (root.trans isOpened.root)
          (isOpened.widened.congr alike)
      · have completed' : BlobStore.complete begun transfer.key token bytes = (.ok (), left) :=
          completed
        rw [completed']
        have read : transfer.upload.collect.1 = .ok bytes := by rw [collected]
        exact puts_whole_of_completed closed fresh taken ends isOpened read stored

/-- A blob is put over an older one, once with a stream that ends and once with one that fails. -/
theorem puts_whole_over :
    let store := KeySpace.blank.holding ["data", "a"] [1]
    let whole : Transfer :=
      { key := "a", upload := ⟨⟨[.chunk [2], .notReady, .chunk [3]], none⟩, none⟩ }
    let broken : Transfer :=
      { key := "a", upload := ⟨⟨[.chunk [2], .error (.ofKind .timedOut)], none⟩, none⟩ }
    store.tree.Closed ∧ store.IsFresh "a" ⟨0⟩ ∧
      PutsWhole store ⟨0⟩ whole (.ok 2) (BlobStore.put store ⟨0⟩ whole).2 ∧
      PutsWhole store ⟨0⟩ broken (.error (.io (.ofKind .timedOut)))
        (BlobStore.put store ⟨0⟩ broken).2 := by
  intro store whole broken
  have isOpened : openAt (.empty KeySpace.shelf.depth) ⟨KeySpace.shelf.root⟩ =
      (.ok KeySpace.blank, KeySpace.blank.tree) := rfl
  have vacant := KeySpace.vacant_of_openAt isOpened
  have closed : store.tree.Closed := vacant.closed.set_file vacant.there (by decide) [1]
  have fresh : store.IsFresh "a" ⟨0⟩ := by
    intro path taken name last above
    obtain ⟨rfl, -⟩ := FilePath.ofKey?_eq_some_iff.1 taken
    have others : name ≠ "data" ∧ name ≠ "a" := by
      have temporary : ((FilePath.ofText "a").temporary ⟨0⟩).pieces.getLast? =
          some "a.00000000000040008000000000000000.tmp" := by decide
      obtain rfl := Option.some.inj (temporary.symm.trans last)
      decide
    have ending : (above ++ [name]).getLast? = some name := List.getLast?_concat
    calc store.tree.node? (above ++ [name])
      _ = KeySpace.blank.tree.node? (above ++ [name]) := by
        refine (node?_holding KeySpace.blank ["data"] "a" [1] _).trans (if_neg ?_)
        intro same
        rw [same] at ending
        exact others.2 (Option.some.inj ending).symm
      _ = (FileTree.empty 0).node? (above ++ [name]) := by
        rw [KeySpace.blank, FileTree.node?_set _ (by decide), if_neg]
        intro same
        rw [same] at ending
        exact others.1 (Option.some.inj ending).symm
      _ = none := by cases above <;> rfl
  have stored : (BlobStore.put store ⟨0⟩ whole).1.size = .ok 2 := by decide
  have failed : (BlobStore.put store ⟨0⟩ broken).1.size = .error (.io (.ofKind .timedOut)) := by
    decide
  have first := puts_whole store ⟨0⟩ whole closed fresh
  have second := puts_whole store ⟨0⟩ broken closed fresh
  rw [stored] at first
  rw [failed] at second
  exact ⟨closed, fresh, first, second⟩

end DirectoryBlobs

end AssetCache
