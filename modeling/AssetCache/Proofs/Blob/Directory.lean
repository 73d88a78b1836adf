import AssetCache.Proofs.Blob.KeySpace
import AssetCache.Proofs.Depots

/-!
# Blobs in a directory and blobs in memory

A directory keeps the blobs of a key space as a table in memory does: each call is answered alike
and leaves the same blobs (`KeySpace.Mirrors.answer`), whatever directories and temporary files it
took (`KeySpace.alike_in_memory`). There is one exception. The temporary file of a blob lies beside
its place, under a name that is made of the name of the key; where that name cannot be used, no
blob can be put under the key (`KeySpace.refusal?`), although the key is one that names a place.
-/

namespace AssetCache

open FilePath (IsPlain)

/-! ### Blobs that come in -/

namespace DirectoryBlobs

variable {store : DirectoryBlobs} {key name temporary : String} {token : Token}
  {here : List String} {bytes : Bytes}

/-- A store with room for a blob that comes in: the directory of its key is there, and what lies
under the key and in the place of the temporary file is a file, if anything. -/
structure Room (store : DirectoryBlobs) (key : String) (token : Token) (here : List String)
    (name temporary : String) : Prop where
  path : FilePath.ofKey? key = some (.ofText key)
  target : store.pathOf (.ofText key) = ⟨here ++ [name]⟩
  source : store.temporaryOf (.ofText key) token = ⟨here ++ [temporary]⟩
  reaches : store.tree.Reaches here name
  reaches' : store.tree.Reaches here temporary
  closed : store.tree.Closed
  there : store.tree.node? here = some .directory
  vacant : store.tree.node? (here ++ [name]) ≠ some .directory
  vacant' : store.tree.node? (here ++ [temporary]) ≠ some .directory

/-- The store with a temporary file. -/
def holding (store : DirectoryBlobs) (names : List String) (bytes : Bytes) : DirectoryBlobs :=
  store.withTree (store.tree.set names (.file bytes))

lemma node?_holding (store : DirectoryBlobs) (here : List String) (temporary : String)
    (bytes : Bytes) (names : List String) :
    (store.holding (here ++ [temporary]) bytes).tree.node? names =
      if names = here ++ [temporary] then some (.file bytes) else store.tree.node? names :=
  FileTree.node?_set _ (by simp) _ _

lemma node?_holding_self (store : DirectoryBlobs) (here : List String) (temporary : String)
    (bytes : Bytes) :
    (store.holding (here ++ [temporary]) bytes).tree.node? (here ++ [temporary]) =
      some (.file bytes) := by
  rw [node?_holding, if_pos rfl]

namespace Room

/-- There is room as long as nothing but the temporary file changes. -/
lemma holding (room : store.Room key token here name temporary) (bytes : Bytes) :
    (store.holding (here ++ [temporary]) bytes).Room key token here name temporary := by
  have closed : (store.holding (here ++ [temporary]) bytes).tree.Closed :=
    room.closed.set_file room.there room.vacant' bytes
  have there : (store.holding (here ++ [temporary]) bytes).tree.node? here =
      some .directory := by
    rw [node?_holding, if_neg (by simp), room.there]
  have isOpen := closed.isOpen there
  refine ⟨room.path, room.target, room.source, ?_, ?_, closed, there, ?_, ?_⟩
  · exact ⟨room.reaches.plain, room.reaches.short, isOpen⟩
  · exact ⟨room.reaches'.plain, room.reaches'.short, isOpen⟩
  · rw [node?_holding]
    split
    · exact nofun
    · exact room.vacant
  · rw [node?_holding_self]
    exact nofun

lemma write (room : store.Room key token here name temporary) (bytes : Bytes) :
    store.attempt failure (store.tree.write (store.temporaryOf (.ofText key) token) bytes) =
      (.ok (), store.holding (here ++ [temporary]) bytes) := by
  rw [room.source, room.reaches'.write room.closed room.there room.vacant' bytes]
  rfl

/-- The temporary file takes in other bytes. -/
lemma holdAt (room : store.Room key token here name temporary) (bytes bytes' : Bytes) :
    (store.holding (here ++ [temporary]) bytes).holdAt
        (store.temporaryOf (.ofText key) token) bytes' =
      (store.holding (here ++ [temporary]) bytes).holding (here ++ [temporary]) bytes' := by
  have held := room.holding bytes
  have found := held.reaches'.find held.closed
  rw [node?_holding_self] at found
  have written := held.write bytes'
  rw [held.source] at written
  rw [room.source, DirectoryBlobs.holdAt, found]
  exact congrArg Prod.snd written

/-- A blob that is given up leaves nothing behind. -/
lemma abandon (room : store.Room key token here name temporary)
    (fresh : store.tree.node? (here ++ [temporary]) = none) (bytes : Bytes) :
    ∃ tree, (store.holding (here ++ [temporary]) bytes).abandon key token = store.withTree tree ∧
      store.tree.Alike tree := by
  have held := room.holding bytes
  have named : here ++ [temporary] ≠ [] := by simp
  have removed := held.reaches'.removeFile_of_file held.closed
    (node?_holding_self store here temporary bytes)
  refine ⟨(store.holding (here ++ [temporary]) bytes).tree.unset (here ++ [temporary]), ?_, ?_⟩
  · simp only [DirectoryBlobs.abandon, room.path, held.source, removed]
    rfl
  · refine ⟨rfl, ?_⟩
    funext names
    rw [FileTree.node?_unset _ named]
    split
    · next same => rw [same, fresh]
    · next other => rw [node?_holding, if_neg other]

/-- A blob that is complete is put in its place, and nothing else is left behind. -/
lemma complete (room : store.Room key token here name temporary)
    (fresh : store.tree.node? (here ++ [temporary]) = none) (bytes bytes' : Bytes) :
    ∃ tree, (store.holding (here ++ [temporary]) bytes).complete key token bytes' =
        (.ok (), store.withTree tree) ∧
      (store.tree.set (here ++ [name]) (.file bytes')).Alike tree := by
  have held := (room.holding bytes).holding bytes'
  have named : here ++ [temporary] ≠ [] := by simp
  have named' : here ++ [name] ≠ [] := by simp
  have path : FilePath.ofKey key = .ok (.ofText key) := by
    rw [FilePath.ofKey, room.path]
  have source : (store.holding (here ++ [temporary]) bytes).temporaryOf (.ofText key) token =
      ⟨here ++ [temporary]⟩ := room.source
  have target : (store.holding (here ++ [temporary]) bytes).pathOf (.ofText key) =
      ⟨here ++ [name]⟩ := room.target
  have taken := room.holdAt bytes bytes'
  rw [room.source] at taken
  obtain ⟨tree, renamed, alike⟩ : ∃ tree,
      ((store.holding (here ++ [temporary]) bytes).holding (here ++ [temporary]) bytes').tree.rename
        ⟨here ++ [temporary]⟩ ⟨here ++ [name]⟩ = .ok tree ∧
      (store.tree.set (here ++ [name]) (.file bytes')).Alike tree := by
    refine ⟨_, held.reaches'.rename_of_file held.reaches held.closed held.there
      (node?_holding_self _ here temporary bytes') held.vacant, ?_⟩
    -- Nothing rules out that the temporary file has the very name of the key.
    split
    · next same =>
      refine ⟨rfl, ?_⟩
      funext names
      rw [node?_holding, node?_holding, FileTree.node?_set _ named', same]
      split <;> rfl
    · refine ⟨rfl, ?_⟩
      funext names
      rw [FileTree.node?_set _ named', FileTree.node?_set _ named', FileTree.node?_unset _ named,
        node?_holding, node?_holding]
      split
      · rfl
      · split
        · next same => rw [same, fresh]
        · rfl
  refine ⟨tree, ?_, alike⟩
  simp only [DirectoryBlobs.complete, path, source, target, taken, renamed]
  rfl

end Room

end DirectoryBlobs

/-! ### Keys under which no blob can come in -/

lemma exists_names_concat (key : String) : ∃ above name, namesOf key = above ++ [name] :=
  (List.eq_nil_or_concat' _).resolve_left (FilePath.pieces_ofText_ne_nil key)

namespace KeySpace

variable {space : KeySpace} {store : DirectoryBlobs} {blobs : MemoryBlobs} {key : String}
  {tree : FileTree} {above : List String} {name : String} {token : Token}

/-- How a directory refuses every blob under a key. The path of the temporary file may be too long,
or the name of the key be one from which none can be made: the path then leads to the directory
itself. -/
def refusal? (space : KeySpace) (key : String) : Option IoKind :=
  let temporary := (FilePath.mk space.root).join ((FilePath.ofText key).temporary ⟨0⟩)
  if FilePath.lengthLimit ≤ temporary.length space.depth then some .invalidFilename
  else if temporary.pieces.getLast? = some FilePath.upward then some .isADirectory
  else none

lemma temporary_eq (known : key ∈ space.keys) (split : namesOf key = above ++ [name])
    (token : Token) :
    (FilePath.mk space.root).join ((FilePath.ofText key).temporary token) =
      ⟨space.root ++ above ++ [FilePath.temporaryName name true token]⟩ := by
  have path : FilePath.ofText key = ⟨above ++ [name]⟩ := congrArg FilePath.mk split
  have plain := space.plain key known
  rw [split] at plain
  rw [path, FilePath.temporary_concat plain, FilePath.join_of_plain space.rooted, List.append_assoc]

/-- Whether a key is refused does not depend on the token. -/
lemma refusal?_eq (known : key ∈ space.keys) (split : namesOf key = above ++ [name])
    (fits : token.Fits) :
    space.refusal? key =
      let temporary := FilePath.temporaryName name true token
      if FilePath.lengthLimit ≤
        FilePath.length space.depth ⟨space.root ++ above ++ [temporary]⟩ then some .invalidFilename
      else if temporary = FilePath.upward then some .isADirectory
      else none := by
  have named : IsPlain name := space.plain key known name (by simp [split])
  have fits' : Token.Fits ⟨0⟩ := by decide
  have lengths := FilePath.utf8ByteSize_temporaryName_congr name fits' fits
  have up : FilePath.temporaryName name true ⟨0⟩ = FilePath.upward ↔
      FilePath.temporaryName name true token = FilePath.upward := by
    rw [FilePath.temporaryName_eq_upward_iff named, FilePath.temporaryName_eq_upward_iff named]
  simp only [refusal?, temporary_eq known split, FilePath.length_append, FilePath.length_singleton,
    lengths, List.getLast?_concat, Option.some.injEq, up]

/-- A key is refused if and only if the path of its temporary file is too long, or its last name is
two dots and a text without a dot. -/
theorem refusal?_eq_none_iff (known : key ∈ space.keys) (split : namesOf key = above ++ [name])
    (fits : token.Fits) :
    space.refusal? key = none ↔
      FilePath.length space.depth
          ⟨space.root ++ above ++ [FilePath.temporaryName name true token]⟩ <
        FilePath.lengthLimit ∧
      ¬ ∃ rest, '.' ∉ rest ∧ name.toList = '.' :: '.' :: rest := by
  have named : IsPlain name := space.plain key known name (by simp [split])
  rw [refusal?_eq known split fits, ← FilePath.temporaryName_eq_upward_iff named token]
  dsimp only
  split
  · next long => exact iff_of_false nofun fun kept => absurd kept.1 (Nat.not_lt.2 long)
  next short =>
  split
  · next up => exact iff_of_false nofun fun kept => kept.2 up
  · next down => exact iff_of_true rfl ⟨Nat.not_le.1 short, down⟩

/-! ### One call -/

/-- What a call to both stores comes to: the same answer, and blobs that are still the same. -/
def Matches {α : Type} (space : KeySpace) (result : α × DirectoryBlobs)
    (result' : α × MemoryBlobs) : Prop :=
  result.1 = result'.1 ∧ space.Mirrors result.2 result'.2

namespace Mirrors

lemma pathOf (mirrors : space.Mirrors store blobs) (key : String) :
    store.pathOf (.ofText key) = ⟨space.root ++ namesOf key⟩ := by
  rw [DirectoryBlobs.pathOf, mirrors.root, FilePath.join_of_plain space.rooted]
  rfl

lemma find (mirrors : space.Mirrors store blobs) (known : key ∈ space.keys) :
    store.tree.find (store.pathOf (.ofText key)) =
      match blobs.get? key with
      | none => .error .notFound
      | some bytes => .ok (.file bytes) := by
  obtain ⟨above, name, split⟩ := exists_names_concat key
  have found := (mirrors.reaches known split).find mirrors.closed
  rw [← space.names_concat split, mirrors.node known] at found
  rw [mirrors.pathOf, found]
  cases blobs.get? key <;> rfl

lemma get (mirrors : space.Mirrors store blobs) (known : key ∈ space.keys) :
    store.get key = MemoryBlobs.get blobs key := by
  have path := FilePath.ofKey_of_plain (space.plain key known)
  simp only [DirectoryBlobs.get, path, bind, Except.bind, mirrors.find known, MemoryBlobs.get]
  cases blobs.get? key <;> rfl

lemma contains (mirrors : space.Mirrors store blobs) (known : key ∈ space.keys) :
    store.contains key = .ok (blobs.contains key) := by
  have path := FilePath.ofKey_of_plain (space.plain key known)
  simp only [DirectoryBlobs.contains, path, bind, Except.bind, FileTree.contains,
    mirrors.find known, Table.contains]
  cases blobs.get? key <;> rfl

lemma delete (mirrors : space.Mirrors store blobs) (known : key ∈ space.keys) :
    space.Matches (store.delete key) (MemoryBlobs.delete blobs key) := by
  obtain ⟨above, name, split⟩ := exists_names_concat key
  have path := FilePath.ofKey_of_plain (space.plain key known)
  have reaches := mirrors.reaches known split
  have node := mirrors.node known
  have place := mirrors.pathOf key
  rw [space.names_concat split] at node place
  cases found : blobs.get? key with
  | none =>
    rw [found] at node
    rw [MemoryBlobs.delete_of_absent found]
    simp only [DirectoryBlobs.delete, path, place, reaches.removeFile_of_absent mirrors.closed node]
    exact ⟨rfl, mirrors⟩
  | some bytes =>
    rw [found] at node
    rw [MemoryBlobs.delete_of_present found]
    simp only [DirectoryBlobs.delete, path, place, reaches.removeFile_of_file mirrors.closed node]
    have erased := mirrors.erase known
    rw [space.names_concat split] at erased
    exact ⟨rfl, erased⟩

/-- The directories above a key can be created. -/
lemma createParent (mirrors : space.Mirrors store blobs) (known : key ∈ space.keys)
    (split : namesOf key = above ++ [name]) :
    ∃ tree, store.createParent (.ofText key) = (.ok (), store.withTree tree) ∧
      store.tree.Grown (space.root ++ above) tree := by
  have reaches := mirrors.reaches known split
  have short : FilePath.length store.tree.depth ⟨space.root ++ above⟩ < FilePath.lengthLimit :=
    Nat.lt_of_le_of_lt (FilePath.length_mono (List.prefix_append _ _)) reaches.short
  have parent : (store.pathOf (.ofText key)).parent = ⟨space.root ++ above⟩ := by
    rw [mirrors.pathOf, space.names_concat split, FilePath.parent_of_plain reaches.plain,
      List.dropLast_concat]
  obtain ⟨tree, created, grown⟩ :=
    FileTree.createDirectories_plain reaches.first short reaches.isOpen
  refine ⟨tree, ?_, grown⟩
  simp only [DirectoryBlobs.createParent, parent, created]

lemma rename {target : String} (mirrors : space.Mirrors store blobs) (known : key ∈ space.keys)
    (known' : target ∈ space.keys) :
    space.Matches (store.rename key target) (MemoryBlobs.rename blobs key target) := by
  obtain ⟨above, name, split⟩ := exists_names_concat key
  obtain ⟨above', name', split'⟩ := exists_names_concat target
  have path := FilePath.ofKey_of_plain (space.plain key known)
  have path' := FilePath.ofKey_of_plain (space.plain target known')
  obtain ⟨tree, created, grown⟩ := mirrors.createParent known' split'
  have there := grown.directory List.prefix_rfl
  have mirrors' := mirrors.grow known' split' grown
  have reaches := mirrors'.reaches known split
  have reaches' := mirrors'.reaches known' split'
  have node := mirrors'.node known
  have vacant := mirrors'.vacant known'
  have place := mirrors'.pathOf key
  have place' := mirrors'.pathOf target
  rw [space.names_concat split] at node place
  rw [space.names_concat split'] at vacant place'
  cases found : blobs.get? key with
  | none =>
    rw [found] at node
    have absent := reaches.rename_of_absent reaches' mirrors'.closed there node
    rw [MemoryBlobs.rename_of_absent found]
    simp only [DirectoryBlobs.rename, path, path', created, place, place', absent]
    exact ⟨rfl, mirrors'⟩
  | some bytes =>
    rw [found] at node
    have renamed := reaches.rename_of_file reaches' mirrors'.closed there node vacant
    have moved := mirrors'.move known known' split' there found
    rw [space.names_concat split, space.names_concat split'] at moved
    rw [MemoryBlobs.rename_of_present found]
    simp only [DirectoryBlobs.rename, path, path', created, place, place', renamed]
    exact ⟨rfl, moved⟩

lemma temporaryOf (mirrors : space.Mirrors store blobs) (known : key ∈ space.keys)
    (split : namesOf key = above ++ [name]) (token : Token) :
    store.temporaryOf (.ofText key) token =
      ⟨space.root ++ above ++ [FilePath.temporaryName name true token]⟩ := by
  rw [DirectoryBlobs.temporaryOf, DirectoryBlobs.pathOf, mirrors.root, temporary_eq known split]

/-- The temporary file of a key that is refused cannot be written. -/
lemma write_refused {kind : IoKind} (mirrors : space.Mirrors store blobs)
    (known : key ∈ space.keys) (split : namesOf key = above ++ [name]) (fits : token.Fits)
    (there : store.tree.node? (space.root ++ above) = some .directory)
    (refused : space.refusal? key = some kind) :
    store.tree.write (store.temporaryOf (.ofText key) token) [] = .error kind := by
  have named : name ∈ namesOf key := by simp [split]
  have plain := (mirrors.reaches known split).first
  have whole := FilePath.hasBroken_concat plain
    (FilePath.isBroken_temporaryName (space.plain key known name named) token)
  rw [mirrors.temporaryOf known split]
  rw [refusal?_eq known split fits, ← mirrors.depth] at refused
  dsimp only at refused
  split at refused
  · next long =>
    cases refused
    exact FileTree.write_long whole long []
  next short =>
  split at refused
  · next up =>
    cases refused
    rw [up] at short ⊢
    exact FileTree.write_upward mirrors.closed plain there (Nat.not_le.1 short) []
  · cases refused

/-- There is room for a blob under a key that is not refused, once its directory is there. -/
lemma room (mirrors : space.Mirrors store blobs) (known : key ∈ space.keys)
    (split : namesOf key = above ++ [name]) (fits : token.Fits)
    (there : store.tree.node? (space.root ++ above) = some .directory)
    (accepted : space.refusal? key = none)
    (fresh : store.tree.node? (store.temporaryOf (.ofText key) token).pieces = none) :
    store.Room key token (space.root ++ above) name (FilePath.temporaryName name true token) := by
  have named : name ∈ namesOf key := by simp [split]
  have plain := space.plain key known
  have source := mirrors.temporaryOf known split token
  have reaches := mirrors.reaches known split
  have vacant := mirrors.vacant known
  rw [space.names_concat split] at vacant
  rw [source] at fresh
  rw [refusal?_eq known split fits, ← mirrors.depth] at accepted
  dsimp only at accepted
  split at accepted
  · cases accepted
  next short =>
  split at accepted
  · cases accepted
  next down =>
  have plain' : IsPlain (FilePath.temporaryName name true token) :=
    FilePath.isPlain_temporaryName (plain name named) fits (space.small key known name named) down
  refine ⟨FilePath.ofKey?_of_plain plain, ?_, source, reaches, ?_, mirrors.closed, there, vacant,
    ?_⟩
  · rw [mirrors.pathOf, space.names_concat split]
  · refine ⟨?_, Nat.not_le.1 short, reaches.isOpen⟩
    intro piece among
    rcases List.mem_append.1 among with first | last
    · exact reaches.first piece first
    · rw [List.mem_singleton.1 last]
      exact plain'
  · rw [fresh]
    exact nofun

/-- A put begins with the directories above the key, and goes on with its temporary file. -/
lemma start (mirrors : space.Mirrors store blobs) (known : key ∈ space.keys)
    (split : namesOf key = above ++ [name]) (token : Token) :
    ∃ store', space.Mirrors store' blobs ∧
      store'.tree.node? (space.root ++ above) = some .directory ∧
      store'.tree.node? (store'.temporaryOf (.ofText key) token).pieces =
        store.tree.node? (store.temporaryOf (.ofText key) token).pieces ∧
      store.start key token = store'.attempt DirectoryBlobs.failure
        (store'.tree.write (store'.temporaryOf (.ofText key) token) []) := by
  have path := FilePath.ofKey_of_plain (space.plain key known)
  obtain ⟨tree, created, grown⟩ := mirrors.createParent known split
  refine ⟨store.withTree tree, mirrors.grow known split grown, grown.directory List.prefix_rfl,
    ?_, ?_⟩
  · have beside : (store.withTree tree).temporaryOf (.ofText key) token =
        ⟨space.root ++ above ++ [FilePath.temporaryName name true token]⟩ :=
      mirrors.temporaryOf known split token
    have outside : ¬ space.root ++ above ++ [FilePath.temporaryName name true token] <+:
        space.root ++ above := by
      intro start
      have shorter := start.length_le
      simp at shorter
    rw [beside, mirrors.temporaryOf known split, DirectoryBlobs.withTree, grown.node,
      if_neg outside]
  · simp only [DirectoryBlobs.start, path, created]

end Mirrors

/-- Answers a call as blobs in memory answer it, but refuses what a directory refuses. -/
def answer (space : KeySpace) (token : Token) (blobs : MemoryBlobs) :
    (call : BlobCall) → call.Answer × MemoryBlobs
  | .put transfer =>
    match space.refusal? transfer.key with
    | some kind => ((BlobCall.put transfer).failure (DirectoryBlobs.failure kind), blobs)
    | none => BlobStore.answer token blobs (.put transfer)
  | call => BlobStore.answer token blobs call

namespace Mirrors

lemma put {transfer : Transfer} (mirrors : space.Mirrors store blobs)
    (known : transfer.key ∈ space.keys) (fits : token.Fits)
    (fresh : store.tree.node? (store.temporaryOf (.ofText transfer.key) token).pieces = none) :
    space.Matches (BlobStore.put store token transfer)
      (space.answer token blobs (.put transfer)) := by
  obtain ⟨above, name, split⟩ := exists_names_concat transfer.key
  obtain ⟨begun, mirrors', there, same, started⟩ := mirrors.start known split token
  rw [fresh] at same
  simp only [BlobStore.put, BlobStore.start, started, answer]
  cases refusal : space.refusal? transfer.key with
  | some kind =>
    -- The directories that were created remain, and are not seen.
    rw [mirrors'.write_refused known split fits there refusal]
    exact ⟨rfl, mirrors'⟩
  | none =>
    have room := mirrors'.room known split fits there refusal same
    rw [room.source] at same
    rw [room.write]
    simp only [BlobStore.answer, BlobStore.put, BlobStore.start]
    cases transfer.upload.collect with
    | mk result outcome =>
      cases result with
      | error error =>
        obtain ⟨tree, abandoned, alike⟩ := room.abandon same []
        refine ⟨rfl, ?_⟩
        simp only [BlobStore.abandon, abandoned]
        exact mirrors'.congr alike
      | ok bytes =>
        obtain ⟨tree, completed, alike⟩ := room.complete same [] bytes
        have inserted := mirrors'.insert known split there bytes
        rw [space.names_concat split] at inserted
        simp only [BlobStore.settle, BlobStore.complete, completed]
        exact ⟨rfl, inserted.congr alike⟩

end Mirrors

/-- What a call may name and which token it may bring: keys of the space, and for a blob that comes
in a token under which there is no temporary file yet. -/
def Permits (space : KeySpace) (store : DirectoryBlobs) (token : Token) : BlobCall → Prop
  | .put transfer => transfer.key ∈ space.keys ∧ token.Fits ∧
      store.tree.node? (store.temporaryOf (.ofText transfer.key) token).pieces = none
  | .get key | .delete key | .contains key => key ∈ space.keys
  | .rename source target => source ∈ space.keys ∧ target ∈ space.keys

/-- A call to the directory is answered as in memory, and leaves the same blobs. -/
lemma Mirrors.answer (mirrors : space.Mirrors store blobs) {call : BlobCall}
    (permitted : space.Permits store token call) :
    space.Matches (BlobStore.answer token store call) (space.answer token blobs call) := by
  cases call with
  | put transfer =>
    obtain ⟨known, fits, fresh⟩ := permitted
    exact mirrors.put known fits fresh
  | get key => exact ⟨mirrors.get permitted, mirrors⟩
  | delete key => exact mirrors.delete permitted
  | contains key => exact ⟨mirrors.contains permitted, mirrors⟩
  | rename source target => exact mirrors.rename permitted.1 permitted.2

end KeySpace

/-! ### Calls one after the other -/

/-- Calls, with the tokens for them, that are answered one after the other: the replies, and the
state at the end. -/
def BlobCall.replies {σ : Type} (answer : Token → σ → (call : BlobCall) → call.Answer × σ) :
    σ → List (Token × BlobCall) → List ((call : BlobCall) × call.Answer) × σ
  | state, [] => ([], state)
  | state, (token, call) :: rest =>
    let (reply, state) := answer token state call
    let (replies, state) := replies answer state rest
    (⟨call, reply⟩ :: replies, state)

namespace KeySpace

variable {space : KeySpace} {store : DirectoryBlobs} {blobs : MemoryBlobs}
  {calls done : List (Token × BlobCall)}

/-- Whether all calls are permitted when they are made. -/
def PermitsAll (space : KeySpace) : DirectoryBlobs → List (Token × BlobCall) → Prop
  | _, [] => True
  | store, (token, call) :: rest =>
    space.Permits store token call ∧
      space.PermitsAll (BlobStore.answer token store call).2 rest

lemma PermitsAll.front {rest : List (Token × BlobCall)}
    (permitted : space.PermitsAll store (done ++ rest)) : space.PermitsAll store done := by
  induction done generalizing store with
  | nil => trivial
  | cons visit done ih => exact ⟨permitted.1, ih permitted.2⟩

lemma Mirrors.replies (mirrors : space.Mirrors store blobs)
    (permitted : space.PermitsAll store calls) :
    space.Matches (BlobCall.replies BlobStore.answer store calls)
      (BlobCall.replies space.answer blobs calls) := by
  induction calls generalizing store blobs with
  | nil => exact ⟨rfl, mirrors⟩
  | cons visit rest ih =>
    obtain ⟨token, call⟩ := visit
    obtain ⟨same, mirrors'⟩ := mirrors.answer permitted.1
    obtain ⟨others, mirrors''⟩ := ih mirrors' permitted.2
    refine ⟨?_, mirrors''⟩
    simp only [BlobCall.replies, same, others]

/-- Where no blob that comes in is refused, memory has nothing to make up for. -/
lemma replies_of_accepted
    (accepted : ∀ token transfer, (token, .put transfer) ∈ calls →
      space.refusal? transfer.key = none) (blobs : MemoryBlobs) :
    BlobCall.replies space.answer blobs calls = BlobCall.replies BlobStore.answer blobs calls := by
  induction calls generalizing blobs with
  | nil => rfl
  | cons visit rest ih =>
    obtain ⟨token, call⟩ := visit
    have same : space.answer token blobs call = BlobStore.answer token blobs call := by
      cases call with
      | put transfer => simp only [answer, accepted token transfer List.mem_cons_self]
      | _ => rfl
    have others := ih fun token transfer among =>
      accepted token transfer (List.mem_cons_of_mem _ among)
    simp only [BlobCall.replies, same, others]

/-- A store over an empty directory and one in memory answer all calls alike and keep the same
blobs, but for blobs that the directory refuses: these are put in vain, whatever is in them. After
every call the files below the directory are the blobs in memory, each with its bytes. -/
theorem alike_in_memory (vacant : space.Vacant store) (permitted : space.PermitsAll store calls) :
    (BlobCall.replies BlobStore.answer store calls).1 =
        (BlobCall.replies space.answer ∅ calls).1 ∧
      (∀ done, done <+: calls → ∀ names bytes,
        (BlobCall.replies BlobStore.answer store done).2.tree.node? (space.root ++ names) =
            some (.file bytes) ↔
          ∃ key, (BlobCall.replies space.answer ∅ done).2.get? key = some bytes ∧
            names = namesOf key) ∧
      ((∀ token transfer, (token, .put transfer) ∈ calls → space.refusal? transfer.key = none) →
        ∀ done, done <+: calls →
          BlobCall.replies space.answer ∅ done =
            BlobCall.replies BlobStore.answer (∅ : MemoryBlobs) done) := by
  refine ⟨(vacant.mirrors.replies permitted).1, ?_, ?_⟩
  · rintro done ⟨rest, rfl⟩
    exact (vacant.mirrors.replies permitted.front).2.file
  · intro accepted done start
    apply replies_of_accepted
    intro token transfer among
    exact accepted token transfer (start.subset among)

/-- Two keys in a directory. -/
def shelf : KeySpace :=
  .ofList ["data"] 0 ["a/b", "c"] (by decide)

/-- What is opened in an empty tree. -/
def blank : DirectoryBlobs :=
  ⟨(FileTree.empty 0).set ["data"] .directory, ⟨["data"]⟩⟩

/-- A blob that is put under one key is found under the other once it was renamed. -/
theorem alike_in_memory_renamed :
    let calls : List (Token × BlobCall) :=
      [(⟨0⟩, .ofStream "a/b" (.ofBytes [120])), (⟨1⟩, .rename "a/b" "c"),
        (⟨2⟩, .ofStream "a/b" ⟨[.error (.ofKind .timedOut)], none⟩), (⟨3⟩, .get "c")]
    (BlobCall.replies BlobStore.answer blank calls).1 =
        (BlobCall.replies BlobStore.answer (∅ : MemoryBlobs) calls).1 ∧
      (BlobCall.replies BlobStore.answer blank calls).2.tree.node? ["data", "c"] =
        some (.file [120]) := by
  intro calls
  have opened : DirectoryBlobs.openAt (.empty shelf.depth) ⟨shelf.root⟩ = (.ok blank, blank.tree) :=
    rfl
  have vacant := vacant_of_openAt opened
  have first : "a/b" ∈ shelf.keys := List.mem_cons_self
  have second : "c" ∈ shelf.keys := List.mem_cons_of_mem _ List.mem_cons_self
  have permitted : shelf.PermitsAll blank calls :=
    ⟨⟨first, by decide, by decide⟩, ⟨first, second⟩, ⟨first, by decide, by decide⟩, second, trivial⟩
  have accepted : ∀ token transfer, (token, .put transfer) ∈ calls →
      shelf.refusal? transfer.key = none := by
    intro token transfer among
    simp only [calls, BlobCall.ofStream, List.mem_cons, Prod.mk.injEq, BlobCall.put.injEq,
      reduceCtorEq, and_false, false_or, List.not_mem_nil, or_false] at among
    rcases among with ⟨-, rfl⟩ | ⟨-, rfl⟩
    · decide
    · decide
  obtain ⟨same, files, plain⟩ := alike_in_memory vacant permitted
  rw [plain accepted calls List.prefix_rfl] at same
  refine ⟨same, ?_⟩
  have file := files calls List.prefix_rfl ["c"] [120]
  rw [plain accepted calls List.prefix_rfl] at file
  exact file.2 ⟨"c", by decide, by decide⟩

/-- A blob may be put in vain: in memory it is there, the directory refuses it. -/
theorem exists_refused :
    ∃ (space : KeySpace) (store : DirectoryBlobs) (token : Token) (transfer : Transfer),
      space.Vacant store ∧ space.Permits store token (.put transfer) ∧
      (BlobStore.put store token transfer).1.size = .error (.io (.ofSystem .isADirectory)) ∧
      (BlobStore.put (∅ : MemoryBlobs) token transfer).1.size = .ok 1 := by
  let space : KeySpace := .ofList ["data"] 0 ["..x"] (by decide)
  have opened : DirectoryBlobs.openAt (.empty space.depth) ⟨space.root⟩ = (.ok blank, blank.tree) :=
    rfl
  have known : "..x" ∈ space.keys := List.mem_cons_self
  exact ⟨space, blank, ⟨0⟩, { key := "..x", upload := ⟨.ofBytes [97], none⟩ },
    vacant_of_openAt opened, ⟨known, by decide, by decide⟩, by decide, by decide⟩

end KeySpace

end AssetCache
