import AssetCache.Blob.Memory
import AssetCache.Depot
import AssetCache.Descriptor.Memory
import AssetCache.Proofs.Digests

/-!
# Depots in memory, and calls that fail

A depot whose blobs and descriptors are tables in memory, and the depot with faults: of every call
to come to one of its stores it is settled beforehand whether it fails, and with what. A call that
fails has no effect. Blobs may be renamed in one step, or by copying; then each call within the
copying may fail by itself.
-/

namespace AssetCache

/-- A depot with its blobs and its descriptors in memory. -/
abbrev MemoryDepot := Depot MemoryBlobs MemoryDescriptors

/-- The depot in which nothing was stored yet. -/
def MemoryDepot.vacant (now : Instant) : MemoryDepot where
  blobs := ∅
  descriptors := ∅
  now

/-- The two tables of a depot in memory. -/
structure Contents where
  blobs : MemoryBlobs
  descriptors : MemoryDescriptors

def MemoryDepot.contents (depot : MemoryDepot) : Contents :=
  ⟨depot.blobs, depot.descriptors⟩

namespace MemoryBlobs

variable {limits : IngestLimits} {source : Source} {blobs : MemoryBlobs} {key : String}

lemma delete_of_present {bytes : Bytes} (found : blobs.get? key = some bytes) :
    delete blobs key = (.ok (), blobs.erase key) := by
  simp [delete, Table.contains, found]

lemma delete_of_absent (absent : blobs.get? key = none) :
    delete blobs key = (.error (.notFound key), blobs) := by
  simp [delete, Table.contains, absent]

lemma rename_of_present {target : String} {bytes : Bytes} (found : blobs.get? key = some bytes) :
    rename blobs key target = (.ok (), (blobs.erase key).insert target bytes) := by
  simp only [rename, found]

lemma rename_of_absent {target : String} (absent : blobs.get? key = none) :
    rename blobs key target = (.error (.notFound key), blobs) := by
  simp only [rename, absent]

/-- A digested stream that is taken in lies under its key afterwards. -/
lemma put_of_accepted {bytes : Bytes} (token : Token)
    (accepted : limits.accepted? source = some bytes) :
    BlobStore.put blobs token { key, upload := .digested limits source } =
      (⟨.ok bytes.length, some (.ok (limits.attributesOf bytes))⟩, blobs.insert key bytes) := by
  simp only [BlobStore.put, BlobStore.start, BlobStore.settle, BlobStore.complete,
    Upload.collect_digested_of_accepted accepted]

/-- A digested stream that is not taken in leaves nothing behind. -/
lemma put_of_refused (blobs : MemoryBlobs) (key : String)
    (refused : limits.accepted? source = none) :
    ∃ error outcome, ∀ token,
      BlobStore.put blobs token { key, upload := .digested limits source } =
        (⟨.error error, outcome⟩, blobs) := by
  obtain ⟨error, failed⟩ := Upload.collect_digested_of_refused refused
  simp only [BlobStore.put, BlobStore.start, BlobStore.abandon]
  generalize (Upload.digested limits source).collect = collected at failed
  obtain ⟨result, outcome⟩ := collected
  obtain rfl : result = .error error := failed
  exact ⟨_, _, fun _ => rfl⟩

lemma put_ofBytes (token : Token) (bytes : Bytes) :
    BlobStore.put blobs token { key, upload := ⟨.ofBytes bytes, none⟩ } =
      (⟨.ok bytes.length, none⟩, blobs.insert key bytes) := by
  simp [BlobStore.put, BlobStore.start, BlobStore.settle, BlobStore.complete, Upload.collect,
    Upload.collectItems, Upload.pass, Source.ofBytes, Functor.map, Except.map]

end MemoryBlobs

namespace MemoryDescriptors

variable {descriptors descriptors' : MemoryDescriptors} {id : ContentId} {holding : Holding}
  {owners : Nat}

lemma read_eq_ok_iff {record : Descriptor} :
    read descriptors id = .ok record ↔
      ∃ holding, descriptors.get? id = some holding ∧ holding.descriptor = record := by
  unfold read
  split
  · next holding found => simp [found]
  · next absent => simp [absent]

/-- Registering an owner is always possible; the descriptor that is there stays. -/
lemma create_eq (descriptors : MemoryDescriptors) (id : ContentId) (record : Descriptor) :
    create descriptors id record =
      (.ok ((descriptors.get? id).elim 1 fun holding => holding.owners + 1),
        descriptors.insert id ((descriptors.get? id).elim ⟨record, 1⟩ fun holding =>
          { holding with owners := holding.owners + 1 })) := by
  unfold create
  split
  · next found => rw [found]; rfl
  · next found => rw [found]; rfl

lemma duplicate_of_present (found : descriptors.get? id = some holding) :
    duplicate descriptors id = (.ok (holding.owners + 1),
      descriptors.insert id { holding with owners := holding.owners + 1 }) := by
  simp only [duplicate, found]

lemma duplicate_of_absent (absent : descriptors.get? id = none) :
    duplicate descriptors id = (.error (.notFound id.text), descriptors) := by
  simp only [duplicate, absent]

lemma duplicate_eq_ok_iff :
    duplicate descriptors id = (.ok owners, descriptors') ↔
      ∃ holding, descriptors.get? id = some holding ∧ owners = holding.owners + 1 ∧
        descriptors' = descriptors.insert id { holding with owners := holding.owners + 1 } := by
  cases found : descriptors.get? id with
  | none => simp [duplicate_of_absent found]
  | some holding =>
    rw [duplicate_of_present found]
    constructor
    · intro same
      cases same
      exact ⟨holding, rfl, rfl, rfl⟩
    · rintro ⟨other, same, rfl, rfl⟩
      cases same
      rfl

/-- Where content is there, another owner is registered like a first one. -/
lemma create_of_duplicate (duplicated : duplicate descriptors id = (.ok owners, descriptors'))
    (record : Descriptor) : create descriptors id record = (.ok owners, descriptors') := by
  obtain ⟨holding, found, rfl, rfl⟩ := duplicate_eq_ok_iff.1 duplicated
  rw [create_eq, found]
  rfl

/-- Another owner leaves all descriptors as they are. -/
lemma descriptor_of_duplicate (duplicated : duplicate descriptors id = (.ok owners, descriptors'))
    (other : ContentId) (held : Holding) (found : descriptors'.get? other = some held) :
    ∃ holding, descriptors.get? other = some holding ∧ held.descriptor = holding.descriptor := by
  obtain ⟨holding, there, -, rfl⟩ := duplicate_eq_ok_iff.1 duplicated
  rw [Table.get?_insert] at found
  split at found
  · next same =>
    obtain rfl := Option.some.inj found
    exact ⟨holding, same ▸ there, rfl⟩
  · exact ⟨held, found, rfl⟩

lemma delete_of_absent (absent : descriptors.get? id = none) :
    delete descriptors id = (.ok .missing, descriptors) := by
  simp only [delete, absent]

lemma delete_of_last (found : descriptors.get? id = some holding) (last : holding.owners ≤ 1) :
    delete descriptors id = (.ok .removed, descriptors.erase id) := by
  simp only [delete, found, last, if_true]

lemma delete_of_shared (found : descriptors.get? id = some holding) (shared : 1 < holding.owners) :
    delete descriptors id = (.ok (.released (holding.owners - 1)),
      descriptors.insert id { holding with owners := holding.owners - 1 }) := by
  simp only [delete, found, if_neg (Nat.not_le.2 shared)]

/-- An owner less leaves all descriptors as they are that have owners left. -/
lemma descriptor_of_delete {outcome : DeleteOutcome}
    (deleted : delete descriptors id = (.ok outcome, descriptors'))
    (other : ContentId) (held : Holding) (found : descriptors'.get? other = some held) :
    ∃ holding, descriptors.get? other = some holding ∧ held.descriptor = holding.descriptor := by
  cases there : descriptors.get? id with
  | none =>
    rw [delete_of_absent there] at deleted
    obtain ⟨-, rfl⟩ := Prod.mk.inj deleted
    exact ⟨held, found, rfl⟩
  | some holding =>
    rcases Nat.lt_or_ge 1 holding.owners with shared | last
    · rw [delete_of_shared there shared] at deleted
      obtain ⟨-, rfl⟩ := Prod.mk.inj deleted
      rw [Table.get?_insert] at found
      split at found
      · next same =>
        obtain rfl := Option.some.inj found
        exact ⟨holding, same ▸ there, rfl⟩
      · exact ⟨held, found, rfl⟩
    · rw [delete_of_last there last] at deleted
      obtain ⟨-, rfl⟩ := Prod.mk.inj deleted
      rw [Table.get?_erase] at found
      split at found
      · contradiction
      · exact ⟨held, found, rfl⟩

end MemoryDescriptors

/-! ### Depots with faults -/

/-- What a call to the blobs is answered with when it fails. -/
def BlobCall.failure (error : StoreError) : (call : BlobCall) → call.Answer
  | .put transfer => ⟨.error error, transfer.upload.outcome?⟩
  | .get _ => .error error
  | .delete _ => .error error
  | .contains _ => .error error
  | .rename _ _ => .error error

/-- How a store renames a blob. -/
inductive Renaming where
  /-- In one step of its own. -/
  | native
  /-- By the calls of a copy: the blob is read, put under its new key, and deleted. -/
  | byCopy
deriving DecidableEq

/-- A depot in memory, and what the calls to its stores fail with, if they fail. The calls are
numbered as they are made. -/
structure FaultyDepot where
  depot : MemoryDepot
  faults : Nat → Option StoreError
  /-- The number of calls made to the stores so far. -/
  calls : Nat := 0

namespace FaultyDepot

def contents (faulty : FaultyDepot) : Contents :=
  faulty.depot.contents

/-- Answers a call to the blobs, or fails it. -/
def answerBlob (faulty : FaultyDepot) (call : BlobCall) : call.Answer × FaultyDepot :=
  match faulty.faults faulty.calls with
  | some error => (call.failure error, { faulty with calls := faulty.calls + 1 })
  | none =>
    let (reply, depot) := faulty.depot.answerBlob call
    (reply, { faulty with depot, calls := faulty.calls + 1 })

/-- Answers a call to the descriptors, or fails it. -/
def answerDescriptor (faulty : FaultyDepot) (call : DescriptorCall) :
    call.Answer × FaultyDepot :=
  match faulty.faults faulty.calls with
  | some error => (.error error, { faulty with calls := faulty.calls + 1 })
  | none =>
    let (reply, depot) := faulty.depot.answerDescriptor call
    (reply, { faulty with depot, calls := faulty.calls + 1 })

/-- Answers a call, where any call to the stores may fail. -/
def answer (way : Renaming) (faulty : FaultyDepot) :
    (call : Call) → call.Answer × FaultyDepot
  | .blob (.rename source target) =>
    match way with
    | .native => faulty.answerBlob (.rename source target)
    | .byCopy => (renameByCopy source target).run answerBlob faulty
  | .blob call => faulty.answerBlob call
  | .descriptor call => faulty.answerDescriptor call
  | call =>
    let (reply, depot) := faulty.depot.answer call
    (reply, { faulty with depot })

/-- Runs an operation alone, to its end. -/
def run {α : Type} (way : Renaming) (faulty : FaultyDepot) (operation : Operation α) :
    α × FaultyDepot :=
  operation.run (answer way) faulty

/-- A call to the blobs fails and has no effect, or is answered by the store. -/
lemma answerBlob_cases (faulty : FaultyDepot) (call : BlobCall) :
    (∃ error, (faulty.answerBlob call).1 = call.failure error ∧
      (faulty.answerBlob call).2.contents = faulty.contents) ∨
    ∃ fresh, (faulty.answerBlob call).1 = (BlobStore.answer fresh faulty.contents.blobs call).1 ∧
      (faulty.answerBlob call).2.contents =
        ⟨(BlobStore.answer fresh faulty.contents.blobs call).2, faulty.contents.descriptors⟩ := by
  unfold answerBlob
  split
  · next error _ => exact Or.inl ⟨error, rfl, rfl⟩
  · exact Or.inr ⟨⟨faulty.depot.issued⟩, rfl, rfl⟩

lemma answerDescriptor_cases (faulty : FaultyDepot) (call : DescriptorCall) :
    (∃ error, (faulty.answerDescriptor call).1 = .error error ∧
      (faulty.answerDescriptor call).2.contents = faulty.contents) ∨
    ((faulty.answerDescriptor call).1 =
        (DescriptorStore.perform faulty.contents.descriptors call).1 ∧
      (faulty.answerDescriptor call).2.contents =
        ⟨faulty.contents.blobs, (DescriptorStore.perform faulty.contents.descriptors call).2⟩) := by
  unfold answerDescriptor
  split
  · next error _ => exact Or.inl ⟨error, rfl, rfl⟩
  · exact Or.inr ⟨rfl, rfl⟩

/-- What remains of renaming by copying once the blob was read. -/
def moveTo (source target : String) (stream : Source) :
    Program BlobCall BlobCall.Answer (Except StoreError Unit) :=
  .ask (.ofStream target stream) fun reply =>
    match reply.size with
    | .error error => .done (.error error)
    | .ok _ => .ask (.delete source) .done

/-- The copy is not there, or it is there twice, or the old blob is deleted. -/
lemma moveTo_cases (faulty : FaultyDepot) (source target : String) {bytes : Bytes}
    (found : faulty.contents.blobs.get? source = some bytes) :
    (∃ error, ((moveTo source target (.ofBytes bytes)).run answerBlob faulty).1 = .error error ∧
      (((moveTo source target (.ofBytes bytes)).run answerBlob faulty).2.contents =
          faulty.contents ∨
        ((moveTo source target (.ofBytes bytes)).run answerBlob faulty).2.contents =
          ⟨faulty.contents.blobs.insert target bytes, faulty.contents.descriptors⟩)) ∨
    (((moveTo source target (.ofBytes bytes)).run answerBlob faulty).1 = .ok () ∧
      ((moveTo source target (.ofBytes bytes)).run answerBlob faulty).2.contents =
        ⟨(faulty.contents.blobs.insert target bytes).erase source,
          faulty.contents.descriptors⟩) := by
  simp only [moveTo, Program.run_ask]
  rcases answerBlob_cases faulty (.ofStream target (.ofBytes bytes)) with
    ⟨error, put, kept⟩ | ⟨_, put, kept⟩
  · rw [put]
    exact Or.inl ⟨error, rfl, Or.inl kept⟩
  simp only [BlobCall.ofStream, BlobStore.answer, MemoryBlobs.put_ofBytes] at put kept ⊢
  rw [put]
  generalize (faulty.answerBlob _).2 = copied at kept ⊢
  simp only [Program.run_ask, Program.run_done]
  rcases answerBlob_cases copied (.delete source) with ⟨error, failed, left⟩ | ⟨_, deleted, left⟩
  · exact Or.inl ⟨error, failed, Or.inr (left.trans kept)⟩
  · have present : ∃ held, (faulty.contents.blobs.insert target bytes).get? source = some held := by
      rw [Table.get?_insert]
      split
      · exact ⟨bytes, rfl⟩
      · exact ⟨bytes, found⟩
    obtain ⟨held, present⟩ := present
    simp only [kept, BlobStore.answer, BlobStore.delete,
      MemoryBlobs.delete_of_present present] at deleted left
    exact Or.inr ⟨deleted, left⟩

/-- Renaming by copying fails and leaves everything as it is, or the copy is there, with the old
blob or without it. -/
lemma renameByCopy_cases (faulty : FaultyDepot) (source target : String) :
    (∃ error, ((renameByCopy source target).run answerBlob faulty).1 = .error error ∧
      ((renameByCopy source target).run answerBlob faulty).2.contents = faulty.contents) ∨
    ∃ bytes, faulty.contents.blobs.get? source = some bytes ∧
      ((∃ error, ((renameByCopy source target).run answerBlob faulty).1 = .error error ∧
        ((renameByCopy source target).run answerBlob faulty).2.contents =
          ⟨faulty.contents.blobs.insert target bytes, faulty.contents.descriptors⟩) ∨
      (((renameByCopy source target).run answerBlob faulty).1 = .ok () ∧
        ((renameByCopy source target).run answerBlob faulty).2.contents =
          ⟨(faulty.contents.blobs.insert target bytes).erase source,
            faulty.contents.descriptors⟩)) := by
  simp only [renameByCopy, Program.run_ask]
  rcases answerBlob_cases faulty (.get source) with ⟨error, got, same⟩ | ⟨_, got, same⟩
  · rw [got]
    exact Or.inl ⟨error, rfl, same⟩
  rw [got]
  cases found : faulty.contents.blobs.get? source with
  | none =>
    have missing : MemoryBlobs.get faulty.contents.blobs source = .error (.notFound source) := by
      simp only [MemoryBlobs.get, found]
    simp only [BlobStore.answer, BlobStore.get, missing]
    exact Or.inl ⟨_, rfl, same⟩
  | some bytes =>
    have there : MemoryBlobs.get faulty.contents.blobs source = .ok (.ofBytes bytes) := by
      simp only [MemoryBlobs.get, found]
    simp only [BlobStore.answer, BlobStore.get, there] at same ⊢
    generalize (faulty.answerBlob (.get source)).2 = read at same ⊢
    have rest := moveTo_cases read source target (by rw [same]; exact found)
    rw [same] at rest
    rcases rest with ⟨error, failed, kept | copied⟩ | moved
    · exact Or.inl ⟨error, failed, kept⟩
    · exact Or.inr ⟨bytes, rfl, Or.inl ⟨error, failed, copied⟩⟩
    · exact Or.inr ⟨bytes, rfl, Or.inr moved⟩

end FaultyDepot

end AssetCache
