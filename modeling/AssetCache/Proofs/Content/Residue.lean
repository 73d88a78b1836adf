import AssetCache.Proofs.Content.Steps

/-!
# What a failed operation leaves behind

Storing content is an attempt and what follows on it. An attempt that comes to a setback may have
left staged bytes, or a blob whose content could not be registered; the operation drops both. If
none of the calls fails that it makes to that end, then the blobs are afterwards what they were
before (`failed_create_leaves_blobs`).

Two things can get in the way of that. A blob that lies where the content belongs, but holds other
bytes, may be replaced before the attempt comes to its setback. And where a blob is renamed by
copying, the copy stays behind if the last of its calls fails.
-/

namespace AssetCache

/-! ### Calls by their numbers -/

namespace FaultyDepot

variable {α β : Type} {way : Renaming} {faulty : FaultyDepot}

/-- The depot after a call to the blobs that has left them in some state. -/
def withBlobs (faulty : FaultyDepot) (blobs : MemoryBlobs) : FaultyDepot :=
  { faulty with
    depot := { faulty.depot with blobs, issued := faulty.depot.issued + 1 }
    calls := faulty.calls + 1 }

/-- The depot after a call to the descriptors that has left them in some state. -/
def withDescriptors (faulty : FaultyDepot) (descriptors : MemoryDescriptors) : FaultyDepot :=
  { faulty with depot := { faulty.depot with descriptors }, calls := faulty.calls + 1 }

/-- The depot after a call that has failed. -/
def failed (faulty : FaultyDepot) : FaultyDepot :=
  { faulty with calls := faulty.calls + 1 }

lemma answerBlob_of_fault (faulty : FaultyDepot) (call : BlobCall) {error : StoreError}
    (fault : faulty.faults faulty.calls = some error) :
    faulty.answerBlob call = (call.failure error, faulty.failed) := by
  simp only [answerBlob, fault, failed]

lemma answerBlob_of_none (faulty : FaultyDepot) (call : BlobCall) {reply : call.Answer}
    {blobs : MemoryBlobs}
    (spared : faulty.faults faulty.calls = none)
    (answered : ∀ token, BlobStore.answer token faulty.depot.blobs call = (reply, blobs)) :
    faulty.answerBlob call = (reply, faulty.withBlobs blobs) := by
  simp only [answerBlob, spared, Depot.answerBlob, Depot.issue, answered, withBlobs]

lemma answerDescriptor_of_fault (faulty : FaultyDepot) (call : DescriptorCall)
    {error : StoreError}
    (fault : faulty.faults faulty.calls = some error) :
    faulty.answerDescriptor call = (.error error, faulty.failed) := by
  simp only [answerDescriptor, fault, failed]

lemma answerDescriptor_of_none (faulty : FaultyDepot) (call : DescriptorCall)
    {reply : call.Answer}
    {descriptors : MemoryDescriptors} (spared : faulty.faults faulty.calls = none)
    (answered : DescriptorStore.perform faulty.depot.descriptors call = (reply, descriptors)) :
    faulty.answerDescriptor call = (reply, faulty.withDescriptors descriptors) := by
  simp only [answerDescriptor, spared, Depot.answerDescriptor, DescriptorStore.answer,
    DescriptorStore.connect, answered, withDescriptors, Option.toList, List.append_nil]

/-- A depot comes after another: its calls fail in the same way, and none of them is undone. -/
structure Precedes (before after : FaultyDepot) : Prop where
  faults : after.faults = before.faults
  calls : before.calls ≤ after.calls

lemma Precedes.trans {before between after : FaultyDepot} (first : before.Precedes between)
    (second : between.Precedes after) : before.Precedes after :=
  ⟨second.faults.trans first.faults, Nat.le_trans first.calls second.calls⟩

lemma calls_answerBlob (call : BlobCall) :
    (faulty.answerBlob call).2.calls = faulty.calls + 1 := by
  unfold answerBlob
  split
  · rfl
  · rfl

lemma calls_answerDescriptor (call : DescriptorCall) :
    (faulty.answerDescriptor call).2.calls = faulty.calls + 1 := by
  unfold answerDescriptor
  split
  · rfl
  · rfl

lemma precedes_answerBlob (faulty : FaultyDepot) (call : BlobCall) :
    faulty.Precedes (faulty.answerBlob call).2 := by
  refine ⟨?_, by rw [calls_answerBlob]; exact Nat.le_succ _⟩
  unfold answerBlob
  split
  · rfl
  · rfl

lemma precedes_answerDescriptor (faulty : FaultyDepot) (call : DescriptorCall) :
    faulty.Precedes (faulty.answerDescriptor call).2 := by
  refine ⟨?_, by rw [calls_answerDescriptor]; exact Nat.le_succ _⟩
  unfold answerDescriptor
  split
  · rfl
  · rfl

lemma precedes_answer (way : Renaming) (faulty : FaultyDepot) (call : Call) :
    faulty.Precedes (faulty.answer way call).2 := by
  cases call with
  | blob call =>
    cases call with
    | rename source target =>
      cases way with
      | native => exact faulty.precedes_answerBlob _
      | byCopy =>
        exact Program.run_preserves
          (fun between call precedes => precedes.trans (between.precedes_answerBlob call)) _
          ⟨rfl, Nat.le_refl _⟩
    | _ => exact faulty.precedes_answerBlob _
  | descriptor call => exact faulty.precedes_answerDescriptor call
  | _ => exact ⟨rfl, Nat.le_refl _⟩

lemma precedes_run (way : Renaming) (faulty : FaultyDepot) (operation : Operation α) :
    faulty.Precedes (faulty.run way operation).2 :=
  Program.run_preserves
    (fun between call precedes => precedes.trans (between.precedes_answer way call)) _
    ⟨rfl, Nat.le_refl _⟩

lemma run_bind (way : Renaming) (faulty : FaultyDepot) (operation : Operation β)
    (next : β → Operation α) :
    faulty.run way (operation.bind next) =
      (faulty.run way operation).2.run way (next (faulty.run way operation).1) :=
  Program.run_bind _ _ _ _

/-- No call to the stores fails that an operation makes from here on. -/
def Spares (faulty : FaultyDepot) (way : Renaming) (operation : Operation α) : Prop :=
  ∀ call, faulty.calls ≤ call → call < (faulty.run way operation).2.calls →
    faulty.faults call = none

lemma Spares.bind {operation : Operation β} {next : β → Operation α}
    (spares : faulty.Spares way (operation.bind next)) :
    faulty.Spares way operation ∧
      (faulty.run way operation).2.Spares way (next (faulty.run way operation).1) := by
  have first := faulty.precedes_run way operation
  have second := (faulty.run way operation).2.precedes_run way
    (next (faulty.run way operation).1)
  unfold Spares at spares ⊢
  rw [run_bind] at spares
  refine ⟨?_, ?_⟩
  · intro call late early
    exact spares call late (Nat.lt_of_lt_of_le early second.calls)
  · intro call late early
    rw [first.faults]
    exact spares call (Nat.le_trans first.calls late) early

/-- A call that is spared does not fail, and neither do those that come after it. -/
lemma Spares.ask {call : Call} {next : call.Answer → Operation α}
    (spares : faulty.Spares way (.ask call next))
    (counted : (faulty.answer way call).2.calls = faulty.calls + 1) :
    faulty.faults faulty.calls = none ∧
      (faulty.answer way call).2.Spares way (next (faulty.answer way call).1) := by
  have first := faulty.precedes_answer way call
  have rest : (faulty.answer way call).2.Precedes (faulty.run way (.ask call next)).2 :=
    precedes_run way _ _
  refine ⟨spares _ (Nat.le_refl _) ?_, ?_⟩
  · exact Nat.lt_of_lt_of_le (by rw [counted]; exact Nat.lt_succ_self _) rest.calls
  · intro call' late early
    rw [first.faults]
    exact spares call' (Nat.le_trans first.calls late) early

/-! ### Renaming, call by call -/

/-- What renaming a blob comes to: nothing, or a copy that could not be completed, or the blob lies
under its new key. -/
inductive Renamed (way : Renaming) (faulty : FaultyDepot) (source target : String)
    (bytes : Bytes) : Except StoreError Unit → FaultyDepot → Prop
  | failed (error : StoreError) (after : FaultyDepot)
    (same : after.contents = faulty.contents) :
    Renamed way faulty source target bytes (.error error) after
  | copied (error : StoreError) (after : FaultyDepot) (copying : way = .byCopy)
    (fault : faulty.faults (faulty.calls + 2) = some error) (counted : after.calls = faulty.calls + 3)
    (copied : after.contents =
      ⟨faulty.contents.blobs.insert target bytes, faulty.contents.descriptors⟩) :
    Renamed way faulty source target bytes (.error error) after
  | moved (after : FaultyDepot) (same : after.contents.descriptors = faulty.contents.descriptors)
    (moved : ∀ key, after.contents.blobs.get? key =
      if key = target then some bytes
      else if key = source then none else faulty.contents.blobs.get? key) :
    Renamed way faulty source target bytes (.ok ()) after

lemma renamed_native {source target : String} {bytes : Bytes}
    (found : faulty.contents.blobs.get? source = some bytes) :
    Renamed .native faulty source target bytes (faulty.answerBlob (.rename source target)).1
      (faulty.answerBlob (.rename source target)).2 := by
  cases fault : faulty.faults faulty.calls with
  | some error =>
    rw [answerBlob_of_fault faulty _ fault]
    exact .failed error _ rfl
  | none =>
    rw [answerBlob_of_none faulty (.rename source target) fault fun _ =>
      MemoryBlobs.rename_of_present found]
    refine .moved _ rfl ?_
    intro key
    show ((faulty.depot.blobs.erase source).insert target bytes).get? key = _
    rw [Table.get?_insert, Table.get?_erase]
    rfl

lemma renamed_byCopy {source target : String} {bytes : Bytes} (different : source ≠ target)
    (found : faulty.contents.blobs.get? source = some bytes) :
    Renamed .byCopy faulty source target bytes
      ((renameByCopy source target).run answerBlob faulty).1
      ((renameByCopy source target).run answerBlob faulty).2 := by
  have got (token : Token) : BlobStore.answer token faulty.depot.blobs (.get source) =
      (.ok (.ofBytes bytes), faulty.depot.blobs) := by
    simp only [BlobStore.answer, BlobStore.get, MemoryBlobs.get]
    rw [show faulty.depot.blobs.get? source = some bytes from found]
  have there : (faulty.depot.blobs.insert target bytes).get? source = some bytes := by
    rw [Table.get?_insert, if_neg different]
    exact found
  unfold renameByCopy
  rw [Program.run_ask]
  cases reading : faulty.faults faulty.calls with
  | some error =>
    rw [answerBlob_of_fault faulty _ reading]
    exact .failed error _ rfl
  | none =>
    rw [answerBlob_of_none faulty (.get source) reading got]
    dsimp only
    rw [Program.run_ask]
    let read := faulty.withBlobs faulty.depot.blobs
    cases writing : faulty.faults (faulty.calls + 1) with
    | some error =>
      rw [answerBlob_of_fault read _ writing]
      exact .failed error _ rfl
    | none =>
      rw [answerBlob_of_none read (.ofStream target (.ofBytes bytes)) writing fun token =>
        MemoryBlobs.put_ofBytes token bytes]
      dsimp only
      rw [Program.run_ask]
      let copied := read.withBlobs (read.depot.blobs.insert target bytes)
      cases deleting : faulty.faults (faulty.calls + 2) with
      | some error =>
        rw [answerBlob_of_fault copied _ deleting]
        exact .copied error _ rfl deleting rfl rfl
      | none =>
        rw [answerBlob_of_none copied (.delete source) deleting fun _ =>
          MemoryBlobs.delete_of_present there]
        refine .moved _ rfl ?_
        intro key
        show ((faulty.depot.blobs.insert target bytes).erase source).get? key = _
        rw [Table.get?_erase, Table.get?_insert]
        by_cases same : key = source
        · rw [if_pos same, same, if_neg different, if_pos rfl]
        · rw [if_neg same, if_neg same]
          rfl

lemma renamed_answer (way : Renaming) {source target : String} {bytes : Bytes}
    (different : source ≠ target) (found : faulty.contents.blobs.get? source = some bytes) :
    Renamed way faulty source target bytes
      (faulty.answer way (.blob (.rename source target))).1
      (faulty.answer way (.blob (.rename source target))).2 := by
  cases way with
  | native => exact renamed_native found
  | byCopy => exact renamed_byCopy different found

end FaultyDepot

/-! ### Attempts -/

/-- What stands in the way of storing content, before anything is cleaned up. -/
structure Setback where
  error : StoreError
  /-- The content whose blob is there, but could not be registered. -/
  orphan : Option ContentId := none

namespace ContentStore

open Operation

/-- Promotes staged content, and leaves an orphan where it is. -/
def tryPromote (store : ContentStore) (staging : String) (id : ContentId) (record : Descriptor) :
    Operation (Except Setback StoredContent) := do
  match ← blob (.rename staging (store.layout.objectKey id)) with
  | .error error => return .error ⟨error, none⟩
  | .ok () =>
    match ← descriptor (.create id record) with
    | .ok refcount => return .ok ⟨id, record, refcount⟩
    | .error error => return .error ⟨error, some id⟩

/-- Registers an owner of staged content, and leaves an orphan where it is. -/
def tryCommit (store : ContentStore) (staging : String) (attributes : Attributes) :
    Operation (Except Setback StoredContent) := do
  let some id := attributes.id | return .error ⟨.invalid "ingested content has no hash", none⟩
  let record := Descriptor.ofAttributes attributes
  match ← descriptor (.contains id) with
  | .error error => return .error ⟨error, none⟩
  | .ok false => store.tryPromote staging id record
  | .ok true =>
    match ← descriptor (.duplicate id) with
    | .ok refcount => return .ok (← deduplicate staging id record refcount)
    | .error error =>
      if error.isNotFound then store.tryPromote staging id record else return .error ⟨error, none⟩

/-- Stores the content of a stream, and leaves what is staged and an orphan where they are. The
staging key is answered along with what came of it. -/
def tryCreate (store : ContentStore) (source : Source) :
    Operation (String × Except Setback StoredContent) := do
  let staging := store.layout.stagingKey (← token).text
  match ← ingest store.limits staging source with
  | .error error => return (staging, .error ⟨error, none⟩)
  | .ok attributes => return (staging, ← store.tryCommit staging attributes)

/-- Drops the orphan of a setback, if there is one. -/
def dropOrphan (store : ContentStore) : Option ContentId → Operation Unit
  | none => return
  | some id => store.discardOrphan id

/-- Goes on after an attempt: content that is stored is reported, and after a setback the orphan
and what is staged are dropped. -/
def conclude (store : ContentStore) (staging : String) :
    Except Setback StoredContent → Operation (Except StoreError StoredContent)
  | .ok stored => do
    report .contentStored
    return .ok stored
  | .error setback => do
    store.dropOrphan setback.orphan
    discardStaging staging
    return .error setback.error

variable {store : ContentStore} {staging : String} {id : ContentId} {record : Descriptor}

/-- What is left to do of storing content once the orphan is dropped. -/
def settle (store : ContentStore) :
    Except Setback StoredContent → Operation (Except StoreError StoredContent)
  | .ok stored => return .ok stored
  | .error setback => do
    store.dropOrphan setback.orphan
    return .error setback.error

lemma promote_eq (store : ContentStore) (staging : String) (id : ContentId) (record : Descriptor) :
    store.promote staging id record = (store.tryPromote staging id record).bind store.settle := by
  simp only [promote, tryPromote, blob, Program.bind_eq, Program.bind_ask, Program.bind_done]
  congr 1
  funext reply
  rcases reply with error | ⟨⟩
  · rfl
  · simp only [descriptor, Program.bind_ask]
    congr 1
    funext reply
    cases reply with
    | error error => rfl
    | ok owners => rfl

lemma commit_eq (store : ContentStore) (staging : String) (attributes : Attributes) :
    store.commit staging attributes =
      (store.tryCommit staging attributes).bind store.settle := by
  unfold commit tryCommit
  cases attributes.id with
  | none => rfl
  | some id =>
    simp only [descriptor, Program.bind_eq, Program.bind_ask, Program.bind_done]
    congr 1
    funext reply
    rcases reply with error | _ | _
    · rfl
    · exact promote_eq _ _ _ _
    · simp only [Program.bind_ask]
      congr 1
      funext reply
      cases reply with
      | error error =>
        dsimp only
        split
        · exact promote_eq _ _ _ _
        · rfl
      | ok owners =>
        dsimp only
        rw [Program.bind_assoc]
        rfl

/-- Storing content is an attempt and its conclusion. -/
theorem create_eq (store : ContentStore) (source : Source) :
    store.create source =
      (store.tryCreate source).bind fun outcome => store.conclude outcome.1 outcome.2 := by
  simp only [create, tryCreate, token, Program.bind_eq, Program.bind_ask, Program.bind_done]
  congr 1
  funext token
  rw [Program.bind_assoc]
  congr 1
  funext result
  cases result with
  | error error => rfl
  | ok attributes =>
    simp only [commit_eq, Program.bind_assoc]
    congr 1
    funext result
    cases result with
    | error setback =>
      simp only [settle, conclude, Program.bind_eq, Program.bind_assoc]
      rfl
    | ok stored => rfl

/-! ### What is dropped where no call fails -/

open FaultyDepot

variable {way : Renaming} {faulty : FaultyDepot}

/-- Deleting a blob that may not be there, where the call does not fail. -/
lemma answer_delete_of_spared (way : Renaming) (key : String)
    (spared : faulty.faults faulty.calls = none) :
    ∃ reply after, faulty.answer way (.blob (.delete key)) = (reply, after) ∧
      (∀ error, reply = .error error → error.isNotFound = true) ∧
      after.contents.descriptors = faulty.contents.descriptors ∧
      ∀ other, after.contents.blobs.get? other =
        if other = key then none else faulty.contents.blobs.get? other := by
  cases found : faulty.contents.blobs.get? key with
  | none =>
    refine ⟨.error (.notFound key), _, answerBlob_of_none faulty (.delete key) spared fun _ =>
      MemoryBlobs.delete_of_absent found, ?_, rfl, ?_⟩
    · rintro error ⟨⟩
      rfl
    · intro other
      split
      · next same => rw [same]; exact found
      · rfl
  | some bytes =>
    refine ⟨.ok (), _, answerBlob_of_none faulty (.delete key) spared fun _ =>
      MemoryBlobs.delete_of_present found, ?_, rfl, ?_⟩
    · rintro error ⟨⟩
    · intro other
      exact Table.get?_erase _ _ _

lemma discardStaging_of_spared (spares : faulty.Spares way (discardStaging staging)) :
    (faulty.run way (discardStaging staging)).2.contents.descriptors =
        faulty.contents.descriptors ∧
      ∀ key, (faulty.run way (discardStaging staging)).2.contents.blobs.get? key =
        if key = staging then none else faulty.contents.blobs.get? key := by
  have spared := (Spares.ask spares (calls_answerBlob _)).1
  obtain ⟨reply, after, answered, absent, same, erased⟩ :=
    answer_delete_of_spared way staging spared
  simp only [discardStaging, blob, Program.bind_eq, Program.bind_ask, Program.bind_done,
    FaultyDepot.run, Program.run_ask, answered]
  rcases reply with error | ⟨⟩
  · simp only [absent error rfl, if_true]
    exact ⟨same, erased⟩
  · exact ⟨same, erased⟩

/-- The blob of registered content is not dropped. -/
lemma discardOrphan_of_registered {holding : Holding}
    (spares : faulty.Spares way (store.discardOrphan id))
    (found : faulty.contents.descriptors.get? id = some holding) :
    (faulty.run way (store.discardOrphan id)).2.contents = faulty.contents := by
  have spared := (Spares.ask spares (calls_answerDescriptor _)).1
  have contained : DescriptorStore.perform faulty.depot.descriptors (.contains id) =
      (.ok true, faulty.depot.descriptors) := by
    show (Except.ok (Option.isSome (faulty.contents.descriptors.get? id)), _) = _
    rw [found]
    rfl
  have answered : faulty.answer way (.descriptor (.contains id)) = _ :=
    answerDescriptor_of_none faulty (.contains id) spared contained
  simp only [discardOrphan, descriptor, Program.bind_eq, Program.bind_ask, Program.bind_done,
    FaultyDepot.run, Program.run_ask, answered]
  rfl

lemma discardOrphan_of_absent (spares : faulty.Spares way (store.discardOrphan id))
    (absent : faulty.contents.descriptors.get? id = none) (key : String) :
    (faulty.run way (store.discardOrphan id)).2.contents.blobs.get? key =
      if key = store.objectKey id then none else faulty.contents.blobs.get? key := by
  obtain ⟨spared, later⟩ := Spares.ask spares (calls_answerDescriptor _)
  have contained : DescriptorStore.perform faulty.depot.descriptors (.contains id) =
      (.ok false, faulty.depot.descriptors) := by
    show (Except.ok (Option.isSome (faulty.contents.descriptors.get? id)), _) = _
    rw [absent]
    rfl
  have answered : faulty.answer way (.descriptor (.contains id)) = _ :=
    answerDescriptor_of_none faulty (.contains id) spared contained
  rw [answered] at later
  have spared' := (Spares.ask later (calls_answerBlob _)).1
  obtain ⟨reply, after, answered', missing, -, erased⟩ :=
    answer_delete_of_spared way (store.objectKey id) spared'
  have deleted : (faulty.withDescriptors faulty.depot.descriptors).answer way
      (.blob (.delete (store.layout.objectKey id))) = (reply, after) := answered'
  simp only [discardOrphan, descriptor, blob, Program.bind_eq, Program.bind_ask,
    Program.bind_done, FaultyDepot.run, Program.run_ask, answered, deleted]
  rcases reply with error | ⟨⟩
  · simp only [missing error rfl, if_true]
    exact erased key
  · exact erased key

/-! ### How far an attempt comes -/

/-- What an attempt comes to, and what it leaves in the tables. -/
inductive Attempted (store : ContentStore) (source : Source) (staging : String)
    (before : Contents) : Except Setback StoredContent → Contents → Prop
  | stored (stored : StoredContent) (after : Contents) :
    Attempted store source staging before (.ok stored) after
  /-- Nothing was staged. -/
  | unstaged (error : StoreError) :
    Attempted store source staging before (.error ⟨error, none⟩) before
  /-- The content is staged and nothing else. -/
  | staged (error : StoreError) (bytes : Bytes) :
    Attempted store source staging before (.error ⟨error, none⟩)
      ⟨before.blobs.insert staging bytes, before.descriptors⟩
  /-- Registered content is staged, and was copied once more to where it belongs. -/
  | copied {bytes : Bytes} {holding : Holding} (error : StoreError)
    (accepted : store.limits.accepted? source = some bytes)
    (registered : before.descriptors.get? (.ofBytes bytes) = some holding) :
    Attempted store source staging before (.error ⟨error, none⟩)
      ⟨(before.blobs.insert staging bytes).insert (store.objectKey (.ofBytes bytes)) bytes,
        before.descriptors⟩
  /-- The content lies where it belongs, but could not be registered. -/
  | orphaned {bytes : Bytes} {after : Contents} (error : StoreError)
    (accepted : store.limits.accepted? source = some bytes)
    (same : after.descriptors = before.descriptors)
    (moved : ∀ key, after.blobs.get? key =
      if key = store.objectKey (.ofBytes bytes) then some bytes
      else if key = staging then none else before.blobs.get? key) :
    Attempted store source staging before (.error ⟨error, some (.ofBytes bytes)⟩) after

variable {source : Source} {before : Contents} {bytes : Bytes}

/-- An operation that promotes content does not end with a copy of content that is not registered
and that could not be completed. -/
def Completes (way : Renaming) (faulty : FaultyDepot) (before : Contents) (bytes : Bytes)
    (copying : Nat) (operation : Operation (Except Setback StoredContent)) : Prop :=
  way = .byCopy → before.descriptors.get? (.ofBytes bytes) = none →
    (faulty.faults (faulty.calls + copying)).isSome →
      (faulty.run way operation).2.calls ≠ faulty.calls + copying + 1

lemma attempted_tryPromote (different : staging ≠ store.objectKey (.ofBytes bytes))
    (accepted : store.limits.accepted? source = some bytes)
    (staged : faulty.contents = ⟨before.blobs.insert staging bytes, before.descriptors⟩)
    (completes : Completes way faulty before bytes 2
      (store.tryPromote staging (.ofBytes bytes) record)) :
    Attempted store source staging before
      (faulty.run way (store.tryPromote staging (.ofBytes bytes) record)).1
      (faulty.run way (store.tryPromote staging (.ofBytes bytes) record)).2.contents := by
  have there : faulty.contents.blobs.get? staging = some bytes := by
    rw [staged]
    exact Table.get?_insert_self _ _ _
  have renamed := renamed_answer way different there
  simp only [Completes, tryPromote, blob, Program.bind_eq, Program.bind_ask, Program.bind_done,
    FaultyDepot.run, Program.run_ask] at completes ⊢
  change Renamed way faulty _ _ bytes
    (faulty.answer way (.blob (.rename staging (store.layout.objectKey (.ofBytes bytes))))).1
    (faulty.answer way (.blob (.rename staging (store.layout.objectKey (.ofBytes bytes))))).2
    at renamed
  generalize faulty.answer way (.blob (.rename staging
    (store.layout.objectKey (.ofBytes bytes)))) = answered at renamed completes ⊢
  obtain ⟨reply, after⟩ := answered
  cases renamed with
  | failed error after same =>
    dsimp only [Program.pure_eq, Program.run_done]
    rw [same, staged]
    exact .staged error bytes
  | copied error after copying fault counted copied =>
    dsimp only [Program.pure_eq, Program.run_done] at completes ⊢
    rw [copied, staged]
    cases registered : before.descriptors.get? (.ofBytes bytes) with
    | none => exact absurd counted (completes copying registered (by rw [fault]; rfl))
    | some holding => exact .copied error accepted registered
  | moved after same moved =>
    simp only [descriptor, Program.bind_ask, Program.bind_done, Program.run_ask]
    cases fault : after.faults after.calls with
    | some error =>
      have answered : after.answer way (.descriptor (.create (.ofBytes bytes) record)) =
        (.error error, after.failed) := answerDescriptor_of_fault after _ fault
      rw [answered]
      refine .orphaned error accepted (same.trans (by rw [staged])) ?_
      intro key
      refine (moved key).trans ?_
      rw [staged]
      split
      · rfl
      · split
        · rfl
        · next other => rw [Table.get?_insert, if_neg other]
    | none =>
      have answered : after.answer way (.descriptor (.create (.ofBytes bytes) record)) = _ :=
        answerDescriptor_of_none after (.create (.ofBytes bytes) record) fault
          (MemoryDescriptors.create_eq _ _ _)
      rw [answered]
      exact .stored _ _

lemma attempted_tryCommit (different : staging ≠ store.objectKey (.ofBytes bytes))
    (accepted : store.limits.accepted? source = some bytes)
    (staged : faulty.contents = ⟨before.blobs.insert staging bytes, before.descriptors⟩)
    (completes : Completes way faulty before bytes 3
      (store.tryCommit staging (store.limits.attributesOf bytes))) :
    Attempted store source staging before
      (faulty.run way (store.tryCommit staging (store.limits.attributesOf bytes))).1
      (faulty.run way (store.tryCommit staging (store.limits.attributesOf bytes))).2.contents := by
  have same : faulty.depot.descriptors = before.descriptors :=
    congrArg Contents.descriptors staged
  simp only [tryCommit, IngestLimits.id_attributesOf, descriptor, Program.bind_eq,
    Program.bind_ask, Program.bind_done, Completes, FaultyDepot.run, Program.run_ask]
    at completes ⊢
  cases fault : faulty.faults faulty.calls with
  | some error =>
    have answered : faulty.answer way (.descriptor (.contains (.ofBytes bytes))) =
      (.error error, faulty.failed) := answerDescriptor_of_fault faulty _ fault
    rw [answered]
    show Attempted _ _ _ _ _ faulty.contents
    rw [staged]
    exact .staged error bytes
  | none =>
    let looked := faulty.withDescriptors faulty.depot.descriptors
    have answered : faulty.answer way (.descriptor (.contains (.ofBytes bytes))) =
        (.ok (faulty.depot.descriptors.contains (.ofBytes bytes)), looked) :=
      answerDescriptor_of_none faulty (.contains (.ofBytes bytes)) fault rfl
    rw [answered, same] at completes ⊢
    cases registered : before.descriptors.get? (.ofBytes bytes) with
    | none =>
      rw [show before.descriptors.contains (.ofBytes bytes) = false by
        simp [Table.contains, registered]] at completes ⊢
      refine attempted_tryPromote different accepted staged ?_
      intro copying absent deleting
      rw [show looked.calls + 2 = faulty.calls + 3 by show faulty.calls + 1 + 2 = _; omega]
        at deleting ⊢
      exact completes copying absent deleting
    | some holding =>
      rw [show before.descriptors.contains (.ofBytes bytes) = true by
        simp [Table.contains, registered]]
      simp only [Program.run_ask]
      have denied : Attempted store source staging before
          (looked.failed.run way (store.tryPromote staging (.ofBytes bytes)
            (.ofAttributes (store.limits.attributesOf bytes)))).1
          (looked.failed.run way (store.tryPromote staging (.ofBytes bytes)
            (.ofAttributes (store.limits.attributesOf bytes)))).2.contents := by
        refine attempted_tryPromote different accepted staged ?_
        intro _ absent
        rw [registered] at absent
        contradiction
      cases fault' : looked.faults looked.calls with
      | some error =>
        have answered' : looked.answer way (.descriptor (.duplicate (.ofBytes bytes))) =
          (.error error, looked.failed) := answerDescriptor_of_fault looked _ fault'
        rw [answered']
        by_cases absent : error.isNotFound = true
        · simp only [absent, if_true]
          exact denied
        · simp only [absent]
          show Attempted _ _ _ _ _ faulty.contents
          rw [staged]
          exact .staged error bytes
      | none =>
        have answered' : looked.answer way (.descriptor (.duplicate (.ofBytes bytes))) = _ :=
          answerDescriptor_of_none looked (.duplicate (.ofBytes bytes)) fault'
            (MemoryDescriptors.duplicate_of_present (same ▸ registered))
        rw [answered']
        simp only [Program.run_bind, Program.pure_eq, Program.run_done]
        exact .stored _ _

/-- Ingesting a stream stages its bytes in one call, or leaves the tables as they are. -/
lemma ingest_cases (way : Renaming) (faulty : FaultyDepot) (limits : IngestLimits)
    (staging : String) (source : Source) :
    (∃ error, (faulty.run way (ingest limits staging source)).1 = .error error ∧
      (faulty.run way (ingest limits staging source)).2.contents = faulty.contents) ∨
    ∃ bytes, limits.accepted? source = some bytes ∧
      (faulty.run way (ingest limits staging source)).1 = .ok (limits.attributesOf bytes) ∧
      (faulty.run way (ingest limits staging source)).2.contents =
        ⟨faulty.contents.blobs.insert staging bytes, faulty.contents.descriptors⟩ ∧
      (faulty.run way (ingest limits staging source)).2.calls = faulty.calls + 1 := by
  simp only [ingest, blob, Program.bind_eq, Program.bind_ask, Program.bind_done,
    FaultyDepot.run, Program.run_ask]
  cases fault : faulty.faults faulty.calls with
  | some error =>
    have answered : faulty.answer way (.blob (.put
        { key := staging, upload := .digested limits source })) = _ :=
      answerBlob_of_fault faulty _ fault
    rw [answered]
    exact Or.inl ⟨error, rfl, rfl⟩
  | none =>
    cases accepted : limits.accepted? source with
    | none =>
      obtain ⟨error, outcome, put⟩ :=
        MemoryBlobs.put_of_refused faulty.depot.blobs staging accepted
      have answered : faulty.answer way (.blob (.put
          { key := staging, upload := .digested limits source })) = _ :=
        answerBlob_of_none faulty _ fault put
      rw [answered]
      exact Or.inl ⟨error, rfl, rfl⟩
    | some bytes =>
      have answered : faulty.answer way (.blob (.put
          { key := staging, upload := .digested limits source })) = _ :=
        answerBlob_of_none faulty _ fault fun token => MemoryBlobs.put_of_accepted token accepted
      rw [answered]
      refine Or.inr ⟨bytes, rfl, ?_⟩
      simp only [PutReply.event?]
      split
      · exact ⟨rfl, rfl, rfl⟩
      · exact ⟨rfl, rfl, rfl⟩

/-- The attempt to store content that is not registered ends with its fifth call, and the call
fails: after the put of the stream, the look for its descriptor, and the reading and the writing of
the copy, it is the deletion that a copying has to end with. -/
def CutShort (store : ContentStore) (way : Renaming) (faulty : FaultyDepot) (source : Source) :
    Prop :=
  way = .byCopy ∧
    (∃ bytes, store.limits.accepted? source = some bytes ∧
      faulty.contents.descriptors.get? (.ofBytes bytes) = none) ∧
    (faulty.faults (faulty.calls + 4)).isSome ∧
    (faulty.run way (store.tryCreate source)).2.calls = faulty.calls + 5

lemma attempted_tryCreate (apart : store.layout.Apart)
    (whole : ¬ store.CutShort way faulty source) :
    (faulty.run way (store.tryCreate source)).1.1 = store.stagingKey ⟨faulty.depot.issued⟩ ∧
    Attempted store source (store.stagingKey ⟨faulty.depot.issued⟩) faulty.contents
      (faulty.run way (store.tryCreate source)).1.2
      (faulty.run way (store.tryCreate source)).2.contents := by
  let begun : FaultyDepot :=
    { faulty with depot := { faulty.depot with issued := faulty.depot.issued + 1 } }
  have ingested := ingest_cases way begun store.limits
    (store.stagingKey ⟨faulty.depot.issued⟩) source
  have follows := begun.precedes_run way
    (ingest store.limits (store.stagingKey ⟨faulty.depot.issued⟩) source)
  have ran : faulty.run way (store.tryCreate source) = begun.run way
      ((ingest store.limits (store.stagingKey ⟨faulty.depot.issued⟩) source).bind fun
        | .error error => .done (store.stagingKey ⟨faulty.depot.issued⟩, .error ⟨error, none⟩)
        | .ok attributes =>
          (store.tryCommit (store.stagingKey ⟨faulty.depot.issued⟩) attributes).bind fun result =>
            .done (store.stagingKey ⟨faulty.depot.issued⟩, result)) := rfl
  unfold CutShort at whole
  rw [ran] at whole ⊢
  simp only [FaultyDepot.run, Program.run_bind] at ingested follows whole ⊢
  generalize Program.run (FaultyDepot.answer way) begun
    (ingest store.limits (store.stagingKey ⟨faulty.depot.issued⟩) source) = came
    at ingested follows whole ⊢
  obtain ⟨result, after⟩ := came
  rcases ingested with ⟨error, rfl, same⟩ | ⟨bytes, accepted, rfl, staged, counted⟩
  · refine ⟨rfl, ?_⟩
    show Attempted _ _ _ _ _ after.contents
    rw [same]
    exact .unstaged error
  · simp only [Program.run_bind, Program.run_done] at whole ⊢
    refine ⟨trivial, attempted_tryCommit (apart.staging_ne_object _ _) accepted staged ?_⟩
    intro copying absent deleting ended
    have calls : after.calls = faulty.calls + 1 := counted
    have faults : after.faults = faulty.faults := follows.faults
    rw [calls, faults] at deleting
    refine whole ⟨copying, ⟨bytes, accepted, absent⟩, deleting, ?_⟩
    rw [calls] at ended
    exact ended

/-! ### What is left in the end -/

/-- The blobs lie under the keys of registered content, and nowhere else. -/
def Tidy (store : ContentStore) (contents : Contents) : Prop :=
  ∀ key, key ∈ contents.blobs.keys ↔ ∃ id ∈ contents.descriptors.keys, key = store.objectKey id

/-- None of the calls fails with which an operation cleans up after its attempt to store content. -/
def CleansUp (store : ContentStore) (way : Renaming) (faulty : FaultyDepot) (source : Source) :
    Prop :=
  (faulty.run way (store.tryCreate source)).2.Spares way
    (store.conclude (faulty.run way (store.tryCreate source)).1.1
      (faulty.run way (store.tryCreate source)).1.2)

/-- If storing content fails, then the blobs are afterwards what they were before. -/
def KeepsBlobs (store : ContentStore) (way : Renaming) (faulty : FaultyDepot) (source : Source) :
    Prop :=
  ∀ error, (faulty.run way (store.create source)).1 = .error error →
    ∀ key, (faulty.run way (store.create source)).2.depot.blobs.get? key =
      faulty.depot.blobs.get? key

/-- What lies where the content of a stream belongs is that content. -/
def Undamaged (store : ContentStore) (blobs : MemoryBlobs) (source : Source) : Prop :=
  ∀ bytes found, store.limits.accepted? source = some bytes →
    blobs.get? (store.objectKey (.ofBytes bytes)) = some found → found = bytes

lemma Tidy.absent {contents : Contents} (tidy : store.Tidy contents) (apart : store.layout.Apart)
    (missing : contents.descriptors.get? id = none) :
    contents.blobs.get? (store.objectKey id) = none := by
  rw [Table.get?_eq_none_iff, tidy]
  rintro ⟨other, registered, same⟩
  obtain rfl := apart.object same
  rw [Table.get?_eq_none_iff] at missing
  exact missing registered

lemma Tidy.free {contents : Contents} (tidy : store.Tidy contents) (apart : store.layout.Apart)
    (token : Token) : contents.blobs.get? (store.stagingKey token) = none := by
  rw [Table.get?_eq_none_iff, tidy]
  rintro ⟨id, -, same⟩
  exact apart.staging_ne_object token id same

lemma Tidy.stored {contents : Contents} (tidy : store.Tidy contents)
    (undamaged : store.Undamaged contents.blobs source)
    (accepted : store.limits.accepted? source = some bytes) {holding : Holding}
    (registered : contents.descriptors.get? (.ofBytes bytes) = some holding) :
    contents.blobs.get? (store.objectKey (.ofBytes bytes)) = some bytes := by
  have listed : store.objectKey (.ofBytes bytes) ∈ contents.blobs.keys :=
    (tidy _).2 ⟨_, Table.mem_keys_iff.2 ⟨holding, registered⟩, rfl⟩
  obtain ⟨found, there⟩ := Table.mem_keys_iff.1 listed
  rw [there, undamaged bytes found accepted there]

/-- What is left once the orphan and the staged bytes of an attempt are dropped is what was there
before. -/
lemma Attempted.restored (apart : store.layout.Apart) {setback : Setback} {after : Contents}
    {token : Token} (tidy : store.Tidy before) (undamaged : store.Undamaged before.blobs source)
    (attempted : Attempted store source (store.stagingKey token) before (.error setback) after)
    (faulty : FaultyDepot) (same : faulty.contents = after)
    (spares : faulty.Spares way (store.conclude (store.stagingKey token) (.error setback)))
    (key : String) :
    (faulty.run way (store.conclude (store.stagingKey token)
      (.error setback))).2.contents.blobs.get? key = before.blobs.get? key := by
  have free := tidy.free apart token
  obtain ⟨spares, rest⟩ := Spares.bind spares
  obtain ⟨rest, -⟩ := Spares.bind rest
  obtain ⟨-, unstaged⟩ := discardStaging_of_spared rest
  have ran : (faulty.run way (store.conclude (store.stagingKey token) (.error setback))).2 =
      ((faulty.run way (store.dropOrphan setback.orphan)).2.run way
        (discardStaging (store.stagingKey token))).2 := by
    simp only [conclude, Program.bind_eq, FaultyDepot.run, Program.run_bind, Program.pure_eq,
      Program.run_done]
  rw [ran, unstaged]
  split
  · next staging => rw [staging, free]
  next other =>
  cases attempted with
  | unstaged error =>
    show faulty.contents.blobs.get? key = _
    rw [same]
  | staged error bytes =>
    show faulty.contents.blobs.get? key = _
    rw [same, Table.get?_insert, if_neg other]
  | copied error accepted registered =>
    show faulty.contents.blobs.get? key = _
    rw [same, Table.get?_insert, Table.get?_insert, if_neg other]
    split
    · next object => rw [object, tidy.stored undamaged accepted registered]
    · rfl
  | @orphaned bytes after error accepted kept moved =>
    subst same
    cases registered : before.descriptors.get? (.ofBytes bytes) with
    | none =>
      have dropped := discardOrphan_of_absent spares (by rw [kept]; exact registered)
      refine (dropped key).trans ?_
      rw [moved, if_neg other]
      split
      · next object => rw [object, tidy.absent apart registered]
      · rfl
    | some holding =>
      have left := discardOrphan_of_registered spares (by rw [kept]; exact registered)
      refine (congrArg (fun contents : Contents => contents.blobs.get? key) left).trans ?_
      rw [moved, if_neg other]
      split
      · next object => rw [object, tidy.stored undamaged accepted registered]
      · rfl

/-- Storing content that fails leaves the blobs as they were, whatever calls fail before it cleans
up, unless a copy could not be completed or other bytes lay where the content belongs. -/
theorem failed_create_leaves_blobs {limits : IngestLimits} (way : Renaming) (faulty : FaultyDepot)
    (source : Source) (tidy : Tidy { limits } faulty.contents)
    (cleansUp : CleansUp { limits } way faulty source)
    (undamaged : Undamaged { limits } faulty.depot.blobs source)
    (whole : ¬ CutShort { limits } way faulty source) :
    KeepsBlobs { limits } way faulty source := by
  have apart : KeyLayout.fanned.Apart := KeyLayout.fanned_apart
  obtain ⟨staging, attempted⟩ := attempted_tryCreate apart whole
  intro error failed key
  unfold CleansUp at cleansUp
  rw [create_eq, run_bind] at failed ⊢
  rw [staging] at cleansUp failed ⊢
  show ((faulty.run way _).2.run way _).2.contents.blobs.get? key = _
  generalize faulty.run way (tryCreate { limits } source) = came at *
  obtain ⟨⟨_, stored | setback⟩, after⟩ := came
  · exact attempted.restored apart tidy undamaged after rfl cleansUp key
  · contradiction

/-! ### Runs with given faults -/

/-- The depot in which one content is registered, and some bytes lie where it belongs. -/
def depotHolding (bytes found : Bytes) : MemoryDepot :=
  { MemoryDepot.vacant ⟨0, 0⟩ with
    blobs := (∅ : MemoryBlobs).insert (KeyLayout.fanned.objectKey (.ofBytes bytes)) found
    descriptors := (∅ : MemoryDescriptors).insert (.ofBytes bytes)
      ⟨IngestLimits.descriptorOf {} bytes, 1⟩ }

lemma tidy_depotHolding (bytes found : Bytes) : Tidy {} (depotHolding bytes found).contents := by
  intro key
  simp [Table.mem_keys_iff, MemoryDepot.contents, depotHolding, objectKey]

lemma tidy_vacant : Tidy {} (MemoryDepot.vacant ⟨0, 0⟩).contents := by
  intro key
  simp [Table.mem_keys_iff, MemoryDepot.contents, MemoryDepot.vacant]

/-- The depot in which some of the calls to come fail. -/
def failingAt (depot : MemoryDepot) (faults : List (Nat × StoreError)) : FaultyDepot :=
  ⟨depot, fun call => faults.lookup call, 0⟩

lemma cleansUp_failingAt {depot : MemoryDepot} {faults : List (Nat × StoreError)}
    (early : ∀ fault ∈ faults,
      fault.1 < ((failingAt depot faults).run way (store.tryCreate source)).2.calls) :
    CleansUp store way (failingAt depot faults) source := by
  intro call late _
  rw [((failingAt depot faults).precedes_run way _).faults]
  show faults.lookup call = none
  rw [List.lookup_eq_none_iff]
  intro fault listed
  have before := early fault listed
  simp only [bne_iff_ne, ne_eq]
  omega

/-- Content is registered already, which its descriptors deny, so that it is copied once more over
itself, and the copy cannot be completed: what is left is what was there before. -/
theorem failed_create_leaves_blobs_denied :
    ((failingAt (depotHolding [120] [120]) [(2, .notFound "x"), (5, .backend none)]).run .byCopy
        (create {} (.ofBytes [120]))).1 = .error (.backend none) ∧
      KeepsBlobs {} .byCopy
        (failingAt (depotHolding [120] [120]) [(2, .notFound "x"), (5, .backend none)])
        (.ofBytes [120]) := by
  have ran : (∀ fault ∈ [(2, StoreError.notFound "x"), (5, .backend none)], fault.1 <
        ((failingAt (depotHolding [120] [120]) [(2, .notFound "x"), (5, .backend none)]).run .byCopy
          (tryCreate {} (.ofBytes [120]))).2.calls) ∧
      ((failingAt (depotHolding [120] [120]) [(2, .notFound "x"), (5, .backend none)]).run .byCopy
        (create {} (.ofBytes [120]))).1 = .error (.backend none) := by decide +kernel
  refine ⟨ran.2, ?_⟩
  refine failed_create_leaves_blobs .byCopy _ _ (tidy_depotHolding _ _)
    (cleansUp_failingAt ran.1) ?_ ?_
  · intro bytes found accepted there
    obtain rfl : [120] = bytes := Option.some.inj accepted
    exact (Option.some.inj ((Table.get?_insert_self _ _ _).symm.trans there)).symm
  · rintro ⟨-, -, fault, -⟩
    exact absurd fault (by decide)

/-- It is enough to look at one run that fails, after whose attempt no call fails any more. -/
lemma exists_residue_of_run (way : Renaming) (depot : MemoryDepot)
    (faults : List (Nat × StoreError)) (source : Source) (error : StoreError) (key : String)
    (tidy : store.Tidy depot.contents)
    (ran : (∀ fault ∈ faults,
        fault.1 < ((failingAt depot faults).run way (store.tryCreate source)).2.calls) ∧
      ((failingAt depot faults).run way (store.create source)).1 = .error error ∧
      ((failingAt depot faults).run way (store.create source)).2.depot.blobs.get? key ≠
        depot.blobs.get? key) :
    ¬ ∀ faulty source, store.Tidy faulty.contents → store.CleansUp way faulty source →
      store.KeepsBlobs way faulty source := by
  obtain ⟨early, failed, changed⟩ := ran
  intro keeps
  exact changed
    (keeps (failingAt depot faults) source tidy (cleansUp_failingAt early) error failed key)

/-- Without either of the two conditions, bytes are left behind or lost. Where other bytes lie in
the place of content whose owner cannot be counted, they are replaced by the content; and where the
copy of new content cannot be completed, it stays. -/
theorem exists_residue :
    (¬ ∀ faulty source, Tidy {} faulty.contents → CleansUp {} .native faulty source →
      KeepsBlobs {} .native faulty source) ∧
    ¬ ∀ faulty source, Tidy {} faulty.contents → CleansUp {} .byCopy faulty source →
      KeepsBlobs {} .byCopy faulty source := by
  constructor
  · exact exists_residue_of_run .native (depotHolding [120] [121])
      [(2, .notFound "x"), (4, .backend none)] (.ofBytes [120]) (.backend none)
      (KeyLayout.fanned.objectKey (.ofBytes [120])) (tidy_depotHolding _ _) (by decide +kernel)
  · exact exists_residue_of_run .byCopy (MemoryDepot.vacant ⟨0, 0⟩) [(4, .backend none)]
      (.ofBytes [120]) (.backend none) (KeyLayout.fanned.objectKey (.ofBytes [120])) tidy_vacant
      (by decide +kernel)

end ContentStore

end AssetCache
