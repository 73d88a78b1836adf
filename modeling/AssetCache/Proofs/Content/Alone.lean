import AssetCache.Proofs.Content.Integrity

/-!
# Operations that run alone

What the operations of a content store come to in a depot in memory where no call fails and nobody
else is at work, and what they leave in the two tables.
-/

namespace AssetCache

variable {α β : Type}

namespace MemoryDepot

/-- An operation comes to a result and leaves the two tables in some state. -/
def Yields (depot : MemoryDepot) (operation : Operation α) (result : α) (contents : Contents) :
    Prop :=
  (depot.run operation).1 = result ∧ MemoryDepot.contents (depot.run operation).2 = contents

variable {depot : MemoryDepot} {result : α} {contents contents' : Contents}

lemma yields_done (same : depot.contents = contents) :
    depot.Yields (.done result) result contents :=
  ⟨rfl, same⟩

/-- An operation that goes on with the result of another goes on with the tables that it left. -/
lemma Yields.bind {first : Operation β} {next : β → Operation α} {between : β}
    (yields : depot.Yields first between contents)
    (rest : ∀ depot : MemoryDepot, depot.contents = contents →
      depot.Yields (next between) result contents') :
    depot.Yields (first.bind next) result contents' := by
  obtain ⟨came, left⟩ := yields
  unfold Yields Depot.run
  rw [Program.run_bind]
  have ended := rest (depot.run first).2 left
  rw [← came] at ended
  exact ended

lemma yields_report {event : Event} (same : depot.contents = contents) :
    depot.Yields (Operation.report event) () contents :=
  ⟨rfl, same⟩

lemma yields_token (same : depot.contents = contents) :
    depot.Yields Operation.token ⟨depot.issued⟩ contents :=
  ⟨rfl, same⟩

lemma yields_blob (call : BlobCall) {reply : call.Answer} {blobs : MemoryBlobs}
    (same : depot.contents = contents)
    (answered : ∀ token, BlobStore.answer token contents.blobs call = (reply, blobs)) :
    depot.Yields (Operation.blob call) reply ⟨blobs, contents.descriptors⟩ := by
  obtain rfl := same
  obtain ⟨came, left⟩ := Prod.ext_iff.1 (answered ⟨depot.issued⟩)
  exact ⟨came, congrArg (Contents.mk · depot.descriptors) left⟩

lemma yields_descriptor (call : DescriptorCall) {reply : call.Answer}
    {descriptors : MemoryDescriptors} (same : depot.contents = contents)
    (answered : DescriptorStore.perform contents.descriptors call = (reply, descriptors)) :
    depot.Yields (Operation.descriptor call) reply ⟨contents.blobs, descriptors⟩ := by
  obtain rfl := same
  obtain ⟨came, left⟩ := Prod.ext_iff.1 answered
  exact ⟨came, congrArg (Contents.mk depot.blobs) left⟩

end MemoryDepot

namespace ContentStore

open MemoryDepot Operation Program

variable {store : ContentStore} {depot : MemoryDepot} {blobs : MemoryBlobs}
  {descriptors descriptors' : MemoryDescriptors} {staging : String} {bytes : Bytes}
  {id : ContentId} {record : Descriptor} {owners : Nat}

lemma yields_discardStaging (same : depot.contents = ⟨blobs, descriptors⟩)
    (absent : blobs.get? staging = none) :
    depot.Yields (discardStaging staging) () ⟨blobs, descriptors⟩ := by
  refine (yields_blob (.delete staging) same fun _ => MemoryBlobs.delete_of_absent absent).bind ?_
  intro depot same
  exact yields_done same

lemma yields_promote (same : depot.contents = ⟨blobs, descriptors⟩)
    (staged : blobs.get? staging = some bytes)
    (created : descriptors.create id record = (.ok owners, descriptors')) :
    depot.Yields (store.promote staging id record) (.ok ⟨id, record, owners⟩)
      ⟨(blobs.erase staging).insert (store.objectKey id) bytes, descriptors'⟩ := by
  refine (yields_blob (.rename _ _) same fun _ => MemoryBlobs.rename_of_present staged).bind ?_
  intro depot same
  refine (yields_descriptor (.create id record) same created).bind ?_
  intro depot same
  exact yields_done same

/-- Dropping staged bytes leaves the content that is there as it is. -/
lemma yields_deduplicate {holding : Holding} (same : depot.contents = ⟨blobs, descriptors⟩)
    (staged : blobs.get? staging = some bytes) (found : descriptors.get? id = some holding) :
    depot.Yields (deduplicate staging id record owners) ⟨id, holding.descriptor, owners⟩
      ⟨blobs.erase staging, descriptors⟩ := by
  refine (yields_blob (.delete staging) same fun _ => MemoryBlobs.delete_of_present staged).bind ?_
  intro depot same
  have read : DescriptorStore.perform descriptors (.read id) =
      (.ok holding.descriptor, descriptors) := by
    simp only [DescriptorStore.perform, DescriptorStore.read, MemoryDescriptors.read, found]
  refine (yields_descriptor (.read id) same read).bind ?_
  intro depot same
  exact yields_done same

/-- Content that is not there gets its blob and its first owner. -/
lemma yields_commit_absent (same : depot.contents = ⟨blobs, descriptors⟩)
    (staged : blobs.get? staging = some bytes)
    (absent : descriptors.get? (.ofBytes bytes) = none) :
    depot.Yields (store.commit staging (store.limits.attributesOf bytes))
      (.ok ⟨.ofBytes bytes, store.limits.descriptorOf bytes, 1⟩)
      ⟨(blobs.erase staging).insert (store.objectKey (.ofBytes bytes)) bytes,
        descriptors.insert (.ofBytes bytes) ⟨store.limits.descriptorOf bytes, 1⟩⟩ := by
  have contained : DescriptorStore.perform descriptors (.contains (.ofBytes bytes)) =
      (.ok false, descriptors) := by
    simp [DescriptorStore.perform, DescriptorStore.contains, Table.contains, absent]
  have created := MemoryDescriptors.create_eq descriptors (.ofBytes bytes)
    (store.limits.descriptorOf bytes)
  rw [absent] at created
  refine (yields_descriptor (.contains (.ofBytes bytes)) same contained).bind ?_
  intro depot same
  exact yields_promote same staged created

lemma yields_commit_present {holding : Holding} (same : depot.contents = ⟨blobs, descriptors⟩)
    (staged : blobs.get? staging = some bytes)
    (found : descriptors.get? (.ofBytes bytes) = some holding) :
    depot.Yields (store.commit staging (store.limits.attributesOf bytes))
      (.ok ⟨.ofBytes bytes, holding.descriptor, holding.owners + 1⟩)
      ⟨blobs.erase staging,
        descriptors.insert (.ofBytes bytes) { holding with owners := holding.owners + 1 }⟩ := by
  have contained : DescriptorStore.perform descriptors (.contains (.ofBytes bytes)) =
      (.ok true, descriptors) := by
    simp [DescriptorStore.perform, DescriptorStore.contains, Table.contains, found]
  have duplicated := MemoryDescriptors.duplicate_of_present found
  have found' : (descriptors.insert (.ofBytes bytes)
      { holding with owners := holding.owners + 1 }).get? (.ofBytes bytes) =
      some { holding with owners := holding.owners + 1 } := by
    rw [Table.get?_insert, if_pos rfl]
  refine (yields_descriptor (.contains (.ofBytes bytes)) same contained).bind ?_
  intro depot same
  refine (yields_descriptor (.duplicate (.ofBytes bytes)) same duplicated).bind ?_
  intro depot same
  refine (yields_deduplicate same staged found').bind ?_
  intro depot same
  exact yields_done same

variable {limits : IngestLimits} {source : Source} {key : String}

lemma yields_ingest_accepted (same : depot.contents = ⟨blobs, descriptors⟩)
    (accepted : limits.accepted? source = some bytes) :
    depot.Yields (ingest limits key source) (.ok (limits.attributesOf bytes))
      ⟨blobs.insert key bytes, descriptors⟩ := by
  refine (yields_blob (.put { key, upload := .digested limits source }) same fun token =>
    MemoryBlobs.put_of_accepted token accepted).bind ?_
  intro depot same
  simp only [PutReply.event?]
  split
  · exact (yields_report same).bind fun _ same => yields_done same
  · exact yields_done same

lemma yields_ingest_refused (key : String) (blobs : MemoryBlobs)
    (descriptors : MemoryDescriptors) (refused : limits.accepted? source = none) :
    ∃ error, ∀ depot : MemoryDepot, depot.contents = ⟨blobs, descriptors⟩ →
      depot.Yields (ingest limits key source) (.error error) ⟨blobs, descriptors⟩ := by
  obtain ⟨error, outcome, put⟩ := MemoryBlobs.put_of_refused blobs key refused
  refine ⟨error, ?_⟩
  intro depot same
  refine (yields_blob (.put { key, upload := .digested limits source }) same put).bind ?_
  intro depot same
  exact (yields_report same).bind fun _ same => yields_done same

/-! ### Whole operations -/

/-- A stream that is not taken in leaves nothing behind. -/
lemma yields_create_refused (same : depot.contents = ⟨blobs, descriptors⟩)
    (free : ∀ token, blobs.get? (store.stagingKey token) = none)
    (refused : store.limits.accepted? source = none) :
    ∃ error, depot.Yields (store.create source) (.error error) ⟨blobs, descriptors⟩ := by
  obtain ⟨error, ingested⟩ := yields_ingest_refused
    (store.stagingKey ⟨depot.issued⟩) blobs descriptors refused
  refine ⟨error, (yields_token same).bind ?_⟩
  intro depot' same
  refine (ingested depot' same).bind ?_
  intro depot' same
  refine (yields_discardStaging same (free ⟨depot.issued⟩)).bind ?_
  intro depot' same
  exact yields_done same

lemma yields_create_absent (same : depot.contents = ⟨blobs, descriptors⟩)
    (free : ∀ token, blobs.get? (store.stagingKey token) = none)
    (accepted : store.limits.accepted? source = some bytes)
    (absent : descriptors.get? (.ofBytes bytes) = none) :
    depot.Yields (store.create source)
      (.ok ⟨.ofBytes bytes, store.limits.descriptorOf bytes, 1⟩)
      ⟨blobs.insert (store.objectKey (.ofBytes bytes)) bytes,
        descriptors.insert (.ofBytes bytes) ⟨store.limits.descriptorOf bytes, 1⟩⟩ := by
  have unused : blobs.get? (store.layout.stagingKey (Token.mk depot.issued).text) = none :=
    free ⟨depot.issued⟩
  refine (yields_token same).bind ?_
  intro depot' same
  refine (yields_ingest_accepted same accepted).bind ?_
  intro depot' same
  refine (yields_commit_absent same (Table.get?_insert_self _ _ _) absent).bind ?_
  intro depot' same
  rw [Table.erase_insert_of_absent unused] at same
  exact (yields_report same).bind fun _ same => yields_done same

/-- Content that is there is not stored again, and has an owner more. -/
lemma yields_create_present {holding : Holding} (same : depot.contents = ⟨blobs, descriptors⟩)
    (free : ∀ token, blobs.get? (store.stagingKey token) = none)
    (accepted : store.limits.accepted? source = some bytes)
    (found : descriptors.get? (.ofBytes bytes) = some holding) :
    depot.Yields (store.create source)
      (.ok ⟨.ofBytes bytes, holding.descriptor, holding.owners + 1⟩)
      ⟨blobs,
        descriptors.insert (.ofBytes bytes) { holding with owners := holding.owners + 1 }⟩ := by
  have unused : blobs.get? (store.layout.stagingKey (Token.mk depot.issued).text) = none :=
    free ⟨depot.issued⟩
  refine (yields_token same).bind ?_
  intro depot' same
  refine (yields_ingest_accepted same accepted).bind ?_
  intro depot' same
  refine (yields_commit_present same (Table.get?_insert_self _ _ _) found).bind ?_
  intro depot' same
  rw [Table.erase_insert_of_absent unused] at same
  exact (yields_report same).bind fun _ same => yields_done same

lemma yields_read_absent (store : ContentStore) (same : depot.contents = ⟨blobs, descriptors⟩)
    (absent : descriptors.get? id = none) :
    depot.Yields (store.read id) (.error (.notFound id.text)) ⟨blobs, descriptors⟩ := by
  have missing : DescriptorStore.perform descriptors (.read id) =
      (.error (.notFound id.text), descriptors) := by
    simp only [DescriptorStore.perform, DescriptorStore.read, MemoryDescriptors.read, absent]
  refine (yields_descriptor (.read id) same missing).bind ?_
  intro depot same
  exact yields_done same

lemma yields_read_present {holding : Holding} (same : depot.contents = ⟨blobs, descriptors⟩)
    (found : descriptors.get? id = some holding)
    (stored : blobs.get? (store.objectKey id) = some bytes) :
    depot.Yields (store.read id) (.ok ⟨holding.descriptor, .ofBytes bytes⟩)
      ⟨blobs, descriptors⟩ := by
  have read : DescriptorStore.perform descriptors (.read id) =
      (.ok holding.descriptor, descriptors) := by
    simp only [DescriptorStore.perform, DescriptorStore.read, MemoryDescriptors.read, found]
  have got (token : Token) : BlobStore.answer token blobs (.get (store.objectKey id)) =
      (.ok (.ofBytes bytes), blobs) := by
    simp only [BlobStore.answer, BlobStore.get, MemoryBlobs.get, stored]
  refine (yields_descriptor (.read id) same read).bind ?_
  intro depot same
  refine (yields_blob (.get (store.objectKey id)) same got).bind ?_
  intro depot same
  exact yields_done same

lemma yields_contains (id : ContentId) (same : depot.contents = ⟨blobs, descriptors⟩) :
    depot.Yields (contains id) (.ok (descriptors.contains id)) ⟨blobs, descriptors⟩ :=
  yields_descriptor (.contains id) same rfl

lemma yields_duplicate_absent (same : depot.contents = ⟨blobs, descriptors⟩)
    (absent : descriptors.get? id = none) :
    depot.Yields (duplicate id) (.error (.notFound id.text)) ⟨blobs, descriptors⟩ :=
  yields_descriptor (.duplicate id) same (MemoryDescriptors.duplicate_of_absent absent)

lemma yields_duplicate_present {holding : Holding}
    (same : depot.contents = ⟨blobs, descriptors⟩) (found : descriptors.get? id = some holding) :
    depot.Yields (duplicate id) (.ok (holding.owners + 1))
      ⟨blobs, descriptors.insert id { holding with owners := holding.owners + 1 }⟩ :=
  yields_descriptor (.duplicate id) same (MemoryDescriptors.duplicate_of_present found)

lemma yields_delete_absent (store : ContentStore) (same : depot.contents = ⟨blobs, descriptors⟩)
    (absent : descriptors.get? id = none) :
    depot.Yields (store.delete id) (.ok .missing) ⟨blobs, descriptors⟩ := by
  refine (yields_descriptor (.delete id) same (MemoryDescriptors.delete_of_absent absent)).bind ?_
  intro depot same
  exact yields_done same

lemma yields_delete_shared (store : ContentStore) {holding : Holding}
    (same : depot.contents = ⟨blobs, descriptors⟩)
    (found : descriptors.get? id = some holding) (shared : 1 < holding.owners) :
    depot.Yields (store.delete id) (.ok (.released (holding.owners - 1)))
      ⟨blobs, descriptors.insert id { holding with owners := holding.owners - 1 }⟩ := by
  refine (yields_descriptor (.delete id) same
    (MemoryDescriptors.delete_of_shared found shared)).bind ?_
  intro depot same
  exact yields_done same

/-- The blob goes with its last owner. -/
lemma yields_delete_last {holding : Holding} (same : depot.contents = ⟨blobs, descriptors⟩)
    (found : descriptors.get? id = some holding) (last : holding.owners ≤ 1)
    (stored : blobs.get? (store.objectKey id) = some bytes) :
    depot.Yields (store.delete id) (.ok .removed)
      ⟨blobs.erase (store.objectKey id), descriptors.erase id⟩ := by
  refine (yields_descriptor (.delete id) same
    (MemoryDescriptors.delete_of_last found last)).bind ?_
  intro depot same
  refine (yields_blob (.delete (store.objectKey id)) same fun _ =>
    MemoryBlobs.delete_of_present stored).bind ?_
  intro depot same
  exact (yields_report same).bind fun _ same => yields_done same

/-! ### What a call comes to -/

/-- What a call to a content store comes to, and what it does to the two tables, where no call to
the tables fails and nobody else is at work. -/
inductive Serves (store : ContentStore) :
    Contents → (call : ContentCall) → call.Answer → Contents → Prop
  | refuse {source : Source} (contents : Contents) (error : StoreError)
    (refused : store.limits.accepted? source = none) :
    Serves store contents (.create source) (.error error) contents
  | store {source : Source} {bytes : Bytes} {blobs : MemoryBlobs}
    {descriptors : MemoryDescriptors} (accepted : store.limits.accepted? source = some bytes)
    (absent : descriptors.get? (.ofBytes bytes) = none) :
    Serves store ⟨blobs, descriptors⟩ (.create source)
      (.ok ⟨.ofBytes bytes, store.limits.descriptorOf bytes, 1⟩)
      ⟨blobs.insert (store.objectKey (.ofBytes bytes)) bytes,
        descriptors.insert (.ofBytes bytes) ⟨store.limits.descriptorOf bytes, 1⟩⟩
  | share {source : Source} {bytes : Bytes} {holding : Holding} {blobs : MemoryBlobs}
    {descriptors : MemoryDescriptors} (accepted : store.limits.accepted? source = some bytes)
    (found : descriptors.get? (.ofBytes bytes) = some holding) :
    Serves store ⟨blobs, descriptors⟩ (.create source)
      (.ok ⟨.ofBytes bytes, holding.descriptor, holding.owners + 1⟩)
      ⟨blobs,
        descriptors.insert (.ofBytes bytes) { holding with owners := holding.owners + 1 }⟩
  | readMissing {id : ContentId} {contents : Contents}
    (absent : contents.descriptors.get? id = none) :
    Serves store contents (.read id) (.error (.notFound id.text)) contents
  | read {id : ContentId} {holding : Holding} {bytes : Bytes} {contents : Contents}
    (found : contents.descriptors.get? id = some holding)
    (stored : contents.blobs.get? (store.objectKey id) = some bytes) :
    Serves store contents (.read id) (.ok ⟨holding.descriptor, .ofBytes bytes⟩) contents
  | contains (id : ContentId) (contents : Contents) :
    Serves store contents (.contains id) (.ok (contents.descriptors.contains id)) contents
  | duplicateMissing {id : ContentId} {contents : Contents}
    (absent : contents.descriptors.get? id = none) :
    Serves store contents (.duplicate id) (.error (.notFound id.text)) contents
  | duplicate {id : ContentId} {holding : Holding} {blobs : MemoryBlobs}
    {descriptors : MemoryDescriptors} (found : descriptors.get? id = some holding) :
    Serves store ⟨blobs, descriptors⟩ (.duplicate id) (.ok (holding.owners + 1))
      ⟨blobs, descriptors.insert id { holding with owners := holding.owners + 1 }⟩
  | deleteMissing {id : ContentId} {contents : Contents}
    (absent : contents.descriptors.get? id = none) :
    Serves store contents (.delete id) (.ok .missing) contents
  | release {id : ContentId} {holding : Holding} {blobs : MemoryBlobs}
    {descriptors : MemoryDescriptors} (found : descriptors.get? id = some holding)
    (shared : 1 < holding.owners) :
    Serves store ⟨blobs, descriptors⟩ (.delete id) (.ok (.released (holding.owners - 1)))
      ⟨blobs, descriptors.insert id { holding with owners := holding.owners - 1 }⟩
  | remove {id : ContentId} {holding : Holding} {blobs : MemoryBlobs}
    {descriptors : MemoryDescriptors} (found : descriptors.get? id = some holding)
    (last : holding.owners ≤ 1) :
    Serves store ⟨blobs, descriptors⟩ (.delete id) (.ok .removed)
      ⟨blobs.erase (store.objectKey id), descriptors.erase id⟩

/-- Every operation serves its call, where nothing is left of earlier operations under a staging
key and all content that is registered has its blob. -/
theorem serves_answer (call : ContentCall) (depot : MemoryDepot)
    (free : ∀ token, depot.contents.blobs.get? (store.stagingKey token) = none)
    (backed : ∀ id holding, depot.contents.descriptors.get? id = some holding →
      ∃ bytes, depot.contents.blobs.get? (store.objectKey id) = some bytes) :
    Serves store depot.contents call (depot.run (store.answer call)).1
      (MemoryDepot.contents (depot.run (store.answer call)).2) := by
  cases call with
  | create source =>
    cases accepted : store.limits.accepted? source with
    | none =>
      obtain ⟨error, came, left⟩ := yields_create_refused rfl free accepted
      rw [answer, came, left]
      exact .refuse _ error accepted
    | some bytes =>
      cases found : depot.contents.descriptors.get? (.ofBytes bytes) with
      | none =>
        obtain ⟨came, left⟩ := yields_create_absent rfl free accepted found
        rw [answer, came, left]
        exact .store accepted found
      | some holding =>
        obtain ⟨came, left⟩ := yields_create_present rfl free accepted found
        rw [answer, came, left]
        exact .share accepted found
  | read id =>
    cases found : depot.contents.descriptors.get? id with
    | none =>
      obtain ⟨came, left⟩ := yields_read_absent store rfl found
      rw [answer, came, left]
      exact .readMissing found
    | some holding =>
      obtain ⟨bytes, stored⟩ := backed id holding found
      obtain ⟨came, left⟩ := yields_read_present rfl found stored
      rw [answer, came, left]
      exact .read found stored
  | contains id =>
    obtain ⟨came, left⟩ := yields_contains id (rfl : depot.contents = _)
    rw [answer, came, left]
    exact .contains id _
  | duplicate id =>
    cases found : depot.contents.descriptors.get? id with
    | none =>
      obtain ⟨came, left⟩ := yields_duplicate_absent rfl found
      rw [answer, came, left]
      exact .duplicateMissing found
    | some holding =>
      obtain ⟨came, left⟩ := yields_duplicate_present rfl found
      rw [answer, came, left]
      exact .duplicate found
  | delete id =>
    cases found : depot.contents.descriptors.get? id with
    | none =>
      obtain ⟨came, left⟩ := yields_delete_absent store rfl found
      rw [answer, came, left]
      exact .deleteMissing found
    | some holding =>
      rcases Nat.lt_or_ge 1 holding.owners with shared | last
      · obtain ⟨came, left⟩ := yields_delete_shared store rfl found shared
        rw [answer, came, left]
        exact .release found shared
      · obtain ⟨bytes, stored⟩ := backed id holding found
        obtain ⟨came, left⟩ := yields_delete_last rfl found last stored
        rw [answer, came, left]
        exact .remove found last

end ContentStore

end AssetCache
