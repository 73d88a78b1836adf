import AssetCache.Proofs.Content.Steps
import Mathlib.Data.List.Nodup

/-!
# Registered content has its blob

Whatever fails, content that is registered has a blob, and the blob is the content: its hash is the
identity, and its size is the size in the descriptor. An operation that fails may leave blobs behind
that nobody has registered, but it never takes a blob away that somebody has.
-/

namespace AssetCache

namespace ContentStore

/-- The bytes of a stream that comes in. -/
def Ingests (store : ContentStore) (admits : Source → Prop) (bytes : Bytes) : Prop :=
  ∃ source, admits source ∧ store.limits.accepted? source = some bytes

/-- No two contents that come in have the same hash. -/
def Collisionless (store : ContentStore) (admits : Source → Prop) : Prop :=
  ∀ bytes bytes', store.Ingests admits bytes → store.Ingests admits bytes' →
    Sha1.hexDigest bytes = Sha1.hexDigest bytes' → bytes = bytes'

variable {store : ContentStore} {admits : Source → Prop}

lemma Collisionless.ofBytes_inj (collisionless : store.Collisionless admits) {bytes bytes' : Bytes}
    (first : store.Ingests admits bytes) (second : store.Ingests admits bytes')
    (same : ContentId.ofBytes bytes = .ofBytes bytes') : bytes = bytes' :=
  collisionless bytes bytes' first second (congrArg ContentId.text same)

/-- A few contents with different hashes do not collide. -/
lemma collisionless_of_nodup (contents : List Bytes)
    (listed : ∀ bytes, store.Ingests admits bytes → bytes ∈ contents)
    (different : (contents.map Sha1.hexDigest).Nodup) : store.Collisionless admits :=
  fun bytes bytes' first second same =>
    List.inj_on_of_nodup_map different (listed bytes first) (listed bytes' second) same

/-- The bytes that come in with some calls. -/
def ingested (store : ContentStore) (calls : List ContentCall) : List Bytes :=
  calls.filterMap fun
    | .create source => store.limits.accepted? source
    | _ => none

lemma ingests_calls_iff (calls : List ContentCall) (bytes : Bytes) :
    store.Ingests (fun source => .create source ∈ calls) bytes ↔ bytes ∈ store.ingested calls := by
  unfold Ingests ingested
  rw [List.mem_filterMap]
  constructor
  · rintro ⟨source, called, accepted⟩
    exact ⟨.create source, called, accepted⟩
  · rintro ⟨call, called, accepted⟩
    cases call with
    | create source => exact ⟨source, called, accepted⟩
    | _ => contradiction

/-- All content that is registered lies in the blobs. -/
def Backed (store : ContentStore) (admits : Source → Prop) (contents : Contents) : Prop :=
  ∀ id holding, contents.descriptors.get? id = some holding →
    ∃ bytes, store.Ingests admits bytes ∧ id = .ofBytes bytes ∧
      holding.descriptor = store.limits.descriptorOf bytes ∧
      contents.blobs.get? (store.objectKey id) = some bytes

section Backed

variable {blobs blobs' : MemoryBlobs} {descriptors descriptors' : MemoryDescriptors}
  {bytes : Bytes}

/-- Registered content stays where it is when only staged blobs change. -/
lemma Backed.of_staging (backed : store.Backed admits ⟨blobs, descriptors⟩)
    (same : ∀ id, blobs'.get? (store.objectKey id) = blobs.get? (store.objectKey id)) :
    store.Backed admits ⟨blobs', descriptors⟩ := by
  intro id holding found
  obtain ⟨bytes, ingested, named, described, stored⟩ := backed id holding found
  exact ⟨bytes, ingested, named, described, (same id).trans stored⟩

/-- Registered content stays where it is when owners come and go. -/
lemma Backed.of_owners (backed : store.Backed admits ⟨blobs, descriptors⟩)
    (same : ∀ id holding, descriptors'.get? id = some holding →
      ∃ held, descriptors.get? id = some held ∧ holding.descriptor = held.descriptor) :
    store.Backed admits ⟨blobs, descriptors'⟩ := by
  intro id holding found
  obtain ⟨held, found', described⟩ := same id holding found
  rw [described]
  exact backed id held found'

/-- Storing bytes where their content lies does no harm, even if it is there already. -/
lemma Backed.of_stored (backed : store.Backed admits ⟨blobs, descriptors⟩)
    (collisionless : store.Collisionless admits) (ingested : store.Ingests admits bytes)
    (stored : blobs'.get? (store.objectKey (.ofBytes bytes)) = some bytes)
    (same : ∀ id, id ≠ .ofBytes bytes →
      blobs'.get? (store.objectKey id) = blobs.get? (store.objectKey id)) :
    store.Backed admits ⟨blobs', descriptors⟩ := by
  intro id holding found
  obtain ⟨bytes', ingested', named, described, stored'⟩ := backed id holding found
  by_cases again : id = .ofBytes bytes
  · have equal : bytes' = bytes := collisionless.ofBytes_inj ingested' ingested (named ▸ again)
    rw [again]
    exact ⟨bytes, ingested, rfl, equal ▸ described, stored⟩
  · exact ⟨bytes', ingested', named, described, (same id again).trans stored'⟩

/-- Content may be registered once it lies in the blobs. -/
lemma Backed.of_create {owners : Nat} (backed : store.Backed admits ⟨blobs, descriptors⟩)
    (ingested : store.Ingests admits bytes)
    (stored : blobs.get? (store.objectKey (.ofBytes bytes)) = some bytes)
    (created : descriptors.create (.ofBytes bytes) (store.limits.descriptorOf bytes) =
      (.ok owners, descriptors')) :
    store.Backed admits ⟨blobs, descriptors'⟩ := by
  rw [MemoryDescriptors.create_eq] at created
  obtain ⟨-, rfl⟩ := Prod.mk.inj created
  intro id holding found
  rw [Table.get?_insert] at found
  by_cases new : id = .ofBytes bytes
  · rw [if_pos new] at found
    obtain rfl := Option.some.inj found
    cases old : descriptors.get? (.ofBytes bytes) with
    | none => exact ⟨bytes, ingested, new, rfl, new ▸ stored⟩
    | some held => exact backed id held (new ▸ old)
  · rw [if_neg new] at found
    exact backed id holding found

/-- A blob may be deleted once its content is not registered. -/
lemma Backed.of_erase (backed : store.Backed admits ⟨blobs, descriptors⟩)
    (apart : store.layout.Apart) {id : ContentId} (absent : descriptors.get? id = none) :
    store.Backed admits ⟨blobs.erase (store.objectKey id), descriptors⟩ := by
  intro other holding found
  have different : other ≠ id := by
    rintro rfl
    rw [absent] at found
    contradiction
  obtain ⟨bytes, ingested, named, described, stored⟩ := backed other holding found
  refine ⟨bytes, ingested, named, described, ?_⟩
  rw [Table.get?_erase, if_neg (objectKey_ne apart different)]
  exact stored

end Backed

/-- What the stage of an operation says about the tables. -/
def Stage.Tells (store : ContentStore) (admits : Source → Prop) (contents : Contents) :
    Stage → Prop
  | .staged token bytes =>
    store.Ingests admits bytes ∧ contents.blobs.get? (store.stagingKey token) = some bytes
  | .promoted _ bytes =>
    store.Ingests admits bytes ∧
      contents.blobs.get? (store.objectKey (.ofBytes bytes)) = some bytes
  | .orphaned _ id | .emptied id => contents.descriptors.get? id = none
  | _ => True

/-- All content that is registered lies in the blobs, and the tables are as the stage says. -/
structure Intact (store : ContentStore) (admits : Source → Prop) (contents : Contents)
    (stage : Stage) : Prop where
  backed : store.Backed admits contents
  tells : stage.Tells store admits contents

lemma Intact.idle {contents : Contents} {stage : Stage}
    (intact : store.Intact admits contents stage) : store.Intact admits contents .idle :=
  ⟨intact.backed, trivial⟩

/-- Every step leaves registered content intact. -/
lemma Step.intact (apart : store.layout.Apart) (collisionless : store.Collisionless admits)
    {supply : Nat} {call : Call} {contents contents' : Contents} {stage stage' : Stage}
    (step : Step store admits supply call contents stage contents' stage')
    (intact : store.Intact admits contents stage) : store.Intact admits contents' stage' := by
  obtain ⟨backed, tells⟩ := intact
  cases step with
  | pass => exact ⟨backed, tells⟩
  | leave contents leaves =>
    refine ⟨backed, ?_⟩
    cases leaves with
    | _ => trivial
  | issue => exact ⟨backed, trivial⟩
  | take transfer token blobs descriptors admitted accepted =>
    refine ⟨backed.of_staging ?_, ⟨_, admitted, accepted⟩, ?_⟩
    · intro id
      rw [Table.get?_insert, if_neg (objectKey_ne_stagingKey apart id token)]
    · rw [Table.get?_insert, if_pos rfl]
  | unstage token blobs descriptors =>
    refine ⟨backed.of_staging ?_, trivial⟩
    intro id
    rw [Table.get?_erase, if_neg (objectKey_ne_stagingKey apart id token)]
  | unshare token shared owners blobs descriptors =>
    refine ⟨backed.of_staging ?_, trivial⟩
    intro id
    rw [Table.get?_erase, if_neg (objectKey_ne_stagingKey apart id token)]
  | share token bytes blobs duplicated =>
    exact ⟨backed.of_owners (MemoryDescriptors.descriptor_of_duplicate duplicated), trivial⟩
  | join blobs duplicated =>
    exact ⟨backed.of_owners (MemoryDescriptors.descriptor_of_duplicate duplicated), trivial⟩
  | promote token bytes descriptors staged moved =>
    obtain ⟨ingested, there⟩ := tells
    obtain rfl := Option.some.inj (there.symm.trans staged)
    have stored := moved apart (store.objectKey (.ofBytes bytes))
    rw [if_pos rfl] at stored
    refine ⟨backed.of_stored collisionless ingested stored ?_, ingested, stored⟩
    intro id different
    rw [moved apart, if_neg (objectKey_ne apart different),
      if_neg (objectKey_ne_stagingKey apart id token)]
  | copy token bytes descriptors staged =>
    obtain ⟨ingested, there⟩ := tells
    obtain rfl := Option.some.inj (there.symm.trans staged)
    refine ⟨backed.of_stored collisionless ingested ?_ ?_, ingested, ?_⟩
    · rw [Table.get?_insert, if_pos rfl]
    · intro id different
      rw [Table.get?_insert, if_neg (objectKey_ne apart different)]
    · rw [Table.get?_insert, if_neg (objectKey_ne_stagingKey apart _ token).symm]
      exact there
  | register token bytes blobs created =>
    exact ⟨backed.of_create tells.1 tells.2 created, trivial⟩
  | disown token id blobs absent => exact ⟨backed, absent⟩
  | release blobs deleted =>
    exact ⟨backed.of_owners (MemoryDescriptors.descriptor_of_delete deleted), trivial⟩
  | empty id blobs descriptors =>
    refine ⟨backed.of_owners ?_, ?_⟩
    · intro other holding found
      rw [Table.get?_erase] at found
      split at found
      · contradiction
      · exact ⟨holding, found, rfl⟩
    · show (descriptors.erase id).get? id = none
      rw [Table.get?_erase, if_pos rfl]
  | discard token id blobs descriptors => exact ⟨backed.of_erase apart tells, trivial⟩
  | remove id blobs descriptors => exact ⟨backed.of_erase apart tells, trivial⟩

/-- Whatever calls fail, content that is registered has a blob, whose hash is the identity and
whose size is that in the descriptor. -/
theorem registered_has_blob {limits : IngestLimits} (bound : limits.maxBytes < UInt64.size)
    (way : Renaming) (now : Instant) (faults : Nat → Option StoreError)
    (calls : List ContentCall)
    (collisionless : Collisionless { limits } fun source => .create source ∈ calls)
    {id : ContentId} {record : Descriptor}
    (registered : (serveFaulty { limits } way ⟨.vacant now, faults, 0⟩
      calls).depot.descriptors.read id = .ok record) :
    ∃ bytes, (serveFaulty { limits } way ⟨.vacant now, faults, 0⟩ calls).depot.blobs.get?
        (KeyLayout.fanned.objectKey id) = some bytes ∧
      Sha1.hexDigest bytes = id.text ∧ bytes.length = record.size.toNat := by
  have vacant : Intact { limits } (fun source => .create source ∈ calls)
      (FaultyDepot.contents ⟨.vacant now, faults, 0⟩) .idle := by
    refine ⟨?_, trivial⟩
    intro id holding found
    contradiction
  have intact := holds_serveFaulty { limits } _ way
    (Step.intact KeyLayout.fanned_apart collisionless) Intact.idle calls
    (fun source called => called) _ vacant
  obtain ⟨holding, found, rfl⟩ := MemoryDescriptors.read_eq_ok_iff.1 registered
  obtain ⟨bytes, ⟨source, -, accepted⟩, rfl, described, stored⟩ := intact.backed id holding found
  refine ⟨bytes, stored, rfl, ?_⟩
  rw [described]
  exact (IngestLimits.toNat_size_descriptorOf bound
    (IngestLimits.accepted?_eq_some_iff.1 accepted).2).symm

/-- The same bytes are stored twice, and the second time the descriptors deny that they are there:
their blob is copied once more over itself. -/
theorem registered_has_blob_denied :
    ∃ bytes, (serveFaulty {} .byCopy
        ⟨.vacant ⟨0, 0⟩, fun call => if call = 8 then some (.notFound "x") else none, 0⟩
        [.create (.ofBytes [120]), .create (.ofBytes [120])]).depot.blobs.get?
        (KeyLayout.fanned.objectKey (.ofBytes [120])) = some bytes ∧
      Sha1.hexDigest bytes = (ContentId.ofBytes [120]).text ∧
      bytes.length = (IngestLimits.descriptorOf {} [120]).size.toNat := by
  refine registered_has_blob (by decide) .byCopy ⟨0, 0⟩ _ _ ?_ ?_
  · intro bytes bytes' first second _
    rw [ingests_calls_iff] at first second
    have only : ingested {} [.create (.ofBytes [120]), .create (.ofBytes [120])] =
      [[120], [120]] := by decide
    simp only [only, List.mem_cons, List.not_mem_nil, or_false, or_self] at first second
    rw [first, second]
  · decide +kernel

end ContentStore

end AssetCache
