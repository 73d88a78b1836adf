import AssetCache.Proofs.Cache.Errands
import AssetCache.Proofs.Cache.Eviction
import AssetCache.Proofs.Cache.References
import AssetCache.Proofs.Keys

/-!
# What a key maps to is kept

While a key maps to some content, no operation on another key touches the blob of that content: the
key is an owner of its own, so the content is found to be there by whoever stores it again, and
whoever gives a reference to it back does not take the last owner away. So operations of a cache in
memory may take any turns; the key keeps its entry until somebody finds it expired, and the content
of the entry keeps the blob that it had, or goes on without one (`ContentCache.lasts_play`).
-/

namespace AssetCache

open Program

/-! ### Calls that leave a key alone -/

/-- Whether a call neither drops a key nor gives it another entry. -/
def SlotsCall.Leaves (key : String) : SlotsCall → Prop
  | publish other _ _ => other ≠ key
  | remove other => other ≠ key
  | removeAll others => key ∉ others
  | _ => True

/-- An entry stays under a key that is left alone, unless it is found expired. -/
lemma Slots.held?_answer_of_leaves {slots : Slots} {call : SlotsCall} {key : String}
    {entry : Entry ContentId} (leaves : call.Leaves key) :
    (slots.answer call).2.held? key = some entry ↔
      slots.held? key = some entry ∧ ¬ call.Expires key entry := by
  have undropped : ¬ call.Drops key := by
    cases call with
    | remove other => exact leaves
    | removeAll others => exact leaves
    | _ => exact id
  have unpublished (ticket : Nat) (entry' : Entry ContentId) :
      ¬ call.Publishes key ticket entry' (slots.answer call).1 := by
    cases call with
    | publish other ticket' entry'' => exact fun publishes => leaves publishes.1
    | _ => exact id
  rw [held?_answer]
  constructor
  · rintro (⟨ticket, published⟩ | ⟨held, -, fresh, -⟩)
    · exact absurd published (unpublished ticket entry)
    · exact ⟨held, fresh⟩
  · rintro ⟨held, fresh⟩
    exact Or.inr ⟨held, undropped, fresh, unpublished⟩

/-- Whether a call leaves what is under a key of the blobs as it is. -/
def BlobCall.Spares (key : String) : BlobCall → Prop
  | put transfer => transfer.key ≠ key
  | get _ => True
  | delete other => other ≠ key
  | contains _ => True
  | rename source target => source ≠ key ∧ target ≠ key

namespace Call

/-- Whether a call neither drops a key of the cache nor gives it another entry. -/
def Leaves (key : String) : Call → Prop
  | .slots call => call.Leaves key
  | _ => True

/-- Whether a call leaves what is under a key of the blobs as it is. -/
def Spares (key : String) : Call → Prop
  | .blob call => call.Spares key
  | _ => True

/-- Whether a call is answered as it is where some content has an owner besides the caller. -/
def Finds (id : ContentId) : (call : Call) → call.Answer → Prop
  | .descriptor (.contains other), reply => other = id → reply = .ok true
  | .descriptor (.duplicate other), reply => other = id → ∃ owners, reply = .ok owners
  | .descriptor (.delete other), reply => other = id → reply ≠ .ok .removed
  | _, _ => True

lemma Beside.leaves {call : Call} {key : String} (beside : call.Beside) : call.Leaves key := by
  cases call with
  | slots call => exact beside.elim
  | _ => trivial

end Call

/-! ### Operations that leave a key alone -/

section

variable {cache : ContentCache} {key : String} {α β : Type} {program : Operation α}

lemma leaves_of_beside {kind : α → Prop} (beside : program.Within Call.Beside kind) :
    program.Within (Call.Leaves key) fun _ => True :=
  beside.mono (fun _ => Call.Beside.leaves) fun _ _ => trivial

/-- An operation that does not change what a key stands for makes no call that does. -/
lemma ContentCache.leaves_answer {call : CacheCall Source} (elsewhere : ¬ call.Changes key) :
    (cache.answer call).Within (Call.Leaves key) fun _ => True := by
  cases call with
  | get other =>
    simp only [answer, get, Operation.clock, Operation.slots, bind_eq, bind_ask, bind_done,
      within_ask]
    refine ⟨trivial, fun now => ⟨trivial, ?_⟩⟩
    rintro (_ | id | id)
    · trivial
    · exact (leaves_of_beside beside_releaseExpired).bind fun _ _ => trivial
    · apply (leaves_of_beside (beside_of_neutral ContentStore.neutral_read)).bind
      rintro (error | opened) -
      · trivial
      · trivial
  | put other source expires =>
    simp only [answer, put, Operation.slots, bind_eq, bind_ask, bind_done, within_ask]
    refine ⟨trivial, fun ticket => ?_⟩
    apply (leaves_of_beside ContentStore.beside_create).bind
    rintro (error | stored) -
    · exact ⟨trivial, fun _ => trivial⟩
    · refine ⟨elsewhere, ?_⟩
      rintro ⟨published, _ | id⟩
      · trivial
      · exact leaves_of_beside beside_release
  | invalidate other =>
    simp only [answer, invalidate, Operation.slots, bind_eq, bind_ask, bind_done, within_ask]
    refine ⟨elsewhere, ?_⟩
    rintro (_ | id)
    · trivial
    · exact leaves_of_beside beside_release
  | invalidateAll keys =>
    simp only [answer, invalidateAll, Operation.slots, bind_eq, bind_ask, bind_done, within_ask]
    exact ⟨elsewhere, fun ids => leaves_of_beside beside_releaseAll⟩
  | cleanUp =>
    simp only [answer, cleanUp, Operation.clock, Operation.slots, bind_eq, bind_ask, bind_done,
      within_ask]
    refine ⟨trivial, fun now => ⟨trivial, fun ids => ?_⟩⟩
    exact (leaves_of_beside beside_releaseEach).bind fun _ _ => trivial

end

/-! ### Operations that spare a blob -/

/-- A program leaves what is under a key of the blobs as it is, as long as it finds some content to
have other owners. -/
def Sparing {α : Type} (key : String) (id : ContentId) : Operation α → Prop
  | .done _ => True
  | .ask call next => call.Spares key ∧ ∀ reply, call.Finds id reply → Sparing key id (next reply)

section

variable {α β : Type} {key : String} {id other : ContentId} {program : Operation α}

lemma sparing_ask (call : Call) (next : call.Answer → Operation α) :
    Sparing key id (.ask call next) ↔
      call.Spares key ∧ ∀ reply, call.Finds id reply → Sparing key id (next reply) := Iff.rfl

lemma Sparing.bind {next : α → Operation β} (sparing : Sparing key id program)
    (rest : ∀ result, Sparing key id (next result)) : Sparing key id (program.bind next) := by
  induction program with
  | done result => exact rest result
  | ask call more ih => exact ⟨sparing.1, fun reply finds => ih reply (sparing.2 reply finds)⟩

namespace ContentStore

open Operation

variable {store : ContentStore} {token : Token} {record : Descriptor} {source : Source}

lemma sparing_discardStaging (apart : store.layout.Apart) :
    Sparing (store.objectKey id) id (discardStaging (store.stagingKey token)) := by
  refine ⟨apart.staging_ne_object token id, ?_⟩
  rintro (error | _) -
  · by_cases absent : error.isNotFound = true <;> simp [absent, report, Sparing, Call.Spares]
  · trivial

lemma sparing_discardOrphan (apart : store.layout.Apart) :
    Sparing (store.objectKey id) id (store.discardOrphan other) := by
  refine ⟨trivial, ?_⟩
  rintro (error | _ | _) finds
  · exact ⟨trivial, fun _ _ => trivial⟩
  · -- What is not registered is other content.
    constructor
    · intro same
      cases finds (apart.object same)
    · rintro (error | _) -
      · by_cases absent : error.isNotFound = true <;> simp [absent, report, Sparing, Call.Spares]
      · trivial
  · trivial

lemma sparing_promote (apart : store.layout.Apart) (different : other ≠ id) :
    Sparing (store.objectKey id) id (store.promote (store.stagingKey token) other record) := by
  refine ⟨⟨apart.staging_ne_object token id, fun same => different (apart.object same)⟩, ?_⟩
  rintro (error | _) -
  · trivial
  · refine ⟨trivial, ?_⟩
    rintro (error | owners) -
    · exact (sparing_discardOrphan apart).bind fun _ => trivial
    · trivial

lemma sparing_deduplicate (apart : store.layout.Apart) {owners : Nat} :
    Sparing (store.objectKey id) id (deduplicate (store.stagingKey token) other record owners) := by
  refine ⟨apart.staging_ne_object token id, ?_⟩
  rintro (error | _) -
  · refine ⟨trivial, fun _ _ => ⟨trivial, ?_⟩⟩
    rintro (error | stored) -
    · exact ⟨trivial, fun _ _ => trivial⟩
    · trivial
  · refine ⟨trivial, ?_⟩
    rintro (error | stored) -
    · exact ⟨trivial, fun _ _ => trivial⟩
    · trivial

/-- Content that is registered is not stored again. -/
lemma sparing_commit (apart : store.layout.Apart) {attributes : Attributes} :
    Sparing (store.objectKey id) id (store.commit (store.stagingKey token) attributes) := by
  unfold commit
  cases attributes.id with
  | none => trivial
  | some other =>
    simp only [descriptor, bind_eq, bind_ask, bind_done, sparing_ask]
    refine ⟨trivial, ?_⟩
    rintro (error | _ | _) finds
    · trivial
    · apply sparing_promote apart
      rintro rfl
      cases finds rfl
    · refine ⟨trivial, ?_⟩
      rintro (error | owners) finds
      · dsimp only
        split
        · apply sparing_promote apart
          rintro rfl
          obtain ⟨owners, answered⟩ := finds rfl
          contradiction
        · trivial
      · exact (sparing_deduplicate apart).bind fun _ => trivial

lemma sparing_create (apart : store.layout.Apart) :
    Sparing (store.objectKey id) id (store.create source) := by
  have cleared (token : Token) (error : StoreError) : Sparing (store.objectKey id) id
      ((discardStaging (store.stagingKey token)).bind fun _ =>
        (done (.error error) : Operation (Except StoreError StoredContent))) :=
    (sparing_discardStaging apart).bind fun _ => trivial
  refine ⟨trivial, fun token _ => ?_⟩
  have ingested : Sparing (store.objectKey id) id
      (ingest store.limits (store.stagingKey token) source) := by
    simp only [ingest, blob, bind_eq, bind_ask, bind_done, sparing_ask]
    refine ⟨apart.staging_ne_object token id, fun reply _ => ?_⟩
    cases reply.event? with
    | none => trivial
    | some event => exact ⟨trivial, fun _ _ => trivial⟩
  apply ingested.bind
  rintro (error | attributes)
  · exact cleared token error
  · apply (sparing_commit apart).bind
    rintro (error | stored)
    · exact cleared token error
    · exact ⟨trivial, fun _ _ => trivial⟩

lemma sparing_read : Sparing key id (store.read other) := by
  refine ⟨trivial, ?_⟩
  rintro (error | record) -
  · trivial
  · refine ⟨trivial, ?_⟩
    rintro (error | stream) -
    · trivial
    · trivial

/-- A blob is deleted only with the last owner of its content. -/
lemma sparing_delete (apart : store.layout.Apart) :
    Sparing (store.objectKey id) id (store.delete other) := by
  refine ⟨trivial, ?_⟩
  rintro (error | outcome) finds
  · trivial
  · cases outcome with
    | removed =>
      refine ⟨fun same => finds (apart.object same) rfl, ?_⟩
      rintro (error | _) -
      · exact ⟨trivial, fun _ _ => trivial⟩
      · exact ⟨trivial, fun _ _ => trivial⟩
    | _ => trivial

end ContentStore

namespace ContentCache

variable {cache : ContentCache}

lemma sparing_release (apart : cache.store.layout.Apart) :
    Sparing (cache.store.objectKey id) id (cache.release other) := by
  apply (ContentStore.sparing_delete apart).bind
  rintro (error | outcome)
  · trivial
  · trivial

lemma sparing_releaseExpired (apart : cache.store.layout.Apart) :
    Sparing (cache.store.objectKey id) id (cache.releaseExpired other) := by
  apply (sparing_release apart).bind
  rintro (error | _)
  · exact ⟨trivial, fun _ _ => trivial⟩
  · trivial

lemma sparing_releaseAll (apart : cache.store.layout.Apart) (ids : List ContentId) :
    Sparing (cache.store.objectKey id) id (cache.releaseAll ids) := by
  induction ids with
  | nil => trivial
  | cons first rest ih =>
    apply (sparing_release apart).bind
    rintro (error | _)
    · trivial
    · exact ih

lemma sparing_releaseEach (apart : cache.store.layout.Apart) (ids : List ContentId) :
    Sparing (cache.store.objectKey id) id (cache.releaseEach ids) := by
  induction ids with
  | nil => trivial
  | cons first rest ih => exact (sparing_releaseExpired apart).bind fun _ => ih

/-- No operation touches the blob of content that it finds to have other owners. -/
lemma sparing_answer (apart : cache.store.layout.Apart) (id : ContentId)
    (call : CacheCall Source) :
    Sparing (cache.store.objectKey id) id (cache.answer call) := by
  cases call with
  | get key =>
    refine ⟨trivial, fun now _ => ⟨trivial, ?_⟩⟩
    rintro (_ | other | other) -
    · trivial
    · exact (sparing_releaseExpired apart).bind fun _ => trivial
    · apply ContentStore.sparing_read.bind
      rintro (error | opened)
      · trivial
      · trivial
  | put key source expires =>
    refine ⟨trivial, fun ticket _ => ?_⟩
    apply (ContentStore.sparing_create apart).bind
    rintro (error | stored)
    · exact ⟨trivial, fun _ _ => trivial⟩
    · refine ⟨trivial, ?_⟩
      rintro ⟨published, _ | other⟩ -
      · trivial
      · exact sparing_release apart
  | invalidate key =>
    refine ⟨trivial, ?_⟩
    rintro (_ | other) -
    · trivial
    · exact sparing_release apart
  | invalidateAll keys => exact ⟨trivial, fun ids _ => sparing_releaseAll apart ids⟩
  | cleanUp =>
    refine ⟨trivial, fun now _ => ⟨trivial, fun ids _ => ?_⟩⟩
    exact (sparing_releaseEach apart ids).bind fun _ => trivial

end ContentCache

end

/-! ### Blobs that are spared -/

section

variable {blobs : MemoryBlobs} {key : String} {transfer : Transfer}

/-- A call leaves what is under another key as it is. -/
lemma MemoryBlobs.get?_answer_of_spares {call : BlobCall} (token : Token)
    (spares : call.Spares key) :
    Table.get? (BlobStore.answer token blobs call).2 key = blobs.get? key := by
  cases call with
  | put transfer =>
    have other : key ≠ transfer.key := Ne.symm spares
    simp only [BlobStore.answer, BlobStore.put, BlobStore.start, BlobStore.abandon,
      BlobStore.settle, BlobStore.complete]
    split
    · rfl
    · rw [Table.get?_insert, if_neg other]
  | delete other =>
    have different : key ≠ other := Ne.symm spares
    show Table.get? (MemoryBlobs.delete blobs other).2 key = _
    unfold MemoryBlobs.delete
    split
    · rw [Table.get?_erase, if_neg different]
    · rfl
  | rename source target =>
    show Table.get? (MemoryBlobs.rename blobs source target).2 key = _
    unfold MemoryBlobs.rename
    split
    · rfl
    · rw [Table.get?_insert, if_neg (Ne.symm spares.2), Table.get?_erase,
        if_neg (Ne.symm spares.1)]
  | get other => rfl
  | contains other => rfl

/-- A stream on its way in leaves what is under another key as it is. -/
lemma MemoryBlobs.get?_advance (blobs : MemoryBlobs) (token : Token) (other : transfer.key ≠ key) :
    match transfer.advance blobs token with
    | .finished _ blobs' => blobs'.get? key = blobs.get? key
    | .moved transfer' blobs' => transfer'.key = transfer.key ∧ blobs'.get? key = blobs.get? key
    | .waiting => True := by
  have different : key ≠ transfer.key := Ne.symm other
  cases begun : transfer.token with
  | none =>
    simp only [Transfer.advance, begun]
    exact ⟨rfl, rfl⟩
  | some token =>
    by_cases waiting : transfer.isWaiting = true
    · simp only [Transfer.advance, begun, if_pos waiting]
    · simp only [Transfer.advance, begun, if_neg waiting]
      generalize transfer.upload.poll = polled
      obtain ⟨item, upload⟩ := polled
      cases item with
      | chunk bytes => exact ⟨rfl, rfl⟩
      | notReady => exact ⟨rfl, rfl⟩
      | error error => rfl
      | ended =>
        show Table.get? (Table.insert blobs transfer.key transfer.received) key = _
        rw [Table.get?_insert, if_neg different]

lemma MemoryDepot.get?_attempt_put (depot : MemoryDepot) (other : transfer.key ≠ key) :
    match depot.attempt (.blob (.put transfer)) with
    | .answered _ depot' => depot'.blobs.get? key = depot.blobs.get? key
    | .ongoing rest _ depot' => (∃ transfer', rest = .blob (.put transfer') ∧
      transfer'.key = transfer.key) ∧ depot'.blobs.get? key = depot.blobs.get? key
    | .blocked => True := by
  have begun : (if transfer.token.isNone then depot.issue else (⟨0⟩, depot)).2.blobs =
      depot.blobs := by
    split <;> rfl
  simp only [Depot.attempt]
  generalize (if transfer.token.isNone then depot.issue else (⟨0⟩, depot)) = start at begun ⊢
  have step := MemoryBlobs.get?_advance start.2.blobs start.1 other
  have same := congrArg (Table.get? · key) begun
  generalize transfer.advance start.2.blobs start.1 = progress at step ⊢
  cases progress with
  | finished reply blobs => exact step.trans same
  | moved transfer' blobs => exact ⟨⟨transfer', rfl, step.1⟩, step.2.trans same⟩
  | waiting => trivial

end

/-! ### Content that a key maps to -/

section

variable {store : ContentStore} {id : ContentId} {stored : Option Bytes}
  {depot depot' : MemoryDepot} {key : String} {account : Account} {others : ContentId → Nat}

/-- The owners of content are the keys that map to it and those that are counted apart, and some
content has the blob that it had. -/
structure Guarded (store : ContentStore) (id : ContentId) (stored : Option Bytes)
    (depot : MemoryDepot) (claims : ContentId → Nat) : Prop where
  safe : MemoryDescriptors.Owned depot.descriptors
  counted (other : ContentId) :
    depot.descriptors.owners other = depot.slots.mapped other + claims other
  blob : depot.blobs.get? (store.objectKey id) = stored

/-- A key that has an entry is one of those that map to its content. -/
lemma Slots.mapped_pos {slots : Slots} {entry : Entry ContentId}
    (held : slots.held? key = some entry) : 0 < slots.mapped entry.value := by
  have erased := slots.mapped_erase key entry.value
  rw [contentId?_eq, held, Option.map_some, count_toList, if_pos rfl] at erased
  omega

/-- Content that a key maps to is registered. -/
lemma Guarded.exists_holding {claims : ContentId → Nat} {other : ContentId}
    (guarded : Guarded store id stored depot claims) (mapped : 0 < depot.slots.mapped other) :
    ∃ holding, depot.descriptors.get? other = some holding := by
  have counted := guarded.counted other
  rw [← Option.ne_none_iff_exists']
  intro absent
  rw [MemoryDescriptors.owners_of_absent absent] at counted
  omega

/-- Content that a key maps to has an owner besides any operation. -/
lemma Guarded.finds
    (guarded : Guarded store id stored depot fun other => others other + account.claims other)
    (mapped : 0 < depot.slots.mapped id) {call : Call} (permits : account.Permits call) :
    call.Finds id (depot.answer call).1 := by
  have counted := guarded.counted id
  obtain ⟨holding, found⟩ := guarded.exists_holding mapped
  rw [MemoryDescriptors.owners_of_present found] at counted
  cases call with
  | descriptor call =>
    cases call with
    | contains other =>
      rintro rfl
      show Except.ok (Table.contains depot.descriptors other) = Except.ok true
      simp [Table.contains, found]
    | duplicate other =>
      rintro rfl
      show ∃ owners, (MemoryDescriptors.duplicate depot.descriptors other).1 = .ok owners
      rw [MemoryDescriptors.duplicate_of_present found]
      exact ⟨_, rfl⟩
    | delete other =>
      rintro rfl
      -- The key is one owner, and the operation that gives its reference back is another.
      have owed : 0 < account.owed.count other := List.count_pos_iff.2 permits
      have claimed : account.owed.count other ≤ account.claims other := Nat.le_add_left _ _
      have shared : 1 < holding.owners := by omega
      show (MemoryDescriptors.delete depot.descriptors other).1 ≠ .ok .removed
      rw [MemoryDescriptors.delete_of_shared found shared]
      intro removed
      cases removed
    | _ => trivial
  | _ => trivial

/-- Every call that is answered leaves content guarded that a key maps to. -/
lemma Guarded.answer
    (guarded : Guarded store id stored depot fun other => others other + account.claims other)
    (mapped : 0 < depot.slots.mapped id) {call : Call}
    (permits : account.Permits call) (spares : call.Spares (store.objectKey id)) :
    call.Gives (depot.answer call).1 ∧ call.Finds id (depot.answer call).1 ∧
      Guarded store id stored (depot.answer call).2 fun other =>
        others other + (account.after call (depot.answer call).1).claims other := by
  have backed (other : ContentId) : account.claims other ≤ depot.descriptors.owners other := by
    have counted := guarded.counted other
    omega
  have gives := gives_answer MemoryDescriptors.counts_owners guarded.safe permits backed
  refine ⟨gives, guarded.finds mapped permits, ?_, ?_, ?_⟩
  · exact sane_answer MemoryDescriptors.counts_owners guarded.safe call
  · intro other
    have counted := guarded.counted other
    have changed := balanced_answer MemoryDescriptors.counts_owners guarded.safe permits gives other
    omega
  · rw [← guarded.blob]
    cases call with
    | blob call => exact MemoryBlobs.get?_answer_of_spares _ spares
    | _ => rfl

lemma Guarded.attempt
    (guarded : Guarded store id stored depot fun other => others other + account.claims other)
    (mapped : 0 < depot.slots.mapped id) {call : Call} {reply : call.Answer}
    (permits : account.Permits call) (spares : call.Spares (store.objectKey id))
    (attempted : depot.attempt call = .answered reply depot') :
    call.Gives reply ∧ call.Finds id reply ∧
      Guarded store id stored depot' fun other =>
        others other + (account.after call reply).claims other := by
  rcases Depot.answered_cases attempted with ⟨transfer, rfl⟩ | ⟨-, answered⟩
  · have step := depot.attempt_put transfer
    have blob := MemoryDepot.get?_attempt_put depot spares
    rw [attempted] at step blob
    obtain ⟨descriptors, slots⟩ := step
    refine ⟨trivial, trivial, descriptors ▸ guarded.safe, ?_, blob.trans guarded.blob⟩
    rw [descriptors, slots]
    exact guarded.counted
  · have step := guarded.answer mapped permits spares
    rw [answered] at step
    exact step

/-- A stream on its way in leaves content guarded, and does not come in under another key. -/
lemma Guarded.ongoing {claims : ContentId → Nat} (guarded : Guarded store id stored depot claims)
    (key : String) (account : Account) {call rest : Call} {answer : rest.Answer → call.Answer}
    (spares : call.Spares (store.objectKey id))
    (attempted : depot.attempt call = .ongoing rest answer depot') :
    rest.Leaves key ∧ account.Permits rest ∧ rest.Spares (store.objectKey id) ∧
      (∀ reply, call.Gives reply ∧ call.Finds id reply) ∧
      (∀ reply, account.after rest reply = account.after call (answer reply)) ∧
      depot'.slots = depot.slots ∧ Guarded store id stored depot' claims := by
  obtain ⟨transfer, rfl⟩ := Depot.put_of_ongoing attempted
  have step := depot.attempt_put transfer
  have blob := MemoryDepot.get?_attempt_put depot spares
  rw [attempted] at step blob
  obtain ⟨-, descriptors, slots⟩ := step
  obtain ⟨⟨transfer', rfl, same⟩, blob⟩ := blob
  have spares' : transfer'.key ≠ store.objectKey id := same ▸ spares
  refine ⟨trivial, trivial, spares', fun _ => ⟨trivial, trivial⟩, fun _ => rfl, slots,
    descriptors ▸ guarded.safe, ?_, blob.trans guarded.blob⟩
  rw [descriptors, slots]
  exact guarded.counted

/-! ### Every turn keeps what a key maps to -/

/-- What an operation and the depot agree on while a key maps to some content. Once the entry of the
key is gone, it is only agreed that the operation leaves the key alone. -/
def guarding (store : ContentStore) (key : String) (id : ContentId) :
    Agreement Call Call.Answer (Option Account)
  | none, call, next => call.Leaves key ∧ ∀ reply, next reply none
  | some account, call, next =>
    call.Leaves key ∧ account.Permits call ∧ call.Spares (store.objectKey id) ∧
      (∀ reply, call.Gives reply → call.Finds id reply →
        next reply (some (account.after call reply))) ∧
      ∀ reply, next reply none

lemma guarding_none {stage : Option Account} {call : Call}
    {next : call.Answer → Option Account → Prop} (agreed : guarding store key id stage call next) :
    guarding store key id none call next := by
  cases stage with
  | none => exact agreed
  | some account => exact ⟨agreed.1, agreed.2.2.2.2⟩

lemma keeps_guarding_none {α : Type} {program : Operation α}
    (leaves : program.Within (Call.Leaves key) fun _ => True) :
    program.Keeps (guarding store key id) (fun _ _ => True) none := by
  induction program with
  | done result => trivial
  | ask call next ih => exact ⟨leaves.1, fun reply => ih reply (leaves.2 reply)⟩

lemma keeps_guarding {α : Type} {program : Operation α} {post : α → Account → Prop}
    (leaves : program.Within (Call.Leaves key) fun _ => True)
    (books : program.Keeps bookkeeping post account)
    (sparing : Sparing (store.objectKey id) id program) :
    program.Keeps (guarding store key id) (fun _ _ => True) (some account) := by
  induction program generalizing account with
  | done result => trivial
  | ask call next ih =>
    refine ⟨leaves.1, books.1, sparing.1, fun reply gives finds => ?_, fun reply => ?_⟩
    · exact ih reply (leaves.2 reply) (books.2 reply gives) (sparing.2 reply finds)
    · exact keeps_guarding_none (leaves.2 reply)

/-- A key keeps its entry until that is found expired. As long as it does, the content of the entry
has the blob that it had. -/
inductive Lasts (store : ContentStore) (key : String) (entry : Entry ContentId)
    (stored : Option Bytes) (depot : MemoryDepot) (log : List Answered) :
    List (Option Account) → Prop
  | kept (accounts : List Account)
    (unexpired : ∀ answered ∈ log, ¬ answered.Expires key entry)
    (held : depot.slots.held? key = some entry)
    (guarded : Guarded store entry.value stored depot
      fun id => holders accounts id + pending accounts id) :
    Lasts store key entry stored depot log (accounts.map some)
  | gone (stages : List (Option Account))
    (expired : ∃ answered ∈ log, answered.Expires key entry)
    (held : depot.slots.held? key = none) :
    Lasts store key entry stored depot log stages

/-- Under a key that is left alone, an entry stays unless it is found expired. -/
lemma held?_attempt {call : Call} {reply : call.Answer} {entry : Entry ContentId} (member : Nat)
    (leaves : call.Leaves key) (attempted : depot.attempt call = .answered reply depot') :
    depot'.slots.held? key = some entry ↔ depot.slots.held? key = some entry ∧
      ¬ (⟨member, call, reply⟩ : Answered).Expires key entry := by
  rcases Depot.answered_cases attempted with ⟨transfer, rfl⟩ | ⟨-, answered⟩
  · have step := depot.attempt_put transfer
    rw [attempted] at step
    rw [step.2]
    exact (and_iff_left id).symm
  · obtain rfl : (depot.answer call).1 = reply := congrArg Prod.fst answered
    obtain rfl : (depot.answer call).2 = depot' := congrArg Prod.snd answered
    cases call with
    | slots call => exact Slots.held?_answer_of_leaves leaves
    | _ => exact (and_iff_left id).symm

lemma held?_attempt_of_none {call : Call} {reply : call.Answer} (leaves : call.Leaves key)
    (attempted : depot.attempt call = .answered reply depot')
    (absent : depot.slots.held? key = none) : depot'.slots.held? key = none := by
  rw [Option.eq_none_iff_forall_ne_some]
  intro entry held
  rw [held?_attempt 0 leaves attempted, absent] at held
  cases held.1

/-- What the members have taken on besides one of them. -/
def besides (front back : List Account) (id : ContentId) : Nat :=
  holders (front ++ back) id + pending (front ++ back) id

lemma guarded_middle {front back : List Account} :
    (Guarded store id stored depot fun other => holders (front ++ account :: back) other +
        pending (front ++ account :: back) other) ↔
      Guarded store id stored depot fun other =>
        besides front back other + account.claims other := by
  have same : (fun other => holders (front ++ account :: back) other +
      pending (front ++ account :: back) other) =
        fun other => besides front back other + account.claims other :=
    funext fun other => standing_middle front back account other
  rw [same]

lemma eq_of_map_some {accounts : List Account} {front back : List (Option Account)}
    {stage : Option Account} (split : accounts.map some = front ++ stage :: back) :
    ∃ front' account back', accounts = front' ++ account :: back' ∧
      front = front'.map some ∧ stage = some account ∧ back = back'.map some := by
  obtain ⟨front', rest, rfl, rfl, whole⟩ := List.map_eq_append_iff.1 split
  obtain ⟨account, back', rfl, rfl, rfl⟩ := List.map_eq_cons_iff.1 whole
  exact ⟨front', account, back', rfl, rfl, rfl, rfl⟩

/-- Every turn keeps what a key maps to. -/
theorem preserved_lasts {entry : Entry ContentId} :
    Team.Preserved (guarding store key entry.value) (fun _ : CacheCall Source => some {})
      (Lasts store key entry stored) where
  answered := by
    intro depot log front stage back call follows reply depot' lasts agreed attempted
    generalize whole : front ++ stage :: back = stages at lasts
    cases lasts with
    | gone _ expired held =>
      obtain ⟨answered, inside, expires⟩ := expired
      obtain ⟨leaves, next⟩ := guarding_none agreed
      exact ⟨none, next reply, .gone _ ⟨answered, List.mem_append_left _ inside, expires⟩
        (held?_attempt_of_none leaves attempted held)⟩
    | kept accounts unexpired held guarded =>
      obtain ⟨front, account, back, rfl, rfl, rfl, rfl⟩ := eq_of_map_some whole.symm
      obtain ⟨leaves, permits, spares, next, lost⟩ := agreed
      rw [List.length_map]
      by_cases expires : (⟨front.length, call, reply⟩ : Answered).Expires key entry
      · refine ⟨none, lost reply,
          .gone _ ⟨_, List.mem_append_right _ List.mem_cons_self, expires⟩ ?_⟩
        -- Nothing but the entry that was found expired can be left.
        rw [Option.eq_none_iff_forall_ne_some]
        intro entry' held'
        obtain ⟨before, fresh⟩ := (held?_attempt front.length leaves attempted).1 held'
        obtain rfl : entry = entry' := Option.some.inj (held.symm.trans before)
        exact fresh expires
      · have mapped := Slots.mapped_pos held
        obtain ⟨gives, finds, guarded'⟩ :=
          (guarded_middle.1 guarded).attempt mapped permits spares attempted
        refine ⟨some (account.after call reply), next reply gives finds, ?_⟩
        have joined : front.map some ++ some (account.after call reply) :: back.map some =
            (front ++ account.after call reply :: back).map some := by simp
        rw [joined]
        refine .kept _ ?_ ((held?_attempt _ leaves attempted).2 ⟨held, expires⟩)
          (guarded_middle.2 guarded')
        intro answered inside
        rcases List.mem_append.1 inside with inside | inside
        · exact unexpired answered inside
        · rw [List.mem_singleton.1 inside]
          exact expires
  ongoing := by
    intro depot log front stage back call follows rest answer depot' lasts agreed attempted
    generalize whole : front ++ stage :: back = stages at lasts
    cases lasts with
    | gone _ expired held =>
      obtain ⟨transfer, rfl⟩ := Depot.put_of_ongoing attempted
      have step := depot.attempt_put transfer
      rw [attempted] at step
      obtain ⟨⟨transfer', rfl⟩, -, slots⟩ := step
      refine ⟨none, ⟨trivial, fun reply => (guarding_none agreed).2 (answer reply)⟩, ?_⟩
      exact .gone _ expired (by rw [slots]; exact held)
    | kept accounts unexpired held guarded =>
      obtain ⟨front, account, back, rfl, rfl, rfl, rfl⟩ := eq_of_map_some whole.symm
      obtain ⟨leaves, permits, spares, next, lost⟩ := agreed
      obtain ⟨leaves', permits', spares', given, same, slots, guarded'⟩ :=
        guarded.ongoing key account spares attempted
      refine ⟨some account, ⟨leaves', permits', spares', fun reply _ _ => ?_, fun reply => ?_⟩, ?_⟩
      · rw [same]
        exact next _ (given _).1 (given _).2
      · exact lost _
      · rw [whole]
        exact .kept _ unexpired (by rw [slots]; exact held) guarded'
  start := by
    intro depot log stages call lasts
    cases lasts with
    | gone _ expired held => exact .gone _ expired held
    | kept accounts unexpired held guarded =>
      have joined : accounts.map some ++ [some ({} : Account)] =
          (accounts ++ [({} : Account)]).map some := by simp
      rw [joined]
      refine .kept _ unexpired held ⟨guarded.safe, fun id => ?_, guarded.blob⟩
      rw [guarded.counted id]
      simp [holders, pending]
  clock := by
    intro depot log stages now lasts
    cases lasts with
    | gone _ expired held => exact .gone _ expired held
    | kept accounts unexpired held guarded =>
      exact .kept _ unexpired held ⟨guarded.safe, guarded.counted, guarded.blob⟩

/-- Operations that leave a key alone take any turns: the key keeps its entry until that is found
expired, and as long as it does, the content of the entry has the blob that it had. -/
theorem ContentCache.lasts_play (cache : ContentCache) (apart : cache.store.layout.Apart)
    {entry : Entry ContentId} (held : depot.slots.held? key = some entry)
    (guarded : Guarded cache.store entry.value stored depot fun _ => 0)
    (turns : List (Team.Turn (CacheCall Source)))
    (elsewhere : ∀ call, .start call ∈ turns → ¬ call.Changes key) :
    ∃ stages, Lasts cache.store key entry stored
      (Team.play cache.answer ⟨depot, [], []⟩ turns).depot
      (Team.play cache.answer ⟨depot, [], []⟩ turns).log stages := by
  have vacant : Lasts cache.store key entry stored depot [] [] :=
    .kept [] (by simp) held guarded
  have keeps (call : CacheCall Source) (begun : .start call ∈ turns) :
      (cache.answer call).Keeps (guarding cache.store key entry.value) (fun _ _ => True)
        (some {}) :=
    keeps_guarding (cache.leaves_answer (elsewhere call begun)) (cache.books_answer call)
      (cache.sparing_answer apart entry.value call)
  obtain ⟨stages, -, lasts⟩ := Team.exists_accords preserved_lasts depot turns keeps vacant
  exact ⟨stages, lasts⟩

/-! ### Operations that run alone -/

/-- An operation that runs alone and has nothing to do with the slots leaves content guarded that a
key maps to, and passes on what it has taken on. -/
lemma Guarded.run {α : Type} {program : Operation α} {post : α → Account → Prop}
    (beside : program.Within Call.Beside fun _ => True)
    (books : program.Keeps bookkeeping post account)
    (sparing : Sparing (store.objectKey id) id program) (mapped : 0 < depot.slots.mapped id)
    (guarded : Guarded store id stored depot fun other => others other + account.claims other) :
    ∃ account', post (depot.run program).1 account' ∧
      (depot.run program).2.slots = depot.slots ∧
      Guarded store id stored (depot.run program).2 fun other =>
        others other + account'.claims other := by
  induction program generalizing depot account with
  | done result => exact ⟨account, books, rfl, guarded⟩
  | ask call next ih =>
    obtain ⟨gives, finds, guarded'⟩ := guarded.answer mapped books.1 sparing.1
    have same : (depot.answer call).2.slots = depot.slots := by
      cases call with
      | slots call => exact beside.1.elim
      | _ => rfl
    obtain ⟨account', came, slots, left⟩ := ih _ (beside.2 _) (books.2 _ gives) (sparing.2 _ finds)
      (by rw [same]; exact mapped) guarded'
    exact ⟨account', came, slots.trans same, left⟩

end

end AssetCache
