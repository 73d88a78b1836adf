import AssetCache.Proofs.Content.Stages
import AssetCache.Proofs.Depots
import AssetCache.Proofs.Keys

/-!
# Steps of the operations of a content store in memory

What one call of an operation does to the two tables of a depot in memory, and to the stage of the
operation. A step is a relation, so that one relation covers the depot that answers every call, the
depot in which calls fail, and blobs that are renamed by copying.

A property of the tables and the stage that every step preserves is thus preserved by every
operation in every depot; which operation it is has no part in it any more.
-/

namespace AssetCache

namespace ContentStore

/-- The stages that may follow when a call leaves the tables as they are. -/
inductive Stage.Leaves : Stage → Stage → Prop
  /-- The staged bytes could not be dropped. -/
  | unstaged (token : Token) (bytes : Bytes) : Leaves (.staged token bytes) (.issued token)
  /-- The staged bytes of an owner could not be dropped. -/
  | unshared (token : Token) (id : ContentId) (owners : Nat) :
    Leaves (.shared token id owners) (.owning id owners)
  /-- The blob could not be registered. -/
  | unregistered (token : Token) (bytes : Bytes) :
    Leaves (.promoted token bytes) (.stranded token (.ofBytes bytes))
  /-- The blob belongs to another owner, or this could not be found out. -/
  | settled (token : Token) (id : ContentId) : Leaves (.stranded token id) (.issued token)
  /-- The blob that belongs to nobody could not be taken away. -/
  | orphaned (token : Token) (id : ContentId) : Leaves (.orphaned token id) (.issued token)
  /-- The blob without owners could not be taken away. -/
  | emptied (id : ContentId) : Leaves (.emptied id) .released

/-- What a call does to the tables and to the stage of the operation that makes it. The next token
has the number `supply`. -/
inductive Step (store : ContentStore) (admits : Source → Prop) (supply : Nat) :
    Call → Contents → Stage → Contents → Stage → Prop
  /-- Nothing comes of the call. -/
  | pass {call : Call} (contents : Contents) (stage : Stage) :
    Step store admits supply call contents stage contents stage
  /-- The call fails, and the operation goes on without what it called for. -/
  | leave {call : Call} {stage stage' : Stage} (contents : Contents)
    (leaves : stage.Leaves stage') :
    Step store admits supply call contents stage contents stage'
  | issue (contents : Contents) :
    Step store admits supply .token contents .idle contents (.issued ⟨supply⟩)
  /-- A stream is taken in. -/
  | take {source : Source} {bytes : Bytes} (transfer : Transfer) (token : Token)
    (blobs : MemoryBlobs) (descriptors : MemoryDescriptors) (admitted : admits source)
    (accepted : store.limits.accepted? source = some bytes) :
    Step store admits supply (.blob (.put transfer))
      ⟨blobs, descriptors⟩ (.issued token)
      ⟨blobs.insert (store.stagingKey token) bytes, descriptors⟩ (.staged token bytes)
  /-- The staged bytes are dropped for want of an owner. -/
  | unstage {stage : Stage} (token : Token) (blobs : MemoryBlobs)
    (descriptors : MemoryDescriptors) (unregistered : stage.IsUnregistered token) :
    Step store admits supply (.blob (.delete (store.stagingKey token)))
      ⟨blobs, descriptors⟩ stage
      ⟨blobs.erase (store.stagingKey token), descriptors⟩ (.issued token)
  /-- The staged bytes of an owner of other bytes are dropped. -/
  | unshare (token : Token) (id : ContentId) (owners : Nat) (blobs : MemoryBlobs)
    (descriptors : MemoryDescriptors) :
    Step store admits supply (.blob (.delete (store.stagingKey token)))
      ⟨blobs, descriptors⟩ (.shared token id owners)
      ⟨blobs.erase (store.stagingKey token), descriptors⟩ (.owning id owners)
  /-- An owner is added to content that is there, and its own bytes are still staged. -/
  | share {owners : Nat} {descriptors descriptors' : MemoryDescriptors} (token : Token)
    (bytes : Bytes) (blobs : MemoryBlobs)
    (duplicated : MemoryDescriptors.duplicate descriptors (.ofBytes bytes) =
      (.ok owners, descriptors')) :
    Step store admits supply (.descriptor (.duplicate (.ofBytes bytes)))
      ⟨blobs, descriptors⟩ (.staged token bytes)
      ⟨blobs, descriptors'⟩ (.shared token (.ofBytes bytes) owners)
  /-- An owner is added to content that is there. -/
  | join {id : ContentId} {owners : Nat} {descriptors descriptors' : MemoryDescriptors}
    (blobs : MemoryBlobs)
    (duplicated : MemoryDescriptors.duplicate descriptors id = (.ok owners, descriptors')) :
    Step store admits supply (.descriptor (.duplicate id))
      ⟨blobs, descriptors⟩ .idle ⟨blobs, descriptors'⟩ (.owning id owners)
  /-- The staged bytes become the blob of their content. -/
  | promote {found : Bytes} {blobs blobs' : MemoryBlobs} (token : Token) (bytes : Bytes)
    (descriptors : MemoryDescriptors)
    (staged : blobs.get? (store.stagingKey token) = some found)
    (moved : store.layout.Apart → ∀ key, blobs'.get? key =
      if key = store.objectKey (.ofBytes bytes) then some found
      else if key = store.stagingKey token then none else blobs.get? key) :
    Step store admits supply
      (.blob (.rename (store.stagingKey token) (store.objectKey (.ofBytes bytes))))
      ⟨blobs, descriptors⟩ (.staged token bytes) ⟨blobs', descriptors⟩ (.promoted token bytes)
  /-- The staged bytes are copied to where the blob of their content lies, and stay staged. -/
  | copy {found : Bytes} {blobs : MemoryBlobs} (token : Token) (bytes : Bytes)
    (descriptors : MemoryDescriptors)
    (staged : blobs.get? (store.stagingKey token) = some found) :
    Step store admits supply
      (.blob (.rename (store.stagingKey token) (store.objectKey (.ofBytes bytes))))
      ⟨blobs, descriptors⟩ (.staged token bytes)
      ⟨blobs.insert (store.objectKey (.ofBytes bytes)) found, descriptors⟩ (.staged token bytes)
  /-- The blob is registered. -/
  | register {owners : Nat} {descriptors descriptors' : MemoryDescriptors} (token : Token)
    (bytes : Bytes) (blobs : MemoryBlobs)
    (created : MemoryDescriptors.create descriptors (.ofBytes bytes)
      (store.limits.descriptorOf bytes) = (.ok owners, descriptors')) :
    Step store admits supply
      (.descriptor (.create (.ofBytes bytes) (store.limits.descriptorOf bytes)))
      ⟨blobs, descriptors⟩ (.promoted token bytes)
      ⟨blobs, descriptors'⟩ (.owning (.ofBytes bytes) owners)
  /-- The blob that could not be registered turns out to belong to nobody. -/
  | disown {descriptors : MemoryDescriptors} (token : Token) (id : ContentId)
    (blobs : MemoryBlobs) (absent : descriptors.get? id = none) :
    Step store admits supply (.descriptor (.contains id))
      ⟨blobs, descriptors⟩ (.stranded token id) ⟨blobs, descriptors⟩ (.orphaned token id)
  /-- One of several owners is taken away. -/
  | release {id : ContentId} {remaining : Nat} {descriptors descriptors' : MemoryDescriptors}
    (blobs : MemoryBlobs)
    (deleted : MemoryDescriptors.delete descriptors id =
      (.ok (.released remaining), descriptors')) :
    Step store admits supply (.descriptor (.delete id))
      ⟨blobs, descriptors⟩ .idle ⟨blobs, descriptors'⟩ .released
  /-- The last owner is taken away. -/
  | empty (id : ContentId) (blobs : MemoryBlobs) (descriptors : MemoryDescriptors) :
    Step store admits supply (.descriptor (.delete id))
      ⟨blobs, descriptors⟩ .idle ⟨blobs, descriptors.erase id⟩ (.emptied id)
  /-- The blob that belongs to nobody is taken away. -/
  | discard (token : Token) (id : ContentId) (blobs : MemoryBlobs)
    (descriptors : MemoryDescriptors) :
    Step store admits supply (.blob (.delete (store.objectKey id)))
      ⟨blobs, descriptors⟩ (.orphaned token id)
      ⟨blobs.erase (store.objectKey id), descriptors⟩ (.issued token)
  /-- The blob without owners is taken away. -/
  | remove (id : ContentId) (blobs : MemoryBlobs) (descriptors : MemoryDescriptors) :
    Step store admits supply (.blob (.delete (store.objectKey id)))
      ⟨blobs, descriptors⟩ (.emptied id)
      ⟨blobs.erase (store.objectKey id), descriptors⟩ .released

variable {store : ContentStore} {admits : Source → Prop} {supply : Nat} {stage : Stage}

/-! ### Keys -/

lemma objectKey_ne (apart : store.layout.Apart) {id other : ContentId} (different : id ≠ other) :
    store.objectKey id ≠ store.objectKey other :=
  fun same => different (apart.object same)

lemma objectKey_ne_stagingKey (apart : store.layout.Apart) (id : ContentId) (token : Token) :
    store.objectKey id ≠ store.stagingKey token :=
  (apart.staging_ne_object token id).symm

/-! ### Calls that fail -/

/-- A call to the blobs that fails has no effect, and the operation has provided for it. -/
lemma step_failed_blob {call : BlobCall} {follows : call.Answer → Stage → Prop}
    (contents : Contents) (agreed : store.agreement admits stage (.blob call) follows)
    (error : StoreError) :
    ∃ stage', follows (call.failure error) stage' ∧
      Step store admits supply (.blob call) contents stage contents stage' := by
  cases call with
  | put transfer =>
    cases stage with
    | issued token => exact ⟨_, agreed.2 error _, .pass contents _⟩
    | _ => exact agreed.elim
  | get key =>
    cases stage with
    | idle => exact ⟨_, agreed (.error error), .pass contents _⟩
    | _ => exact agreed.elim
  | delete key =>
    cases stage with
    | issued token => exact ⟨_, agreed.2 (.error error), .pass contents _⟩
    | staged token bytes => exact ⟨_, agreed.2 (.error error), .leave contents (.unstaged _ _)⟩
    | shared token id owners =>
      exact ⟨_, agreed.2 (.error error), .leave contents (.unshared _ _ _)⟩
    | orphaned token id => exact ⟨_, agreed.2 (.error error), .leave contents (.orphaned _ _)⟩
    | emptied id => exact ⟨_, agreed.2 (.error error), .leave contents (.emptied _)⟩
    | _ => exact agreed.elim
  | contains key =>
    cases stage with
    | _ => exact agreed.elim
  | rename source target =>
    cases stage with
    | staged token bytes => exact ⟨_, agreed.2.2.1 error, .pass contents _⟩
    | _ => exact agreed.elim

lemma step_failed_descriptor {call : DescriptorCall} {follows : call.Answer → Stage → Prop}
    (contents : Contents) (agreed : store.agreement admits stage (.descriptor call) follows)
    (error : StoreError) :
    ∃ stage', follows (.error error) stage' ∧
      Step store admits supply (.descriptor call) contents stage contents stage' := by
  cases call with
  | create id record =>
    cases stage with
    | promoted token bytes =>
      obtain ⟨rfl, -, failed, -⟩ := agreed
      exact ⟨_, failed error, .leave contents (.unregistered _ _)⟩
    | _ => exact agreed.elim
  | read id =>
    cases stage with
    | idle => exact ⟨_, agreed (.error error), .pass contents _⟩
    | owning id owners => exact ⟨_, agreed (.error error), .pass contents _⟩
    | _ => exact agreed.elim
  | contains id =>
    cases stage with
    | idle => exact ⟨_, agreed (.error error), .pass contents _⟩
    | staged token bytes => exact ⟨_, agreed.2 (.error error), .pass contents _⟩
    | stranded token id => exact ⟨_, agreed.2.1 error, .leave contents (.settled _ _)⟩
    | _ => exact agreed.elim
  | duplicate id =>
    cases stage with
    | idle => exact ⟨_, agreed.1 error, .pass contents _⟩
    | staged token bytes => exact ⟨_, agreed.2.1 error, .pass contents _⟩
    | _ => exact agreed.elim
  | delete id =>
    cases stage with
    | idle => exact ⟨_, agreed.1 error, .pass contents _⟩
    | _ => exact agreed.elim

/-! ### Calls to the blobs -/

lemma step_put {transfer : Transfer} {follows : PutReply → Stage → Prop} (fresh : Token)
    (blobs : MemoryBlobs) (descriptors : MemoryDescriptors)
    (agreed : store.agreement admits stage (.blob (.put transfer)) follows) :
    ∃ stage', follows (BlobStore.put blobs fresh transfer).1 stage' ∧
      Step store admits supply (.blob (.put transfer)) ⟨blobs, descriptors⟩ stage
        ⟨(BlobStore.put blobs fresh transfer).2, descriptors⟩ stage' := by
  cases stage with
  | issued token =>
    obtain ⟨⟨source, admitted, rfl, taken⟩, failed⟩ := agreed
    cases accepted : store.limits.accepted? source with
    | none =>
      obtain ⟨error, outcome, put⟩ := MemoryBlobs.put_of_refused blobs _ accepted
      rw [put]
      exact ⟨_, failed error outcome, .pass _ _⟩
    | some bytes =>
      rw [MemoryBlobs.put_of_accepted fresh accepted]
      exact ⟨_, taken bytes accepted, .take _ token blobs descriptors admitted accepted⟩
  | _ => exact agreed.elim

lemma step_delete_blob {key : String} {follows : Except StoreError Unit → Stage → Prop}
    (blobs : MemoryBlobs) (descriptors : MemoryDescriptors)
    (agreed : store.agreement admits stage (.blob (.delete key)) follows) :
    ∃ stage', follows (MemoryBlobs.delete blobs key).1 stage' ∧
      Step store admits supply (.blob (.delete key)) ⟨blobs, descriptors⟩ stage
        ⟨(MemoryBlobs.delete blobs key).2, descriptors⟩ stage' := by
  unfold MemoryBlobs.delete
  split
  · cases stage with
    | issued token =>
      obtain ⟨rfl, dropped⟩ := agreed
      exact ⟨_, dropped (.ok ()), .unstage token blobs descriptors (Or.inl rfl)⟩
    | staged token bytes =>
      obtain ⟨rfl, dropped⟩ := agreed
      exact ⟨_, dropped (.ok ()), .unstage token blobs descriptors (Or.inr ⟨bytes, rfl⟩)⟩
    | shared token id owners =>
      obtain ⟨rfl, dropped⟩ := agreed
      exact ⟨_, dropped (.ok ()), .unshare token id owners blobs descriptors⟩
    | orphaned token id =>
      obtain ⟨rfl, removed⟩ := agreed
      exact ⟨_, removed (.ok ()), .discard token id blobs descriptors⟩
    | emptied id =>
      obtain ⟨rfl, removed⟩ := agreed
      exact ⟨_, removed (.ok ()), .remove id blobs descriptors⟩
    | _ => exact agreed.elim
  · exact step_failed_blob ⟨blobs, descriptors⟩ agreed (.notFound key)

/-- Staged bytes become the blob of their content, or there are none. -/
lemma step_rename {source target : String} {follows : Except StoreError Unit → Stage → Prop}
    (blobs : MemoryBlobs) (descriptors : MemoryDescriptors)
    (agreed : store.agreement admits stage (.blob (.rename source target)) follows) :
    ∃ stage', follows (MemoryBlobs.rename blobs source target).1 stage' ∧
      Step store admits supply (.blob (.rename source target)) ⟨blobs, descriptors⟩ stage
        ⟨(MemoryBlobs.rename blobs source target).2, descriptors⟩ stage' := by
  cases found : blobs.get? source with
  | none =>
    rw [MemoryBlobs.rename_of_absent found]
    exact step_failed_blob ⟨blobs, descriptors⟩ agreed (.notFound source)
  | some bytes =>
    rw [MemoryBlobs.rename_of_present found]
    cases stage with
    | staged token digested =>
      obtain ⟨rfl, rfl, -, promoted⟩ := agreed
      refine ⟨_, promoted, .promote token digested descriptors found ?_⟩
      intro _ key
      rw [Table.get?_insert, Table.get?_erase]
    | _ => exact agreed.elim

lemma step_blob {call : BlobCall} {follows : call.Answer → Stage → Prop} (fresh : Token)
    (blobs : MemoryBlobs) (descriptors : MemoryDescriptors)
    (agreed : store.agreement admits stage (.blob call) follows) :
    ∃ stage', follows (BlobStore.answer fresh blobs call).1 stage' ∧
      Step store admits supply (.blob call) ⟨blobs, descriptors⟩ stage
        ⟨(BlobStore.answer fresh blobs call).2, descriptors⟩ stage' := by
  cases call with
  | put transfer => exact step_put fresh blobs descriptors agreed
  | get key =>
    cases stage with
    | idle => exact ⟨_, agreed _, .pass _ _⟩
    | _ => exact agreed.elim
  | delete key => exact step_delete_blob blobs descriptors agreed
  | contains key =>
    cases stage with
    | _ => exact agreed.elim
  | rename source target => exact step_rename blobs descriptors agreed

/-! ### Calls to the descriptors -/

lemma step_create {id : ContentId} {record : Descriptor}
    {follows : Except StoreError Nat → Stage → Prop} (blobs : MemoryBlobs)
    (descriptors : MemoryDescriptors)
    (agreed : store.agreement admits stage (.descriptor (.create id record)) follows) :
    ∃ stage', follows (MemoryDescriptors.create descriptors id record).1 stage' ∧
      Step store admits supply (.descriptor (.create id record)) ⟨blobs, descriptors⟩ stage
        ⟨blobs, (MemoryDescriptors.create descriptors id record).2⟩ stage' := by
  have created := MemoryDescriptors.create_eq descriptors id record
  rw [created]
  cases stage with
  | promoted token bytes =>
    obtain ⟨rfl, rfl, -, registered⟩ := agreed
    exact ⟨_, registered _, .register token bytes blobs created⟩
  | _ => exact agreed.elim

lemma step_contains {id : ContentId} {follows : Except StoreError Bool → Stage → Prop}
    (blobs : MemoryBlobs) (descriptors : MemoryDescriptors)
    (agreed : store.agreement admits stage (.descriptor (.contains id)) follows) :
    ∃ stage', follows (.ok (descriptors.contains id)) stage' ∧
      Step store admits supply (.descriptor (.contains id)) ⟨blobs, descriptors⟩ stage
        ⟨blobs, descriptors⟩ stage' := by
  cases stage with
  | idle => exact ⟨_, agreed _, .pass _ _⟩
  | staged token bytes => exact ⟨_, agreed.2 _, .pass _ _⟩
  | stranded token stranded =>
    obtain ⟨rfl, -, present, absent⟩ := agreed
    cases found : descriptors.get? id with
    | none =>
      have missing : descriptors.contains id = false := by simp [Table.contains, found]
      rw [missing]
      exact ⟨_, absent, .disown token id blobs found⟩
    | some holding =>
      have there : descriptors.contains id = true := by simp [Table.contains, found]
      rw [there]
      exact ⟨_, present, .leave _ (.settled token id)⟩
  | _ => exact agreed.elim

lemma step_duplicate {id : ContentId} {follows : Except StoreError Nat → Stage → Prop}
    (blobs : MemoryBlobs) (descriptors : MemoryDescriptors)
    (agreed : store.agreement admits stage (.descriptor (.duplicate id)) follows) :
    ∃ stage', follows (MemoryDescriptors.duplicate descriptors id).1 stage' ∧
      Step store admits supply (.descriptor (.duplicate id)) ⟨blobs, descriptors⟩ stage
        ⟨blobs, (MemoryDescriptors.duplicate descriptors id).2⟩ stage' := by
  cases found : descriptors.get? id with
  | none =>
    rw [MemoryDescriptors.duplicate_of_absent found]
    exact step_failed_descriptor ⟨blobs, descriptors⟩ agreed (.notFound id.text)
  | some holding =>
    have duplicated := MemoryDescriptors.duplicate_of_present found
    rw [duplicated]
    cases stage with
    | idle => exact ⟨_, agreed.2 _, .join blobs duplicated⟩
    | staged token bytes =>
      obtain ⟨rfl, -, shared⟩ := agreed
      exact ⟨_, shared _, .share token bytes blobs duplicated⟩
    | _ => exact agreed.elim

lemma step_delete {id : ContentId} {follows : Except StoreError DeleteOutcome → Stage → Prop}
    (blobs : MemoryBlobs) (descriptors : MemoryDescriptors)
    (agreed : store.agreement admits stage (.descriptor (.delete id)) follows) :
    ∃ stage', follows (MemoryDescriptors.delete descriptors id).1 stage' ∧
      Step store admits supply (.descriptor (.delete id)) ⟨blobs, descriptors⟩ stage
        ⟨blobs, (MemoryDescriptors.delete descriptors id).2⟩ stage' := by
  cases stage with
  | idle =>
    obtain ⟨-, missing, released, removed⟩ := agreed
    cases found : descriptors.get? id with
    | none =>
      rw [MemoryDescriptors.delete_of_absent found]
      exact ⟨_, missing, .pass _ _⟩
    | some holding =>
      rcases Nat.lt_or_ge 1 holding.owners with shared | last
      · have deleted := MemoryDescriptors.delete_of_shared found shared
        rw [deleted]
        exact ⟨_, released _, .release blobs deleted⟩
      · rw [MemoryDescriptors.delete_of_last found last]
        exact ⟨_, removed, .empty id blobs descriptors⟩
  | _ => exact agreed.elim

lemma step_descriptor {call : DescriptorCall} {follows : call.Answer → Stage → Prop}
    (blobs : MemoryBlobs) (descriptors : MemoryDescriptors)
    (agreed : store.agreement admits stage (.descriptor call) follows) :
    ∃ stage', follows (DescriptorStore.perform descriptors call).1 stage' ∧
      Step store admits supply (.descriptor call) ⟨blobs, descriptors⟩ stage
        ⟨blobs, (DescriptorStore.perform descriptors call).2⟩ stage' := by
  cases call with
  | create id record => exact step_create blobs descriptors agreed
  | read id =>
    cases stage with
    | idle => exact ⟨_, agreed _, .pass _ _⟩
    | owning owned owners => exact ⟨_, agreed _, .pass _ _⟩
    | _ => exact agreed.elim
  | contains id => exact step_contains blobs descriptors agreed
  | duplicate id => exact step_duplicate blobs descriptors agreed
  | delete id => exact step_delete blobs descriptors agreed

/-! ### Depots -/

/-- Whatever call an operation makes of a depot, it is one step. -/
theorem step_answer {call : Call} {follows : call.Answer → Stage → Prop} (depot : MemoryDepot)
    (agreed : store.agreement admits stage call follows) :
    ∃ stage', follows (depot.answer call).1 stage' ∧
      Step store admits depot.issued call depot.contents stage
        (MemoryDepot.contents (depot.answer call).2) stage' := by
  cases call with
  | clock =>
    cases stage with
    | _ => exact agreed.elim
  | token =>
    cases stage with
    | idle => exact ⟨_, agreed _, .issue _⟩
    | _ => exact agreed.elim
  | report event =>
    cases stage with
    | promoted token bytes => exact agreed.elim
    | _ => exact ⟨_, agreed, .pass _ _⟩
  | blob call => exact step_blob ⟨depot.issued⟩ depot.blobs depot.descriptors agreed
  | descriptor call => exact step_descriptor depot.blobs depot.descriptors agreed
  | slots call =>
    cases stage with
    | _ => exact agreed.elim

lemma step_faulty_blob {call : BlobCall} {follows : call.Answer → Stage → Prop}
    (faulty : FaultyDepot) (agreed : store.agreement admits stage (.blob call) follows) :
    ∃ stage', follows (faulty.answerBlob call).1 stage' ∧
      Step store admits supply (.blob call) faulty.contents stage
        (faulty.answerBlob call).2.contents stage' := by
  rcases faulty.answerBlob_cases call with ⟨error, failed, same⟩ | ⟨fresh, reply, left⟩
  · rw [failed, same]
    exact step_failed_blob faulty.contents agreed error
  · rw [reply, left]
    exact step_blob fresh faulty.contents.blobs faulty.contents.descriptors agreed

lemma step_faulty_descriptor {call : DescriptorCall} {follows : call.Answer → Stage → Prop}
    (faulty : FaultyDepot) (agreed : store.agreement admits stage (.descriptor call) follows) :
    ∃ stage', follows (faulty.answerDescriptor call).1 stage' ∧
      Step store admits supply (.descriptor call) faulty.contents stage
        (faulty.answerDescriptor call).2.contents stage' := by
  rcases faulty.answerDescriptor_cases call with ⟨error, failed, same⟩ | ⟨reply, left⟩
  · rw [failed, same]
    exact step_failed_descriptor faulty.contents agreed error
  · rw [reply, left]
    exact step_descriptor faulty.contents.blobs faulty.contents.descriptors agreed

/-- Renaming by copying is one step as well, however far it comes. -/
lemma step_renameByCopy {source target : String}
    {follows : Except StoreError Unit → Stage → Prop} (faulty : FaultyDepot)
    (agreed : store.agreement admits stage (.blob (.rename source target)) follows) :
    ∃ stage', follows ((renameByCopy source target).run FaultyDepot.answerBlob faulty).1 stage' ∧
      Step store admits supply (.blob (.rename source target)) faulty.contents stage
        ((renameByCopy source target).run FaultyDepot.answerBlob faulty).2.contents stage' := by
  rcases faulty.renameByCopy_cases source target with
    ⟨error, failed, same⟩ | ⟨found, staged, ⟨error, failed, copied⟩ | ⟨done, moved⟩⟩
  · rw [failed, same]
    exact step_failed_blob faulty.contents agreed error
  · cases stage with
    | staged token bytes =>
      obtain ⟨rfl, rfl, refused, -⟩ := agreed
      rw [failed, copied]
      exact ⟨_, refused error, .copy token bytes faulty.contents.descriptors staged⟩
    | _ => exact agreed.elim
  · cases stage with
    | staged token bytes =>
      obtain ⟨rfl, rfl, -, promoted⟩ := agreed
      rw [done, moved]
      refine ⟨_, promoted, .promote token bytes faulty.contents.descriptors staged ?_⟩
      intro apart key
      have other : store.stagingKey token ≠ store.objectKey (.ofBytes bytes) :=
        apart.staging_ne_object token (.ofBytes bytes)
      rw [Table.get?_erase, Table.get?_insert]
      by_cases same : key = store.stagingKey token
      · rw [if_pos same, same, if_neg other, if_pos rfl]
      · rw [if_neg same, if_neg same]
        rfl
    | _ => exact agreed.elim

/-- Whatever call an operation makes of a depot where calls may fail, it is one step. -/
theorem step_faulty (way : Renaming) {call : Call}
    {follows : call.Answer → Stage → Prop} (faulty : FaultyDepot)
    (agreed : store.agreement admits stage call follows) :
    ∃ stage', follows (faulty.answer way call).1 stage' ∧
      Step store admits faulty.depot.issued call faulty.contents stage
        (faulty.answer way call).2.contents stage' := by
  cases call with
  | blob call =>
    cases call with
    | rename source target =>
      cases way with
      | native => exact step_faulty_blob faulty agreed
      | byCopy => exact step_renameByCopy faulty agreed
    | _ => exact step_faulty_blob faulty agreed
  | descriptor call => exact step_faulty_descriptor faulty agreed
  | _ => exact step_answer faulty.depot agreed

/-- A property that every step preserves holds at the end of every operation, in whatever way
calls fail and blobs are renamed. -/
theorem holds_at_end (store : ContentStore) (admits : Source → Prop) (way : Renaming)
    {holds : Contents → Stage → Prop}
    (preserved : ∀ {supply call contents stage contents' stage'},
      Step store admits supply call contents stage contents' stage' →
        holds contents stage → holds contents' stage')
    (call : ContentCall) (admitted : ∀ source, call = .create source → admits source)
    (faulty : FaultyDepot) (h : holds faulty.contents .idle) :
    ∃ stage, Concludes call (faulty.run way (store.answer call)).1 stage ∧
      holds (faulty.run way (store.answer call)).2.contents stage := by
  have honoured : (store.agreement admits).HonouredBy (fun faulty => holds faulty.contents)
      (FaultyDepot.answer way) := by
    intro faulty stage call follows h agreed
    obtain ⟨stage', follows', step⟩ := step_faulty way faulty agreed
    exact ⟨stage', follows', preserved step h⟩
  exact (keeps_answer call admitted).run honoured h

/-- The depot after calls to a content store that are made one after the other. -/
def serveFaulty (store : ContentStore) (way : Renaming) (faulty : FaultyDepot)
    (calls : List ContentCall) : FaultyDepot :=
  calls.foldl (fun faulty call => (faulty.run way (store.answer call)).2) faulty

/-- A property that every step preserves, and that an operation at its end hands on to the next
one, holds after any calls. -/
theorem holds_serveFaulty (store : ContentStore) (admits : Source → Prop) (way : Renaming)
    {holds : Contents → Stage → Prop}
    (preserved : ∀ {supply call contents stage contents' stage'},
      Step store admits supply call contents stage contents' stage' →
        holds contents stage → holds contents' stage')
    (handed : ∀ {contents stage}, holds contents stage → holds contents .idle)
    (calls : List ContentCall) (admitted : ∀ source, .create source ∈ calls → admits source)
    (faulty : FaultyDepot) (h : holds faulty.contents .idle) :
    holds (store.serveFaulty way faulty calls).contents .idle := by
  induction calls generalizing faulty with
  | nil => exact h
  | cons call rest ih =>
    have first (source : Source) (same : call = .create source) : admits source :=
      admitted source (same ▸ List.mem_cons_self)
    obtain ⟨stage, -, h'⟩ := holds_at_end store admits way preserved call first faulty h
    exact ih (fun source later => admitted source (List.mem_cons_of_mem _ later)) _ (handed h')

end ContentStore

end AssetCache
