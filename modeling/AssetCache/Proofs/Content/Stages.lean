import AssetCache.Content.Store
import AssetCache.Proofs.Agreement
import AssetCache.Proofs.Digests

/-!
# Stages of the operations of a content store

What an operation of a content store has in the stores is not to be seen from the stores alone: a
staged blob belongs to one operation, and an owner that was counted is owed to one caller. The
stage of an operation says so, and the agreement says which calls an operation makes in which
stage. It leaves open who answers the calls: any call may fail.

All operations keep to the agreement. Whatever is claimed of content stores, alone or side by side,
with failures or without, is proved from the agreement and not from the operations.
-/

namespace AssetCache

/-- A call to a content store. -/
inductive ContentCall where
  | create (source : Source)
  | read (id : ContentId)
  | contains (id : ContentId)
  | duplicate (id : ContentId)
  | delete (id : ContentId)
deriving DecidableEq

namespace ContentCall

/-- What a call comes to when it succeeds. -/
abbrev Value : ContentCall → Type
  | create _ => StoredContent
  | read _ => OpenedContent
  | contains _ => Bool
  | duplicate _ => Nat
  | delete _ => DeleteOutcome

/-- What a call is answered with. -/
abbrev Answer (call : ContentCall) : Type :=
  Except StoreError call.Value

end ContentCall

namespace ContentStore

/-- The operation that answers a call. -/
def answer (store : ContentStore) : (call : ContentCall) → Operation call.Answer
  | .create source => store.create source
  | .read id => store.read id
  | .contains id => contains id
  | .duplicate id => duplicate id
  | .delete id => store.delete id

/-- The key under which the stream of a token is staged. -/
def stagingKey (store : ContentStore) (token : Token) : String :=
  store.layout.stagingKey token.text

/-- The key of the blob of some content. -/
def objectKey (store : ContentStore) (id : ContentId) : String :=
  store.layout.objectKey id

/-- How far an operation has come with what it does to the stores. -/
inductive Stage where
  /-- It has done nothing that lasts. -/
  | idle
  /-- It has a token, and nothing is staged under it. -/
  | issued (token : Token)
  /-- The bytes of its stream are staged. -/
  | staged (token : Token) (bytes : Bytes)
  /-- It has become an owner of content that was there, and its own bytes are still staged. -/
  | shared (token : Token) (id : ContentId) (owners : Nat)
  /-- Its bytes have become the blob of their content, which has to be registered. -/
  | promoted (token : Token) (bytes : Bytes)
  /-- The blob that it left could not be registered. -/
  | stranded (token : Token) (id : ContentId)
  /-- The blob that it left belongs to nobody, and is to go. -/
  | orphaned (token : Token) (id : ContentId)
  /-- It has become an owner, and was told the number of owners. -/
  | owning (id : ContentId) (owners : Nat)
  /-- It has taken the last owner away, and the blob is to go. -/
  | emptied (id : ContentId)
  /-- It has taken an owner away. -/
  | released
deriving DecidableEq

namespace Stage

/-- The token that an operation has been issued. -/
def token? : Stage → Option Token
  | issued token | staged token _ | shared token _ _ | promoted token _ | stranded token _
  | orphaned token _ => some token
  | idle | owning _ _ | emptied _ | released => none

end Stage

open ContentStore.Stage in
/-- What the operations of a content store and the stores agree on, where all streams that come in
satisfy `admits`. -/
def agreement (store : ContentStore) (admits : Source → Prop) :
    Agreement Call Call.Answer Stage
  | promoted _ _, .report _, _ => False
  | stage, .report _, next => next () stage
  | idle, .token, next => ∀ token, next token (issued token)
  | idle, .blob (.get _), next => ∀ reply, next reply idle
  | idle, .descriptor (.read _), next => ∀ reply, next reply idle
  | idle, .descriptor (.contains _), next => ∀ reply, next reply idle
  | idle, .descriptor (.duplicate id), next =>
    (∀ error, next (.error error) idle) ∧ ∀ owners, next (.ok owners) (owning id owners)
  | idle, .descriptor (.delete id), next =>
    (∀ error, next (.error error) idle) ∧ next (.ok .missing) idle ∧
      (∀ remaining, next (.ok (.released remaining)) released) ∧ next (.ok .removed) (emptied id)
  | issued token, .blob (.put transfer), next =>
    (∃ source, admits source ∧
      transfer = { key := store.stagingKey token, upload := .digested store.limits source } ∧
      ∀ bytes, store.limits.accepted? source = some bytes →
        next ⟨.ok bytes.length, some (.ok (store.limits.attributesOf bytes))⟩
          (staged token bytes)) ∧
      ∀ error outcome, next ⟨.error error, outcome⟩ (issued token)
  | issued token, .blob (.delete key), next =>
    key = store.stagingKey token ∧ ∀ reply, next reply (issued token)
  | staged token _, .blob (.delete key), next =>
    key = store.stagingKey token ∧ ∀ reply, next reply (issued token)
  | staged token bytes, .descriptor (.contains id), next =>
    id = .ofBytes bytes ∧ ∀ reply, next reply (staged token bytes)
  | staged token bytes, .descriptor (.duplicate id), next =>
    id = .ofBytes bytes ∧ (∀ error, next (.error error) (staged token bytes)) ∧
      ∀ owners, next (.ok owners) (shared token id owners)
  | staged token bytes, .blob (.rename source target), next =>
    source = store.stagingKey token ∧ target = store.objectKey (.ofBytes bytes) ∧
      (∀ error, next (.error error) (staged token bytes)) ∧ next (.ok ()) (promoted token bytes)
  | shared token id owners, .blob (.delete key), next =>
    key = store.stagingKey token ∧ ∀ reply, next reply (owning id owners)
  | promoted token bytes, .descriptor (.create id record), next =>
    id = .ofBytes bytes ∧ record = store.limits.descriptorOf bytes ∧
      (∀ error, next (.error error) (stranded token id)) ∧
      ∀ owners, next (.ok owners) (owning id owners)
  | stranded token id, .descriptor (.contains other), next =>
    other = id ∧ (∀ error, next (.error error) (issued token)) ∧
      next (.ok true) (issued token) ∧ next (.ok false) (orphaned token id)
  | orphaned token id, .blob (.delete key), next =>
    key = store.objectKey id ∧ ∀ reply, next reply (issued token)
  | owning id owners, .descriptor (.read _), next => ∀ reply, next reply (owning id owners)
  | emptied id, .blob (.delete key), next =>
    key = store.objectKey id ∧ ∀ reply, next reply released
  | _, _, _ => False

attribute [simp] agreement

/-- What an operation comes to, and the stage in which it ends. -/
def Concludes : (call : ContentCall) → call.Answer → Stage → Prop
  | .create _, .ok stored, stage => stage = .owning stored.id stored.refcount
  | .create _, .error _, stage => ∃ token, stage = .issued token
  | .read _, _, stage => stage = .idle
  | .contains _, _, stage => stage = .idle
  | .duplicate id, .ok owners, stage => stage = .owning id owners
  | .duplicate _, .error _, stage => stage = .idle
  | .delete _, .ok .missing, stage => stage = .idle
  | .delete _, .ok _, stage => stage = .released
  | .delete _, .error _, stage => stage = .idle

variable {store : ContentStore} {admits : Source → Prop}

open Program Operation

variable {token : Token} {bytes : Bytes} {id : ContentId} {stage : Stage}

/-- The operation has a token and is not an owner, with or without bytes staged. -/
def Stage.IsUnregistered (token : Token) (stage : Stage) : Prop :=
  stage = .issued token ∨ ∃ bytes, stage = .staged token bytes

/-- What registering an owner comes to: the operation is one, or else it has left nothing but
staged bytes. -/
def Registers (token : Token) : Except StoreError StoredContent → Stage → Prop
  | .ok stored, stage => stage = .owning stored.id stored.refcount
  | .error _, stage => stage.IsUnregistered token

lemma keeps_discardStaging {post : Unit → Stage → Prop} (unregistered : stage.IsUnregistered token)
    (h : post () (.issued token)) :
    (discardStaging (store.stagingKey token)).Keeps (store.agreement admits) post stage := by
  rcases unregistered with rfl | ⟨bytes, rfl⟩
  all_goals
    simp only [discardStaging, blob, bind_eq, bind_ask, bind_done, keeps_ask, agreement, true_and]
    rintro (error | ⟨⟩)
    · by_cases absent : error.isNotFound = true <;>
        simpa [absent, report, agreement] using h
    · exact h

lemma keeps_discardOrphan {post : Unit → Stage → Prop} (h : post () (.issued token)) :
    (store.discardOrphan id).Keeps (store.agreement admits) post (.stranded token id) := by
  simp only [discardOrphan, descriptor, bind_eq, bind_ask, bind_done, keeps_ask, agreement,
    true_and]
  refine ⟨?_, h, ?_⟩
  · intro error
    simpa [report, agreement] using h
  · simp only [blob, bind_ask, bind_done, keeps_ask, agreement]
    refine ⟨rfl, ?_⟩
    rintro (error | ⟨⟩)
    · by_cases absent : error.isNotFound = true <;>
        simpa [absent, report, agreement] using h
    · exact h

lemma keeps_promote {post : Except StoreError StoredContent → Stage → Prop}
    (h : ∀ result stage, Registers token result stage → post result stage) :
    (store.promote (store.stagingKey token) (.ofBytes bytes)
      (store.limits.descriptorOf bytes)).Keeps (store.agreement admits) post
        (.staged token bytes) := by
  simp only [promote, blob, bind_eq, bind_ask, bind_done, keeps_ask, agreement, true_and]
  refine ⟨rfl, ?_, ?_⟩
  · intro error
    exact h (.error error) _ (Or.inr ⟨bytes, rfl⟩)
  · simp only [descriptor, bind_ask, bind_done, keeps_ask, agreement, true_and]
    refine ⟨?_, ?_⟩
    · intro error
      rw [keeps_bind]
      exact keeps_discardOrphan (h (.error error) _ (Or.inl rfl))
    · intro owners
      exact h (.ok _) _ rfl

lemma keeps_deduplicate {record : Descriptor} {owners : Nat}
    {post : StoredContent → Stage → Prop}
    (h : ∀ stored : StoredContent, post stored (.owning stored.id stored.refcount)) :
    (deduplicate (store.stagingKey token) id record owners).Keeps (store.agreement admits) post
      (.shared token id owners) := by
  simp only [deduplicate, blob, bind_eq, bind_ask, bind_done, keeps_ask, agreement, true_and]
  rintro (error | ⟨⟩)
  all_goals
    simp only [report, descriptor, bind_ask, bind_done, keeps_ask, agreement, pure_eq]
    rintro (error | found)
    · exact h ⟨id, record, owners⟩
    · exact h ⟨id, found, owners⟩

lemma keeps_commit {post : Except StoreError StoredContent → Stage → Prop}
    (h : ∀ result stage, Registers token result stage → post result stage) :
    (store.commit (store.stagingKey token) (store.limits.attributesOf bytes)).Keeps
      (store.agreement admits) post (.staged token bytes) := by
  simp only [commit, IngestLimits.id_attributesOf, descriptor, bind_eq, bind_ask, bind_done,
    keeps_ask, agreement, true_and]
  rintro (error | _ | _)
  · exact h (.error error) _ (Or.inr ⟨bytes, rfl⟩)
  · exact keeps_promote h
  · simp only [keeps_ask, agreement, true_and]
    refine ⟨?_, ?_⟩
    · intro error
      by_cases absent : error.isNotFound = true
      · rw [if_pos absent]
        exact keeps_promote h
      · rw [if_neg absent]
        exact h (.error error) _ (Or.inr ⟨bytes, rfl⟩)
    · intro owners
      rw [keeps_bind]
      exact keeps_deduplicate fun stored => h (.ok stored) _ rfl

/-- Ingesting a stream stages its bytes and finds their attributes, or fails. -/
lemma keeps_ingest {source : Source} {post : Except StoreError Attributes → Stage → Prop}
    (admitted : admits source)
    (taken : ∀ bytes, post (.ok (store.limits.attributesOf bytes)) (.staged token bytes))
    (failed : ∀ error, post (.error error) (.issued token)) :
    (ingest store.limits (store.stagingKey token) source).Keeps (store.agreement admits) post
      (.issued token) := by
  simp only [ingest, blob, bind_eq, bind_ask, bind_done, keeps_ask, agreement]
  refine ⟨⟨source, admitted, rfl, ?_⟩, ?_⟩
  · intro bytes accepted
    simp only [PutReply.event?]
    split
    · exact taken bytes
    · exact taken bytes
  · intro error outcome
    exact failed error

lemma keeps_create {source : Source} (admitted : admits source) :
    (store.create source).Keeps (store.agreement admits) (Concludes (.create source)) .idle := by
  simp only [create, Operation.token, bind_eq, bind_ask, bind_done, keeps_ask, agreement]
  intro token
  rw [keeps_bind]
  apply keeps_ingest admitted
  · intro bytes
    rw [keeps_bind]
    apply keeps_commit
    rintro (error | stored) stage registered
    · rw [keeps_bind]
      exact keeps_discardStaging registered ⟨token, rfl⟩
    · obtain rfl : stage = .owning stored.id stored.refcount := registered
      rfl
  · intro error
    rw [keeps_bind]
    exact keeps_discardStaging (Or.inl rfl) ⟨token, rfl⟩

lemma keeps_delete :
    (store.delete id).Keeps (store.agreement admits) (Concludes (.delete id)) .idle := by
  simp only [delete, descriptor, bind_eq, bind_ask, bind_done, keeps_ask, agreement]
  refine ⟨fun error => rfl, rfl, fun remaining => rfl, ?_⟩
  simp only [DeleteOutcome.isRemoved, blob, if_true, bind_ask, bind_done, keeps_ask, agreement]
  refine ⟨rfl, ?_⟩
  rintro (error | ⟨⟩)
  · rfl
  · rfl

/-- Every operation of a content store keeps to the agreement, from its start to its end. -/
theorem keeps_answer (call : ContentCall)
    (admitted : ∀ source, call = .create source → admits source) :
    (store.answer call).Keeps (store.agreement admits) (Concludes call) .idle := by
  cases call with
  | create source => exact keeps_create (admitted source rfl)
  | read id =>
    simp only [answer, read, descriptor, blob, bind_eq, bind_ask, bind_done, keeps_ask, agreement]
    rintro (error | record)
    · rfl
    · rintro (error | stream)
      · rfl
      · rfl
  | contains id =>
    simp only [answer, contains, descriptor, keeps_ask, agreement]
    intro reply
    rfl
  | duplicate id =>
    simp only [answer, duplicate, descriptor, keeps_ask, agreement]
    exact ⟨fun error => rfl, fun owners => rfl⟩
  | delete id => exact keeps_delete

end ContentStore

end AssetCache
