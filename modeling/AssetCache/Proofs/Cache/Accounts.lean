import AssetCache.Cache.Content
import AssetCache.Proofs.Cache.Owners
import AssetCache.Proofs.Cache.Slots
import AssetCache.Proofs.Content.Calls
import AssetCache.Proofs.Team

/-!
# The accounts of operations

The account of an operation says what it has taken on and not yet passed on: the content that it
stored and is about to publish, and the references that it was handed and has to give back. At its
end, an operation of a content cache has an empty account (`ContentCache.books_answer`).
-/

namespace AssetCache

open Program

/-- What an operation of a cache has taken on and not yet passed on. -/
structure Account where
  /-- The content that it has become an owner of in order to publish it. -/
  held : Option ContentId := none
  /-- The contents that it was handed in order to give the reference back. -/
  owed : List ContentId := []
deriving DecidableEq

namespace Account

/-- The account after a call was answered. -/
def after (account : Account) : (call : Call) → call.Answer → Account
  | .descriptor (.create id _), .ok _ => { account with held := some id }
  | .descriptor (.duplicate id), .ok _ => { account with held := some id }
  | .descriptor (.delete id), _ => { account with owed := account.owed.erase id }
  | .slots (.publish _ _ _), publication =>
    ⟨none, account.owed ++ publication.released.toList⟩
  | .slots call, reply => { account with owed := account.owed ++ call.handed reply }
  | _, _ => account

/-- The account of a member after the calls that were answered so far. -/
def ofLog (log : List Answered) (member : Nat) : Account :=
  (log.filter fun answered => answered.member = member).foldl
    (fun account answered => account.after answered.call answered.answer) {}

/-- The calls that fit an account: nobody takes on two contents at once, publishes what he has not
stored, or gives back what he was not handed. -/
def Permits (account : Account) : Call → Prop
  | .descriptor (.create _ _) | .descriptor (.duplicate _) => account.held = none
  | .descriptor (.delete id) => id ∈ account.owed
  | .slots (.publish _ _ entry) => account.held = some entry.value
  | _ => True

/-- How often some content is held or owed. -/
def claims (account : Account) (id : ContentId) : Nat :=
  account.held.toList.count id + account.owed.count id

end Account

/-- Giving a reference back succeeds; other calls may be answered in any way. -/
def Call.Gives : (call : Call) → call.Answer → Prop
  | .descriptor (.delete _), .ok outcome => outcome ≠ .missing
  | .descriptor (.delete _), .error _ => False
  | _, _ => True

/-- What an operation of a cache and the depot agree on: the operation makes calls that fit its
account. -/
def bookkeeping : Agreement Call Call.Answer Account := fun account call next =>
  account.Permits call ∧ ∀ reply, call.Gives reply → next reply (account.after call reply)

/-- The same where calls are answered in certain ways. -/
def accounting (given : (call : Call) → call.Answer → Prop) :
    Agreement Call Call.Answer Account := fun account call next =>
  account.Permits call ∧ ∀ reply, given call reply → next reply (account.after call reply)

variable {α : Type} {post : α → Account → Prop} {kind : α → Prop} {account : Account}
  {program : Operation α} {given : (call : Call) → call.Answer → Prop}

lemma keeps_of_neutral (neutral : program.Within Call.Neutral kind)
    (h : ∀ result, kind result → post result account) :
    program.Keeps (accounting given) post account := by
  refine neutral.keeps h ?_
  intro call next allowed rest
  cases call with
  | descriptor call =>
    cases call with
    | read id => exact ⟨trivial, fun reply _ => rest reply⟩
    | contains id => exact ⟨trivial, fun reply _ => rest reply⟩
    | _ => exact allowed.elim
  | slots call => exact allowed.elim
  | _ => exact ⟨trivial, fun reply _ => rest reply⟩

/-! ### Operations of the content store -/

namespace ContentStore

open Operation

variable {store : ContentStore} {id : ContentId} {record : Descriptor} {staging : String}
  {source : Source}

section Storing

variable {post : Except StoreError StoredContent → Account → Prop}

lemma books_promote (empty : account.held = none)
    (stored : ∀ stored, stored.id = id → post (.ok stored) { account with held := some id })
    (failed : ∀ error, post (.error error) account) :
    (store.promote staging id record).Keeps (accounting given) post account := by
  simp only [promote, blob, descriptor, bind_eq, bind_ask, bind_done, keeps_ask]
  refine ⟨trivial, ?_⟩
  rintro (error | _) -
  · exact failed error
  · refine ⟨empty, ?_⟩
    rintro (error | owners) -
    · rw [keeps_bind]
      exact keeps_of_neutral neutral_discardOrphan fun _ _ => failed error
    · exact stored ⟨id, record, owners⟩ rfl

lemma books_commit {attributes : Attributes} (empty : account.held = none)
    (stored : ∀ stored, post (.ok stored) { account with held := some stored.id })
    (failed : ∀ error, post (.error error) account) :
    (store.commit staging attributes).Keeps (accounting given) post account := by
  unfold commit
  cases attributes.id with
  | none => exact failed _
  | some id =>
    have named (content : StoredContent) (same : content.id = id) :
        post (.ok content) { account with held := some id } := same ▸ stored content
    simp only [descriptor, bind_eq, bind_ask, bind_done, keeps_ask]
    refine ⟨trivial, ?_⟩
    rintro (error | _ | _) -
    · exact failed error
    · exact books_promote empty named failed
    · refine ⟨empty, ?_⟩
      rintro (error | owners) -
      · dsimp only
        split
        · exact books_promote empty named failed
        · exact failed error
      · rw [keeps_bind]
        exact keeps_of_neutral neutral_deduplicate named

/-- An operation that stores content becomes its owner if it succeeds, and only then. -/
lemma books_create (empty : account.held = none)
    (stored : ∀ stored, post (.ok stored) { account with held := some stored.id })
    (failed : ∀ error, post (.error error) account) :
    (store.create source).Keeps (accounting given) post account := by
  have cleared (staging : String) (error : StoreError) : ((discardStaging staging).bind fun _ =>
      done (.error error)).Keeps (accounting given) post account := by
    rw [keeps_bind]
    exact keeps_of_neutral neutral_discardStaging fun _ _ => failed error
  simp only [create, Operation.token, bind_eq, bind_ask, bind_done, keeps_ask]
  refine ⟨trivial, ?_⟩
  intro token _
  rw [keeps_bind]
  apply keeps_of_neutral neutral_ingest
  rintro (error | attributes) -
  · exact cleared _ error
  · rw [keeps_bind]
    apply books_commit empty
    · intro content
      exact ⟨trivial, fun _ _ => stored content⟩
    · exact cleared _

end Storing

/-- Taking an owner away gives a reference back. -/
lemma books_delete {post : Except StoreError DeleteOutcome → Account → Prop} {held : Option ContentId}
    {ids : List ContentId} (h : ∀ outcome, post (.ok outcome) ⟨held, ids⟩) :
    (store.delete id).Keeps bookkeeping post ⟨held, id :: ids⟩ := by
  have given (outcome : DeleteOutcome) :
      (done (.ok outcome) : Operation (Except StoreError DeleteOutcome)).Keeps bookkeeping post
        (Account.after ⟨held, id :: ids⟩ (.descriptor (.delete id)) (.ok outcome)) := by
    simp only [keeps_done, Account.after, List.erase_cons_head]
    exact h outcome
  simp only [delete, blob, descriptor, bind_eq, bind_ask, bind_done, keeps_ask]
  refine ⟨List.mem_cons_self, ?_⟩
  rintro (error | outcome) gives
  · exact gives.elim
  · dsimp only
    split
    · refine ⟨trivial, ?_⟩
      rintro (error | _) -
      · exact ⟨trivial, fun _ _ => given outcome⟩
      · exact ⟨trivial, fun _ _ => given outcome⟩
    · exact given outcome

end ContentStore

/-! ### Operations of the cache -/

namespace ContentCache

open Operation

variable {cache : ContentCache} {id : ContentId} {held : Option ContentId} {ids : List ContentId}

lemma books_release {post : Except StoreError Unit → Account → Prop}
    (h : post (.ok ()) ⟨held, ids⟩) :
    (cache.release id).Keeps bookkeeping post ⟨held, id :: ids⟩ := by
  simp only [release, bind_eq, keeps_bind]
  exact ContentStore.books_delete fun _ => h

lemma books_releaseExpired {post : Unit → Account → Prop}
    (h : post () ⟨held, ids⟩) :
    (cache.releaseExpired id).Keeps bookkeeping post ⟨held, id :: ids⟩ := by
  simp only [releaseExpired, bind_eq, keeps_bind]
  exact books_release h

lemma books_releaseAll {post : Except StoreError Unit → Account → Prop}
    (h : post (.ok ()) ⟨held, []⟩) :
    (cache.releaseAll ids).Keeps bookkeeping post ⟨held, ids⟩ := by
  induction ids with
  | nil => exact h
  | cons id rest ih =>
    simp only [releaseAll, bind_eq, keeps_bind]
    exact books_release ih

lemma books_releaseEach {post : Unit → Account → Prop} (h : post () ⟨held, []⟩) :
    (cache.releaseEach ids).Keeps bookkeeping post ⟨held, ids⟩ := by
  induction ids with
  | nil => exact h
  | cons id rest ih =>
    simp only [releaseEach, bind_eq, keeps_bind]
    exact books_releaseExpired ih

/-- At its end, an operation has passed on all that it has taken on. -/
theorem books_answer (call : CacheCall Source) :
    (cache.answer call).Keeps bookkeeping (fun _ account => account = {}) {} := by
  cases call with
  | get key =>
    simp only [answer, get, clock, slots, bind_eq, bind_ask, bind_done, keeps_ask]
    refine ⟨trivial, fun now _ => ⟨trivial, ?_⟩⟩
    rintro (_ | id | id) -
    · rfl
    · rw [keeps_bind]
      exact books_releaseExpired rfl
    · rw [keeps_bind]
      apply keeps_of_neutral ContentStore.neutral_read
      rintro (error | opened) -
      · rfl
      · rfl
  | put key source expires =>
    simp only [answer, put, slots, bind_eq, bind_ask, bind_done, keeps_ask]
    refine ⟨trivial, ?_⟩
    intro ticket _
    rw [keeps_bind]
    apply ContentStore.books_create rfl
    · intro stored
      -- The content is held up to here; publishing hands out what has to be given back.
      refine ⟨rfl, ?_⟩
      rintro ⟨published, _ | id⟩ -
      · rfl
      · exact books_release rfl
    · intro error
      exact ⟨trivial, fun _ _ => rfl⟩
  | invalidate key =>
    simp only [answer, invalidate, slots, bind_eq, bind_ask, bind_done, keeps_ask]
    refine ⟨trivial, ?_⟩
    rintro (_ | id) -
    · rfl
    · exact books_release rfl
  | invalidateAll keys =>
    simp only [answer, invalidateAll, slots, bind_eq, bind_ask, bind_done, keeps_ask]
    exact ⟨trivial, fun ids _ => books_releaseAll rfl⟩
  | cleanUp =>
    simp only [answer, cleanUp, clock, slots, bind_eq, bind_ask, bind_done, keeps_ask, keeps_bind]
    exact ⟨trivial, fun now _ => ⟨trivial, fun ids _ => books_releaseEach rfl⟩⟩

end ContentCache

/-! ### What an answer does to an account -/

namespace Account

/-- Becoming an owner, where nothing is held. -/
lemma claims_own (empty : account.held = none) (other id : ContentId) :
    claims { account with held := some other } id = account.claims id + [other].count id := by
  simp [claims, empty, Nat.add_comm]

/-- Giving a reference back that is owed. -/
lemma claims_erase {other : ContentId} (listed : other ∈ account.owed) (id : ContentId) :
    claims { account with owed := account.owed.erase other } id + [other].count id =
      account.claims id := by
  have parted := (List.perm_cons_erase listed).count_eq id
  rw [← List.singleton_append, List.count_append] at parted
  simp only [claims]
  omega

lemma claims_descriptor {call : DescriptorCall} {reply : call.Answer}
    (permits : account.Permits (.descriptor call)) (gives : Call.Gives (.descriptor call) reply)
    (id : ContentId) :
    (account.after (.descriptor call) reply).claims id + (call.lost reply).count id =
      account.claims id + (call.gained reply).count id := by
  cases call with
  | create other record =>
    cases reply with
    | error error => rfl
    | ok owners => exact claims_own permits other id
  | duplicate other =>
    cases reply with
    | error error => rfl
    | ok owners => exact claims_own permits other id
  | delete other =>
    cases reply with
    | error error => exact gives.elim
    | ok outcome =>
      cases outcome with
      | missing => exact absurd rfl gives
      | _ => exact claims_erase permits id
  | read other => rfl
  | contains other => rfl

lemma claims_slots {call : SlotsCall} (reply : call.Answer)
    (permits : account.Permits (.slots call)) (id : ContentId) :
    (account.after (.slots call) reply).claims id + call.brought.count id =
      account.claims id + (call.handed reply).count id := by
  cases call with
  | publish key ticket entry =>
    have held : account.held = some entry.value := permits
    simp [after, claims, SlotsCall.brought, SlotsCall.handed, held]
    omega
  | _ =>
    simp [after, claims, SlotsCall.brought]
    omega

end Account

end AssetCache
