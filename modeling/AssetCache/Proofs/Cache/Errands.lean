import AssetCache.Cache.Content
import AssetCache.Proofs.Conduct
import AssetCache.Proofs.Content.Calls
import AssetCache.Proofs.Transfers

/-!
# What the operations of a cache do to the slots

Each operation of a content cache makes few calls to the slots, and always in the same order: a put
submits, and then publishes or withdraws with the ticket that it got; the others make one call each
(`CacheCall.Permits`). What a put publishes is the content of its own stream. This holds over any
stores, whatever they answer (`ContentCache.errands_answer`).
-/

namespace AssetCache

open Program

/-- A call to the slots together with its answer. -/
abbrev SlotsExchange := (call : SlotsCall) × call.Answer

namespace CacheCall

/-- Whether an operation may make a call to the slots, after those that it has made. -/
def Permits (limits : IngestLimits) :
    CacheCall Source → List SlotsExchange → SlotsCall → Prop
  | put key _ _, own, .submit other => own = [] ∧ other = key
  | put key _ _, own, .withdraw other ticket => own = [⟨.submit key, ticket⟩] ∧ other = key
  | put key source expires, own, .publish other ticket entry =>
    own = [⟨.submit key, ticket⟩] ∧ other = key ∧ ∃ bytes,
      limits.accepted? source = some bytes ∧ entry = ⟨.ofBytes bytes, expires⟩
  | get key, own, .lookup other _ => own = [] ∧ other = key
  | invalidate key, own, .remove other => own = [] ∧ other = key
  | invalidateAll keys, own, .removeAll others => own = [] ∧ others = keys
  | cleanUp, own, .sweep _ => own = []
  | _, _, _ => False

/-- What an operation has done to the slots by its end, and what its result says of that. -/
def Concludes (δ : Type) [DescriptorStore δ] :
    (call : CacheCall Source) → call.Answer OpenedContent → List SlotsExchange → Prop
  | put key _ _, result, own =>
    (∃ ticket entry publication,
      own = [⟨.submit key, ticket⟩, ⟨.publish key ticket entry, publication⟩] ∧
        -- Only the release of a reference can fail then.
        ∀ error, result = .error error → ∃ (store : δ) (id : ContentId),
          (DescriptorStore.answer store (.delete id)).1 = .error error) ∨
    ∃ ticket error, own = [⟨.submit key, ticket⟩, ⟨.withdraw key ticket, ()⟩] ∧
      result = .error error
  | get key, result, own =>
    ∀ opened, result = .ok (some opened) → ∃ now id, own = [⟨.lookup key now, .live id⟩]
  | _, _, _ => True

end CacheCall

/-- How the operations of a cache go about the slots. A stream that was put into the blobs is
reported as what it is; the descriptors answer as some store of their kind does. -/
def errands (δ : Type) [DescriptorStore δ] (limits : IngestLimits) :
    Conduct (CacheCall Source) (List SlotsExchange) where
  start := []
  after
    | own, .slots call, reply => own ++ [⟨call, reply⟩]
    | own, _, _ => own
  permits
    | task, own, .slots call => task.Permits limits own call
    | _, _, _ => True
  admits
    | .blob (.put transfer), reply =>
      ∀ source, transfer.Carries limits source → Transfer.Reports limits source reply
    | .descriptor call, reply => ∃ store : δ, (DescriptorStore.answer store call).1 = reply
    | _, _ => True

section

variable {β δ : Type} [BlobStore β] [DescriptorStore δ] {limits : IngestLimits} {α : Type}
  {post : α → List SlotsExchange → Prop} {task : CacheCall Source} {own : List SlotsExchange}
  {program : Operation α} {kind : α → Prop}

/-- A put of a stream goes on as a put of the same stream, and reports of it. -/
lemma Depot.attempt_put_admits (limits : IngestLimits) (depot : Depot β δ) (transfer : Transfer) :
    match depot.attempt (.blob (.put transfer)) with
    | .answered reply _ => (errands δ limits).admits (.blob (.put transfer)) reply
    | .ongoing rest answer _ => ∃ transfer', rest = .blob (.put transfer') ∧
      ∀ reply, (errands δ limits).admits rest reply →
        (errands δ limits).admits (.blob (.put transfer)) (answer reply)
    | .blocked => True := by
  simp only [Depot.attempt]
  generalize (if transfer.token.isNone then depot.issue else (⟨0⟩, depot)) = start
  have step (source : Source) (carries : transfer.Carries limits source) :=
    Transfer.reports_of_advance start.2.blobs start.1 carries
  generalize transfer.advance start.2.blobs start.1 = progress at step ⊢
  cases progress with
  | finished reply blobs => exact fun source carries => step source carries
  | moved transfer' blobs =>
    exact ⟨transfer', rfl, fun reply admitted source carries =>
      admitted source (step source carries)⟩
  | waiting => trivial

lemma upheld_errands : (errands δ limits).Upheld β δ := by
  constructor
  · intro task own call reply depot depot' permitted attempted
    rcases Depot.answered_cases attempted with ⟨transfer, rfl⟩ | ⟨whole, answered⟩
    · have step := depot.attempt_put_admits limits transfer
      rw [attempted] at step
      exact step
    · cases call with
      | descriptor call =>
        exact ⟨depot.descriptors, congrArg Prod.fst answered⟩
      | blob call =>
        cases call with
        | put transfer => exact absurd rfl (whole transfer)
        | _ => trivial
      | _ => trivial
  · intro task own call rest answer depot depot' permitted attempted
    obtain ⟨transfer, rfl⟩ := Depot.put_of_ongoing attempted
    have step := depot.attempt_put_admits limits transfer
    rw [attempted] at step
    obtain ⟨transfer', rfl, admitted⟩ := step
    exact ⟨trivial, fun reply admitted' => ⟨admitted reply admitted', rfl⟩⟩

/-- What a member has done to the slots is what the log says of it. -/
lemma mem_deeds_iff (log : List Answered) (member : Nat)
    (exchange : SlotsExchange) :
    exchange ∈ (errands δ limits).deeds log member ↔
      ⟨member, .slots exchange.1, exchange.2⟩ ∈ log := by
  induction log using List.reverseRecOn with
  | nil =>
    rw [Conduct.deeds_of_unlogged (by simp)]
    exact iff_of_false List.not_mem_nil List.not_mem_nil
  | append_singleton log answered ih =>
    rw [Conduct.deeds_concat, List.mem_append, List.mem_singleton, ← ih]
    obtain ⟨other, call, reply⟩ := answered
    by_cases own : other = member
    · subst own
      rw [if_pos rfl]
      cases call with
      | slots call =>
        have same : (⟨other, .slots exchange.1, exchange.2⟩ : Answered) =
            ⟨other, .slots call, reply⟩ ↔ exchange = ⟨call, reply⟩ := by
          constructor
          · rintro ⟨⟩
            rfl
          · rintro rfl
            rfl
        rw [same, ← List.mem_singleton, ← List.mem_append]
        rfl
      | _ =>
        rw [or_iff_left (by rintro ⟨⟩)]
        rfl
    · rw [if_neg own, or_iff_left]
      rintro ⟨⟩
      exact own rfl

/-! ### Operations of the content store -/

/-- A program that leaves the slots alone may do what it likes. -/
lemma errands_of_beside (beside : program.Within Call.Beside kind)
    (h : ∀ result, kind result → post result own) :
    program.Keeps ((errands δ limits).agreement task) post own := by
  apply beside.keeps h
  intro call next allowed rest
  cases call with
  | slots call => exact allowed.elim
  | _ => exact ⟨trivial, fun reply _ => rest reply⟩

namespace ContentStore

open Operation

variable {store : ContentStore} {source : Source}

lemma errands_ingest {post : Except StoreError Attributes → List SlotsExchange → Prop}
    {staging : String} (taken : ∀ bytes, limits.accepted? source = some bytes →
      post (.ok (limits.attributesOf bytes)) own)
    (failed : ∀ error, post (.error error) own) :
    (ingest limits staging source).Keeps ((errands δ limits).agreement task) post own := by
  have judged (reply : PutReply) (reports : Transfer.Reports limits source reply) :
      post (reply.verdict staging) own := by
    obtain ⟨size | size, outcome⟩ := reply
    · exact failed _
    · obtain ⟨bytes, accepted, settled⟩ := reports size rfl
      cases settled
      exact taken bytes accepted
  simp only [ingest, blob, bind_eq, bind_ask, bind_done, keeps_ask]
  refine ⟨trivial, ?_⟩
  intro reply admitted
  have reports := admitted source (Transfer.carries_digested _ _ _)
  cases reply.event? with
  | none => exact judged reply reports
  | some event => exact ⟨trivial, fun _ _ => judged reply reports⟩

/-- Content that is stored is the content of the stream. -/
lemma errands_create {post : Except StoreError StoredContent → List SlotsExchange → Prop}
    (stored : ∀ stored bytes, store.limits.accepted? source = some bytes →
      stored.id = .ofBytes bytes → post (.ok stored) own)
    (failed : ∀ error, post (.error error) own) :
    (store.create source).Keeps ((errands δ store.limits).agreement task) post own := by
  have cleared (staging : String) (error : StoreError) :
      ((discardStaging staging).bind fun _ => done (.error error)).Keeps
        ((errands δ store.limits).agreement task) post own := by
    rw [keeps_bind]
    exact errands_of_beside (beside_of_neutral neutral_discardStaging) fun _ _ => failed error
  simp only [create, Operation.token, bind_eq, bind_ask, bind_done, keeps_ask]
  refine ⟨trivial, ?_⟩
  intro token _
  rw [keeps_bind]
  apply errands_ingest
  · intro bytes accepted
    rw [keeps_bind]
    apply errands_of_beside beside_commit
    rintro (error | content) named
    · exact cleared _ error
    · have same : content.id = .ofBytes bytes := (Option.some.inj (named content rfl)).symm
      exact ⟨trivial, fun _ _ => stored content bytes accepted same⟩
  · intro error
    exact cleared _ error

end ContentStore

end

/-! ### Operations of the cache -/

namespace ContentCache

open Operation

variable {δ : Type} [DescriptorStore δ] {cache : ContentCache} {task : CacheCall Source}
  {own : List SlotsExchange}

/-- Giving a reference back fails only as taking its owner away fails. -/
lemma errands_release {post : Except StoreError Unit → List SlotsExchange → Prop} {id : ContentId}
    (given : post (.ok ()) own)
    (failed : ∀ error, (∃ store : δ, (DescriptorStore.answer store (.delete id)).1 = .error error) →
      post (.error error) own) :
    (cache.release id).Keeps ((errands δ cache.store.limits).agreement task) post own := by
  simp only [release, ContentStore.delete, blob, descriptor, bind_eq, bind_ask, bind_done,
    keeps_ask]
  refine ⟨trivial, ?_⟩
  rintro (error | outcome) answered
  · exact failed error answered
  · dsimp only
    split
    · refine ⟨trivial, ?_⟩
      rintro (error | _) -
      · exact ⟨trivial, fun _ _ => given⟩
      · exact ⟨trivial, fun _ _ => given⟩
    · exact given

lemma beside_release {id : ContentId} :
    (cache.release id).Within Call.Beside fun _ => True := by
  simp only [release, bind_eq]
  apply ContentStore.beside_delete.bind
  rintro (error | outcome) -
  · trivial
  · trivial

lemma beside_releaseExpired {id : ContentId} :
    (cache.releaseExpired id).Within Call.Beside fun _ => True := by
  simp only [releaseExpired, bind_eq]
  apply beside_release.bind
  rintro (error | _) -
  · exact ⟨trivial, fun _ => trivial⟩
  · trivial

lemma beside_releaseAll {ids : List ContentId} :
    (cache.releaseAll ids).Within Call.Beside fun _ => True := by
  induction ids with
  | nil => trivial
  | cons id rest ih =>
    simp only [releaseAll, bind_eq]
    apply beside_release.bind
    rintro (error | _) -
    · trivial
    · exact ih

lemma beside_releaseEach {ids : List ContentId} :
    (cache.releaseEach ids).Within Call.Beside fun _ => True := by
  induction ids with
  | nil => trivial
  | cons id rest ih =>
    simp only [releaseEach, bind_eq]
    exact beside_releaseExpired.bind fun _ _ => ih

/-- Every operation of a cache makes the calls to the slots that belong to it, and no others. -/
theorem errands_answer (δ : Type) [DescriptorStore δ] (cache : ContentCache)
    (call : CacheCall Source) :
    (cache.answer call).Keeps ((errands δ cache.store.limits).agreement call)
      (call.Concludes δ) [] := by
  cases call with
  | get key =>
    simp only [answer, get, clock, slots, bind_eq, bind_ask, bind_done, keeps_ask]
    refine ⟨trivial, fun now _ => ⟨⟨rfl, rfl⟩, ?_⟩⟩
    rintro (_ | id | id) -
    · rintro opened ⟨⟩
    · rw [keeps_bind]
      apply errands_of_beside beside_releaseExpired
      rintro _ - opened ⟨⟩
    · rw [keeps_bind]
      apply errands_of_beside (beside_of_neutral ContentStore.neutral_read)
      rintro (error | opened) -
      · exact fun _ _ => ⟨now, id, rfl⟩
      · exact fun _ _ => ⟨now, id, rfl⟩
  | put key source expires =>
    simp only [answer, put, slots, bind_eq, bind_ask, bind_done, keeps_ask]
    refine ⟨⟨rfl, rfl⟩, ?_⟩
    intro ticket _
    rw [keeps_bind]
    apply ContentStore.errands_create
    · intro stored bytes accepted same
      refine ⟨⟨rfl, rfl, bytes, accepted, by rw [same]⟩, ?_⟩
      have succeeded (publication : Publication) : (CacheCall.put key source expires).Concludes δ
          (.ok ()) [⟨.submit key, ticket⟩, ⟨.publish key ticket ⟨stored.id, expires⟩,
            publication⟩] := by
        refine Or.inl ⟨ticket, _, publication, rfl, ?_⟩
        rintro error ⟨⟩
      rintro ⟨published, _ | id⟩ -
      · exact succeeded _
      · apply errands_release
        · exact succeeded _
        · rintro error ⟨store, refused⟩
          refine Or.inl ⟨ticket, _, _, rfl, ?_⟩
          rintro other ⟨⟩
          exact ⟨store, id, refused⟩
    · intro error
      exact ⟨⟨rfl, rfl⟩, fun _ _ => Or.inr ⟨ticket, error, rfl, rfl⟩⟩
  | invalidate key =>
    simp only [answer, invalidate, slots, bind_eq, bind_ask, bind_done, keeps_ask]
    refine ⟨⟨rfl, rfl⟩, ?_⟩
    rintro (_ | id) -
    · trivial
    · exact errands_of_beside beside_release fun _ _ => trivial
  | invalidateAll keys =>
    simp only [answer, invalidateAll, slots, bind_eq, bind_ask, bind_done, keeps_ask]
    exact ⟨⟨rfl, rfl⟩, fun ids _ => errands_of_beside beside_releaseAll fun _ _ => trivial⟩
  | cleanUp =>
    simp only [answer, cleanUp, clock, slots, bind_eq, bind_ask, bind_done, keeps_ask, keeps_bind]
    exact ⟨trivial, fun now _ => ⟨rfl, fun ids _ =>
      errands_of_beside beside_releaseEach fun _ _ => trivial⟩⟩

end ContentCache

end AssetCache
