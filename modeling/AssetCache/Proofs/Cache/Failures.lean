import AssetCache.Proofs.Cache.Errands
import AssetCache.Proofs.Cache.Releases

/-!
# Puts that fail

A put that fails before it has published its content leaves nothing behind: every key maps to what
it mapped to, and all content has the owners that it had. Once it has published, one thing is still
to be done: the reference to what the key mapped to before has to be given back. If that fails, then
the put fails too, though the key maps to the new content (`ContentCache.failed_put_unchanged`,
`ContentCache.exists_replaced`).
-/

namespace AssetCache

open Program

/-! ### What a put does to the slots -/

namespace Slots

variable (slots : Slots) (key : String) {ticket : Nat} {entry : Entry ContentId}

/-- A submission leaves all entries as they are. -/
lemma held?_submit (other : String) : (slots.submit key).2.held? other = slots.held? other := by
  apply Option.ext
  intro entry
  show (slots.answer (.submit key)).2.held? other = some entry ↔ _
  rw [held?_answer]
  simp [SlotsCall.Publishes, SlotsCall.Drops, SlotsCall.Expires]

/-- A put that is given up leaves all entries as they are. -/
lemma held?_withdraw (ticket : Nat) (other : String) :
    (slots.withdraw key ticket).held? other = slots.held? other := by
  apply Option.ext
  intro entry
  show (slots.answer (.withdraw key ticket)).2.held? other = some entry ↔ _
  rw [held?_answer]
  simp [SlotsCall.Publishes, SlotsCall.Drops, SlotsCall.Expires]

variable {slots key} in
/-- A put that publishes its content hands out what the key mapped to before. -/
lemma released_of_isPublished (published : (slots.publish key ticket entry).1.isPublished = true) :
    (slots.publish key ticket entry).1.released = slots.contentId? key := by
  unfold publish contentId? at *
  cases found : slots.byKey.get? key with
  | none => simp [found] at published
  | some slot =>
    simp only [found] at published ⊢
    split at published
    · next pending =>
      split at published
      · next last => simp [pending, last]
      · contradiction
    · contradiction

/-- A put that comes to publish when nothing has been done since it was submitted replaces the entry
of its key. -/
lemma publish_submit (entry : Entry ContentId) :
    ((slots.submit key).2.publish key (slots.submit key).1 entry).1.released =
        slots.contentId? key ∧
      ∀ other, ((slots.submit key).2.publish key (slots.submit key).1 entry).2.held? other =
        if other = key then some entry else slots.held? other := by
  have pending : (slots.submit key).1 ∈ (slots.submit key).2.underWay key :=
    (mem_underWay_answer slots (.submit key)).2 (Or.inl ⟨rfl, rfl⟩)
  have last : (slots.submit key).2.latest? key = some (slots.submit key).1 := by
    simp [submit, latest?]
  have published : ((slots.submit key).2.publish key (slots.submit key).1 entry).1.isPublished =
    true := answer_publish_isPublished.2 ⟨pending, last⟩
  constructor
  · rw [released_of_isPublished published, contentId?_eq, held?_submit, ← contentId?_eq]
  · intro other
    rw [held?_publish, held?_submit, published]
    simp only [and_true]

end Slots

/-! ### What storing content does to the owners -/

section

variable {α β δ : Type}

/-- The slots of a depot are as they were, and whoever was handed nothing has become an owner of
what he holds now in place of what he held before. -/
structure TakesOn (sane : δ → Prop) (owners : δ → ContentId → Nat)
    (depot depot' : Depot β (FlakyDescriptors δ)) (held held' : Option ContentId) : Prop where
  safe : sane depot'.descriptors.store
  slots : depot'.slots = depot.slots
  owned : ∀ id, owners depot'.descriptors.store id + held.toList.count id =
    owners depot.descriptors.store id + held'.toList.count id

variable [BlobStore β] [DescriptorStore δ] {sane : δ → Prop} {owners : δ → ContentId → Nat}
  {depot : Depot β (FlakyDescriptors δ)} {account : Account}

omit [BlobStore β] [DescriptorStore δ] in
/-- Only a deletion gives a reference back. -/
lemma Account.after_of_ne_delete (account : Account) {call : DescriptorCall}
    (other : ∀ id, call ≠ .delete id) (reply : call.Answer) :
    Call.Gives (.descriptor call) reply ∧
      (account.after (.descriptor call) reply).owed = account.owed ∧
      Call.release? ⟨.descriptor call, reply⟩ = none := by
  cases call with
  | delete id => exact absurd rfl (other id)
  | create id record =>
    cases reply with
    | _ => exact ⟨trivial, rfl, rfl⟩
  | duplicate id =>
    cases reply with
    | _ => exact ⟨trivial, rfl, rfl⟩
  | _ => exact ⟨trivial, rfl, rfl⟩

/-- An answer makes whoever has nothing to give back an owner of what he holds then. -/
lemma takesOn_answer (counts : CountsOwners sane owners) {call : Call}
    (permits : account.Permits call) (beside : call.Beside) (nothing : account.owed = [])
    (safe : sane depot.descriptors.store) :
    TakesOn sane owners depot (depot.answer call).2 account.held
        (account.after call (depot.answer call).1).held ∧
      (account.after call (depot.answer call).1).owed = [] ∧
      Call.release? ⟨call, (depot.answer call).1⟩ = none := by
  cases call with
  | slots call => exact beside.elim
  | descriptor call =>
    have kept (id : ContentId) : call ≠ .delete id := by
      rintro rfl
      have owed : id ∈ account.owed := permits
      rw [nothing] at owed
      exact List.not_mem_nil owed
    obtain ⟨safe', counted⟩ := depot.descriptors.counted_answer counts safe call
    have answered : (depot.answer (.descriptor call)).1 =
        (DescriptorStore.answer depot.descriptors call).1 := rfl
    rw [answered]
    generalize (DescriptorStore.answer depot.descriptors call).1 = reply at counted ⊢
    obtain ⟨gives, same, unreleased⟩ := account.after_of_ne_delete kept reply
    refine ⟨⟨safe', rfl, fun id => ?_⟩, same.trans nothing, unreleased⟩
    have claimed := Account.claims_descriptor permits gives id
    have change := counted id
    simp only [Account.claims, same, nothing, List.count_nil, Nat.add_zero] at claimed
    show owners (DescriptorStore.answer depot.descriptors call).2.1.store id + _ = _
    omega
  | _ => exact ⟨⟨safe, rfl, fun _ => rfl⟩, nothing, rfl⟩

/-- An operation that is handed nothing becomes an owner of what it holds at its end, and tries to
give nothing back. -/
lemma takesOn_run (counts : CountsOwners sane owners) {program : Operation α}
    {post : α → Account → Prop} {kind : α → Prop} (keeps : program.Keeps recording post account)
    (beside : program.Within Call.Beside kind) (nothing : account.owed = [])
    (safe : sane depot.descriptors.store) :
    depot.releases program = [] ∧ ∃ account', post (depot.run program).1 account' ∧
      TakesOn sane owners depot (depot.run program).2 account.held account'.held := by
  induction program generalizing depot account with
  | done result => exact ⟨rfl, account, keeps, safe, rfl, fun _ => rfl⟩
  | ask call next ih =>
    obtain ⟨permits, goesOn⟩ := keeps
    obtain ⟨first, nothing', unreleased⟩ :=
      takesOn_answer counts permits beside.1 nothing safe
    obtain ⟨releases, account', result, rest⟩ :=
      ih _ (goesOn (depot.answer call).1 trivial) (beside.2 _) nothing' first.safe
    have ran : depot.run (.ask call next) =
      (depot.answer call).2.run (next (depot.answer call).1) := rfl
    rw [ran, Depot.releases, trace, List.filterMap_cons_none unreleased]
    refine ⟨releases, account', result, rest.safe, rest.slots.trans first.slots, fun id => ?_⟩
    have before := first.owned id
    have after := rest.owned id
    omega

/-! ### What is stored -/

/-- In any store, what is answered of a stream that is put at once is what digesting it comes to. -/
lemma Transfer.reports_put {limits : IngestLimits} {source : Source} {transfer : Transfer}
    (blobs : β) (token : Token) (carries : transfer.Carries limits source) :
    Transfer.Reports limits source (BlobStore.put blobs token transfer).1 := by
  unfold BlobStore.put
  unfold Carries at carries
  split
  · exact reports_failed _ _
  · split
    · exact reports_failed _ _
    · next bytes outcome collected =>
      rw [collected] at carries
      obtain ⟨accepted, settled⟩ := accepted_of_collected carries
      unfold BlobStore.settle
      split
      · exact reports_failed _ _
      · exact fun _ _ => ⟨_, accepted, settled⟩

/-- A depot answers an operation that runs alone as its conduct admits. -/
lemma honoured_errands (limits : IngestLimits) (task : CacheCall Source) :
    ((errands δ limits).agreement task).HonouredBy
      (fun (_ : Depot β δ) _ => True) Depot.answer := by
  rintro depot own call follows - ⟨-, goesOn⟩
  refine ⟨_, goesOn _ ?_, trivial⟩
  cases call with
  | blob call =>
    cases call with
    | put transfer => exact fun source carries => Transfer.reports_put _ _ carries
    | _ => trivial
  | descriptor call => exact ⟨depot.descriptors, rfl⟩
  | _ => trivial

/-- If content was stored, then it is the content of a stream. -/
def StoresContent (limits : IngestLimits) (source : Source)
    (reply : Except StoreError StoredContent) : Prop :=
  ∀ stored, reply = .ok stored → ∃ bytes,
    limits.accepted? source = some bytes ∧ stored.id = .ofBytes bytes

lemma storesContent_create (store : ContentStore) (source : Source) (depot : Depot β δ) :
    StoresContent store.limits source (depot.run (store.create source)).1 := by
  -- What is stored does not depend on the task that it is stored for.
  have keeps : (store.create source).Keeps ((errands δ store.limits).agreement .cleanUp)
      (fun reply _ => StoresContent store.limits source reply) [] := by
    apply ContentStore.errands_create
    · rintro stored bytes accepted same _ ⟨⟩
      exact ⟨bytes, accepted, same⟩
    · rintro error _ ⟨⟩
  have served : ∃ own : List SlotsExchange,
      StoresContent store.limits source (depot.run (store.create source)).1 ∧ True :=
    keeps.run (honoured_errands store.limits .cleanUp) trivial
  obtain ⟨own, stores, -⟩ := served
  exact stores

/-- Content that is stored is that of the stream, and has one owner more. Where none is stored, all
has the owners that it had. -/
lemma create_cases (counts : CountsOwners sane owners) (store : ContentStore) (source : Source)
    (safe : sane depot.descriptors.store) :
    depot.releases (store.create source) = [] ∧
      ((∃ error, (depot.run (store.create source)).1 = .error error ∧
        TakesOn sane owners depot (depot.run (store.create source)).2 none none) ∨
      ∃ stored bytes, (depot.run (store.create source)).1 = .ok stored ∧
        store.limits.accepted? source = some bytes ∧ stored.id = .ofBytes bytes ∧
        TakesOn sane owners depot (depot.run (store.create source)).2 none (some stored.id)) := by
  have books : (store.create source).Keeps recording
      (fun reply account => account.held = reply.toOption.map StoredContent.id) {} :=
    ContentStore.books_create rfl (fun _ => rfl) fun _ => rfl
  obtain ⟨releases, account, held, takesOn⟩ :=
    takesOn_run counts books ContentStore.beside_create rfl safe
  have stores := storesContent_create store source depot
  refine ⟨releases, ?_⟩
  change account.held = (depot.run (store.create source)).1.toOption.map StoredContent.id at held
  generalize (depot.run (store.create source)).1 = reply at held stores ⊢
  rw [held] at takesOn
  cases reply with
  | error error => exact Or.inl ⟨error, rfl, takesOn⟩
  | ok stored =>
    obtain ⟨bytes, accepted, same⟩ := stores stored rfl
    exact Or.inr ⟨stored, bytes, rfl, accepted, same, takesOn⟩

/-! ### What a put comes to -/

/-- What a put comes to that nobody interferes with, where calls to the descriptors may fail: what
it tries to give back, and its result. -/
inductive PutComesTo (owners : δ → ContentId → Nat) (limits : IngestLimits) (key : String)
    (source : Source) (expires : Option Instant) (depot depot' : Depot β (FlakyDescriptors δ)) :
    List Release → Except StoreError Unit → Prop
  /-- Nothing was stored, and nothing has changed. -/
  | refused {error : StoreError}
    (entries : ∀ other, depot'.slots.held? other = depot.slots.held? other)
    (owned : ∀ id, owners depot'.descriptors.store id = owners depot.descriptors.store id) :
    PutComesTo owners limits key source expires depot depot' [] (.error error)
  /-- The content of the stream is published, and what the key mapped to before is given back, unless
  that fails. -/
  | published {bytes : Bytes} {releases : List Release} {result : Except StoreError Unit}
    (accepted : limits.accepted? source = some bytes)
    (entries : ∀ other, depot'.slots.held? other =
      if other = key then some ⟨.ofBytes bytes, expires⟩ else depot.slots.held? other)
    (each : releases.map Prod.fst = (depot.slots.contentId? key).toList)
    (failed : ∀ error, result = .error error ↔ ∃ id, (id, .error error) ∈ releases)
    (owned : ∀ id, owners depot'.descriptors.store id + (given releases).count id =
      owners depot.descriptors.store id + [ContentId.ofBytes bytes].count id) :
    PutComesTo owners limits key source expires depot depot' releases result

namespace ContentCache

omit [BlobStore β] [DescriptorStore δ] in
/-- A reference is given back alone as it is among others. -/
lemma releaseAll_singleton (cache : ContentCache) (id : ContentId) :
    cache.releaseAll [id] = cache.release id := by
  obtain ⟨next, whole, onward, halted⟩ := exists_releaseAll_cons cache id []
  have ends : next = .done := by
    funext reply
    cases reply with
    | error error => exact halted error
    | ok _ => exact onward
  rw [whole, ends, bind_pure]

/-- The rest of a put that has a ticket, after its content was stored or was not. -/
def finishPut (cache : ContentCache) (key : String) (ticket : Nat) (expires : Option Instant) :
    Except StoreError StoredContent → Operation (Except StoreError Unit)
  | .error error => .ask (.slots (.withdraw key ticket)) fun _ => .done (.error error)
  | .ok stored => .ask (.slots (.publish key ticket ⟨stored.id, expires⟩)) fun publication =>
      cache.releaseAll publication.released.toList

lemma put_eq (cache : ContentCache) (key : String) (source : Source) (expires : Option Instant) :
    cache.put key source expires = .ask (.slots (.submit key)) fun ticket =>
      (cache.store.create source).bind (cache.finishPut key ticket expires) := by
  simp only [put, Operation.slots, bind_eq, bind_ask, bind_done]
  congr 1
  funext ticket
  congr 1
  funext reply
  cases reply with
  | error error => rfl
  | ok stored =>
    simp only [finishPut]
    congr 1
    funext publication
    cases publication.released with
    | none => rfl
    | some id => exact (cache.releaseAll_singleton id).symm

end ContentCache

/-- A put that has stored its content publishes it, and gives back what the key mapped to before. -/
lemma comesTo_finishPut (counts : CountsOwners sane owners) (cache : ContentCache) (key : String)
    {source : Source} (expires : Option Instant) {bytes : Bytes} {stored : StoredContent}
    {depot' : Depot β (FlakyDescriptors δ)}
    (covered : ∀ id, depot.slots.mapped id ≤ owners depot.descriptors.store id)
    (accepted : cache.store.limits.accepted? source = some bytes)
    (same : stored.id = .ofBytes bytes)
    (more : TakesOn sane owners { depot with slots := (depot.slots.submit key).2 } depot' none
      (some stored.id)) :
    PutComesTo owners cache.store.limits key source expires depot
      (depot'.run (cache.finishPut key (depot.slots.submit key).1 expires (.ok stored))).2
      (depot'.releases (cache.finishPut key (depot.slots.submit key).1 expires (.ok stored)))
      (depot'.run (cache.finishPut key (depot.slots.submit key).1 expires (.ok stored))).1 := by
  have slots : depot'.slots = (depot.slots.submit key).2 := more.slots
  obtain ⟨released, entries⟩ := depot.slots.publish_submit key ⟨stored.id, expires⟩
  have owned (id : ContentId) : owners depot'.descriptors.store id =
      owners depot.descriptors.store id + [ContentId.ofBytes bytes].count id := by
    have taken := more.owned id
    rw [same] at taken
    exact taken
  have covers (id : ContentId) : (depot.slots.contentId? key).toList.count id ≤
      owners depot'.descriptors.store id := by
    have erased := depot.slots.mapped_erase key id
    have least := covered id
    rw [owned]
    omega
  have answered : depot'.answer
      (.slots (.publish key (depot.slots.submit key).1 ⟨stored.id, expires⟩)) =
      let publication := (depot.slots.submit key).2.publish key (depot.slots.submit key).1
        ⟨stored.id, expires⟩
      (publication.1, { depot' with slots := publication.2 }) := by
    simp only [Depot.answer, Slots.answer, slots]
  simp only [ContentCache.finishPut, Depot.run, run_ask, Depot.releases, trace, answered,
    List.filterMap_cons, Call.release?, released]
  generalize ((depot.slots.submit key).2.publish key (depot.slots.submit key).1
    ⟨stored.id, expires⟩).2 = replaced at entries
  obtain ⟨course, kept, remaining⟩ := course_releaseAll counts cache _
    { depot' with slots := replaced } more.safe covers
  refine .published accepted ?_ (course.whole_iff.2 ?_) course.result_iff ?_
  · intro other
    rw [← same, ← entries]
    exact congrArg (·.held? other) kept
  · intro n early
    -- A key maps to one content at most, so there is no release but the last.
    cases held : depot.slots.contentId? key with
    | none => simp [held] at early
    | some old => simp [held] at early
  · intro id
    rw [← owned]
    exact remaining id

/-- A put that nobody interferes with changes nothing, or publishes the content of its stream and
then gives back what the key mapped to before. -/
theorem comesTo_put (counts : CountsOwners sane owners) (cache : ContentCache) (key : String)
    (source : Source) (expires : Option Instant) (safe : sane depot.descriptors.store)
    (covered : ∀ id, depot.slots.mapped id ≤ owners depot.descriptors.store id) :
    PutComesTo owners cache.store.limits key source expires depot
      (depot.run (cache.put key source expires)).2
      (depot.releases (cache.put key source expires))
      (depot.run (cache.put key source expires)).1 := by
  let submitted := { depot with slots := (depot.slots.submit key).2 }
  let next := cache.finishPut key (depot.slots.submit key).1 expires
  have safe' : sane submitted.descriptors.store := safe
  obtain ⟨unreleased, created⟩ := create_cases counts cache.store source safe'
  have ran : depot.run (cache.put key source expires) =
      (submitted.run (cache.store.create source)).2.run
        (next (submitted.run (cache.store.create source)).1) := by
    rw [ContentCache.put_eq]
    exact run_bind Depot.answer submitted (cache.store.create source) next
  have tried : depot.releases (cache.put key source expires) =
      (submitted.run (cache.store.create source)).2.releases
        (next (submitted.run (cache.store.create source)).1) := by
    rw [ContentCache.put_eq]
    have parted := submitted.releases_bind (cache.store.create source) next
    rw [unreleased, List.nil_append] at parted
    exact parted
  rw [ran, tried]
  generalize submitted.run (cache.store.create source) = stored at created ⊢
  obtain ⟨reply, depot'⟩ := stored
  rcases created with ⟨error, rfl, -, slots, owned⟩ | ⟨stored, bytes, rfl, accepted, same, more⟩
  · refine .refused ?_ owned
    intro other
    show (depot'.slots.withdraw key _).held? other = _
    rw [Slots.held?_withdraw, slots, Slots.held?_submit]
  · exact comesTo_finishPut counts cache key expires covered accepted same more

/-! ### Puts that fail -/

/-- Every key has the entry that it had, and all content has the owners that it had. -/
structure Unchanged (owners : δ → ContentId → Nat) (depot depot' : Depot β (FlakyDescriptors δ)) :
    Prop where
  entries : ∀ key, depot'.slots.held? key = depot.slots.held? key
  owned : ∀ id, owners depot'.descriptors.store id = owners depot.descriptors.store id

/-- The content of a put has replaced what its key mapped to before, and only the release of that
has failed. -/
structure Unreleased (owners : δ → ContentId → Nat) (limits : IngestLimits) (key : String)
    (source : Source) (expires : Option Instant) (depot depot' : Depot β (FlakyDescriptors δ))
    (releases : List Release) (error : StoreError) (old : ContentId) (bytes : Bytes) : Prop where
  accepted : limits.accepted? source = some bytes
  mapped : depot.slots.contentId? key = some old
  failed : releases = [(old, .error error)]
  entry : depot'.slots.held? key = some ⟨.ofBytes bytes, expires⟩
  others : ∀ other, other ≠ key → depot'.slots.held? other = depot.slots.held? other
  /-- Both contents have their owner. -/
  owned : ∀ id, owners depot'.descriptors.store id =
    owners depot.descriptors.store id + [ContentId.ofBytes bytes].count id

omit [BlobStore β] [DescriptorStore δ] in
lemma PutComesTo.failed_cases {limits : IngestLimits} {key : String} {source : Source}
    {expires : Option Instant} {depot depot' : Depot β (FlakyDescriptors δ)}
    {releases : List Release} {error : StoreError}
    (comesTo : PutComesTo owners limits key source expires depot depot' releases (.error error)) :
    releases = [] ∧ Unchanged owners depot depot' ∨
      ∃ old bytes, Unreleased owners limits key source expires depot depot' releases error old
        bytes := by
  cases comesTo with
  | refused entries owned => exact Or.inl ⟨rfl, entries, owned⟩
  | @published bytes _ _ accepted entries each failed owned =>
    obtain ⟨old, tried⟩ := (failed error).1 rfl
    -- The release that has failed is the only one.
    have member : old ∈ (depot.slots.contentId? key).toList := each ▸ List.mem_map_of_mem tried
    have mapped : depot.slots.contentId? key = some old := Option.mem_toList.1 member
    obtain ⟨release, rfl⟩ : ∃ release, releases = [release] := by
      rw [mapped] at each
      exact List.length_eq_one_iff.1 (by simpa using congrArg List.length each)
    obtain rfl := List.mem_singleton.1 tried
    refine Or.inr ⟨old, bytes, accepted, mapped, rfl, ?_, ?_, owned⟩
    · rw [entries, if_pos rfl]
    · intro other different
      rw [entries, if_neg different]

/-- Operations of a cache take turns over descriptors whose calls may fail, and then a put runs alone
and fails. Either it has changed nothing, or its content has replaced what the key mapped to before
and only the release of that has failed. -/
theorem ContentCache.failed_put_unchanged (counts : CountsOwners sane owners) (cache : ContentCache)
    (depot : Depot β (FlakyDescriptors δ)) (unused : depot.slots = .empty)
    (safe : sane depot.descriptors.store) (turns : List (Team.Turn (CacheCall Source)))
    (key : String) (source : Source) (expires : Option Instant) (error : StoreError)
    (failed : ((Team.play cache.answer ⟨depot, [], []⟩ turns).depot.run
      (cache.put key source expires)).1 = .error error) :
    let reached := (Team.play cache.answer ⟨depot, [], []⟩ turns).depot
    let after := (reached.run (cache.put key source expires)).2
    let releases := reached.releases (cache.put key source expires)
    releases = [] ∧ Unchanged owners reached after ∨
      ∃ old bytes, Unreleased owners cache.store.limits key source expires reached after releases
        error old bytes := by
  obtain ⟨safe, covered⟩ := cache.covered_play counts depot unused safe turns
  have comesTo := comesTo_put counts cache key source expires safe covered
  rw [failed] at comesTo
  exact comesTo.failed_cases

/-- Some content is there under a key. -/
def onePut : List (Team.Turn (CacheCall Source)) :=
  .start (.put "a" (.ofBytes [120]) none) :: List.replicate 16 (.advance 0)

/-- Other content comes in under the same key, and the release of the old one fails. -/
theorem ContentCache.failed_put_unchanged_unreleased :
    let reached := (Team.play (answer {})
      ⟨FlakyDescriptors.vacant firstReleaseFails, [], []⟩ onePut).depot
    ∃ old bytes, Unreleased MemoryDescriptors.owners {} "a" (.ofBytes [121]) none reached
      (reached.run (put {} "a" (.ofBytes [121]) none)).2
      (reached.releases (put {} "a" (.ofBytes [121]) none)) (.backend none) old bytes := by
  intro reached
  have safe : MemoryDescriptors.Owned ∅ := by
    intro id holding found
    contradiction
  have run : (reached.run (put {} "a" (.ofBytes [121]) none)).1 = .error (.backend none) ∧
      reached.releases (put {} "a" (.ofBytes [121]) none) ≠ [] := by
    decide +kernel
  obtain ⟨failed, tried⟩ := run
  have cases := failed_put_unchanged MemoryDescriptors.counts_owners {}
    (FlakyDescriptors.vacant firstReleaseFails) rfl safe onePut "a" (.ofBytes [121]) none
    (.backend none) failed
  exact cases.resolve_left fun unchanged => tried unchanged.1

/-- A put that fails may have changed what its key maps to. -/
theorem ContentCache.exists_replaced : ¬ ∀ (faults : Nat → Option StoreError)
    (turns : List (Team.Turn (CacheCall Source))) (key : String) (source : Source)
    (expires : Option Instant) (error : StoreError),
    let team := Team.play (answer {}) ⟨FlakyDescriptors.vacant faults, [], []⟩ turns
    team.IsAtRest → (team.depot.run (put {} key source expires)).1 = .error error →
      Unchanged MemoryDescriptors.owners team.depot
        (team.depot.run (put {} key source expires)).2 := by
  intro claimed
  have run :
      let team := Team.play (answer {}) ⟨FlakyDescriptors.vacant firstReleaseFails, [], []⟩ onePut
      team.IsAtRest ∧ (team.depot.run (put {} "a" (.ofBytes [121]) none)).1 =
          .error (.backend none) ∧
        (team.depot.run (put {} "a" (.ofBytes [121]) none)).2.slots.contentId? "a" ≠
          team.depot.slots.contentId? "a" := by
    decide +kernel
  obtain ⟨rested, failed, replaced⟩ := run
  have same := (claimed firstReleaseFails onePut "a" _ none _ rested failed).entries "a"
  rw [Slots.contentId?_eq, Slots.contentId?_eq, same] at replaced
  exact replaced rfl

end

end AssetCache
