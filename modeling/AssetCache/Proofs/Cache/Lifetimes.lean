import AssetCache.Proofs.Cache.Alone
import AssetCache.Proofs.Cache.Failures
import AssetCache.Proofs.Cache.Retention
import AssetCache.Proofs.Instants

/-!
# How long entries live

What is put for some time is refused if the time cannot be added to the reading of the clock, and
then nothing has changed; else it is served before the time is over, and not from then on
(`lives_for_its_time`). A look-up may come after any turns of other operations, as these keep what a
key maps to. But content that was registered without a blob when it was put is not served at all
(`exists_unserved`), as storing it again does not give it one.
-/

namespace AssetCache

open Program

/-! ### Look-ups -/

section

variable {cache : ContentCache} {depot : MemoryDepot} {key : String} {id : ContentId}

/-- What a look-up finds is what the key has an entry for. -/
lemma Slots.lookup_fst (slots : Slots) (key : String) (now : Instant) :
    (slots.lookup key now).1 =
      match slots.held? key with
      | none => .miss
      | some entry => if entry.isExpired now then .expired entry.value else .live entry.value := by
  unfold lookup held?
  cases slots.byKey.get? key with
  | none => rfl
  | some slot =>
    cases held : slot.entry with
    | none => simp only [held, Option.bind_some]
    | some entry =>
      simp only [held, Option.bind_some]
      split
      · rfl
      · rfl

/-- Registered content is found as far as its blob is there. -/
lemma ContentStore.ends_read_registered {store : ContentStore} {blobs : MemoryBlobs}
    {descriptors : MemoryDescriptors} {holding : Holding}
    (same : depot.contents = ⟨blobs, descriptors⟩) (found : descriptors.get? id = some holding) :
    depot.Ends (store.read id) fun reply _ =>
      match blobs.get? (store.objectKey id) with
      | none => reply = .error (.notFound (store.objectKey id))
      | some bytes => reply = .ok ⟨holding.descriptor, .ofBytes bytes⟩ := by
  cases there : blobs.get? (store.objectKey id) with
  | some bytes => exact (yields_read_present same found there).1
  | none =>
    have read : DescriptorStore.perform descriptors (.read id) =
        (.ok holding.descriptor, descriptors) := by
      simp only [DescriptorStore.perform, DescriptorStore.read, MemoryDescriptors.read, found]
    have missed (token : Token) : BlobStore.answer token blobs (.get (store.objectKey id)) =
        (.error (.notFound (store.objectKey id)), blobs) := by
      simp only [BlobStore.answer, BlobStore.get, MemoryBlobs.get, there]
    have failed : depot.Yields (store.read id) (.error (.notFound (store.objectKey id)))
        ⟨blobs, descriptors⟩ := by
      refine (MemoryDepot.yields_descriptor (.read id) same read).bind ?_
      intro depot same
      refine (MemoryDepot.yields_blob (.get (store.objectKey id)) same missed).bind ?_
      intro depot same
      exact MemoryDepot.yields_done same
    exact failed.1

/-- A look-up hits if the key has a live entry whose content has its blob. It does not fail if that
content is registered at all. -/
lemma ContentCache.hits_get (cache : ContentCache) (key : String)
    (registered : ∀ entry, depot.slots.held? key = some entry →
      ∃ holding, depot.descriptors.get? entry.value = some holding) :
    depot.Ends (cache.get key) fun reply _ => ∃ hit, reply = .ok hit ∧
      (hit.isSome = true ↔ ∃ entry, depot.slots.held? key = some entry ∧
        entry.isExpired depot.now = false ∧
        (depot.blobs.get? (cache.store.objectKey entry.value)).isSome = true) := by
  have looked := depot.slots.lookup_fst key depot.now
  have same : (depot.pass 1000).slots.answer (.lookup key depot.now) =
    depot.slots.lookup key depot.now := rfl
  simp only [get, Operation.clock, Operation.slots, bind_eq, bind_ask, bind_done, pure_eq,
    MemoryDepot.ends_clock, MemoryDepot.ends_slots]
  rw [same]
  cases held : depot.slots.held? key with
  | none =>
    simp only [held] at looked
    rw [looked]
    exact ⟨none, rfl, by simp⟩
  | some entry =>
    obtain ⟨holding, found⟩ := registered entry held
    simp only [held] at looked
    cases stale : entry.isExpired depot.now with
    | true =>
      rw [looked, if_pos stale]
      exact MemoryDepot.ends_bind.2 ⟨none, rfl, by simp [stale]⟩
    | false =>
      rw [looked, if_neg (by simp [stale]), MemoryDepot.ends_bind]
      have left : MemoryDepot.contents { depot.pass 1000 with
          slots := (depot.slots.lookup key depot.now).2 } =
        ⟨depot.blobs, depot.descriptors⟩ := rfl
      refine (ContentStore.ends_read_registered left found).imp fun reply _ read => ?_
      cases there : depot.blobs.get? (cache.store.objectKey entry.value) with
      | none =>
        obtain rfl : reply = .error (.notFound _) := by simpa only [there] using read
        exact ⟨none, rfl, by simp [there]⟩
      | some bytes =>
        obtain rfl : reply = .ok ⟨holding.descriptor, .ofBytes bytes⟩ := by
          simpa only [there] using read
        exact ⟨_, rfl, by simp [stale, there]⟩

/-! ### Puts -/

/-- The blob that content has once it was stored again: content that is registered keeps the blob
that it has, or goes on without one. -/
def Contents.kept? (contents : Contents) (store : ContentStore) (bytes : Bytes) : Option Bytes :=
  if contents.descriptors.contains (.ofBytes bytes) then
    contents.blobs.get? (store.objectKey (.ofBytes bytes))
  else some bytes

lemma MemoryDepot.ends_token {α : Type} {post : α → MemoryDepot → Prop}
    (next : Token → Operation α) :
    depot.Ends (.ask .token next) post ↔
      MemoryDepot.Ends depot.issue.2 (next ⟨depot.issued⟩) post := Iff.rfl

lemma MemoryDepot.Yields.ends {α : Type} {program : Operation α} {result : α} {contents : Contents}
    {post : α → MemoryDepot → Prop} (yields : depot.Yields program result contents)
    (rest : ∀ depot', MemoryDepot.contents depot' = contents → post result depot') :
    depot.Ends program post := by
  unfold MemoryDepot.Ends
  rw [yields.1]
  exact rest _ yields.2

/-- What storing content does to its owners and to its blob. -/
structure Stores (store : ContentStore) (bytes : Bytes) (contents contents' : Contents) : Prop where
  safe : MemoryDescriptors.Owned contents'.descriptors
  more (other : ContentId) : contents'.descriptors.owners other =
    contents.descriptors.owners other + [ContentId.ofBytes bytes].count other
  blob : contents'.blobs.get? (store.objectKey (.ofBytes bytes)) = contents.kept? store bytes

namespace ContentStore

variable {store : ContentStore} {source : Source} {bytes : Bytes} {blobs : MemoryBlobs}
  {descriptors : MemoryDescriptors} {staging : String}

lemma stores_commit (same : depot.contents = ⟨blobs, descriptors⟩)
    (safe : MemoryDescriptors.Owned descriptors)
    (apart : store.objectKey (.ofBytes bytes) ≠ staging)
    (staged : blobs.get? staging = some bytes) :
    depot.Ends (store.commit staging (store.limits.attributesOf bytes)) fun reply depot' =>
      (∃ stored, reply = .ok stored ∧ stored.id = .ofBytes bytes) ∧
        Stores store bytes ⟨blobs, descriptors⟩ depot'.contents := by
  cases found : descriptors.get? (.ofBytes bytes) with
  | none =>
    have yields : depot.Yields (store.commit staging (store.limits.attributesOf bytes)) _ _ :=
      yields_commit_absent same staged found
    obtain ⟨came, left⟩ := yields
    refine ⟨⟨_, came, rfl⟩, ?_⟩
    rw [left]
    refine ⟨safe.insert Nat.one_pos, MemoryDescriptors.owners_insert_more ?_, ?_⟩
    · rw [MemoryDescriptors.owners_of_absent found]
    · simp [Contents.kept?, Table.contains, found]
  | some holding =>
    have yields : depot.Yields (store.commit staging (store.limits.attributesOf bytes)) _ _ :=
      yields_commit_present same staged found
    obtain ⟨came, left⟩ := yields
    refine ⟨⟨_, came, rfl⟩, ?_⟩
    rw [left]
    refine ⟨safe.insert (Nat.succ_pos _), MemoryDescriptors.owners_insert_more ?_, ?_⟩
    · rw [MemoryDescriptors.owners_of_present found]
    · show (blobs.erase staging).get? _ = _
      rw [Table.get?_erase, if_neg apart]
      simp [Contents.kept?, Table.contains, found]

/-- A stream that is taken in becomes content with an owner more. What has been left under the
staging key does not matter. -/
lemma stores_create (apart : store.layout.Apart)
    (safe : MemoryDescriptors.Owned depot.descriptors)
    (accepted : store.limits.accepted? source = some bytes) :
    depot.Ends (store.create source) fun reply depot' =>
      (∃ stored, reply = .ok stored ∧ stored.id = .ofBytes bytes) ∧
        Stores store bytes depot.contents depot'.contents := by
  have different : store.objectKey (.ofBytes bytes) ≠ store.stagingKey ⟨depot.issued⟩ :=
    Ne.symm (apart.staging_ne_object _ _)
  have ingested : MemoryDepot.Yields (depot.issue).2
      (ingest store.limits (store.stagingKey ⟨depot.issued⟩) source)
      (.ok (store.limits.attributesOf bytes))
      ⟨depot.blobs.insert (store.stagingKey ⟨depot.issued⟩) bytes, depot.descriptors⟩ :=
    yields_ingest_accepted rfl accepted
  simp only [create, Operation.token, bind_eq, bind_ask, bind_done, pure_eq,
    MemoryDepot.ends_token, MemoryDepot.ends_bind]
  refine ingested.ends fun depot' left => ?_
  simp only [MemoryDepot.ends_bind]
  refine (stores_commit left safe different (Table.get?_insert_self _ _ _)).imp ?_
  rintro _ depot' ⟨⟨stored, rfl, same⟩, stores⟩
  refine ⟨⟨stored, rfl, same⟩, stores.safe, stores.more, ?_⟩
  have spared : (depot.blobs.insert (store.stagingKey ⟨depot.issued⟩) bytes).get?
      (store.objectKey (.ofBytes bytes)) = depot.blobs.get? (store.objectKey (.ofBytes bytes)) := by
    rw [Table.get?_insert, if_neg different]
  have blob := stores.blob
  simp only [Contents.kept?, spared] at blob
  exact blob

end ContentStore

/-- Nobody is at work: whatever is registered has an owner, and the owners are the keys. -/
structure MemoryDepot.Settled (depot : MemoryDepot) : Prop where
  safe : MemoryDescriptors.Owned depot.descriptors
  counted (id : ContentId) : depot.descriptors.owners id = depot.slots.mapped id

/-- Time passes without anybody at work. -/
lemma MemoryDepot.Settled.showing (settled : depot.Settled) (now : Instant) :
    MemoryDepot.Settled { depot with now } :=
  ⟨settled.safe, settled.counted⟩

/-- Content that was stored and then published has its key for an owner, and what the key mapped to
before is to be given back. -/
lemma Stores.guarded {store : ContentStore} {bytes : Bytes} {depot' : MemoryDepot} {slots : Slots}
    {released : List ContentId} (stores : Stores store bytes depot.contents depot'.contents)
    (settled : depot.Settled)
    (mapped : ∀ other, slots.mapped other + released.count other =
      depot.slots.mapped other + [ContentId.ofBytes bytes].count other) :
    Guarded store (.ofBytes bytes) (depot.contents.kept? store bytes) { depot' with slots }
      fun other => 0 + Account.claims ⟨none, released⟩ other := by
  refine ⟨stores.safe, fun other => ?_, stores.blob⟩
  have more : depot'.descriptors.owners other = _ := stores.more other
  have before : depot.contents.descriptors.owners other = _ := settled.counted other
  have after := mapped other
  simp only [Account.claims, Option.toList_none, List.count_nil]
  omega

/-- A put that runs alone where nobody is at work gives its key an entry. The content of the entry
has the blob that it had, if it was registered, and else that of the stream. -/
lemma ContentCache.ends_put_accepted {source : Source} {bytes : Bytes}
    (apart : cache.store.layout.Apart) (settled : depot.Settled) (key : String)
    (expires : Option Instant) (accepted : cache.store.limits.accepted? source = some bytes) :
    depot.Ends (cache.put key source expires) fun reply depot' => reply = .ok () ∧
      depot'.slots.held? key = some ⟨.ofBytes bytes, expires⟩ ∧
      Guarded cache.store (.ofBytes bytes) (depot.contents.kept? cache.store bytes) depot'
        fun _ => 0 := by
  have created : MemoryDepot.Ends { depot with slots := (depot.slots.submit key).2 }
      (cache.store.create source) fun reply depot' =>
        ((∃ stored, reply = .ok stored ∧ stored.id = .ofBytes bytes) ∧
          Stores cache.store bytes depot.contents depot'.contents) ∧
        depot'.slots = (depot.slots.submit key).2 :=
    ⟨ContentStore.stores_create apart settled.safe accepted,
      MemoryDepot.slots_run ContentStore.beside_create⟩
  rw [put_eq, MemoryDepot.ends_slots, MemoryDepot.ends_bind]
  refine created.imp ?_
  rintro _ depot' ⟨⟨⟨⟨id, record, owners⟩, rfl, rfl⟩, stores⟩, slots⟩
  rw [finishPut, MemoryDepot.ends_slots]
  have same : depot'.slots.answer
      (.publish key (depot.slots.answer (.submit key)).1 ⟨.ofBytes bytes, expires⟩) =
        (depot.slots.submit key).2.publish key (depot.slots.submit key).1
          ⟨.ofBytes bytes, expires⟩ := by
    rw [slots]
    rfl
  have held := (depot.slots.publish_submit key ⟨.ofBytes bytes, expires⟩).2 key
  have mapped (other : ContentId) := (depot.slots.submit key).2.mapped_publish key other
    (depot.slots.submit key).1 ⟨.ofBytes bytes, expires⟩
  rw [if_pos rfl] at held
  simp only [Slots.mapped_submit] at mapped
  rw [same]
  generalize (depot.slots.submit key).2.publish key (depot.slots.submit key).1
    ⟨.ofBytes bytes, expires⟩ = publication at held mapped ⊢
  have books : (cache.releaseAll publication.1.released.toList).Keeps bookkeeping
      (fun reply account => reply = .ok () ∧ account = {})
      ⟨none, publication.1.released.toList⟩ := books_releaseAll ⟨rfl, rfl⟩
  have own : 0 < publication.2.mapped (.ofBytes bytes) := Slots.mapped_pos held
  obtain ⟨account, ⟨came, rfl⟩, kept, guarded⟩ := (stores.guarded settled mapped).run
    beside_releaseAll books (sparing_releaseAll apart _) own
  refine ⟨came, ?_, guarded⟩
  rw [kept]
  exact held

/-- Operations have taken turns, and nobody is at work any more. -/
lemma ContentCache.settled_play (cache : ContentCache) (start : Instant)
    (turns : List (Team.Turn (CacheCall Source)))
    (rest : (Team.play cache.answer ⟨MemoryDepot.vacant start, [], []⟩ turns).IsAtRest) :
    MemoryDepot.Settled
      (Team.play cache.answer ⟨MemoryDepot.vacant start, [], []⟩ turns).depot := by
  have vacant : Balanced MemoryDescriptors.Owned MemoryDescriptors.owners
      (MemoryDepot.vacant start) [] [] := by
    refine balanced_vacant rfl ?_ fun _ => rfl
    intro id holding found
    contradiction
  obtain ⟨accounts, accords, balanced⟩ := Team.exists_accords
    (preserved_balanced MemoryDescriptors.counts_owners) _ turns
    (fun call _ => cache.books_answer call) vacant
  have ended := (accords.settled rest).flip
  have empty (account : Account) (inside : account ∈ accounts) : account = {} := by
    obtain ⟨member, -, result, -, passed⟩ := Team.exists_of_forall₂ ended inside
    exact passed
  refine ⟨balanced.safe, fun id => ?_⟩
  rw [balanced.counted, List.eq_replicate_of_mem empty]
  simp [holders, pending, List.flatMap_replicate]

/-! ### Times to live -/

/-- When something expires that is put at a reading of the clock, for some time or for good. -/
def Instant.expires? (now : Int) (ttl? : Option Duration) : Option Instant :=
  ttl?.map fun ttl => .ofNanos (now + ttl.toNanos)

lemma Entry.isExpired_expires? {α : Type} {value : α} {now t : Int} {ttl? : Option Duration} :
    Entry.isExpired ⟨value, Instant.expires? now ttl?⟩ (.ofNanos t) = false ↔
      ∀ ttl ∈ ttl?, t < now + ttl.toNanos := by
  rw [Entry.isExpired_eq_false_iff]
  cases ttl? with
  | none => simp [Instant.expires?]
  | some ttl => simp [Instant.expires?, Instant.ofNanos_le_iff]

/-- Whether content is registered whose blob is lost. -/
def Contents.Dangles (contents : Contents) (store : ContentStore) (id : ContentId) : Prop :=
  contents.descriptors.contains id = true ∧ contents.blobs.get? (store.objectKey id) = none

lemma Contents.isSome_kept?_iff {contents : Contents} {store : ContentStore} {bytes : Bytes} :
    (contents.kept? store bytes).isSome = true ↔ ¬ contents.Dangles store (.ofBytes bytes) := by
  unfold kept? Dangles
  split
  · next registered => simp [registered, Option.isSome_iff_ne_none]
  · next unregistered => simp [unregistered]

namespace ContentCache

/-- What is asked of a put at a reading of the clock whose content has some identity and is to live
for some time, or for good. -/
structure LivesFor (cache : ContentCache) (depot : MemoryDepot) (now : Int) (key : String)
    (id : ContentId) (ttl? : Option Duration) (put : Operation (Except StoreError Unit)) :
    Prop where
  /-- It is refused if the time is out of range, and only then. -/
  refused : (∃ message, (depot.run put).1 = .error (.invalid message)) ↔
    ∃ ttl ∈ ttl?, Instant.IsBeyond now ttl
  /-- Whatever is done after it was refused goes as if it had not been tried. -/
  unnoticed : (∃ ttl ∈ ttl?, Instant.IsBeyond now ttl) →
    ∀ (reading : Instant) (later : List (Team.Turn (CacheCall Source))),
      Team.play cache.answer ⟨{ (depot.run put).2 with now := reading }, [], []⟩ later =
        Team.play cache.answer ⟨{ depot with now := reading }, [], []⟩ later
  taken : (∀ ttl ∈ ttl?, ¬ Instant.IsBeyond now ttl) → (depot.run put).1 = .ok ()
  /-- Whatever turns others take that leave the key alone, a look-up hits before the time is over,
  and not from then on, unless the entry was found expired already, by a clock that went back since,
  or the content was registered without a blob before. -/
  served : (∀ ttl ∈ ttl?, ¬ Instant.IsBeyond now ttl) →
    ∀ later : List (Team.Turn (CacheCall Source)),
      (∀ call, .start call ∈ later → ¬ call.Changes key) →
        let team := Team.play cache.answer ⟨(depot.run put).2, [], []⟩ later
        ∀ t : Int, MemoryDepot.Ends { team.depot with now := .ofNanos t } (cache.get key)
          fun reply _ => ∃ hit, reply = .ok hit ∧
            (hit.isSome = true ↔ (∀ ttl ∈ ttl?, t < now + ttl.toNanos) ∧
              (∀ answered ∈ team.log,
                ¬ answered.Expires key ⟨id, Instant.expires? now ttl?⟩) ∧
              ¬ depot.contents.Dangles cache.store id)

/-- What became of an entry decides whether its key is served. -/
lemma ends_get_of_lasts {bytes : Bytes} {now t : Int} {ttl? : Option Duration} {log : List Answered}
    {stages : List (Option Account)} {contents : Contents}
    (lasts : Lasts cache.store key ⟨.ofBytes bytes, Instant.expires? now ttl?⟩
      (contents.kept? cache.store bytes) depot log stages) (clock : depot.now = .ofNanos t) :
    depot.Ends (cache.get key) fun reply _ => ∃ hit, reply = .ok hit ∧
      (hit.isSome = true ↔ (∀ ttl ∈ ttl?, t < now + ttl.toNanos) ∧
        (∀ answered ∈ log,
          ¬ answered.Expires key ⟨.ofBytes bytes, Instant.expires? now ttl?⟩) ∧
        ¬ contents.Dangles cache.store (.ofBytes bytes)) := by
  cases lasts with
  | gone _ expired held =>
    obtain ⟨answered, inside, expires⟩ := expired
    apply (cache.hits_get key (by simp [held])).imp
    rintro _ - ⟨hit, rfl, found⟩
    refine ⟨hit, rfl, found.trans ?_⟩
    rw [held]
    exact iff_of_false (by simp) fun served => served.2.1 answered inside expires
  | kept accounts unexpired held guarded =>
    have registered (entry : Entry ContentId) (own : depot.slots.held? key = some entry) :
        ∃ holding, depot.descriptors.get? entry.value = some holding :=
      guarded.exists_holding (Slots.mapped_pos own)
    apply (cache.hits_get key registered).imp
    rintro _ - ⟨hit, rfl, found⟩
    refine ⟨hit, rfl, found.trans ?_⟩
    rw [← Contents.isSome_kept?_iff, ← Entry.isExpired_expires?, ← clock, held]
    constructor
    · rintro ⟨entry, same, live, there⟩
      cases same
      rw [guarded.blob] at there
      exact ⟨live, unexpired, there⟩
    · rintro ⟨live, -, there⟩
      refine ⟨_, rfl, live, ?_⟩
      rw [guarded.blob]
      exact there

/-- A put lives for some time that is refused if the time is out of range, and else goes on with the
instant at which the time is over. -/
lemma livesFor_of_run {source : Source} {bytes : Bytes} {now : Int} {ttl? : Option Duration}
    {put : Operation (Except StoreError Unit)} (apart : cache.store.layout.Apart)
    (settled : depot.Settled) (accepted : cache.store.limits.accepted? source = some bytes)
    (beyond : (∃ ttl ∈ ttl?, Instant.IsBeyond now ttl) → ∃ message,
      depot.run put = (.error (.invalid message), depot.pass 1000))
    (inside : (∀ ttl ∈ ttl?, ¬ Instant.IsBeyond now ttl) → ∃ reading,
      depot.run put = Depot.run { depot with now := reading }
        (cache.put key source (Instant.expires? now ttl?))) :
    cache.LivesFor depot now key (.ofBytes bytes) ttl? put := by
  have ended (within : ∀ ttl ∈ ttl?, ¬ Instant.IsBeyond now ttl) :
      depot.Ends put fun reply depot' => reply = .ok () ∧
        depot'.slots.held? key = some ⟨.ofBytes bytes, Instant.expires? now ttl?⟩ ∧
        Guarded cache.store (.ofBytes bytes) (depot.contents.kept? cache.store bytes) depot'
          fun _ => 0 := by
    obtain ⟨reading, ran⟩ := inside within
    have put := ends_put_accepted apart (settled.showing reading) key
      (Instant.expires? now ttl?) accepted
    unfold MemoryDepot.Ends at put ⊢
    rw [ran]
    exact put
  refine ⟨⟨?_, ?_⟩, ?_, fun within => (ended within).1, ?_⟩
  · rintro ⟨message, refused⟩
    by_contra within
    rw [(ended (by simpa using within)).1] at refused
    cases refused
  · intro outside
    obtain ⟨message, ran⟩ := beyond outside
    exact ⟨message, congrArg Prod.fst ran⟩
  · intro outside reading later
    obtain ⟨message, ran⟩ := beyond outside
    rw [ran]
    rfl
  · intro within later elsewhere team t
    obtain ⟨-, held, guarded⟩ := ended within
    obtain ⟨stages, lasts⟩ := cache.lasts_play apart held guarded later elsewhere
    exact ends_get_of_lasts (Team.Preserved.clock preserved_lasts (.ofNanos t) lasts) rfl

/-- A put for some time reads the clock first. -/
lemma run_putFor {source : Source} {ttl : Duration} :
    depot.run (cache.putFor key source ttl) =
      match Instant.expiry depot.now ttl with
      | .error error => (.error error, depot.pass 1000)
      | .ok expires => Depot.run (depot.pass 1000) (cache.put key source (some expires)) := by
  -- Said of any function, as the one in question cannot be unfolded.
  have general (expiry : Instant → Duration → Except StoreError Instant) :
      depot.run (do
        match expiry (← Operation.clock) ttl with
        | .error error => return .error error
        | .ok expires => cache.put key source (some expires)) =
      match expiry depot.now ttl with
      | .error error => (.error error, depot.pass 1000)
      | .ok expires => Depot.run (depot.pass 1000) (cache.put key source (some expires)) := by
    show Depot.run (depot.pass 1000) (match expiry depot.now ttl with
      | .error error => .done (.error error)
      | .ok expires => cache.put key source (some expires)) = _
    cases expiry depot.now ttl with
    | error error => rfl
    | ok expires => rfl
  exact general Instant.expiry

section

variable {source : Source} {bytes : Bytes} {now : Int}

lemma livesFor_putFor (apart : cache.store.layout.Apart)
    (settled : depot.Settled) (clock : depot.now = .ofNanos now)
    (accepted : cache.store.limits.accepted? source = some bytes) (key : String) (ttl : Duration) :
    cache.LivesFor depot now key (.ofBytes bytes) (some ttl) (cache.putFor key source ttl) := by
  refine livesFor_of_run apart settled accepted ?_ ?_
  · intro outside
    have beyond : Instant.IsBeyond now ttl := by simpa using outside
    refine ⟨"ttl out of range: " ++ ttl.shown, ?_⟩
    rw [run_putFor, clock, Instant.expiry_of_isBeyond beyond]
  · intro within
    have inside : ¬ Instant.IsBeyond now ttl := by simpa using within
    refine ⟨(depot.pass 1000).now, ?_⟩
    rw [run_putFor, clock, Instant.expiry_of_not_isBeyond inside]
    rfl

lemma livesFor_putDefault (apart : cache.store.layout.Apart)
    (settled : depot.Settled) (clock : depot.now = .ofNanos now)
    (accepted : cache.store.limits.accepted? source = some bytes) (key : String) :
    cache.LivesFor depot now key (.ofBytes bytes) cache.config.defaultTtl
      (cache.putDefault key source) := by
  unfold putDefault
  cases configured : cache.config.defaultTtl with
  | some ttl => exact livesFor_putFor apart settled clock accepted key ttl
  | none =>
    refine livesFor_of_run apart settled accepted (by simp) fun _ => ⟨depot.now, ?_⟩
    rfl

end

end ContentCache

end

/-! ### Times to live in the plain cache -/

namespace PlainCache

variable {α : Type} {cache : PlainCache α} {calls : List (Instant × CacheCall α)} {key : String}
  {value : α} {entry : Entry α} {now : Int} {ttl : Duration}

/-- A cache after some more calls. -/
def continued (cache : PlainCache α) (calls : List (Instant × CacheCall α)) : PlainCache α :=
  calls.foldl (fun cache told => (cache.answer told.1 told.2).2) cache

/-- Calls that leave a key alone keep its entry until that is found expired, and give it no
other. -/
lemma get?_continued (elsewhere : ∀ told ∈ calls, ¬ told.2.Changes key) :
    (cache.continued calls).get? key = some entry ↔ cache.get? key = some entry ∧
      ∀ told ∈ calls, ¬ (told.2.Visits key ∧ entry.isExpired told.1 = true) := by
  induction calls generalizing cache with
  | nil => simp [continued]
  | cons told rest ih =>
    have unput : told.2 ≠ .put key entry.value entry.expires := by
      intro put
      apply elsewhere told List.mem_cons_self
      rw [put]
      rfl
    show (continued (cache.answer told.1 told.2).2 rest).get? key = _ ↔ _
    rw [ih fun told inside => elsewhere told (List.mem_cons_of_mem _ inside), get?_answer]
    have unchanged := elsewhere told List.mem_cons_self
    simp [unput, unchanged, and_assoc]

lemma putFor_def : @putFor α = fun cache now key value ttl =>
    match Instant.expiry now ttl with
    | .error error => (.error error, cache)
    | .ok expires => (.ok (), cache.put key value (some expires)) := rfl

/-- What is asked of a put at a reading of the clock whose value is to live for some time. -/
structure LivesFor (cache : PlainCache α) (now : Int) (key : String) (value : α) (ttl : Duration) :
    Prop where
  /-- It is refused if the time is out of range, and only then. -/
  refused : (∃ message, (cache.putFor (.ofNanos now) key value ttl).1 = .error (.invalid message)) ↔
    Instant.IsBeyond now ttl
  unnoticed : Instant.IsBeyond now ttl → (cache.putFor (.ofNanos now) key value ttl).2 = cache
  taken : ¬ Instant.IsBeyond now ttl → (cache.putFor (.ofNanos now) key value ttl).1 = .ok ()
  /-- After any calls that leave the key alone, the value is found before the time is over and not
  from then on, unless the entry was found expired already, by a clock that went back since. -/
  served : ¬ Instant.IsBeyond now ttl → ∀ calls : List (Instant × CacheCall α),
    (∀ told ∈ calls, ¬ told.2.Changes key) → ∀ (t : Int) (found : α),
      (((cache.putFor (.ofNanos now) key value ttl).2.continued calls).get (.ofNanos t) key).1 =
          some found ↔
        found = value ∧ t < now + ttl.toNanos ∧
          ∀ told ∈ calls, ¬ (told.2.Visits key ∧ Instant.ofNanos (now + ttl.toNanos) ≤ told.1)

lemma livesFor_putFor (cache : PlainCache α) (now : Int) (key : String) (value : α)
    (ttl : Duration) : cache.LivesFor now key value ttl := by
  by_cases beyond : Instant.IsBeyond now ttl
  · have put : cache.putFor (.ofNanos now) key value ttl =
        (.error (.invalid ("ttl out of range: " ++ ttl.shown)), cache) := by
      rw [putFor_def]
      simp only [Instant.expiry_of_isBeyond beyond]
    refine ⟨?_, ?_, fun inside => absurd beyond inside, fun inside => absurd beyond inside⟩
    · rw [put]
      exact iff_of_true ⟨_, rfl⟩ beyond
    · rw [put]
      exact fun _ => rfl
  · have put : cache.putFor (.ofNanos now) key value ttl =
        (.ok (), cache.put key value (some (.ofNanos (now + ttl.toNanos)))) := by
      rw [putFor_def]
      simp only [Instant.expiry_of_not_isBeyond beyond]
    refine ⟨?_, fun outside => absurd outside beyond, fun _ => congrArg Prod.fst put, ?_⟩
    · rw [put]
      exact iff_of_false (by simp) beyond
    · intro _ calls elsewhere t found
      have own (entry : Entry α) :
          (cache.put key value (some (.ofNanos (now + ttl.toNanos)))).get? key = some entry ↔
            ⟨value, some (.ofNanos (now + ttl.toNanos))⟩ = entry := by
        rw [PlainCache.put, Table.get?_insert_self, Option.some.injEq]
      rw [put, get_fst]
      simp only [get?_continued elsewhere, own]
      constructor
      · rintro ⟨_, ⟨⟨⟩, unvisited⟩, live⟩
        simp only [Entry.isExpired_some] at unvisited
        have early : t < now + ttl.toNanos := by
          simpa [Entry.isExpired, Instant.ofNanos_le_iff] using live
        exact ⟨rfl, early, unvisited⟩
      · rintro ⟨rfl, early, unvisited⟩
        refine ⟨_, ⟨rfl, ?_⟩, ?_⟩
        · simpa only [Entry.isExpired_some] using unvisited
        · simpa [Entry.isExpired, Instant.ofNanos_le_iff] using early

end PlainCache

/-! ### Caches and times to live -/

/-- In any plain cache, and in a content cache in memory whose operations have taken any turns and
are not under way any more, what is put for some time lives for exactly that time. -/
theorem lives_for_its_time (limits : IngestLimits) (config : CacheConfig) (start : Instant)
    (turns : List (Team.Turn (CacheCall Source))) (now : Int) (key : String) (ttl : Duration) :
    (∀ (α : Type) (plain : PlainCache α) (value : α), plain.LivesFor now key value ttl) ∧
      let cache : ContentCache := { store := { limits }, config }
      let team := Team.play cache.answer ⟨MemoryDepot.vacant start, [], []⟩ turns
      let depot : MemoryDepot := { team.depot with now := .ofNanos now }
      team.IsAtRest → ∀ source bytes, limits.accepted? source = some bytes →
        cache.LivesFor depot now key (.ofBytes bytes) (some ttl) (cache.putFor key source ttl) ∧
          cache.LivesFor depot now key (.ofBytes bytes) config.defaultTtl
            (cache.putDefault key source) := by
  refine ⟨fun α plain value => plain.livesFor_putFor now key value ttl, ?_⟩
  intro cache team depot rest source bytes accepted
  have settled : depot.Settled := (cache.settled_play start turns rest).showing _
  have apart : cache.store.layout.Apart := KeyLayout.fanned_apart
  exact ⟨ContentCache.livesFor_putFor apart settled rfl accepted key ttl,
    ContentCache.livesFor_putDefault apart settled rfl accepted key⟩

/-- The only key of some content is dropped, and before its blob is deleted, the content comes in
again under another key. -/
def lateRelease : List (Team.Turn (CacheCall Source)) :=
  .start (.put "a" (.ofBytes [120]) none) :: List.replicate 10 (.advance 0) ++
    [.start (.invalidate "a"), .advance 1, .advance 1, .start (.put "b" (.ofBytes [120]) none)] ++
      List.replicate 10 (.advance 2) ++ List.replicate 2 (.advance 1)

lemma isAtRest_lateRelease : (Team.play (ContentCache.answer {})
    ⟨MemoryDepot.vacant ⟨0, 0⟩, [], []⟩ lateRelease).IsAtRest := by
  decide +kernel

/-- The same content comes in once more, under a third key and for some time. -/
theorem lives_for_its_time_dangling :
    let depot : MemoryDepot := { (Team.play (ContentCache.answer {})
      ⟨MemoryDepot.vacant ⟨0, 0⟩, [], []⟩ lateRelease).depot with now := .ofNanos 5 }
    ContentCache.LivesFor {} depot 5 "c" (.ofBytes [120]) (some (.ofSecs 1000))
      (ContentCache.putFor {} "c" (.ofBytes [120]) (.ofSecs 1000)) :=
  ((lives_for_its_time {} {} ⟨0, 0⟩ lateRelease 5 "c" (.ofSecs 1000)).2 isAtRest_lateRelease
    (.ofBytes [120]) [120] rfl).1

/-- What is put for some time may be missed before the time is over. -/
theorem exists_unserved : ¬ ∀ (turns : List (Team.Turn (CacheCall Source))) (now : Int)
    (key : String) (source : Source) (bytes : Bytes) (ttl : Duration) (t : Int),
    let team := Team.play (ContentCache.answer {}) ⟨MemoryDepot.vacant ⟨0, 0⟩, [], []⟩ turns
    let put := Depot.run { team.depot with now := .ofNanos now }
      (ContentCache.putFor {} key source ttl)
    team.IsAtRest → IngestLimits.accepted? {} source = some bytes → ¬ Instant.IsBeyond now ttl →
      now ≤ t → t < now + ttl.toNanos →
        (Depot.run { put.2 with now := .ofNanos t } (ContentCache.get {} key)).1 ≠ .ok none := by
  intro claimed
  have missed :
      let team := Team.play (ContentCache.answer {}) ⟨MemoryDepot.vacant ⟨0, 0⟩, [], []⟩ lateRelease
      let put := Depot.run { team.depot with now := .ofNanos 5 }
        (ContentCache.putFor {} "c" (.ofBytes [120]) (.ofSecs 1000))
      (Depot.run { put.2 with now := .ofNanos 6 } (ContentCache.get {} "c")).1 = .ok none := by
    decide +kernel
  exact claimed lateRelease 5 "c" (.ofBytes [120]) [120] (.ofSecs 1000) 6 isAtRest_lateRelease rfl
    (by decide) (by decide) (by decide) missed

end AssetCache
