import AssetCache.Cache.Content
import AssetCache.Proofs.Cache.Owners
import AssetCache.Proofs.Cache.Slots
import AssetCache.Proofs.Content.Calls

/-!
# References in a cache that nobody else uses

Where a content cache in memory is used by one operation alone, a reference that is owed can be given
back, and content that has come in can be read as long as a key maps to it. What is owed on the way
is a list (`Solvent`): storing content puts it there, publishing it takes it away again, and so does
giving a reference back.
-/

namespace AssetCache

open Program

variable {α β : Type}

/-- What is known of the result of a program and of the depot after it, when it runs alone. -/
def MemoryDepot.Ends (depot : MemoryDepot) (program : Operation α)
    (post : α → MemoryDepot → Prop) : Prop :=
  post (depot.run program).1 (depot.run program).2

namespace MemoryDepot

variable {depot : MemoryDepot} {program : Operation α} {post post' : α → MemoryDepot → Prop}

lemma ends_clock (next : Instant → Operation α) :
    depot.Ends (.ask .clock next) post ↔
      MemoryDepot.Ends (depot.pass 1000) (next depot.now) post := Iff.rfl

lemma ends_slots (call : SlotsCall) (next : call.Answer → Operation α) :
    depot.Ends (.ask (.slots call) next) post ↔
      MemoryDepot.Ends { depot with slots := (depot.slots.answer call).2 }
        (next (depot.slots.answer call).1) post := Iff.rfl

lemma ends_bind {first : Operation β} {next : β → Operation α} :
    depot.Ends (first.bind next) post ↔
      depot.Ends first fun result depot => depot.Ends (next result) post := by
  simp only [Ends, Depot.run, run_bind]

lemma Ends.imp (ends : depot.Ends program post)
    (weaker : ∀ result depot, post result depot → post' result depot) :
    depot.Ends program post' :=
  weaker _ _ ends

lemma slots_run {kind : α → Prop} (beside : program.Within Call.Beside kind) :
    (depot.run program).2.slots = depot.slots := by
  have kept (between : MemoryDepot) (call : Call) (allowed : call.Beside)
      (same : between.slots = depot.slots) : (between.answer call).2.slots = depot.slots := by
    cases call with
    | slots call => exact allowed.elim
    | _ => exact same
  exact beside.run kept rfl

end MemoryDepot

namespace ContentStore

/-! ### What the operations of the store do to the owners -/

variable {store : ContentStore} {id : ContentId} {source : Source} {contents contents' : Contents}

lemma Serves.created {reply : Except StoreError StoredContent}
    (serves : Serves store contents (.create source) reply contents') :
    match store.limits.accepted? source with
    | none => (∃ error, reply = .error error) ∧ contents' = contents
    | some bytes => (∃ stored, reply = .ok stored ∧ stored.id = .ofBytes bytes) ∧ ∀ other,
      contents'.descriptors.owners other =
        contents.descriptors.owners other + [ContentId.ofBytes bytes].count other := by
  cases serves with
  | refuse contents error refused =>
    rw [refused]
    exact ⟨⟨error, rfl⟩, rfl⟩
  | store accepted absent =>
    rw [accepted]
    refine ⟨⟨_, rfl, rfl⟩, MemoryDescriptors.owners_insert_more ?_⟩
    rw [MemoryDescriptors.owners_of_absent absent]
  | share accepted found =>
    rw [accepted]
    refine ⟨⟨_, rfl, rfl⟩, MemoryDescriptors.owners_insert_more ?_⟩
    rw [MemoryDescriptors.owners_of_present found]

lemma Serves.deleted {reply : Except StoreError DeleteOutcome}
    (serves : Serves store contents (.delete id) reply contents')
    (owned : 0 < contents.descriptors.owners id) :
    (∃ outcome, reply = .ok outcome) ∧ ∀ other,
      contents'.descriptors.owners other + [id].count other =
        contents.descriptors.owners other := by
  cases serves with
  | deleteMissing absent =>
    rw [MemoryDescriptors.owners_of_absent absent] at owned
    contradiction
  | release found shared =>
    refine ⟨⟨_, rfl⟩, MemoryDescriptors.owners_insert_less ?_⟩
    rw [MemoryDescriptors.owners_of_present found]
    exact Nat.sub_add_cancel (Nat.le_of_lt shared)
  | remove found last =>
    rw [MemoryDescriptors.owners_of_present found] at owned
    refine ⟨⟨_, rfl⟩, MemoryDescriptors.owners_erase_last ?_⟩
    rw [MemoryDescriptors.owners_of_present found]
    omega

lemma Serves.read_contents {reply : Except StoreError OpenedContent}
    (serves : Serves store contents (.read id) reply contents') : contents' = contents := by
  cases serves with
  | _ => rfl

end ContentStore

/-! ### Operations on a cache that nobody else uses -/

/-- The tables hold nothing but registered content, and the owners of content are the keys that map
to it and the references to it that are owed. -/
structure Solvent (store : ContentStore) (admits : Source → Prop) (owed : List ContentId)
    (depot : MemoryDepot) : Prop where
  exact : store.Exact admits depot.contents
  owned (id : ContentId) :
    depot.descriptors.owners id = depot.slots.mapped id + owed.count id

section Solvent

variable {store : ContentStore} {admits : Source → Prop} {owed : List ContentId}
  {depot : MemoryDepot} {id : ContentId} {source : Source} {bytes : Bytes}

lemma Solvent.later (solvent : Solvent store admits owed depot) (nanos : Nat) :
    Solvent store admits owed (depot.pass nanos) :=
  ⟨solvent.exact, solvent.owned⟩

/-- A call to the slots hands out what it takes away. -/
lemma Solvent.answer (call : SlotsCall)
    (solvent : Solvent store admits (call.brought ++ owed) depot) :
    Solvent store admits (call.handed (depot.slots.answer call).1 ++ owed)
      { depot with slots := (depot.slots.answer call).2 } := by
  refine ⟨solvent.exact, ?_⟩
  intro id
  have owned := solvent.owned id
  have mapped := depot.slots.mapped_answer id call
  rw [List.count_append] at owned ⊢
  show depot.descriptors.owners id = _
  dsimp only
  omega

lemma Solvent.of_owners {owed' : List ContentId} {depot' : MemoryDepot}
    (solvent : Solvent store admits owed depot) (exact : store.Exact admits depot'.contents)
    (slots : depot'.slots = depot.slots)
    (changed : ∀ id, depot'.descriptors.owners id + owed.count id =
      depot.descriptors.owners id + owed'.count id) :
    Solvent store admits owed' depot' := by
  refine ⟨exact, ?_⟩
  intro id
  have owned := solvent.owned id
  have change := changed id
  rw [slots]
  omega

lemma Solvent.of_contents {depot' : MemoryDepot} (solvent : Solvent store admits owed depot)
    (contents : depot'.contents = depot.contents) (slots : depot'.slots = depot.slots) :
    Solvent store admits owed depot' := by
  refine solvent.of_owners (contents ▸ solvent.exact) slots ?_
  intro id
  have same : depot'.descriptors = depot.descriptors := congrArg Contents.descriptors contents
  rw [same]

lemma ends_create_refused (apart : store.layout.Apart) (solvent : Solvent store admits owed depot)
    (refused : store.limits.accepted? source = none) :
    depot.Ends (store.create source) fun reply depot' => (∃ error, reply = .error error) ∧
      depot'.slots = depot.slots ∧ Solvent store admits owed depot' := by
  have slots : (depot.run (store.create source)).2.slots = depot.slots :=
    MemoryDepot.slots_run ContentStore.beside_create
  have served := (solvent.exact.serves apart (.create source)).created
  rw [refused] at served
  obtain ⟨failed, contents⟩ := served
  exact ⟨failed, slots, solvent.of_contents contents slots⟩

/-- Storing content brings an owner, for whom a reference is owed. -/
lemma ends_create_accepted (apart : store.layout.Apart) (collisionless : store.Collisionless admits)
    (admitted : admits source) (solvent : Solvent store admits owed depot)
    (accepted : store.limits.accepted? source = some bytes) :
    depot.Ends (store.create source) fun reply depot' =>
      (∃ stored, reply = .ok stored ∧ stored.id = .ofBytes bytes) ∧ depot'.slots = depot.slots ∧
        Solvent store admits (.ofBytes bytes :: owed) depot' := by
  have slots : (depot.run (store.create source)).2.slots = depot.slots :=
    MemoryDepot.slots_run ContentStore.beside_create
  have serves := solvent.exact.serves apart (.create source)
  have exact := serves.exact apart collisionless
    (fun other same => ContentCall.create.inj same ▸ admitted) solvent.exact
  have served := serves.created
  rw [accepted] at served
  obtain ⟨answered, more⟩ := served
  refine ⟨answered, slots, solvent.of_owners exact slots ?_⟩
  intro id
  rw [← List.singleton_append, List.count_append, ← Nat.add_assoc]
  exact congrArg (· + owed.count id) (more id)

/-- Giving a reference back that is owed takes the owner away. -/
lemma ends_delete (apart : store.layout.Apart) (collisionless : store.Collisionless admits)
    (solvent : Solvent store admits (id :: owed) depot) :
    depot.Ends (store.delete id) fun reply depot' => (∃ outcome, reply = .ok outcome) ∧
      depot'.slots = depot.slots ∧ Solvent store admits owed depot' := by
  have slots : (depot.run (store.delete id)).2.slots = depot.slots :=
    MemoryDepot.slots_run ContentStore.beside_delete
  have present : 0 < depot.descriptors.owners id := by
    rw [solvent.owned id, List.count_cons_self]
    omega
  have serves := solvent.exact.serves apart (.delete id)
  have exact := serves.exact apart collisionless nofun solvent.exact
  obtain ⟨answered, less⟩ := serves.deleted present
  refine ⟨answered, slots, solvent.of_owners exact slots ?_⟩
  intro other
  rw [← List.singleton_append, List.count_append, ← Nat.add_assoc]
  exact congrArg (· + owed.count other) (less other)

/-- Content that a key maps to can be read. -/
lemma ends_read (bound : store.limits.maxBytes < UInt64.size) (apart : store.layout.Apart)
    (collisionless : store.Collisionless admits) (solvent : Solvent store admits owed depot)
    (ingested : store.Ingests admits bytes) (mapped : 0 < depot.slots.mapped (.ofBytes bytes)) :
    depot.Ends (store.read (.ofBytes bytes)) fun reply depot' =>
      (∃ opened, reply = .ok opened ∧ opened.stream.collect = .ok bytes ∧
        ContentStore.Describes store.limits opened.descriptor bytes) ∧
      depot'.slots = depot.slots ∧ Solvent store admits owed depot' := by
  have slots : (depot.run (store.read (.ofBytes bytes))).2.slots = depot.slots :=
    MemoryDepot.slots_run (beside_of_neutral ContentStore.neutral_read)
  have same := (solvent.exact.serves apart (.read (.ofBytes bytes))).read_contents
  refine ⟨?_, slots, solvent.of_contents same slots⟩
  rcases solvent.exact.read_cases apart (.ofBytes bytes) with
    ⟨absent, -⟩ | ⟨holding, stored, found, there, came⟩
  · have owned := solvent.owned (.ofBytes bytes)
    rw [MemoryDescriptors.owners_of_absent absent] at owned
    omega
  · obtain ⟨bytes', ingested', named, described, there'⟩ := solvent.exact.backed _ holding found
    obtain rfl : stored = bytes' := Option.some.inj (there.symm.trans there')
    obtain rfl := collisionless.ofBytes_inj ingested ingested' named
    obtain ⟨source, -, accepted⟩ := ingested
    have small := (IngestLimits.accepted?_eq_some_iff.1 accepted).2
    refine ⟨_, came, Source.collect_ofBytes bytes, ?_⟩
    rw [described]
    exact ⟨rfl, IngestLimits.toNat_size_descriptorOf bound small, rfl, rfl, rfl⟩

end Solvent

namespace ContentCache

open Operation

variable {cache : ContentCache} {admits : Source → Prop} {owed : List ContentId}
  {depot : MemoryDepot} {id : ContentId}

lemma ends_release (apart : cache.store.layout.Apart)
    (collisionless : cache.store.Collisionless admits)
    (solvent : Solvent cache.store admits (id :: owed) depot) :
    depot.Ends (cache.release id) fun reply depot' => reply = .ok () ∧
      depot'.slots = depot.slots ∧ Solvent cache.store admits owed depot' := by
  simp only [release, bind_eq, MemoryDepot.ends_bind]
  apply (ends_delete apart collisionless solvent).imp
  rintro _ depot' ⟨⟨outcome, rfl⟩, same, solvent⟩
  exact ⟨rfl, same, solvent⟩

lemma ends_releaseExpired (apart : cache.store.layout.Apart)
    (collisionless : cache.store.Collisionless admits)
    (solvent : Solvent cache.store admits (id :: owed) depot) :
    depot.Ends (cache.releaseExpired id) fun _ depot' =>
      depot'.slots = depot.slots ∧ Solvent cache.store admits owed depot' := by
  simp only [releaseExpired, bind_eq, MemoryDepot.ends_bind]
  apply (ends_release apart collisionless solvent).imp
  rintro _ depot' ⟨rfl, same, solvent⟩
  exact ⟨same, solvent⟩

lemma ends_releaseAll (apart : cache.store.layout.Apart)
    (collisionless : cache.store.Collisionless admits)
    (solvent : Solvent cache.store admits owed depot) :
    depot.Ends (cache.releaseAll owed) fun reply depot' => reply = .ok () ∧
      depot'.slots = depot.slots ∧ Solvent cache.store admits [] depot' := by
  induction owed generalizing depot with
  | nil => exact ⟨rfl, rfl, solvent⟩
  | cons id rest ih =>
    simp only [releaseAll, bind_eq, MemoryDepot.ends_bind]
    apply (ends_release apart collisionless solvent).imp
    rintro _ depot' ⟨rfl, same, solvent⟩
    rw [← same]
    exact ih solvent

lemma ends_releaseEach (apart : cache.store.layout.Apart)
    (collisionless : cache.store.Collisionless admits)
    (solvent : Solvent cache.store admits owed depot) :
    depot.Ends (cache.releaseEach owed) fun _ depot' =>
      depot'.slots = depot.slots ∧ Solvent cache.store admits [] depot' := by
  induction owed generalizing depot with
  | nil => exact ⟨rfl, solvent⟩
  | cons id rest ih =>
    simp only [releaseEach, bind_eq, MemoryDepot.ends_bind]
    apply (ends_releaseExpired apart collisionless solvent).imp
    rintro _ depot' ⟨same, solvent⟩
    rw [← same]
    exact ih solvent

end ContentCache

end AssetCache
