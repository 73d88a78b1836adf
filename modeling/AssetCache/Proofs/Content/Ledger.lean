import AssetCache.Proofs.Content.Alone

/-!
# The ledger of a content store

Where no call to the tables fails, the two tables after any calls to a content store are known
exactly from the calls and from what they were answered: which blobs there are and what they hold,
how many owners each content has, and what reading comes to. Which of the calls succeed is known as
well, from their streams and from the descriptors that they find (`Answers`).
-/

namespace AssetCache

namespace MemoryDescriptors

variable (descriptors : MemoryDescriptors) (id other : ContentId)

/-- The number of owners of an identity, which is zero if it is not there. -/
def owners : Nat :=
  (descriptors.refcount? id).getD 0

@[simp] lemma owners_insert (holding : Holding) :
    owners (descriptors.insert id holding) other =
      if other = id then holding.owners else owners descriptors other := by
  unfold owners refcount?
  rw [Table.get?_insert]
  split
  · rfl
  · rfl

@[simp] lemma owners_erase :
    owners (descriptors.erase id) other = if other = id then 0 else owners descriptors other := by
  unfold owners refcount?
  rw [Table.get?_erase]
  split
  · rfl
  · rfl

variable {descriptors id}

lemma owners_of_present {holding : Holding} (found : descriptors.get? id = some holding) :
    owners descriptors id = holding.owners := by
  simp [owners, refcount?, found]

lemma owners_gain {descriptors' : MemoryDescriptors}
    (own : owners descriptors' id = owners descriptors id + 1)
    (others : ∀ other, other ≠ id → owners descriptors' other = owners descriptors other)
    (other : ContentId) :
    owners descriptors' other = owners descriptors other + (decide (id = other)).toNat := by
  by_cases same : id = other
  · subst same
    simpa using own
  · simpa [same] using others other (Ne.symm same)

lemma owners_loss {descriptors' : MemoryDescriptors}
    (own : owners descriptors' id + 1 = owners descriptors id)
    (others : ∀ other, other ≠ id → owners descriptors' other = owners descriptors other)
    (other : ContentId) :
    owners descriptors' other + (decide (id = other)).toNat = owners descriptors other := by
  by_cases same : id = other
  · subst same
    simpa using own
  · simpa [same] using others other (Ne.symm same)

lemma owners_of_absent (absent : descriptors.get? id = none) : owners descriptors id = 0 := by
  simp [owners, refcount?, absent]

end MemoryDescriptors

namespace ContentStore

/-! ### Tables that hold nothing but registered content -/

/-- Registered content has its blob and has owners, and there are no other blobs. -/
structure Exact (store : ContentStore) (admits : Source → Prop) (contents : Contents) : Prop where
  backed : store.Backed admits contents
  owned (id : ContentId) (holding : Holding) :
    contents.descriptors.get? id = some holding → 0 < holding.owners
  only (key : String) (bytes : Bytes) : contents.blobs.get? key = some bytes →
    ∃ id holding, key = store.objectKey id ∧ contents.descriptors.get? id = some holding

variable {store : ContentStore} {admits : Source → Prop} {contents contents' : Contents}
  {call : ContentCall} {reply : call.Answer}

lemma Exact.free (exact : store.Exact admits contents) (apart : store.layout.Apart)
    (token : Token) : contents.blobs.get? (store.stagingKey token) = none := by
  cases found : contents.blobs.get? (store.stagingKey token) with
  | none => rfl
  | some bytes =>
    obtain ⟨id, -, same, -⟩ := exact.only _ bytes found
    exact absurd same (objectKey_ne_stagingKey apart id token).symm

lemma Exact.stored (exact : store.Exact admits contents) (id : ContentId) (holding : Holding)
    (found : contents.descriptors.get? id = some holding) :
    ∃ bytes, contents.blobs.get? (store.objectKey id) = some bytes := by
  obtain ⟨bytes, -, -, -, stored⟩ := exact.backed id holding found
  exact ⟨bytes, stored⟩

lemma Exact.serves {depot : MemoryDepot} (exact : store.Exact admits depot.contents)
    (apart : store.layout.Apart) (call : ContentCall) :
    Serves store depot.contents call (depot.run (store.answer call)).1
      (MemoryDepot.contents (depot.run (store.answer call)).2) :=
  serves_answer call depot (exact.free apart) exact.stored

/-- There are no blobs but those of registered content. -/
lemma Exact.mem_keys_iff (exact : store.Exact admits contents) (key : String) :
    key ∈ contents.blobs.keys ↔ ∃ id ∈ contents.descriptors.keys, key = store.objectKey id := by
  rw [Table.mem_keys_iff]
  constructor
  · rintro ⟨bytes, stored⟩
    obtain ⟨id, holding, named, found⟩ := exact.only key bytes stored
    exact ⟨id, Table.mem_keys_iff.2 ⟨holding, found⟩, named⟩
  · rintro ⟨id, registered, rfl⟩
    obtain ⟨holding, found⟩ := Table.mem_keys_iff.1 registered
    exact exact.stored id holding found

/-- Changing the owners of content that is there leaves the tables exact. -/
lemma Exact.of_owners {blobs : MemoryBlobs} {descriptors : MemoryDescriptors} {id : ContentId}
    {holding : Holding} {owners : Nat} (exact : store.Exact admits ⟨blobs, descriptors⟩)
    (found : descriptors.get? id = some holding) (positive : 0 < owners) :
    store.Exact admits ⟨blobs, descriptors.insert id { holding with owners }⟩ := by
  refine ⟨exact.backed.of_owners ?_, ?_, ?_⟩
  · intro other held found'
    rw [Table.get?_insert] at found'
    split at found'
    · next same =>
      obtain rfl := Option.some.inj found'
      exact ⟨holding, same ▸ found, rfl⟩
    · exact ⟨held, found', rfl⟩
  · intro other held found'
    simp only [Table.get?_insert] at found'
    split at found'
    · obtain rfl := Option.some.inj found'
      exact positive
    · exact exact.owned other held found'
  · intro key bytes stored
    obtain ⟨other, held, named, there⟩ := exact.only key bytes stored
    simp only [Table.get?_insert]
    by_cases same : other = id
    · exact ⟨other, _, named, if_pos same⟩
    · exact ⟨other, held, named, (if_neg same).trans there⟩

/-- Storing content with its first owner leaves the tables exact. -/
lemma Exact.of_store {blobs : MemoryBlobs} {descriptors : MemoryDescriptors} {bytes : Bytes}
    (exact : store.Exact admits ⟨blobs, descriptors⟩) (apart : store.layout.Apart)
    (collisionless : store.Collisionless admits) (ingested : store.Ingests admits bytes)
    (absent : descriptors.get? (.ofBytes bytes) = none) :
    store.Exact admits
      ⟨blobs.insert (store.objectKey (.ofBytes bytes)) bytes,
        descriptors.insert (.ofBytes bytes) ⟨store.limits.descriptorOf bytes, 1⟩⟩ := by
  have stored : (blobs.insert (store.objectKey (.ofBytes bytes)) bytes).get?
      (store.objectKey (.ofBytes bytes)) = some bytes := Table.get?_insert_self _ _ _
  have created := MemoryDescriptors.create_eq descriptors (.ofBytes bytes)
    (store.limits.descriptorOf bytes)
  rw [absent] at created
  refine ⟨?_, ?_, ?_⟩
  · refine (exact.backed.of_stored collisionless ingested stored ?_).of_create ingested stored
      created
    intro id different
    rw [Table.get?_insert, if_neg (objectKey_ne apart different)]
  · intro id holding found
    simp only [Table.get?_insert] at found
    split at found
    · obtain rfl := Option.some.inj found
      exact Nat.one_pos
    · exact exact.owned id holding found
  · intro key found stored
    simp only [Table.get?_insert] at stored ⊢
    split at stored
    · next same => exact ⟨.ofBytes bytes, _, same, if_pos rfl⟩
    · obtain ⟨id, holding, named, there⟩ := exact.only key found stored
      have other : id ≠ .ofBytes bytes := by
        rintro rfl
        rw [absent] at there
        contradiction
      exact ⟨id, holding, named, (if_neg other).trans there⟩

/-- Taking content away with its last owner leaves the tables exact. -/
lemma Exact.of_remove {blobs : MemoryBlobs} {descriptors : MemoryDescriptors} (id : ContentId)
    (exact : store.Exact admits ⟨blobs, descriptors⟩) (apart : store.layout.Apart) :
    store.Exact admits ⟨blobs.erase (store.objectKey id), descriptors.erase id⟩ := by
  have left (other : ContentId) (holding : Holding)
      (found : (descriptors.erase id).get? other = some holding) :
      other ≠ id ∧ descriptors.get? other = some holding := by
    rw [Table.get?_erase] at found
    split at found
    · contradiction
    · next different => exact ⟨different, found⟩
  refine ⟨?_, ?_, ?_⟩
  · refine Backed.of_erase (exact.backed.of_owners ?_) apart (Table.get?_erase_self _ _)
    intro other holding found
    exact ⟨holding, (left other holding found).2, rfl⟩
  · intro other holding found
    exact exact.owned other holding (left other holding found).2
  · intro key bytes stored
    simp only [Table.get?_erase] at stored ⊢
    split at stored
    · contradiction
    · next different =>
      obtain ⟨other, holding, rfl, there⟩ := exact.only key bytes stored
      have others : other ≠ id := fun same => different (congrArg store.objectKey same)
      exact ⟨other, holding, rfl, (if_neg others).trans there⟩

/-- Every call leaves the tables exact. -/
lemma Serves.exact (apart : store.layout.Apart) (collisionless : store.Collisionless admits)
    (serves : Serves store contents call reply contents')
    (admitted : ∀ source, call = .create source → admits source)
    (exact : store.Exact admits contents) : store.Exact admits contents' := by
  cases serves with
  | store accepted absent =>
    exact exact.of_store apart collisionless ⟨_, admitted _ rfl, accepted⟩ absent
  | share accepted found => exact exact.of_owners found (Nat.succ_pos _)
  | duplicate found => exact exact.of_owners found (Nat.succ_pos _)
  | release found shared => exact exact.of_owners found (Nat.sub_pos_of_lt shared)
  | remove found last => exact exact.of_remove _ apart
  | _ => exact exact

/-! ### Owners that come and go -/

/-- A call to a content store together with its answer. -/
abbrev Exchange := (call : ContentCall) × call.Answer

namespace Exchange

/-- Whether some content has got an owner: it was stored, or it was duplicated. -/
def gains (bytes : Bytes) : Exchange → Bool
  | ⟨.create source, .ok _⟩ => source.collect.toOption = some bytes
  | ⟨.duplicate id, .ok _⟩ => id = .ofBytes bytes
  | _ => false

/-- Whether some content has lost an owner. -/
def loses (bytes : Bytes) : Exchange → Bool
  | ⟨.delete _, .ok .missing⟩ => false
  | ⟨.delete id, .ok _⟩ => id = .ofBytes bytes
  | _ => false

end Exchange

/-- One call changes the owners of content by what its answer says. -/
lemma Serves.owners_add (collisionless : store.Collisionless admits)
    (serves : Serves store contents call reply contents')
    (admitted : ∀ source, call = .create source → admits source)
    (exact : store.Exact admits contents) {bytes : Bytes} (ingested : store.Ingests admits bytes) :
    contents'.descriptors.owners (.ofBytes bytes) +
        (Exchange.loses bytes ⟨call, reply⟩).toNat =
      contents.descriptors.owners (.ofBytes bytes) +
        (Exchange.gains bytes ⟨call, reply⟩).toNat := by
  have equal {source : Source} {taken : Bytes}
      (accepted : store.limits.accepted? source = some taken) (same : call = .create source) :
      (source.collect.toOption = some bytes ↔ ContentId.ofBytes taken = .ofBytes bytes) := by
    have collected := (IngestLimits.accepted?_eq_some_iff.1 accepted).1
    rw [collected, Except.toOption, Option.some.injEq]
    constructor
    · rintro rfl
      rfl
    · intro named
      exact collisionless.ofBytes_inj ⟨source, admitted source same, accepted⟩ ingested named
  have others (descriptors : MemoryDescriptors) (id : ContentId) (holding : Holding)
      (other : ContentId) (different : other ≠ id) :
      MemoryDescriptors.owners (descriptors.insert id holding) other =
        descriptors.owners other := by
    rw [MemoryDescriptors.owners_insert, if_neg different]
  cases serves with
  | store accepted absent =>
    simp only [Exchange.loses, Exchange.gains, equal accepted rfl]
    refine MemoryDescriptors.owners_gain ?_ (others _ _ _) _
    rw [MemoryDescriptors.owners_insert, if_pos rfl, MemoryDescriptors.owners_of_absent absent]
  | share accepted found =>
    simp only [Exchange.loses, Exchange.gains, equal accepted rfl]
    refine MemoryDescriptors.owners_gain ?_ (others _ _ _) _
    rw [MemoryDescriptors.owners_insert, if_pos rfl, MemoryDescriptors.owners_of_present found]
  | duplicate found =>
    refine MemoryDescriptors.owners_gain ?_ (others _ _ _) _
    rw [MemoryDescriptors.owners_insert, if_pos rfl, MemoryDescriptors.owners_of_present found]
  | release found shared =>
    refine MemoryDescriptors.owners_loss ?_ (others _ _ _) _
    rw [MemoryDescriptors.owners_insert, if_pos rfl, MemoryDescriptors.owners_of_present found]
    exact Nat.sub_add_cancel (Nat.le_of_lt shared)
  | @remove id holding _ _ found last =>
    have positive : 0 < holding.owners := exact.owned id holding found
    refine MemoryDescriptors.owners_loss ?_ ?_ _
    · rw [MemoryDescriptors.owners_erase, if_pos rfl, MemoryDescriptors.owners_of_present found]
      exact Nat.le_antisymm positive last
    · intro other different
      rw [MemoryDescriptors.owners_erase, if_neg different]
  | _ => rfl

/-- What a call is answered is what there is afterwards. -/
def Announces (descriptors : MemoryDescriptors) : (call : ContentCall) → call.Answer → Prop
  | .create _, .ok stored =>
    descriptors.get? stored.id = some ⟨stored.descriptor, stored.refcount⟩
  | .duplicate id, .ok owners => descriptors.refcount? id = some owners
  | .delete id, .ok (.released remaining) => descriptors.refcount? id = some remaining
  | .delete id, .ok .removed => descriptors.refcount? id = none
  | .delete id, .ok .missing => descriptors.refcount? id = none
  | _, _ => True

lemma Serves.announces (serves : Serves store contents call reply contents') :
    Announces contents'.descriptors call reply := by
  cases serves with
  | store accepted absent => exact Table.get?_insert_self _ _ _
  | share accepted found => exact Table.get?_insert_self _ _ _
  | duplicate found => simp [Announces, MemoryDescriptors.refcount?]
  | deleteMissing absent => simp [Announces, MemoryDescriptors.refcount?, absent]
  | release found shared => simp [Announces, MemoryDescriptors.refcount?]
  | remove found last => simp [Announces, MemoryDescriptors.refcount?]
  | _ => trivial

/-- A call succeeds or fails as its stream, or the descriptors before it, say. -/
def Answers (limits : IngestLimits) (descriptors : MemoryDescriptors) :
    (call : ContentCall) → call.Answer → Prop
  | .create source, .ok stored =>
    ∃ bytes, limits.accepted? source = some bytes ∧ stored.id = .ofBytes bytes
  | .create source, .error _ => limits.accepted? source = none
  | .read id, .ok _ => id ∈ descriptors.keys
  | .read id, .error error => id ∉ descriptors.keys ∧ error = .notFound id.text
  | .contains id, .ok there => there = true ↔ id ∈ descriptors.keys
  | .duplicate id, .ok _ => id ∈ descriptors.keys
  | .duplicate id, .error error => id ∉ descriptors.keys ∧ error = .notFound id.text
  | .delete id, .ok outcome => outcome = .missing ↔ id ∉ descriptors.keys
  -- looking for content and deleting it never fail
  | _, .error _ => False

lemma Serves.answers (serves : Serves store contents call reply contents') :
    Answers store.limits contents.descriptors call reply := by
  cases serves with
  | refuse _ error refused => exact refused
  | store accepted absent => exact ⟨_, accepted, rfl⟩
  | share accepted found => exact ⟨_, accepted, rfl⟩
  | readMissing absent => exact ⟨Table.get?_eq_none_iff.1 absent, rfl⟩
  | read found stored => exact Table.mem_keys_iff.2 ⟨_, found⟩
  | contains id => exact Table.contains_iff
  | duplicateMissing absent => exact ⟨Table.get?_eq_none_iff.1 absent, rfl⟩
  | duplicate found => exact Table.mem_keys_iff.2 ⟨_, found⟩
  | deleteMissing absent => exact iff_of_true rfl (Table.get?_eq_none_iff.1 absent)
  | release found shared =>
    exact iff_of_false nofun (not_not_intro (Table.mem_keys_iff.2 ⟨_, found⟩))
  | remove found last =>
    exact iff_of_false nofun (not_not_intro (Table.mem_keys_iff.2 ⟨_, found⟩))

lemma Serves.read_cases {id : ContentId} {reply : Except StoreError OpenedContent}
    (serves : Serves store contents (.read id) reply contents') :
    (contents.descriptors.get? id = none ∧ reply = .error (.notFound id.text)) ∨
      ∃ holding bytes, contents.descriptors.get? id = some holding ∧
        contents.blobs.get? (store.objectKey id) = some bytes ∧
        reply = .ok ⟨holding.descriptor, .ofBytes bytes⟩ := by
  cases serves with
  | readMissing absent => exact Or.inl ⟨absent, rfl⟩
  | read found stored => exact Or.inr ⟨_, _, found, stored, rfl⟩

lemma Exact.read_cases {depot : MemoryDepot} (exact : store.Exact admits depot.contents)
    (apart : store.layout.Apart) (id : ContentId) :
    (depot.descriptors.get? id = none ∧
        (depot.run (store.read id)).1 = .error (.notFound id.text)) ∨
      ∃ holding bytes, depot.descriptors.get? id = some holding ∧
        depot.blobs.get? (store.objectKey id) = some bytes ∧
        (depot.run (store.read id)).1 = .ok ⟨holding.descriptor, .ofBytes bytes⟩ :=
  (exact.serves apart (.read id)).read_cases

/-! ### Runs -/

/-- The depot after calls that are made one after the other. -/
def serve (store : ContentStore) (depot : MemoryDepot) (calls : List ContentCall) : MemoryDepot :=
  calls.foldl (fun depot call => (depot.run (store.answer call)).2) depot

/-- The calls together with their answers. -/
def exchanges (store : ContentStore) : MemoryDepot → List ContentCall → List Exchange
  | _, [] => []
  | depot, call :: rest =>
    ⟨call, (depot.run (store.answer call)).1⟩ ::
      store.exchanges (depot.run (store.answer call)).2 rest

lemma serve_cons (depot : MemoryDepot) (call : ContentCall) (rest : List ContentCall) :
    store.serve depot (call :: rest) = store.serve (depot.run (store.answer call)).2 rest := rfl

lemma serve_append (depot : MemoryDepot) (before after : List ContentCall) :
    store.serve depot (before ++ after) = store.serve (store.serve depot before) after :=
  List.foldl_append

lemma exact_serve (apart : store.layout.Apart) (collisionless : store.Collisionless admits)
    (calls : List ContentCall) (admitted : ∀ source, .create source ∈ calls → admits source)
    {depot : MemoryDepot} (exact : store.Exact admits depot.contents) :
    store.Exact admits (store.serve depot calls).contents := by
  induction calls generalizing depot with
  | nil => exact exact
  | cons call rest ih =>
    refine ih (fun source later => admitted source (List.mem_cons_of_mem _ later)) ?_
    refine (exact.serves apart call).exact apart collisionless ?_ exact
    rintro source rfl
    exact admitted source List.mem_cons_self

/-- Through any calls, the owners of content change by what the answers say. -/
lemma owners_serve (apart : store.layout.Apart) (collisionless : store.Collisionless admits)
    (calls : List ContentCall) (admitted : ∀ source, .create source ∈ calls → admits source)
    {depot : MemoryDepot} (exact : store.Exact admits depot.contents) {bytes : Bytes}
    (ingested : store.Ingests admits bytes) :
    (store.serve depot calls).descriptors.owners (.ofBytes bytes) +
        (store.exchanges depot calls).countP (Exchange.loses bytes) =
      depot.descriptors.owners (.ofBytes bytes) +
        (store.exchanges depot calls).countP (Exchange.gains bytes) := by
  induction calls generalizing depot with
  | nil => rfl
  | cons call rest ih =>
    have first (source : Source) (same : call = .create source) : admits source :=
      admitted source (same ▸ List.mem_cons_self)
    have served := exact.serves apart call
    have once : (depot.run (store.answer call)).2.descriptors.owners (.ofBytes bytes) +
          (Exchange.loses bytes ⟨call, (depot.run (store.answer call)).1⟩).toNat =
        depot.descriptors.owners (.ofBytes bytes) +
          (Exchange.gains bytes ⟨call, (depot.run (store.answer call)).1⟩).toNat :=
      served.owners_add collisionless first exact ingested
    have others := ih (fun source later => admitted source (List.mem_cons_of_mem _ later))
      (served.exact apart collisionless first exact)
    have counted (held : Bool) : (if held = true then 1 else 0) = held.toNat := by
      cases held <;> rfl
    rw [serve_cons]
    simp only [exchanges, List.countP_cons, counted]
    omega

/-- The descriptor of content says what its bytes are. -/
structure Describes (limits : IngestLimits) (record : Descriptor) (bytes : Bytes) : Prop where
  hash : record.hash = some (Sha1.hexDigest bytes)
  size : record.size.toNat = bytes.length
  contentType : record.contentType =
    some (MediaType.sniff (bytes.take limits.sniffBytes)).name
  /-- Content is one chunk. -/
  chunkSize : record.chunkSize = record.size
  numberOfChunks : record.numberOfChunks = 1

/-- The tables of a depot are what they have to be after some calls. -/
structure Faithful (store : ContentStore) (start : MemoryDepot) (calls : List ContentCall) :
    Prop where
  /-- There are no blobs but those of registered content. -/
  keys (key : String) : key ∈ (store.serve start calls).blobs.keys ↔
    ∃ id ∈ (store.serve start calls).descriptors.keys, key = store.objectKey id
  /-- Registered content has come in, and it has its blob and its descriptor. -/
  content (id : ContentId) (holding : Holding) :
    (store.serve start calls).descriptors.get? id = some holding →
      ∃ source bytes, .create source ∈ calls ∧ source.collect = .ok bytes ∧
        (store.serve start calls).blobs.get? (store.objectKey id) = some bytes ∧
        id.text = Sha1.hexDigest bytes ∧ Describes store.limits holding.descriptor bytes
  /-- Since any time at which it was not there, content has got one owner with each time that it
  was stored or duplicated, and has lost one with each time that it was deleted. -/
  counted (id : ContentId) (holding : Holding) (bytes : Bytes) (before after : List ContentCall) :
    (store.serve start calls).descriptors.get? id = some holding →
    (store.serve start calls).blobs.get? (store.objectKey id) = some bytes →
    calls = before ++ after → (store.serve start before).descriptors.get? id = none →
      holding.owners + (store.exchanges (store.serve start before) after).countP
          (Exchange.loses bytes) =
        (store.exchanges (store.serve start before) after).countP (Exchange.gains bytes)
  /-- The last call succeeded or failed as its stream or the descriptors before it say. -/
  answered (before : List ContentCall) (call : ContentCall) : calls = before ++ [call] →
    Answers store.limits (store.serve start before).descriptors call
      ((store.serve start before).run (store.answer call)).1
  /-- The last call was answered the number of owners that there are now. -/
  announced (before : List ContentCall) (call : ContentCall) : calls = before ++ [call] →
    Announces (store.serve start calls).descriptors call
      ((store.serve start before).run (store.answer call)).1
  /-- Content can be read as long as it has an owner. -/
  readable (id : ContentId) :
    (∃ opened, ((store.serve start calls).run (store.read id)).1 = .ok opened) ↔
      0 < (store.serve start calls).descriptors.owners id
  /-- What is read is the descriptor and the blob. -/
  read (id : ContentId) (opened : OpenedContent) :
    ((store.serve start calls).run (store.read id)).1 = .ok opened →
      ∃ holding bytes, (store.serve start calls).descriptors.get? id = some holding ∧
        (store.serve start calls).blobs.get? (store.objectKey id) = some bytes ∧
        opened.descriptor = holding.descriptor ∧ opened.stream.collect = .ok bytes

lemma exact_vacant (now : Instant) : store.Exact admits (MemoryDepot.vacant now).contents := by
  refine ⟨?_, ?_, ?_⟩
  · intro id holding found
    contradiction
  · intro id holding found
    contradiction
  · intro key bytes found
    contradiction

/-- After any calls to a content store that begins empty, the tables are what they have to be. -/
theorem faithful_serve {limits : IngestLimits} (bound : limits.maxBytes < UInt64.size)
    (now : Instant) (calls : List ContentCall)
    (collisionless : Collisionless { limits } fun source => .create source ∈ calls) :
    Faithful { limits } (.vacant now) calls := by
  have apart : KeyLayout.fanned.Apart := KeyLayout.fanned_apart
  have exact (front : List ContentCall)
      (called : ∀ source, .create source ∈ front → .create source ∈ calls) :
      Exact { limits } (fun source => .create source ∈ calls)
        (serve { limits } (.vacant now) front).contents :=
    exact_serve apart collisionless front called (exact_vacant now)
  have last := exact calls fun _ called => called
  have served (before : List ContentCall) (call : ContentCall) (same : calls = before ++ [call]) :=
    (exact before fun source called => same ▸ List.mem_append_left _ called).serves apart call
  refine ⟨?_, ?_, ?_, ?_, ?_, ?_, ?_⟩
  · exact last.mem_keys_iff
  · intro id holding found
    obtain ⟨bytes, ⟨source, called, accepted⟩, rfl, described, stored⟩ :=
      last.backed id holding found
    obtain ⟨collected, small⟩ := IngestLimits.accepted?_eq_some_iff.1 accepted
    refine ⟨source, bytes, called, collected, stored, rfl, ?_⟩
    rw [described]
    exact ⟨rfl, IngestLimits.toNat_size_descriptorOf bound small, rfl, rfl, rfl⟩
  · rintro id holding bytes before after found stored rfl absent
    obtain ⟨bytes', ingested, rfl, -, stored'⟩ := last.backed id holding found
    obtain rfl : bytes' = bytes := Option.some.inj (stored'.symm.trans stored)
    have counted := owners_serve apart collisionless after
      (fun source called => List.mem_append_right before called)
      (exact before fun source called => List.mem_append_left after called) ingested
    rw [← serve_append, MemoryDescriptors.owners_of_present found,
      MemoryDescriptors.owners_of_absent absent, Nat.zero_add] at counted
    exact counted
  · intro before call same
    exact (served before call same).answers
  · intro before call same
    rw [same, serve_append]
    exact (served before call same).announces
  · intro id
    rcases last.read_cases apart id with
      ⟨absent, missing⟩ | ⟨holding, bytes, found, -, opened⟩
    · rw [missing, MemoryDescriptors.owners_of_absent absent]
      simp
    · rw [opened, MemoryDescriptors.owners_of_present found]
      exact ⟨fun _ => last.owned id holding found, fun _ => ⟨_, rfl⟩⟩
  · intro id opened came
    rcases last.read_cases apart id with
      ⟨absent, missing⟩ | ⟨holding, bytes, found, stored, there⟩
    · rw [missing] at came
      contradiction
    · rw [there] at came
      obtain rfl := Except.ok.inj came
      exact ⟨holding, bytes, found, stored, rfl, Source.collect_ofBytes bytes⟩

/-- Two contents are stored, one of them several times over, a stream fails in between, and owners
come and go. -/
theorem faithful_serve_two :
    Faithful {} (.vacant ⟨0, 0⟩)
      [.create (.ofBytes [120]), .create ⟨[.chunk [120], .error (.withText .other "x")], none⟩,
        .create (.ofBytes [121]), .create (.ofBytes [120]), .duplicate (.ofBytes [121]),
        .delete (.ofBytes [120]), .delete (.ofBytes [120]), .create (.ofBytes [120])] := by
  refine faithful_serve (by decide) ⟨0, 0⟩ _ ?_
  have only : ingested {} [.create (.ofBytes [120]),
      .create ⟨[.chunk [120], .error (.withText .other "x")], none⟩, .create (.ofBytes [121]),
      .create (.ofBytes [120]), .duplicate (.ofBytes [121]), .delete (.ofBytes [120]),
      .delete (.ofBytes [120]), .create (.ofBytes [120])] =
        [[120], [121], [120], [120]] := rfl
  have different : Sha1.hexDigest [120] ≠ Sha1.hexDigest [121] := by decide +kernel
  have two {bytes : Bytes} (came : bytes ∈ [[120], [121], [120], [120]]) :
      bytes = [120] ∨ bytes = [121] := by
    simp only [List.mem_cons, List.not_mem_nil, or_false] at came
    rcases came with rfl | rfl | rfl | rfl
    · exact Or.inl rfl
    · exact Or.inr rfl
    · exact Or.inl rfl
    · exact Or.inl rfl
  intro bytes bytes' first second same
  rw [ingests_calls_iff, only] at first second
  rcases two first with rfl | rfl <;> rcases two second with rfl | rfl
  · rfl
  · exact absurd same different
  · exact absurd same.symm different
  · rfl

end ContentStore

end AssetCache
