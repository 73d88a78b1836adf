import AssetCache.Cache.Plain
import AssetCache.Proofs.Cache.Alone

/-!
# The content cache is a plain cache of bytes

A content cache in memory is used by one operation after the other, and so is a plain cache whose
values are the bytes themselves; a put whose stream is not taken in is left out there. Both caches
answer alike, though the one keeps identities in its slots and the bytes in a store where equal
content lies once: each key that the plain cache has maps to the identity of its bytes, and content
has as many owners as there are such keys, so that it is there as long as it is needed.
-/

namespace AssetCache

open Program

/-! ### The slots and the plain cache -/

/-- The slot of a key, next to what the plain cache has under the key. -/
inductive Tracks (ingested : Bytes → Prop) : Option Slot → Option (Entry Bytes) → Prop
  | absent : Tracks ingested none none
  | present {bytes : Bytes} (latest : Nat) (expires : Option Instant) (came : ingested bytes) :
    Tracks ingested (some ⟨latest, [], some ⟨.ofBytes bytes, expires⟩⟩) (some ⟨bytes, expires⟩)

/-- Every key that the plain cache has maps to the identity of its bytes, and no put is under
way. -/
def Mirrors (ingested : Bytes → Prop) (slots : Slots) (plain : PlainCache Bytes) : Prop :=
  ∀ key, Tracks ingested (slots.byKey.get? key) (plain.get? key)

namespace Mirrors

variable {ingested : Bytes → Prop} {slots : Slots} {plain : PlainCache Bytes} {bytes : Bytes}
  {now : Instant}

lemma erase (mirrors : Mirrors ingested slots plain) (key : String) :
    Mirrors ingested { slots with byKey := slots.byKey.erase key } (plain.erase key) := by
  intro other
  rw [Table.get?_erase, Table.get?_erase]
  split
  · exact .absent
  · exact mirrors other

/-- A look-up hits on both sides or on neither. -/
lemma lookup (mirrors : Mirrors ingested slots plain) (key : String) (now : Instant) :
    ((slots.lookup key now).1 = .miss ∧ (plain.get now key).1 = none ∧
        Mirrors ingested (slots.lookup key now).2 (plain.get now key).2) ∨
      (∃ id, (slots.lookup key now).1 = .expired id ∧ (plain.get now key).1 = none ∧
        Mirrors ingested (slots.lookup key now).2 (plain.get now key).2) ∨
      ∃ bytes, (slots.lookup key now).1 = .live (.ofBytes bytes) ∧
        (plain.get now key).1 = some bytes ∧ ingested bytes ∧
        0 < (slots.lookup key now).2.mapped (.ofBytes bytes) ∧
        Mirrors ingested (slots.lookup key now).2 (plain.get now key).2 := by
  have tracks := mirrors key
  unfold Slots.lookup PlainCache.get
  generalize found : slots.byKey.get? key = slot at tracks ⊢
  generalize plain.get? key = entry at tracks ⊢
  cases tracks with
  | absent => exact Or.inl ⟨rfl, rfl, mirrors⟩
  | @present bytes latest expires came =>
    cases stale : Entry.isExpired ⟨bytes, expires⟩ now with
    | true =>
      have stale' : Entry.isExpired ⟨ContentId.ofBytes bytes, expires⟩ now = true := stale
      simp only [stale, stale', if_true]
      exact Or.inr (Or.inl ⟨_, rfl, trivial, mirrors.erase key⟩)
    | false =>
      have fresh : Entry.isExpired ⟨ContentId.ofBytes bytes, expires⟩ now = false := stale
      simp only [stale, fresh, Bool.false_eq_true, if_false]
      refine Or.inr (Or.inr ⟨bytes, rfl, rfl, came, ?_, mirrors⟩)
      exact List.countP_pos_iff.2 ⟨_, Table.get?_eq_some_iff.1 found, by simp [Slot.content?]⟩

lemma removeAll (mirrors : Mirrors ingested slots plain) (keys : List String) :
    Mirrors ingested (slots.removeAll keys).2 (plain.invalidateAll keys) := by
  induction keys generalizing slots plain with
  | nil => exact mirrors
  | cons key rest ih => exact ih (mirrors.erase key)

/-- A put whose stream is not taken in leaves no trace but a ticket. -/
lemma withdraw (mirrors : Mirrors ingested slots plain) (key : String) :
    Mirrors ingested ((slots.submit key).2.withdraw key (slots.submit key).1) plain := by
  have tracks := mirrors key
  intro other
  have tracks' := mirrors other
  generalize found : slots.byKey.get? key = slot at tracks
  generalize there : plain.get? key = entry at tracks
  cases tracks with
  | absent =>
    -- The slot was made for the ticket alone, and is idle without it.
    by_cases same : other = key
    · subst same
      simpa [Slots.submit, Slots.withdraw, Slots.settle, Slot.without, Slot.isIdle, found, there]
        using Tracks.absent
    · simpa [Slots.submit, Slots.withdraw, Slots.settle, Slot.without, Slot.isIdle, found, same]
        using tracks'
  | present latest expires came =>
    by_cases same : other = key
    · subst same
      simpa [Slots.submit, Slots.withdraw, Slots.settle, Slot.without, Slot.isIdle, found, there]
        using Tracks.present (slots.issued + 1) expires came
    · simpa [Slots.submit, Slots.withdraw, Slots.settle, Slot.without, Slot.isIdle, found, same]
        using tracks'

lemma publish (mirrors : Mirrors ingested slots plain) (key : String) (expires : Option Instant)
    (came : ingested bytes) :
    Mirrors ingested
      ((slots.submit key).2.publish key (slots.submit key).1 ⟨.ofBytes bytes, expires⟩).2
      (plain.put key bytes expires) := by
  have tracks := mirrors key
  intro other
  have tracks' := mirrors other
  generalize found : slots.byKey.get? key = slot at tracks
  generalize there : plain.get? key = entry at tracks
  by_cases same : other = key
  · subst same
    cases tracks with
    | absent =>
      simpa [Slots.submit, Slots.publish, Slot.without, PlainCache.put, found]
        using Tracks.present (slots.issued + 1) expires came
    | present =>
      simpa [Slots.submit, Slots.publish, Slot.without, PlainCache.put, found]
        using Tracks.present (slots.issued + 1) expires came
  · cases tracks with
    | _ => simpa [Slots.submit, Slots.publish, PlainCache.put, found, same] using tracks'

/-- Sweeping takes away as much on both sides. -/
lemma sweep (mirrors : Mirrors ingested slots plain) (now : Instant) :
    (slots.sweep now).1.length = (plain.cleanUp now).1 ∧
      Mirrors ingested (slots.sweep now).2 (plain.cleanUp now).2 := by
  constructor
  · have stale (key : String) : (slots.byKey.get? key).any (Slots.isStale now) =
        (plain.get? key).any fun entry => entry.isExpired now := by
      have tracks := mirrors key
      generalize slots.byKey.get? key = slot at tracks ⊢
      generalize plain.get? key = entry at tracks ⊢
      cases tracks with
      | absent => rfl
      | present latest expires came => rfl
    have parted := plain.entries.length_eq_countP_add_countP fun entry => entry.2.isExpired now
    rw [Slots.length_sweep_fst, Table.countP_eq_of_any stale]
    simp only [PlainCache.cleanUp, Table.size, Table.filter, ← List.countP_eq_length_filter]
    simp only [Bool.not_eq_true, Bool.decide_eq_false] at parted
    omega
  · intro key
    have tracks := mirrors key
    simp only [Slots.sweep, PlainCache.cleanUp, Table.get?_filter, Table.get?_map]
    generalize slots.byKey.get? key = slot at tracks ⊢
    generalize plain.get? key = entry at tracks ⊢
    cases tracks with
    | absent => exact .absent
    | @present bytes latest expires came =>
      cases stale : Entry.isExpired ⟨bytes, expires⟩ now with
      | true =>
        have stale' : Entry.isExpired ⟨ContentId.ofBytes bytes, expires⟩ now = true := stale
        simpa [Option.filter_some, Slots.swept, Slot.isIdle, stale, stale'] using Tracks.absent
      | false =>
        have fresh : Entry.isExpired ⟨ContentId.ofBytes bytes, expires⟩ now = false := stale
        simpa [Option.filter_some, Slots.swept, Slot.isIdle, stale, fresh]
          using Tracks.present latest expires came

end Mirrors

/-! ### Both caches answer alike -/

/-- A call to a plain cache of bytes, and its answer. -/
abbrev PlainExchange := (call : CacheCall Bytes) × call.Answer Bytes

/-- The plain cache takes part in a call to the content cache; a put whose stream is not taken in is
left out. -/
def PlainCache.follow (limits : IngestLimits) (plain : PlainCache Bytes) (now : Instant) :
    CacheCall Source → Option PlainExchange × PlainCache Bytes
  | .get key => (some ⟨.get key, (plain.answer now (.get key)).1⟩, (plain.answer now (.get key)).2)
  | .put key source expires =>
    match limits.accepted? source with
    | none => (none, plain)
    | some bytes =>
      (some ⟨.put key bytes expires, (plain.answer now (.put key bytes expires)).1⟩,
        (plain.answer now (.put key bytes expires)).2)
  | .invalidate key =>
    (some ⟨.invalidate key, (plain.answer now (.invalidate key)).1⟩,
      (plain.answer now (.invalidate key)).2)
  | .invalidateAll keys =>
    (some ⟨.invalidateAll keys, (plain.answer now (.invalidateAll keys)).1⟩,
      (plain.answer now (.invalidateAll keys)).2)
  | .cleanUp => (some ⟨.cleanUp, (plain.answer now .cleanUp).1⟩, (plain.answer now .cleanUp).2)

/-- The answer of a content cache next to that of the plain cache. -/
inductive Matches (limits : IngestLimits) :
    (call : CacheCall Source) → call.Answer OpenedContent → Option PlainExchange → Prop
  | miss (key : String) : Matches limits (.get key) (.ok none) (some ⟨.get key, .ok none⟩)
  | hit (key : String) {opened : OpenedContent} {bytes : Bytes}
    (yields : opened.stream.collect = .ok bytes)
    (described : ContentStore.Describes limits opened.descriptor bytes) :
    Matches limits (.get key) (.ok (some opened)) (some ⟨.get key, .ok (some bytes)⟩)
  | put (key : String) {source : Source} {bytes : Bytes} (expires : Option Instant)
    (accepted : limits.accepted? source = some bytes) :
    Matches limits (.put key source expires) (.ok ()) (some ⟨.put key bytes expires, .ok ()⟩)
  | refused (key : String) {source : Source} (expires : Option Instant) (error : StoreError)
    (refused : limits.accepted? source = none) :
    Matches limits (.put key source expires) (.error error) none
  | invalidate (key : String) :
    Matches limits (.invalidate key) (.ok ()) (some ⟨.invalidate key, .ok ()⟩)
  | invalidateAll (keys : List String) :
    Matches limits (.invalidateAll keys) (.ok ()) (some ⟨.invalidateAll keys, .ok ()⟩)
  | cleanUp (removed : Nat) : Matches limits .cleanUp (.ok removed) (some ⟨.cleanUp, .ok removed⟩)

namespace ContentCache

open Operation

/-- A content cache in memory stands for a plain cache of bytes, and no operation is under way. -/
structure StandsFor (cache : ContentCache) (admits : Source → Prop) (depot : MemoryDepot)
    (plain : PlainCache Bytes) : Prop where
  solvent : Solvent cache.store admits [] depot
  mirrors : Mirrors (cache.store.Ingests admits) depot.slots plain

variable {cache : ContentCache} {admits : Source → Prop} {depot : MemoryDepot}
  {plain : PlainCache Bytes}

lemma ends_get (bound : cache.store.limits.maxBytes < UInt64.size)
    (apart : cache.store.layout.Apart) (collisionless : cache.store.Collisionless admits)
    (stands : StandsFor cache admits depot plain) (key : String) :
    depot.Ends (cache.get key) fun reply depot' =>
      Matches cache.store.limits (.get key) reply
        (some ⟨.get key, .ok (plain.get depot.now key).1⟩) ∧
      StandsFor cache admits depot' (plain.get depot.now key).2 := by
  obtain ⟨solvent, mirrors⟩ := stands
  have looked := mirrors.lookup key depot.now
  have solvent' := (solvent.later 1000).answer (.lookup key depot.now)
  have same : (depot.pass 1000).slots.answer (.lookup key depot.now) =
    depot.slots.lookup key depot.now := rfl
  simp only [get, clock, slots, bind_eq, bind_ask, bind_done, pure_eq, MemoryDepot.ends_clock,
    MemoryDepot.ends_slots]
  rw [same] at solvent' ⊢
  generalize depot.slots.lookup key depot.now = found at looked solvent' ⊢
  generalize plain.get depot.now key = kept at looked ⊢
  obtain ⟨lookup, slots'⟩ := found
  obtain ⟨value, plain'⟩ := kept
  rcases looked with ⟨rfl, rfl, mirrors'⟩ | ⟨id, rfl, rfl, mirrors'⟩ |
    ⟨bytes, rfl, rfl, came, mapped, mirrors'⟩
  · exact ⟨.miss key, solvent', mirrors'⟩
  · rw [MemoryDepot.ends_bind]
    apply (ends_releaseExpired apart collisionless solvent').imp
    rintro _ depot' ⟨left, solvent⟩
    exact ⟨.miss key, solvent, left ▸ mirrors'⟩
  · rw [MemoryDepot.ends_bind]
    apply (ends_read bound apart collisionless solvent' came mapped).imp
    rintro _ depot' ⟨⟨opened, rfl, yields, described⟩, left, solvent⟩
    exact ⟨.hit key yields described, solvent, left ▸ mirrors'⟩

lemma ends_put (apart : cache.store.layout.Apart)
    (collisionless : cache.store.Collisionless admits)
    (stands : StandsFor cache admits depot plain) (key : String) {source : Source}
    (admitted : admits source) (expires : Option Instant) :
    depot.Ends (cache.put key source expires) fun reply depot' =>
      Matches cache.store.limits (.put key source expires) reply
        (plain.follow cache.store.limits depot.now (.put key source expires)).1 ∧
      StandsFor cache admits depot'
        (plain.follow cache.store.limits depot.now (.put key source expires)).2 := by
  obtain ⟨solvent, mirrors⟩ := stands
  have submitted : Solvent cache.store admits []
      { depot with slots := (depot.slots.submit key).2 } := solvent.answer (.submit key)
  simp only [put, slots, bind_eq, bind_ask, bind_done, pure_eq, MemoryDepot.ends_slots,
    MemoryDepot.ends_bind, PlainCache.follow]
  cases accepted : cache.store.limits.accepted? source with
  | none =>
    apply (ends_create_refused apart submitted accepted).imp
    rintro _ depot' ⟨⟨error, rfl⟩, left, solvent⟩
    have mirrors' : Mirrors (cache.store.Ingests admits)
        (depot'.slots.withdraw key (depot.slots.submit key).1) plain := by
      rw [left]
      exact mirrors.withdraw key
    exact ⟨.refused key expires error accepted,
      solvent.answer (.withdraw key (depot.slots.submit key).1), mirrors'⟩
  | some bytes =>
    have came : cache.store.Ingests admits bytes := ⟨source, admitted, accepted⟩
    apply (ends_create_accepted apart collisionless admitted submitted accepted).imp
    rintro _ depot' ⟨⟨⟨id, record, owners⟩, rfl, rfl⟩, left, solvent⟩
    simp only [MemoryDepot.ends_slots]
    have published := solvent.answer
      (.publish key (depot.slots.answer (.submit key)).1 ⟨.ofBytes bytes, expires⟩)
    have mirrors' : Mirrors (cache.store.Ingests admits)
        (depot'.slots.answer
          (.publish key (depot.slots.answer (.submit key)).1 ⟨.ofBytes bytes, expires⟩)).2
        (plain.put key bytes expires) := by
      rw [left]
      exact mirrors.publish key expires came
    generalize depot'.slots.answer
      (.publish key (depot.slots.answer (.submit key)).1 ⟨.ofBytes bytes, expires⟩) = result
        at mirrors' published ⊢
    obtain ⟨⟨isPublished, _ | id⟩, slots'⟩ := result
    · exact ⟨.put key expires accepted, published, mirrors'⟩
    · apply (ends_release apart collisionless published).imp
      rintro _ last ⟨rfl, kept, solvent⟩
      exact ⟨.put key expires accepted, solvent, kept ▸ mirrors'⟩

/-- A call to both caches is answered alike, and leaves them alike. -/
theorem ends_answer (bound : cache.store.limits.maxBytes < UInt64.size)
    (apart : cache.store.layout.Apart) (collisionless : cache.store.Collisionless admits)
    (stands : StandsFor cache admits depot plain) (call : CacheCall Source)
    (admitted : ∀ key source expires, call = .put key source expires → admits source) :
    depot.Ends (cache.answer call) fun reply depot' =>
      Matches cache.store.limits call reply
        (plain.follow cache.store.limits depot.now call).1 ∧
      StandsFor cache admits depot' (plain.follow cache.store.limits depot.now call).2 := by
  cases call with
  | get key => exact ends_get bound apart collisionless stands key
  | put key source expires =>
    exact ends_put apart collisionless stands key (admitted key source expires rfl) expires
  | invalidate key =>
    obtain ⟨solvent, mirrors⟩ := stands
    have removed := solvent.answer (.remove key)
    have mirrors' : Mirrors (cache.store.Ingests admits) (depot.slots.answer (.remove key)).2
      (plain.erase key) := mirrors.erase key
    simp only [answer, invalidate, slots, bind_eq, bind_ask, bind_done, pure_eq,
      MemoryDepot.ends_slots]
    generalize depot.slots.answer (.remove key) = result at removed mirrors' ⊢
    obtain ⟨_ | id, slots'⟩ := result
    · exact ⟨.invalidate key, removed, mirrors'⟩
    · apply (ends_release apart collisionless removed).imp
      rintro _ depot' ⟨rfl, kept, solvent⟩
      exact ⟨.invalidate key, solvent, kept ▸ mirrors'⟩
  | invalidateAll keys =>
    obtain ⟨solvent, mirrors⟩ := stands
    have removed := solvent.answer (.removeAll keys)
    have mirrors' : Mirrors (cache.store.Ingests admits) (depot.slots.answer (.removeAll keys)).2
      (plain.invalidateAll keys) := mirrors.removeAll keys
    simp only [answer, invalidateAll, slots, bind_eq, bind_ask, bind_done, MemoryDepot.ends_slots]
    generalize depot.slots.answer (.removeAll keys) = result at removed mirrors' ⊢
    rw [List.append_nil] at removed
    apply (ends_releaseAll apart collisionless removed).imp
    rintro _ depot' ⟨rfl, kept, solvent⟩
    exact ⟨.invalidateAll keys, solvent, kept ▸ mirrors'⟩
  | cleanUp =>
    obtain ⟨solvent, mirrors⟩ := stands
    have swept := (solvent.later 1000).answer (.sweep depot.now)
    obtain ⟨length, mirrors'⟩ := mirrors.sweep depot.now
    have same : (depot.pass 1000).slots.answer (.sweep depot.now) = depot.slots.sweep depot.now :=
      rfl
    simp only [answer, cleanUp, clock, slots, bind_eq, bind_ask, bind_done, pure_eq,
      MemoryDepot.ends_clock, MemoryDepot.ends_slots, MemoryDepot.ends_bind]
    rw [same, List.append_nil] at swept
    rw [same]
    generalize depot.slots.sweep depot.now = result at swept length mirrors' ⊢
    apply (ends_releaseEach apart collisionless swept).imp
    rintro _ depot' ⟨kept, solvent⟩
    refine ⟨?_, solvent, kept ▸ mirrors'⟩
    rw [length]
    exact .cleanUp _

/-! ### Whole runs -/

/-- What calls to a content cache are answered that come one after the other, each at a reading of
the clock. -/
def answers (cache : ContentCache) :
    MemoryDepot → List (Instant × CacheCall Source) →
      List ((call : CacheCall Source) × call.Answer OpenedContent)
  | _, [] => []
  | depot, (now, call) :: rest =>
    let (reply, depot) := Depot.run { depot with now } (cache.answer call)
    ⟨call, reply⟩ :: cache.answers depot rest

/-- What the plain cache is answered that takes part in the same calls. -/
def plainAnswers (limits : IngestLimits) :
    PlainCache Bytes → List (Instant × CacheCall Source) → List (Option PlainExchange)
  | _, [] => []
  | plain, (now, call) :: rest =>
    let (exchange, plain) := plain.follow limits now call
    exchange :: plainAnswers limits plain rest

lemma answers_match (cache : ContentCache) (bound : cache.store.limits.maxBytes < UInt64.size)
    (apart : cache.store.layout.Apart) (collisionless : cache.store.Collisionless admits)
    (calls : List (Instant × CacheCall Source))
    (admitted : ∀ now key source expires, (now, .put key source expires) ∈ calls → admits source)
    (stands : StandsFor cache admits depot plain) :
    List.Forall₂ (fun answered exchange => Matches cache.store.limits answered.1 answered.2 exchange)
      (cache.answers depot calls) (plainAnswers cache.store.limits plain calls) := by
  induction calls generalizing depot plain with
  | nil => exact .nil
  | cons call rest ih =>
    obtain ⟨now, call⟩ := call
    -- Only the reading of the clock changes between two calls.
    have stands' : StandsFor cache admits { depot with now } plain :=
      ⟨⟨stands.solvent.exact, stands.solvent.owned⟩, stands.mirrors⟩
    obtain ⟨matched, left⟩ := ends_answer bound apart collisionless stands' call
      fun key source expires same => admitted now key source expires (same ▸ List.mem_cons_self)
    refine .cons matched (ih ?_ left)
    intro now key source expires later
    exact admitted now key source expires (List.mem_cons_of_mem _ later)

/-- Whatever calls come one after the other, a content cache over empty stores in memory answers
them like the plain cache of bytes. -/
theorem refines_plain {limits : IngestLimits} (config : CacheConfig)
    (bound : limits.maxBytes < UInt64.size) (now : Instant)
    (calls : List (Instant × CacheCall Source))
    (collisionless : ContentStore.Collisionless { limits } fun source =>
      ∃ reading key expires, (reading, .put key source expires) ∈ calls) :
    List.Forall₂ (fun answered exchange => Matches limits answered.1 answered.2 exchange)
      (answers { store := { limits }, config } (.vacant now) calls)
      (plainAnswers limits ∅ calls) := by
  refine answers_match { store := { limits }, config } bound KeyLayout.fanned_apart collisionless
    calls ?_ ?_
  · intro reading key source expires called
    exact ⟨reading, key, expires, called⟩
  · refine ⟨⟨ContentStore.exact_vacant now, fun id => rfl⟩, ?_⟩
    intro key
    exact .absent

/-- Equal content comes in under two keys, one of which expires, and a stream fails that is put on
the other one. -/
theorem refines_plain_shared :
    List.Forall₂ (fun answered exchange => Matches {} answered.1 answered.2 exchange)
      (answers {} (.vacant ⟨0, 0⟩)
        [(⟨1, 0⟩, .put "a" (.ofBytes [120]) none), (⟨2, 0⟩, .put "b" (.ofBytes [120]) (some ⟨4, 0⟩)),
          (⟨3, 0⟩, .put "a" ⟨[.chunk [121], .error (.withText .other "x")], none⟩ none),
          (⟨4, 0⟩, .get "b"), (⟨5, 0⟩, .get "a"), (⟨6, 0⟩, .invalidateAll ["c", "a"])])
      (plainAnswers {} ∅
        [(⟨1, 0⟩, .put "a" (.ofBytes [120]) none), (⟨2, 0⟩, .put "b" (.ofBytes [120]) (some ⟨4, 0⟩)),
          (⟨3, 0⟩, .put "a" ⟨[.chunk [121], .error (.withText .other "x")], none⟩ none),
          (⟨4, 0⟩, .get "b"), (⟨5, 0⟩, .get "a"), (⟨6, 0⟩, .invalidateAll ["c", "a"])]) := by
  refine refines_plain {} (by decide) ⟨0, 0⟩ _ ?_
  refine ContentStore.collisionless_of_nodup [[120]] ?_ (List.nodup_singleton _)
  rintro bytes ⟨source, ⟨reading, key, expires, called⟩, accepted⟩
  have two : source = .ofBytes [120] ∨
      source = ⟨[.chunk [121], .error (.withText .other "x")], none⟩ := by
    simp at called
    tauto
  rcases two with rfl | rfl
  · obtain rfl : [120] = bytes := Option.some.inj accepted
    exact List.mem_cons_self
  · contradiction

end ContentCache

end AssetCache
