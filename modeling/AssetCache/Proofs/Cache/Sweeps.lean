import AssetCache.Proofs.Cache.Releases

/-!
# Sweeps

A sweep takes all expired entries away in one step, and then gives their references back, one after
the other. A release that fails does not stop it: every entry that was taken away is counted, and
its reference is tried once. All other entries stay, and so do the puts that are under way
(`ContentCache.sweeps_exactly`).
-/

namespace AssetCache

open Program

/-! ### What a sweep leaves -/

namespace Slots

variable (slots : Slots) (now : Instant) {key : String} {ticket : Nat} {entry : Entry ContentId}

/-- The keys whose entry is expired, in the order of the table. -/
def staleKeys : List String :=
  slots.byKey.keys.filter fun key => (slots.held? key).any (·.isExpired now)

lemma nodup_staleKeys : (slots.staleKeys now).Nodup :=
  List.Nodup.filter _ slots.byKey.nodup

lemma mem_staleKeys_iff :
    key ∈ slots.staleKeys now ↔
      ∃ entry, slots.held? key = some entry ∧ entry.isExpired now = true := by
  rw [staleKeys, List.mem_filter, Table.mem_keys_iff, Option.any_eq_true, held?]
  constructor
  · exact And.right
  · rintro ⟨entry, held, stale⟩
    obtain ⟨slot, found, -⟩ := Option.bind_eq_some_iff.1 held
    exact ⟨⟨slot, found⟩, entry, held, stale⟩

/-- The contents that a sweep hands out are those of the keys whose entry is expired. -/
lemma sweep_fst : (slots.sweep now).1 = (slots.staleKeys now).filterMap slots.contentId? := by
  simp only [sweep, staleKeys, Table.keys, List.filterMap_filter, List.filterMap_map]
  apply List.filterMap_congr
  rintro ⟨key, slot⟩ inside
  have found : slots.byKey.get? key = some slot := Table.get?_eq_some_iff.2 inside
  simp only [Function.comp_apply, held?, contentId?, found, Option.bind_some]
  cases held : slot.entry with
  | none => simp [expired?, held]
  | some entry => cases stale : entry.isExpired now <;> simp [expired?, Slot.content?, held, stale]

/-- Every key whose entry is expired has content. -/
lemma length_filterMap_staleKeys :
    ((slots.staleKeys now).filterMap slots.contentId?).length = (slots.staleKeys now).length := by
  rw [List.length_filterMap_eq_countP, List.countP_eq_length]
  intro key stale
  obtain ⟨entry, held, -⟩ := (slots.mem_staleKeys_iff now).1 stale
  rw [contentId?_eq, held]
  rfl

/-- An entry stays unless it is expired. -/
lemma held?_sweep (key : String) :
    (slots.sweep now).2.held? key = (slots.held? key).filter fun entry => !entry.isExpired now := by
  unfold held?
  rw [get?_sweep]
  cases slots.byKey.get? key with
  | none => rfl
  | some slot => exact Slot.entry_kept? _

/-- A put that is under way stays under way. -/
lemma underWay_sweep (key : String) : (slots.sweep now).2.underWay key = slots.underWay key := by
  unfold underWay
  rw [get?_sweep]
  cases slots.byKey.get? key with
  | none => rfl
  | some slot => exact Slot.inFlight_kept? _

/-- A slot that a put is under way on keeps its last ticket. -/
lemma latest?_sweep (pending : ticket ∈ slots.underWay key) :
    (slots.sweep now).2.latest? key = slots.latest? key := by
  obtain ⟨last, newest⟩ := exists_latest? (slots.underWay_sweep now key ▸ pending)
  change (slots.answer (.sweep now)).2.latest? key = some last at newest
  rcases latest?_answer newest with ⟨⟨⟩, -⟩ | ⟨before, -⟩
  exact newest.trans before.symm

/-- A put publishes after a sweep if it would have published before. -/
lemma isPublished_sweep (key : String) (ticket : Nat) (entry : Entry ContentId) :
    ((slots.sweep now).2.publish key ticket entry).1.isPublished =
      (slots.publish key ticket entry).1.isPublished := by
  rw [Bool.eq_iff_iff]
  show ((slots.sweep now).2.answer (.publish key ticket entry)).1.isPublished = true ↔
    (slots.answer (.publish key ticket entry)).1.isPublished = true
  rw [answer_publish_isPublished, answer_publish_isPublished, underWay_sweep]
  constructor
  · rintro ⟨pending, newest⟩
    exact ⟨pending, slots.latest?_sweep now pending ▸ newest⟩
  · rintro ⟨pending, newest⟩
    exact ⟨pending, (slots.latest?_sweep now pending).trans newest⟩

end Slots

/-! ### Releases that are not stopped -/

section

variable {β δ : Type} [BlobStore β]

lemma run_releaseExpired [DescriptorStore δ] (cache : ContentCache) (depot : Depot β δ)
    (id : ContentId) :
    (depot.run (cache.releaseExpired id)).2.descriptors =
        (DescriptorStore.answer depot.descriptors (.delete id)).2.1 ∧
      (depot.run (cache.releaseExpired id)).2.slots = depot.slots ∧
      depot.releases (cache.releaseExpired id) =
        [(id, (DescriptorStore.answer depot.descriptors (.delete id)).1)] := by
  obtain ⟨-, descriptors, slots, releases⟩ := run_release cache depot id
  simp only [ContentCache.releaseExpired, bind_eq]
  rw [Depot.releases_bind, releases, Depot.run, run_bind]
  change (Program.run Depot.answer depot (cache.release id)).2.descriptors = _ at descriptors
  change (Program.run Depot.answer depot (cache.release id)).2.slots = _ at slots
  rw [Depot.run]
  cases (Program.run Depot.answer depot (cache.release id)).1 with
  | error error => exact ⟨descriptors, slots, rfl⟩
  | ok _ => exact ⟨descriptors, slots, rfl⟩

/-- An attempt to give a reference back that has its owner takes the owner away, unless it fails; and
it fails just when its call does. -/
lemma FlakyDescriptors.exists_answer_delete [DescriptorStore δ] {sane : δ → Prop}
    {owners : δ → ContentId → Nat} (counts : CountsOwners sane owners) {flaky : FlakyDescriptors δ}
    {id : ContentId} (safe : sane flaky.store) (owned : 0 < owners flaky.store id) :
    ∃ reply store event, DescriptorStore.answer flaky (.delete id) =
        (reply, flaky.step store, event) ∧ sane store ∧
      (∀ error, reply = .error error ↔ flaky.fault? = some error) ∧
      ∀ other, owners store other + (given [(id, reply)]).count other =
        owners flaky.store other := by
  rcases answer_delete_cases counts safe owned with
    ⟨error, fault, answered⟩ | ⟨outcome, store, event, fault, answered, safe', taken⟩
  · refine ⟨_, _, _, answered, safe, fun other => ?_, fun _ => rfl⟩
    rw [fault, Option.some.injEq, Except.error.injEq]
  · refine ⟨_, _, _, answered, safe', fun other => ?_, taken⟩
    rw [fault]
    exact ⟨nofun, nofun⟩

/-- What becomes of references that are given back one after the other, whatever calls fail. -/
structure ReleasesEach (owners : δ → ContentId → Nat) (ids : List ContentId)
    (depot depot' : Depot β (FlakyDescriptors δ)) (releases : List Release) : Prop where
  each : releases.map Prod.fst = ids
  replies : ∀ (n : Nat) (release : Release), releases[n]? = some release → ∀ error,
    release.2 = .error error ↔ depot.descriptors.fate n = some error
  slots : depot'.slots = depot.slots
  remaining (id : ContentId) :
    owners depot'.descriptors.store id + (given releases).count id =
      owners depot.descriptors.store id

/-- Where every reference has its owner, each is tried once, and each that is given back takes one
owner away. -/
lemma releasesEach_releaseEach [DescriptorStore δ] {sane : δ → Prop} {owners : δ → ContentId → Nat}
    (counts : CountsOwners sane owners) (cache : ContentCache) (ids : List ContentId)
    (depot : Depot β (FlakyDescriptors δ)) (safe : sane depot.descriptors.store)
    (covers : ∀ id, ids.count id ≤ owners depot.descriptors.store id) :
    ReleasesEach owners ids depot (depot.run (cache.releaseEach ids)).2
      (depot.releases (cache.releaseEach ids)) := by
  induction ids generalizing depot with
  | nil => exact ⟨rfl, by rintro n release ⟨⟩, rfl, fun _ => rfl⟩
  | cons id rest ih =>
    obtain ⟨descriptors, slots, releases⟩ := run_releaseExpired cache depot id
    have ran : depot.run (cache.releaseEach (id :: rest)) =
        (depot.run (cache.releaseExpired id)).2.run (cache.releaseEach rest) :=
      run_bind _ _ _ _
    have tried : depot.releases (cache.releaseEach (id :: rest)) =
        depot.releases (cache.releaseExpired id) ++
          (depot.run (cache.releaseExpired id)).2.releases (cache.releaseEach rest) :=
      depot.releases_bind _ _
    rw [ran, tried, releases]
    generalize (depot.run (cache.releaseExpired id)).2 = depot' at descriptors slots ⊢
    have owned : 0 < owners depot.descriptors.store id :=
      Nat.lt_of_lt_of_le (by simp) (covers id)
    obtain ⟨reply, store, event, answered, safe', fails, taken⟩ :=
      FlakyDescriptors.exists_answer_delete counts safe owned
    rw [answered] at descriptors ⊢
    change depot'.descriptors = depot.descriptors.step store at descriptors
    have same : depot'.descriptors.store = store := by
      rw [descriptors]
      rfl
    have covers' (other : ContentId) : rest.count other ≤ owners depot'.descriptors.store other := by
      have covered := covers other
      have change := taken other
      have atMost : (given [(id, reply)]).count other ≤ [id].count other :=
        (List.filter_sublist.map Prod.fst).count_le other
      rw [← List.singleton_append, List.count_append] at covered
      rw [same]
      omega
    -- The rest is tried whatever the reply was, and its calls come after this one.
    have later := ih depot' (same ▸ safe') covers'
    refine ⟨?_, ?_, later.slots.trans slots, fun other => ?_⟩
    · rw [List.map_append, later.each]
      rfl
    · intro n release attempted error
      cases n with
      | zero =>
        obtain rfl : (id, reply) = release := Option.some.inj attempted
        exact fails error
      | succ n =>
        rw [later.replies n release attempted error, FlakyDescriptors.fate, FlakyDescriptors.fate,
          descriptors, ← Nat.add_assoc, Nat.add_right_comm]
        rfl
    · have change := taken other
      have remaining := later.remaining other
      have parts : given ([(id, reply)] ++ depot'.releases (cache.releaseEach rest)) =
          given [(id, reply)] ++ given (depot'.releases (cache.releaseEach rest)) := by
        rw [given, List.filter_append, List.map_append]
        rfl
      rw [parts, List.count_append]
      rw [same] at remaining
      omega

/-! ### Whole sweeps -/

/-- What a sweep makes of a cache at some time, where some keys have an expired entry. -/
structure SweepsExactly (owners : δ → ContentId → Nat) (now : Instant) (stale : List String)
    (depot depot' : Depot β (FlakyDescriptors δ)) (releases : List Release)
    (result : Except StoreError Nat) : Prop where
  /-- The keys with an expired entry are counted, each once, whatever calls fail. -/
  distinct : stale.Nodup
  expired : ∀ key, key ∈ stale ↔
    ∃ entry, depot.slots.held? key = some entry ∧ entry.isExpired now = true
  counted : result = .ok stale.length
  /-- The expired entries are gone and all others are there, so that none is left that is expired. -/
  entries : ∀ key, depot'.slots.held? key =
    (depot.slots.held? key).filter fun entry => !entry.isExpired now
  fresh : ∀ key entry, depot'.slots.held? key = some entry → entry.isExpired now = false
  /-- One reference is tried for each entry that is gone, -/
  each : releases.map Prod.fst = stale.filterMap depot.slots.contentId?
  once : releases.length = stale.length
  /-- an attempt fails just when its call does, -/
  replies : ∀ (n : Nat) (release : Release), releases[n]? = some release → ∀ error,
    release.2 = .error error ↔ depot.descriptors.fate n = some error
  /-- and content loses the owners whose references were given back. -/
  remaining (id : ContentId) :
    owners depot'.descriptors.store id + (given releases).count id =
      owners depot.descriptors.store id
  /-- The puts that were under way still are, and publish just when they would have. -/
  underWay : ∀ key, depot'.slots.underWay key = depot.slots.underWay key
  publishes : ∀ key ticket entry,
    (depot'.slots.publish key ticket entry).1.isPublished =
      (depot.slots.publish key ticket entry).1.isPublished
  published : ∀ key ticket entry, (depot.slots.publish key ticket entry).1.isPublished = true →
    (depot'.slots.publish key ticket entry).2.held? key = some entry

/-- Operations of a cache take turns over descriptors whose calls may fail, and then expired entries
are swept away at some time. Just these are gone, and the reference of each is tried once. -/
theorem ContentCache.sweeps_exactly [DescriptorStore δ] {sane : δ → Prop}
    {owners : δ → ContentId → Nat} (counts : CountsOwners sane owners) (cache : ContentCache)
    (depot : Depot β (FlakyDescriptors δ)) (unused : depot.slots = .empty)
    (safe : sane depot.descriptors.store) (turns : List (Team.Turn (CacheCall Source)))
    (now : Instant) :
    let reached := { (Team.play cache.answer ⟨depot, [], []⟩ turns).depot with now }
    SweepsExactly owners now (reached.slots.staleKeys now) reached
      (reached.run cache.cleanUp).2 (reached.releases cache.cleanUp)
      (reached.run cache.cleanUp).1 := by
  intro reached
  obtain ⟨safe, covered⟩ := cache.covered_play counts depot unused safe turns
  change sane reached.descriptors.store at safe
  change ∀ id, reached.slots.mapped id ≤ owners reached.descriptors.store id at covered
  have today : reached.now = now := rfl
  generalize reached = depot at safe covered today ⊢
  subst today
  let swept := { depot.pass 1000 with slots := (depot.slots.sweep depot.now).2 }
  let expired := (depot.slots.sweep depot.now).1
  let answer : Unit → Operation (Except StoreError Nat) := fun _ => .done (.ok expired.length)
  have ran : depot.run cache.cleanUp =
      (.ok expired.length, (swept.run (cache.releaseEach expired)).2) :=
    run_bind Depot.answer swept (cache.releaseEach expired) answer
  have tried : depot.releases cache.cleanUp = swept.releases (cache.releaseEach expired) :=
    (swept.releases_bind (cache.releaseEach expired) answer).trans (List.append_nil _)
  have covers (id : ContentId) : expired.count id ≤ owners depot.descriptors.store id := by
    have mapped := depot.slots.mapped_sweep id depot.now
    exact Nat.le_trans (Nat.le.intro ((Nat.add_comm _ _).trans mapped)) (covered id)
  have released := releasesEach_releaseEach counts cache expired swept safe covers
  rw [ran, tried]
  generalize (swept.run (cache.releaseEach expired)).2 = ended at released ⊢
  rw [show expired = _ from depot.slots.sweep_fst depot.now] at released ⊢
  have left : ended.slots = (depot.slots.sweep depot.now).2 := released.slots
  have entries (key : String) : ended.slots.held? key =
      (depot.slots.held? key).filter fun entry => !entry.isExpired depot.now := by
    rw [left, Slots.held?_sweep]
  have publishes (key : String) (ticket : Nat) (entry : Entry ContentId) :
      (ended.slots.publish key ticket entry).1.isPublished =
        (depot.slots.publish key ticket entry).1.isPublished := by
    rw [left, Slots.isPublished_sweep]
  refine ⟨depot.slots.nodup_staleKeys _, fun key => depot.slots.mem_staleKeys_iff _, ?_, entries, ?_,
    released.each, ?_, released.replies, released.remaining, ?_, publishes, ?_⟩
  · exact congrArg Except.ok (depot.slots.length_filterMap_staleKeys _)
  · intro key entry held
    rw [entries, Option.filter_eq_some_iff] at held
    simpa using held.2
  · rw [← List.length_map, released.each, Slots.length_filterMap_staleKeys]
  · intro key
    show ended.slots.underWay key = _
    rw [left, Slots.underWay_sweep]
  · intro key ticket entry published
    show (ended.slots.publish key ticket entry).2.held? key = some entry
    rw [Slots.held?_publish, if_pos ⟨rfl, (publishes key ticket entry).trans published⟩]

/-- The same content comes in under two keys, for a short time, and other content under a third key;
on a fourth key a put is under way. -/
def threePutsAndMore : List (Team.Turn (CacheCall Source)) :=
  .start (.put "a" (.ofBytes [120]) (some ⟨5, 0⟩)) ::
    .start (.put "b" (.ofBytes [120]) (some ⟨5, 0⟩)) :: .start (.put "c" (.ofBytes [121]) none) ::
      .start (.put "d" (.ofBytes [122]) none) ::
        (List.replicate 16 (.advance 0) ++ List.replicate 16 (.advance 1) ++
          List.replicate 16 (.advance 2) ++ List.replicate 2 (.advance 3))

/-- The calls to the descriptors fail where the first of two keys is swept. -/
def firstSweepFails (call : Nat) : Option StoreError :=
  if call = 7 then some (.backend none) else none

/-- Two expired entries share their content, and the first release of it fails. -/
theorem ContentCache.sweeps_exactly_first_failing :
    let reached := { (Team.play (answer {})
      ⟨FlakyDescriptors.vacant firstSweepFails, [], []⟩ threePutsAndMore).depot with now := ⟨9, 0⟩ }
    reached.slots.staleKeys ⟨9, 0⟩ = ["a", "b"] ∧ reached.slots.underWay "d" = [4] ∧
      reached.descriptors.fate 0 = some (.backend none) ∧
      SweepsExactly MemoryDescriptors.owners ⟨9, 0⟩ (reached.slots.staleKeys ⟨9, 0⟩) reached
        (reached.run (cleanUp {})).2 (reached.releases (cleanUp {}))
        (reached.run (cleanUp {})).1 := by
  intro reached
  have run : reached.slots.staleKeys ⟨9, 0⟩ = ["a", "b"] ∧ reached.slots.underWay "d" = [4] ∧
      reached.descriptors.fate 0 = some (.backend none) := by
    decide +kernel
  refine ⟨run.1, run.2.1, run.2.2, ?_⟩
  refine sweeps_exactly MemoryDescriptors.counts_owners {} _ rfl ?_ threePutsAndMore ⟨9, 0⟩
  intro id holding found
  contradiction

end

end AssetCache
