import AssetCache.Proofs.Cache.Coverage
import AssetCache.Proofs.Cache.Tickets
import AssetCache.Proofs.Depots
import Mathlib.Data.List.Induction

/-!
# Giving references back up to a failure

When some keys are dropped at once, their entries go first, and then the references to their
contents are given back one after the other, up to the first one that fails. The references behind
it are not given back at all, so that a failure loses more than the one reference that it concerns
(`ContentCache.releases_in_turn`, `ContentCache.exists_abandoned`).
-/

namespace AssetCache

open Program

/-! ### The references of some keys -/

namespace Slots

variable (slots : Slots)

/-- The contents that some keys map to, where each key is taken once. -/
def contentsOf (keys : List String) : List ContentId :=
  keys.eraseDups.filterMap slots.contentId?

lemma removeAll_append (first second : List String) :
    slots.removeAll (first ++ second) =
      ((slots.removeAll first).1 ++ ((slots.removeAll first).2.removeAll second).1,
        ((slots.removeAll first).2.removeAll second).2) := by
  induction first generalizing slots with
  | nil => rfl
  | cons key rest ih =>
    simp only [List.cons_append, removeAll, ih, List.append_assoc]

lemma contentId?_removeAll (keys : List String) (key : String) :
    (slots.removeAll keys).2.contentId? key =
      if key ∈ keys then none else slots.contentId? key := by
  rw [contentId?, get?_removeAll]
  split
  · rfl
  · rfl

/-- A key hands its content out the first time that it is listed. -/
lemma removeAll_fst (keys : List String) :
    (slots.removeAll keys).1 = slots.contentsOf keys := by
  unfold contentsOf
  induction keys using List.reverseRecOn with
  | nil => rfl
  | append_singleton keys key ih =>
    have last : ((slots.removeAll keys).2.removeAll [key]).1 =
        ((slots.removeAll keys).2.contentId? key).toList := List.append_nil _
    have single : [key].eraseDups = [key] := rfl
    rw [removeAll_append, ih, last, contentId?_removeAll, List.eraseDups_append,
      List.filterMap_append]
    by_cases listed : key ∈ keys
    · simp [listed, List.removeAll]
    · cases held : slots.contentId? key <;> simp [listed, held, single, List.removeAll]

end Slots

/-! ### What an operation tries to give back -/

/-- The calls that a program makes in an environment that answers every call at once, together with
the answers. -/
def Program.trace {Call : Type} {Answer : Call → Type} {α σ : Type}
    (answer : σ → (call : Call) → Answer call × σ) :
    σ → Program Call Answer α → List ((call : Call) × Answer call)
  | _, done _ => []
  | state, ask call next =>
    ⟨call, (answer state call).1⟩ ::
      trace answer (answer state call).2 (next (answer state call).1)

lemma Program.trace_bind {Call : Type} {Answer : Call → Type} {α β σ : Type}
    (answer : σ → (call : Call) → Answer call × σ) (state : σ) (program : Program Call Answer α)
    (next : α → Program Call Answer β) :
    trace answer state (program.bind next) =
      trace answer state program ++
        trace answer (run answer state program).2 (next (run answer state program).1) := by
  induction program generalizing state with
  | done result => rfl
  | ask call rest ih => simp [trace, ih]

/-- An attempt to give a reference back, and what came of it. -/
abbrev Release := ContentId × Except StoreError DeleteOutcome

/-- The attempt to give a reference back that a call is. -/
def Call.release? : (call : Call) × call.Answer → Option Release
  | ⟨.descriptor (.delete id), reply⟩ => some (id, reply)
  | _ => none

/-- The contents whose references were given back. -/
def given (releases : List Release) : List ContentId :=
  (releases.filter fun release => release.2.isOk).map Prod.fst

variable {α γ β δ : Type} [BlobStore β]

/-- The attempts of an operation to give references back. -/
def Depot.releases [DescriptorStore δ] (depot : Depot β δ) (operation : Operation α) :
    List Release :=
  (operation.trace answer depot).filterMap Call.release?

lemma Depot.releases_bind [DescriptorStore δ] (depot : Depot β δ) (operation : Operation α)
    (next : α → Operation γ) :
    depot.releases (operation.bind next) =
      depot.releases operation ++
        (depot.run operation).2.releases (next (depot.run operation).1) := by
  rw [releases, Program.trace_bind, List.filterMap_append]
  rfl

section Runs

variable [DescriptorStore δ]

/-- Taking an owner away is one call to the descriptors, and the slots stay as they are. -/
lemma run_delete (store : ContentStore) (depot : Depot β δ) (id : ContentId) :
    (depot.run (store.delete id)).1 =
        (DescriptorStore.answer depot.descriptors (.delete id)).1 ∧
      (depot.run (store.delete id)).2.descriptors =
        (DescriptorStore.answer depot.descriptors (.delete id)).2.1 ∧
      (depot.run (store.delete id)).2.slots = depot.slots ∧
      depot.releases (store.delete id) =
        [(id, (DescriptorStore.answer depot.descriptors (.delete id)).1)] := by
  simp only [ContentStore.delete, Operation.descriptor, Operation.blob, Operation.report, bind_eq,
    bind_ask, bind_done, pure_eq]
  simp only [Depot.run, Depot.releases, run_ask, trace, Depot.answer, Depot.answerDescriptor]
  generalize DescriptorStore.answer depot.descriptors (.delete id) = answered
  obtain ⟨reply, descriptors, event⟩ := answered
  cases reply with
  | error error => exact ⟨rfl, rfl, rfl, rfl⟩
  | ok outcome =>
    dsimp only
    split
    · simp only [run_ask, trace, Depot.answer, Depot.answerBlob, Depot.issue]
      generalize
        BlobStore.answer (_ : Token) (_ : β) (.delete (store.layout.objectKey id)) = deleted
      obtain ⟨reply, blobs⟩ := deleted
      cases reply with
      | error error => exact ⟨rfl, rfl, rfl, rfl⟩
      | ok _ => exact ⟨rfl, rfl, rfl, rfl⟩
    · exact ⟨rfl, rfl, rfl, rfl⟩

lemma run_release (cache : ContentCache) (depot : Depot β δ) (id : ContentId) :
    (depot.run (cache.release id)).1 =
        (DescriptorStore.answer depot.descriptors (.delete id)).1.map (fun _ => ()) ∧
      (depot.run (cache.release id)).2.descriptors =
        (DescriptorStore.answer depot.descriptors (.delete id)).2.1 ∧
      (depot.run (cache.release id)).2.slots = depot.slots ∧
      depot.releases (cache.release id) =
        [(id, (DescriptorStore.answer depot.descriptors (.delete id)).1)] := by
  obtain ⟨reply, descriptors, slots, releases⟩ := run_delete cache.store depot id
  simp only [ContentCache.release, bind_eq, pure_eq]
  rw [Depot.releases_bind, releases, Depot.run, run_bind]
  change (Program.run Depot.answer depot (cache.store.delete id)).1 = _ at reply
  change (Program.run Depot.answer depot (cache.store.delete id)).2.descriptors = _ at descriptors
  change (Program.run Depot.answer depot (cache.store.delete id)).2.slots = _ at slots
  rw [Depot.run, reply]
  cases (DescriptorStore.answer depot.descriptors (.delete id)).1 with
  | error error => exact ⟨rfl, descriptors, slots, rfl⟩
  | ok outcome => exact ⟨rfl, descriptors, slots, rfl⟩

end Runs

/-! ### One release after the other -/

/-- How references are given back one after the other, where the calls from some number on fail or
do not: what is attempted, and the result. -/
inductive Course (faults : Nat → Option StoreError) :
    Nat → List ContentId → List Release → Except StoreError Unit → Prop
  | done {calls : Nat} : Course faults calls [] [] (.ok ())
  | failed {calls : Nat} {id : ContentId} {rest : List ContentId} {error : StoreError} :
      faults calls = some error →
        Course faults calls (id :: rest) [(id, .error error)] (.error error)
  | gave {calls : Nat} {id : ContentId} {rest : List ContentId} {outcome : DeleteOutcome}
      {releases : List Release} {result : Except StoreError Unit} :
      faults calls = none → Course faults (calls + 1) rest releases result →
        Course faults calls (id :: rest) ((id, .ok outcome) :: releases) result

/-- A first reference is given back, and what comes next depends on how that went. -/
lemma exists_releaseAll_cons (cache : ContentCache) (id : ContentId) (rest : List ContentId) :
    ∃ next : Except StoreError Unit → Operation (Except StoreError Unit),
      cache.releaseAll (id :: rest) = (cache.release id).bind next ∧
      next (.ok ()) = cache.releaseAll rest ∧
      ∀ error, next (.error error) = .done (.error error) :=
  ⟨_, rfl, rfl, fun _ => rfl⟩

/-- A reference that has its owner is given back, unless the call fails. -/
lemma FlakyDescriptors.answer_delete_cases [DescriptorStore δ] {sane : δ → Prop}
    {owners : δ → ContentId → Nat} (counts : CountsOwners sane owners) {flaky : FlakyDescriptors δ}
    {id : ContentId} (safe : sane flaky.store) (owned : 0 < owners flaky.store id) :
    (∃ error, flaky.fault? = some error ∧
      DescriptorStore.answer flaky (.delete id) = (.error error, flaky.step flaky.store, none)) ∨
    ∃ outcome store event, flaky.fault? = none ∧
      DescriptorStore.answer flaky (.delete id) = (.ok outcome, flaky.step store, event) ∧
      sane store ∧ ∀ other, owners store other + [id].count other = owners flaky.store other := by
  cases fault : flaky.fault? with
  | some error => exact Or.inl ⟨error, rfl, answer_of_fault fault _⟩
  | none =>
    obtain ⟨outcome, answered, there⟩ := counts.deleted _ id safe owned
    have lost : DescriptorCall.lost (.delete id) (.ok outcome) = [id] := by
      cases outcome with
      | missing => exact absurd rfl there
      | _ => rfl
    have counted (other : ContentId) := counts.counted _ (.delete id) other safe
    rw [answered, lost] at counted
    have answer := answer_of_none fault (.delete id)
    rw [answered] at answer
    exact Or.inr ⟨outcome, _, _, rfl, answer, counts.preserved _ (.delete id) safe, counted⟩

/-- Where every reference has its owner, releases take their course, and each that succeeds takes
one owner away. -/
lemma course_releaseAll [DescriptorStore δ] {sane : δ → Prop} {owners : δ → ContentId → Nat}
    (counts : CountsOwners sane owners) (cache : ContentCache) (ids : List ContentId)
    (depot : Depot β (FlakyDescriptors δ)) (safe : sane depot.descriptors.store)
    (covers : ∀ id, ids.count id ≤ owners depot.descriptors.store id) :
    Course depot.descriptors.faults depot.descriptors.calls ids
        (depot.releases (cache.releaseAll ids)) (depot.run (cache.releaseAll ids)).1 ∧
      (depot.run (cache.releaseAll ids)).2.slots = depot.slots ∧
      ∀ id, owners (depot.run (cache.releaseAll ids)).2.descriptors.store id +
          (given (depot.releases (cache.releaseAll ids))).count id =
        owners depot.descriptors.store id := by
  induction ids generalizing depot with
  | nil => exact ⟨.done, rfl, fun _ => rfl⟩
  | cons id rest ih =>
    obtain ⟨reply, descriptors, slots, releases⟩ := run_release cache depot id
    obtain ⟨next, whole, onward, halted⟩ := exists_releaseAll_cons cache id rest
    have ran : depot.run (cache.releaseAll (id :: rest)) =
        (depot.run (cache.release id)).2.run (next (depot.run (cache.release id)).1) := by
      rw [whole]
      exact run_bind _ _ _ _
    rw [ran, whole, Depot.releases_bind, releases]
    generalize depot.run (cache.release id) = released at reply descriptors slots ⊢
    obtain ⟨result, depot'⟩ := released
    change depot'.descriptors = _ at descriptors
    have owned : 0 < owners depot.descriptors.store id :=
      Nat.lt_of_lt_of_le (by simp) (covers id)
    rcases FlakyDescriptors.answer_delete_cases counts safe owned with
      ⟨error, fault, answered⟩ | ⟨outcome, store, event, fault, answered, safe', taken⟩
    · rw [answered] at reply descriptors ⊢
      cases reply
      rw [halted]
      refine ⟨.failed fault, slots, ?_⟩
      intro other
      show owners depot'.descriptors.store other + 0 = _
      rw [descriptors]
      rfl
    · rw [answered] at reply descriptors ⊢
      cases reply
      rw [onward]
      have covers' (other : ContentId) : rest.count other ≤ owners store other := by
        have covered := covers other
        have change := taken other
        rw [← List.singleton_append, List.count_append] at covered
        omega
      have same : depot'.descriptors.store = store := by
        rw [descriptors]
        rfl
      obtain ⟨course, kept, owners'⟩ := ih depot' (same ▸ safe') (same ▸ covers')
      rw [descriptors] at course
      refine ⟨.gave fault course, kept.trans slots, ?_⟩
      intro other
      have change := taken other
      have later := owners' other
      rw [same] at later
      have split : given ((id, .ok outcome) :: depot'.releases (cache.releaseAll rest)) =
          [id] ++ given (depot'.releases (cache.releaseAll rest)) := rfl
      show owners _ other + (given ((id, .ok outcome) ::
        depot'.releases (cache.releaseAll rest))).count other = _
      rw [split, List.count_append]
      dsimp only
      omega

namespace Course

variable {faults : Nat → Option StoreError} {calls : Nat} {ids : List ContentId}
  {releases : List Release} {result : Except StoreError Unit}

/-- The releases are attempted in order, each once. -/
lemma isPrefix (course : Course faults calls ids releases result) :
    releases.map Prod.fst <+: ids := by
  induction course with
  | done => exact List.prefix_refl _
  | failed => exact List.prefix_append [_] _
  | gave _ _ ih => exact (List.prefix_cons_inj _).2 ih

/-- A release fails just when its call does. -/
lemma reply_iff (course : Course faults calls ids releases result) {n : Nat} {release : Release}
    (attempted : releases[n]? = some release) (error : StoreError) :
    release.2 = .error error ↔ faults (calls + n) = some error := by
  induction course generalizing n with
  | done => simp at attempted
  | @failed calls id rest failure fault =>
    obtain ⟨rfl, rfl⟩ : n = 0 ∧ release = (id, .error failure) := by
      cases n with
      | zero => exact ⟨rfl, (Option.some.inj attempted).symm⟩
      | succ n => simp at attempted
    rw [Nat.add_zero, fault, Option.some.injEq]
    exact ⟨fun same => Except.error.inj same, fun same => congrArg Except.error same⟩
  | @gave calls id rest outcome releases result sound course ih =>
    cases n with
    | zero =>
      obtain rfl : (id, .ok outcome) = release := Option.some.inj attempted
      rw [Nat.add_zero, sound]
      exact ⟨nofun, nofun⟩
    | succ n =>
      rw [List.getElem?_cons_succ] at attempted
      rw [ih attempted, Nat.add_right_comm]
      rfl

/-- Only the last release fails. -/
lemma sound (course : Course faults calls ids releases result) {n : Nat}
    (early : n + 1 < releases.length) : faults (calls + n) = none := by
  induction course generalizing n with
  | done => simp at early
  | failed => simp at early
  | @gave calls id rest outcome releases result sound course ih =>
    cases n with
    | zero => exact sound
    | succ n =>
      rw [List.length_cons, Nat.add_lt_add_iff_right] at early
      rw [← ih early, Nat.add_right_comm]
      rfl

/-- What was not attempted comes after a release that failed. -/
lemma stopped (course : Course faults calls ids releases result)
    (part : releases.length < ids.length) :
    ∃ n error, releases.length = n + 1 ∧ faults (calls + n) = some error := by
  induction course with
  | done => simp at part
  | failed fault => exact ⟨0, _, rfl, fault⟩
  | @gave calls id rest outcome releases result sound course ih =>
    rw [List.length_cons, List.length_cons, Nat.add_lt_add_iff_right] at part
    obtain ⟨n, error, long, fault⟩ := ih part
    refine ⟨n + 1, error, by rw [List.length_cons, long], ?_⟩
    rw [← fault, Nat.add_right_comm]
    rfl

/-- The result is the failure of a release, if one fails. -/
lemma result_iff (course : Course faults calls ids releases result) (error : StoreError) :
    result = .error error ↔ ∃ id, (id, .error error) ∈ releases := by
  induction course with
  | done => simp
  | @failed calls id rest failure fault =>
    simp only [List.mem_singleton, Prod.mk.injEq, Except.error.injEq]
    constructor
    · rintro rfl
      exact ⟨id, rfl, rfl⟩
    · rintro ⟨_, -, same⟩
      exact same.symm
  | gave _ _ ih => simp [ih]

/-- All releases are attempted just when none fails but the last. -/
lemma whole_iff (course : Course faults calls ids releases result) :
    releases.map Prod.fst = ids ↔ ∀ n, n + 1 < ids.length → faults (calls + n) = none := by
  have long : (releases.map Prod.fst).length = releases.length := List.length_map _
  constructor
  · rintro rfl n early
    rw [long] at early
    exact course.sound early
  · intro sound
    apply course.isPrefix.eq_of_length_le
    rw [long]
    by_contra part
    obtain ⟨n, error, last, fault⟩ := course.stopped (Nat.lt_of_not_le part)
    rw [sound n (by omega)] at fault
    contradiction

end Course

/-! ### Dropping some keys -/

/-- What a call to the descriptors fails with that is made after some others. -/
def FlakyDescriptors.fate (flaky : FlakyDescriptors δ) (others : Nat) : Option StoreError :=
  flaky.faults (flaky.calls + others)

/-- What becomes of the references of some keys when the keys are dropped at once. -/
structure ReleasesInTurn (owners : δ → ContentId → Nat) (keys : List String)
    (depot depot' : Depot β (FlakyDescriptors δ)) (releases : List Release)
    (result : Except StoreError Unit) : Prop where
  /-- The keys are gone, -/
  dropped : ∀ key ∈ keys, depot'.slots.byKey.get? key = none
  /-- and all others are as they were. -/
  others : ∀ key, key ∉ keys → depot'.slots.byKey.get? key = depot.slots.byKey.get? key
  /-- The references of the keys are given back in order, one attempt for each, -/
  inTurn : releases.map Prod.fst <+: depot.slots.contentsOf keys
  /-- and an attempt fails just when its call does. -/
  replies : ∀ (n : Nat) (release : Release), releases[n]? = some release → ∀ error,
    release.2 = .error error ↔ depot.descriptors.fate n = some error
  /-- If not all are attempted, then the last attempt has failed. -/
  stopped : releases.length < (depot.slots.contentsOf keys).length →
    ∃ n error, releases.length = n + 1 ∧ depot.descriptors.fate n = some error
  /-- All are attempted just when no attempt fails but the last. -/
  whole : releases.map Prod.fst = depot.slots.contentsOf keys ↔
    ∀ n, n + 1 < (depot.slots.contentsOf keys).length → depot.descriptors.fate n = none
  /-- The result is an error just when an attempt has failed. -/
  failed : ∀ error, result = .error error ↔ ∃ id, (id, .error error) ∈ releases
  /-- The keys stand for so many references less, -/
  mapped (id : ContentId) :
    depot'.slots.mapped id + (depot.slots.contentsOf keys).count id = depot.slots.mapped id
  /-- but only those are gone that were given back. -/
  remaining (id : ContentId) :
    owners depot'.descriptors.store id + (given releases).count id =
      owners depot.descriptors.store id

/-- Operations of a cache take turns over descriptors whose calls may fail, and then some keys are
dropped at once. Their references are given back up to the first failure. -/
theorem ContentCache.releases_in_turn [DescriptorStore δ] {sane : δ → Prop}
    {owners : δ → ContentId → Nat} (counts : CountsOwners sane owners) (cache : ContentCache)
    (depot : Depot β (FlakyDescriptors δ)) (unused : depot.slots = .empty)
    (safe : sane depot.descriptors.store) (turns : List (Team.Turn (CacheCall Source)))
    (keys : List String) :
    let team := Team.play cache.answer ⟨depot, [], []⟩ turns
    ReleasesInTurn owners keys team.depot (team.depot.run (cache.invalidateAll keys)).2
      (team.depot.releases (cache.invalidateAll keys))
      (team.depot.run (cache.invalidateAll keys)).1 := by
  intro team
  obtain ⟨safe, covered⟩ := cache.covered_play counts depot unused safe turns
  change sane team.depot.descriptors.store at safe
  change ∀ id, team.depot.slots.mapped id ≤ owners team.depot.descriptors.store id at covered
  generalize team.depot = depot at safe covered
  have listed := depot.slots.removeAll_fst keys
  have mapped := fun id => depot.slots.mapped_removeAll id keys
  have ran : depot.run (cache.invalidateAll keys) =
      Depot.run { depot with slots := (depot.slots.removeAll keys).2 }
        (cache.releaseAll (depot.slots.removeAll keys).1) := rfl
  have tried : depot.releases (cache.invalidateAll keys) =
      Depot.releases { depot with slots := (depot.slots.removeAll keys).2 }
        (cache.releaseAll (depot.slots.removeAll keys).1) := rfl
  rw [ran, tried]
  rw [listed] at mapped ⊢
  have covers (id : ContentId) :
      (depot.slots.contentsOf keys).count id ≤ owners depot.descriptors.store id :=
    Nat.le_trans (Nat.le.intro ((Nat.add_comm _ _).trans (mapped id))) (covered id)
  obtain ⟨course, kept, remaining⟩ := course_releaseAll counts cache (depot.slots.contentsOf keys)
    { depot with slots := (depot.slots.removeAll keys).2 } safe covers
  refine ⟨?_, ?_, course.isPrefix, ?_, course.stopped, course.whole_iff, course.result_iff, ?_,
    remaining⟩
  · intro key inside
    rw [kept, Slots.get?_removeAll, if_pos inside]
  · intro key outside
    rw [kept, Slots.get?_removeAll, if_neg outside]
  · intro n release attempted error
    exact course.reply_iff attempted error
  · intro id
    rw [kept]
    exact mapped id

/-- Nothing stored in memory yet, over descriptors whose calls may fail. -/
def FlakyDescriptors.vacant (faults : Nat → Option StoreError) :
    Depot MemoryBlobs (FlakyDescriptors MemoryDescriptors) where
  blobs := ∅
  descriptors := ⟨∅, faults, 0⟩
  now := ⟨0, 0⟩

/-- Two contents come in under two keys, with two calls to the descriptors each. -/
def twoPuts : List (Team.Turn (CacheCall Source)) :=
  .start (.put "a" (.ofBytes [120]) none) :: .start (.put "b" (.ofBytes [121]) none) ::
    (List.replicate 16 (.advance 0) ++ List.replicate 16 (.advance 1))

/-- The calls to the descriptors fail where the first of two contents would be released. -/
def firstReleaseFails (call : Nat) : Option StoreError :=
  if call = 4 then some (.backend none) else none

/-- The first release of two fails. -/
theorem ContentCache.releases_in_turn_first_failing :
    let team := Team.play (answer {}) ⟨FlakyDescriptors.vacant firstReleaseFails, [], []⟩ twoPuts
    ReleasesInTurn MemoryDescriptors.owners ["a", "b"] team.depot
      (team.depot.run (invalidateAll {} ["a", "b"])).2
      (team.depot.releases (invalidateAll {} ["a", "b"]))
      (team.depot.run (invalidateAll {} ["a", "b"])).1 := by
  refine releases_in_turn MemoryDescriptors.counts_owners {} _ rfl ?_ twoPuts ["a", "b"]
  intro id holding found
  contradiction

/-- When keys are dropped at once, the reference of one of them may not be given back at all, though
no operation is under way and only the release of another one fails. -/
theorem ContentCache.exists_abandoned : ¬ ∀ (faults : Nat → Option StoreError)
    (turns : List (Team.Turn (CacheCall Source))) (keys : List String) (key : String)
    (id : ContentId),
    let team := Team.play (answer {}) ⟨FlakyDescriptors.vacant faults, [], []⟩ turns
    team.IsAtRest → key ∈ keys → team.depot.slots.contentId? key = some id →
      id ∈ (team.depot.releases (invalidateAll {} keys)).map Prod.fst := by
  intro claimed
  have run :
      let team := Team.play (answer {}) ⟨FlakyDescriptors.vacant firstReleaseFails, [], []⟩ twoPuts
      team.IsAtRest ∧ team.depot.slots.contentId? "b" = some (.ofBytes [121]) ∧
        .ofBytes [121] ∉ (team.depot.releases (invalidateAll {} ["a", "b"])).map Prod.fst := by
    decide +kernel
  obtain ⟨rested, held, abandoned⟩ := run
  exact abandoned (claimed firstReleaseFails twoPuts ["a", "b"] "b" _ rested (by simp) held)

end AssetCache
