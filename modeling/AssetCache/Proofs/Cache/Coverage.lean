import AssetCache.Proofs.Cache.References

/-!
# No key is left without its reference

Calls to the descriptors may fail, and a call that fails has no effect. References may get lost to
nobody then, but no key loses its own: at all times, content has at least as many owners as there
are keys that map to it (`ContentCache.covered_play`).
-/

namespace AssetCache

open Program

/-! ### Descriptors whose calls may fail -/

/-- A store of descriptors whose calls may fail, and then have no effect. -/
structure FlakyDescriptors (δ : Type) where
  store : δ
  /-- What the calls fail with, if they fail. They are numbered as they are made. -/
  faults : Nat → Option StoreError
  /-- The number of calls made so far. -/
  calls : Nat := 0

namespace FlakyDescriptors

variable {δ : Type} [DescriptorStore δ] {flaky : FlakyDescriptors δ}

/-- What the next call fails with, if it fails. -/
def fault? (flaky : FlakyDescriptors δ) : Option StoreError :=
  flaky.faults flaky.calls

/-- The store after a call that left another one inside. -/
def step (flaky : FlakyDescriptors δ) (store : δ) : FlakyDescriptors δ :=
  { flaky with store, calls := flaky.calls + 1 }

/-- What is done to the store inside. -/
def inside {α : Type} (flaky : FlakyDescriptors δ) (act : δ → α × δ) : α × FlakyDescriptors δ :=
  let (result, store) := act flaky.store
  (result, { flaky with store })

instance : DescriptorStore (FlakyDescriptors δ) where
  connect flaky :=
    match flaky.fault? with
    | some error => (.error error, flaky.step flaky.store)
    | none =>
      let (opened, store) := DescriptorStore.connect flaky.store
      (opened, flaky.step store)
  create flaky id record := flaky.inside fun store => DescriptorStore.create store id record
  read flaky id := DescriptorStore.read flaky.store id
  contains flaky id := DescriptorStore.contains flaky.store id
  duplicate flaky id := flaky.inside fun store => DescriptorStore.duplicate store id
  delete flaky id := flaky.inside fun store => DescriptorStore.delete store id

/-- A call that fails has no effect. -/
lemma answer_of_fault {error : StoreError} (fault : flaky.fault? = some error)
    (call : DescriptorCall) :
    DescriptorStore.answer flaky call = (.error error, flaky.step flaky.store, none) := by
  simp only [DescriptorStore.answer, DescriptorStore.connect, fault]

/-- A call that does not fail is answered by the store inside. -/
lemma answer_of_none (sound : flaky.fault? = none) (call : DescriptorCall) :
    DescriptorStore.answer flaky call =
      ((DescriptorStore.answer flaky.store call).1,
        flaky.step (DescriptorStore.answer flaky.store call).2.1,
        (DescriptorStore.answer flaky.store call).2.2) := by
  simp only [DescriptorStore.answer, DescriptorStore.connect, sound]
  generalize DescriptorStore.connect flaky.store = connected
  obtain ⟨opened, store⟩ := connected
  cases opened with
  | error error => rfl
  | ok event =>
    cases call with
    | _ => rfl

lemma answer_cases (flaky : FlakyDescriptors δ) (call : DescriptorCall) :
    (∃ error, DescriptorStore.answer flaky call =
      (.error error, flaky.step flaky.store, none)) ∨
    DescriptorStore.answer flaky call =
      ((DescriptorStore.answer flaky.store call).1,
        flaky.step (DescriptorStore.answer flaky.store call).2.1,
        (DescriptorStore.answer flaky.store call).2.2) := by
  cases fault : flaky.fault? with
  | some error => exact Or.inl ⟨error, answer_of_fault fault call⟩
  | none => exact Or.inr (answer_of_none fault call)

/-- What an answer does to the owners, whether the call failed or not. -/
lemma counted_answer {sane : δ → Prop} {owners : δ → ContentId → Nat}
    (counts : CountsOwners sane owners) (safe : sane flaky.store) (call : DescriptorCall) :
    sane (DescriptorStore.answer flaky call).2.1.store ∧ ∀ id,
      owners (DescriptorStore.answer flaky call).2.1.store id +
          (call.lost (DescriptorStore.answer flaky call).1).count id =
        owners flaky.store id +
          (call.gained (DescriptorStore.answer flaky call).1).count id := by
  rcases flaky.answer_cases call with ⟨error, answered⟩ | answered
  · rw [answered]
    refine ⟨safe, fun id => ?_⟩
    cases call with
    | _ => rfl
  · rw [answered]
    exact ⟨counts.preserved _ call safe, fun id => counts.counted _ call id safe⟩

end FlakyDescriptors

/-! ### Operations that may be answered anything -/

/-- What an operation of a cache and the depot agree on, whatever the depot answers. -/
abbrev recording : Agreement Call Call.Answer Account :=
  accounting fun _ _ => True

section

variable {account : Account} {held : Option ContentId} {ids : List ContentId} {id : ContentId}

lemma ContentStore.records_delete {store : ContentStore}
    {post : Except StoreError DeleteOutcome → Account → Prop}
    (h : ∀ reply, post reply ⟨held, ids⟩) :
    (store.delete id).Keeps recording post ⟨held, id :: ids⟩ := by
  have given (reply : Except StoreError DeleteOutcome) :
      (done reply : Operation (Except StoreError DeleteOutcome)).Keeps recording post
        (Account.after ⟨held, id :: ids⟩ (.descriptor (.delete id)) reply) := by
    simp only [keeps_done, Account.after, List.erase_cons_head]
    exact h reply
  simp only [delete, Operation.blob, Operation.descriptor, Operation.report, bind_eq, bind_ask,
    bind_done, keeps_ask]
  refine ⟨List.mem_cons_self, ?_⟩
  rintro (error | outcome) -
  · exact given (.error error)
  · dsimp only
    split
    · refine ⟨trivial, ?_⟩
      rintro (error | _) -
      · exact ⟨trivial, fun _ _ => given (.ok outcome)⟩
      · exact ⟨trivial, fun _ _ => given (.ok outcome)⟩
    · exact given (.ok outcome)

namespace ContentCache

open Operation

variable {cache : ContentCache}

lemma records_release {post : Except StoreError Unit → Account → Prop}
    (h : ∀ result, post result ⟨held, ids⟩) :
    (cache.release id).Keeps recording post ⟨held, id :: ids⟩ := by
  simp only [release, bind_eq, keeps_bind]
  apply ContentStore.records_delete
  rintro (error | outcome)
  · exact h _
  · exact h _

/-- What is not given back after a failure is still owed, and stays so. -/
lemma records_releaseAll {post : Except StoreError Unit → Account → Prop}
    (h : ∀ result ids, post result ⟨held, ids⟩) :
    (cache.releaseAll ids).Keeps recording post ⟨held, ids⟩ := by
  induction ids with
  | nil => exact h _ _
  | cons id rest ih =>
    simp only [releaseAll, bind_eq, keeps_bind]
    apply records_release
    rintro (error | _)
    · exact h _ _
    · exact ih

lemma records_releaseExpired {post : Unit → Account → Prop} (h : post () ⟨held, ids⟩) :
    (cache.releaseExpired id).Keeps recording post ⟨held, id :: ids⟩ := by
  simp only [releaseExpired, report, bind_eq, keeps_bind]
  apply records_release
  rintro (error | _)
  · exact ⟨trivial, fun _ _ => h⟩
  · exact h

lemma records_releaseEach {post : Unit → Account → Prop} (h : post () ⟨held, []⟩) :
    (cache.releaseEach ids).Keeps recording post ⟨held, ids⟩ := by
  induction ids with
  | nil => exact h
  | cons id rest ih =>
    simp only [releaseEach, bind_eq, keeps_bind]
    exact records_releaseExpired ih

/-- An operation makes calls that fit its account, whatever it is answered. -/
theorem records_answer (call : CacheCall Source) :
    (cache.answer call).Keeps recording (fun _ _ => True) {} := by
  cases call with
  | get key =>
    simp only [answer, get, clock, slots, bind_eq, bind_ask, bind_done, keeps_ask]
    refine ⟨trivial, fun now _ => ⟨trivial, ?_⟩⟩
    rintro (_ | id | id) -
    · trivial
    · rw [keeps_bind]
      exact records_releaseExpired trivial
    · rw [keeps_bind]
      apply keeps_of_neutral ContentStore.neutral_read
      rintro (error | opened) -
      · trivial
      · trivial
  | put key source expires =>
    simp only [answer, put, slots, bind_eq, bind_ask, bind_done, keeps_ask]
    refine ⟨trivial, ?_⟩
    intro ticket _
    rw [keeps_bind]
    apply ContentStore.books_create rfl
    · intro stored
      refine ⟨rfl, ?_⟩
      rintro ⟨published, _ | id⟩ -
      · trivial
      · exact records_release fun _ => trivial
    · intro error
      exact ⟨trivial, fun _ _ => trivial⟩
  | invalidate key =>
    simp only [answer, invalidate, slots, bind_eq, bind_ask, bind_done, keeps_ask]
    refine ⟨trivial, ?_⟩
    rintro (_ | id) -
    · trivial
    · exact records_release fun _ => trivial
  | invalidateAll keys =>
    simp only [answer, invalidateAll, slots, bind_eq, bind_ask, bind_done, keeps_ask]
    exact ⟨trivial, fun ids _ => records_releaseAll fun _ _ => trivial⟩
  | cleanUp =>
    simp only [answer, cleanUp, clock, slots, bind_eq, bind_ask, bind_done, keeps_ask, keeps_bind]
    exact ⟨trivial, fun now _ => ⟨trivial, fun ids _ => records_releaseEach trivial⟩⟩

end ContentCache

end

/-- However a call to the descriptors is answered, no more is claimed after it than before and what
it brought, less what it took away. -/
lemma Account.claims_descriptor_le {account : Account} {call : DescriptorCall}
    (reply : call.Answer) (permits : account.Permits (.descriptor call)) (id : ContentId) :
    (account.after (.descriptor call) reply).claims id + (call.lost reply).count id ≤
      account.claims id + (call.gained reply).count id := by
  cases call with
  | delete other =>
    have erased := claims_erase permits id
    have less : (account.after (.descriptor (.delete other)) reply).claims id ≤
        account.claims id := Nat.le.intro erased
    cases reply with
    | error error => exact less
    | ok outcome =>
      cases outcome with
      | missing => exact less
      | _ => exact Nat.le_of_eq erased
  | _ => exact Nat.le_of_eq (claims_descriptor permits trivial id)

/-! ### Every turn keeps the keys covered -/

variable {β δ : Type}

/-- There is an owner for every key that maps to some content and for everything that the
operations hold or owe. -/
structure Covered (sane : δ → Prop) (owners : δ → ContentId → Nat)
    (depot : Depot β (FlakyDescriptors δ)) (accounts : List Account) : Prop where
  safe : sane depot.descriptors.store
  covers (id : ContentId) :
    depot.slots.mapped id + (holders accounts id + pending accounts id) ≤
      owners depot.descriptors.store id

section Turns

variable [BlobStore β] [DescriptorStore δ] {sane : δ → Prop} {owners : δ → ContentId → Nat}
  {depot depot' : Depot β (FlakyDescriptors δ)} {account : Account}

/-- A call that is answered leaves an owner for everything that is claimed. -/
lemma covers_answer (counts : CountsOwners sane owners) (safe : sane depot.descriptors.store)
    {call : Call} (permits : account.Permits call) (others : ContentId → Nat)
    (covers : ∀ id, depot.slots.mapped id + (others id + account.claims id) ≤
      owners depot.descriptors.store id) :
    sane (depot.answer call).2.descriptors.store ∧ ∀ id,
      (depot.answer call).2.slots.mapped id +
          (others id + (account.after call (depot.answer call).1).claims id) ≤
        owners (depot.answer call).2.descriptors.store id := by
  cases call with
  | descriptor call =>
    obtain ⟨safe', counted⟩ := depot.descriptors.counted_answer counts safe call
    refine ⟨safe', fun id => ?_⟩
    have before := covers id
    have change := counted id
    have claimed := Account.claims_descriptor_le (DescriptorStore.answer depot.descriptors call).1
      permits id
    show depot.slots.mapped id + (others id +
        (account.after (.descriptor call)
          (DescriptorStore.answer depot.descriptors call).1).claims id) ≤
      owners (DescriptorStore.answer depot.descriptors call).2.1.store id
    omega
  | slots call =>
    refine ⟨safe, fun id => ?_⟩
    have before := covers id
    have mapped := depot.slots.mapped_answer id call
    have claimed := Account.claims_slots (depot.slots.answer call).1 permits id
    show (depot.slots.answer call).2.mapped id +
        (others id + (account.after (.slots call) (depot.slots.answer call).1).claims id) ≤
      owners depot.descriptors.store id
    omega
  | _ => exact ⟨safe, covers⟩

/-- Every turn leaves the keys covered. -/
theorem preserved_covered (counts : CountsOwners sane owners) :
    Team.Preserved recording (fun _ : CacheCall Source => {})
      fun (depot : Depot β (FlakyDescriptors δ)) _ accounts =>
        Covered sane owners depot accounts where
  answered := by
    intro depot log front account back call follows reply depot' covered agreed attempted
    obtain ⟨permits, next⟩ := agreed
    refine ⟨_, next reply trivial, ?_⟩
    rcases Depot.answered_cases attempted with ⟨transfer, rfl⟩ | ⟨-, answered⟩
    · have step := depot.attempt_put transfer
      rw [attempted] at step
      obtain ⟨descriptors, slots⟩ := step
      exact ⟨descriptors ▸ covered.safe, by rw [descriptors, slots]; exact covered.covers⟩
    · have kept := covers_answer counts covered.safe permits
        (fun id => holders (front ++ back) id + pending (front ++ back) id) fun id => by
          have covers := covered.covers id
          rwa [standing_middle] at covers
      rw [answered] at kept
      refine ⟨kept.1, fun id => ?_⟩
      rw [standing_middle]
      exact kept.2 id
  ongoing := by
    intro depot log front account back call follows rest answer depot' covered agreed attempted
    obtain ⟨transfer, rfl⟩ := Depot.put_of_ongoing attempted
    have step := depot.attempt_put transfer
    rw [attempted] at step
    obtain ⟨⟨transfer', rfl⟩, descriptors, slots⟩ := step
    refine ⟨account, ⟨trivial, fun reply _ => agreed.2 (answer reply) trivial⟩, ?_⟩
    exact ⟨descriptors ▸ covered.safe, by rw [descriptors, slots]; exact covered.covers⟩
  start := by
    intro depot log accounts task covered
    refine ⟨covered.safe, fun id => ?_⟩
    have covers := covered.covers id
    simpa [holders, pending] using covers
  clock := fun _ covered => ⟨covered.safe, covered.covers⟩

/-- Operations of a cache take turns, and calls to the descriptors may fail. At all times, content
has an owner for every key that maps to it. -/
theorem ContentCache.covered_play (counts : CountsOwners sane owners) (cache : ContentCache)
    (depot : Depot β (FlakyDescriptors δ)) (unused : depot.slots = .empty)
    (safe : sane depot.descriptors.store) (turns : List (Team.Turn (CacheCall Source))) :
    sane (Team.play cache.answer ⟨depot, [], []⟩ turns).depot.descriptors.store ∧
      ∀ id, (Team.play cache.answer ⟨depot, [], []⟩ turns).depot.slots.mapped id ≤
        owners (Team.play cache.answer ⟨depot, [], []⟩ turns).depot.descriptors.store id := by
  have vacant : Covered sane owners depot [] := by
    refine ⟨safe, fun id => ?_⟩
    rw [unused]
    exact Nat.zero_le _
  obtain ⟨accounts, -, covered⟩ := Team.exists_accords (preserved_covered counts) depot turns
    (fun call _ => cache.records_answer call) vacant
  exact ⟨covered.safe, fun id => Nat.le_trans (Nat.le_add_right _ _) (covered.covers id)⟩

end Turns

end AssetCache
