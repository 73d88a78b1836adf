import AssetCache.Proofs.Cache.Accounts

/-!
# Every owner of content is accounted for

Operations of a content cache run side by side, in any turns. At all times, the owners of some
content are the keys that map to it, the puts that have stored it and not yet published it, and the
references to it that some operation was handed and has not yet given back. In particular, when no
operation is under way, content has as many owners as there are keys that map to it.

Any blob store may lie below the cache, whatever it does, and any store of descriptors that counts
owners.
-/

namespace AssetCache

variable {κ β δ : Type} {account : Account}

/-! ### Every answer keeps the balance -/

section Answers

variable [BlobStore β] [DescriptorStore δ] {sane : δ → Prop} {owners : δ → ContentId → Nat}
  {depot : Depot β δ}

/-- An answer changes the owners of content by as much as it changes what stands for them. -/
lemma balanced_answer (counts : CountsOwners sane owners) (safe : sane depot.descriptors)
    {call : Call} (permits : account.Permits call) (gives : call.Gives (depot.answer call).1)
    (id : ContentId) :
    owners (depot.answer call).2.descriptors id + depot.slots.mapped id + account.claims id =
      owners depot.descriptors id + (depot.answer call).2.slots.mapped id +
        (account.after call (depot.answer call).1).claims id := by
  cases call with
  | descriptor call =>
    have counted := counts.counted depot.descriptors call id safe
    have claimed := Account.claims_descriptor permits gives id
    have same : (depot.answer (.descriptor call)).2.slots = depot.slots := rfl
    have there : (depot.answer (.descriptor call)).2.descriptors =
      (DescriptorStore.answer depot.descriptors call).2.1 := rfl
    have reply : (depot.answer (.descriptor call)).1 =
      (DescriptorStore.answer depot.descriptors call).1 := rfl
    rw [reply] at claimed ⊢
    rw [same, there]
    omega
  | slots call =>
    have mapped := depot.slots.mapped_answer id call
    have claimed := Account.claims_slots (depot.slots.answer call).1 permits id
    show owners depot.descriptors id + depot.slots.mapped id + account.claims id =
      owners depot.descriptors id + (depot.slots.answer call).2.mapped id +
        (account.after (.slots call) (depot.slots.answer call).1).claims id
    omega
  | _ => rfl

lemma sane_answer (counts : CountsOwners sane owners) (safe : sane depot.descriptors)
    (call : Call) : sane (depot.answer call).2.descriptors := by
  cases call with
  | descriptor call => exact counts.preserved depot.descriptors call safe
  | _ => exact safe

/-- An operation gives back only what it owes, so that its reference is there. -/
lemma gives_answer (counts : CountsOwners sane owners) (safe : sane depot.descriptors)
    {call : Call} (permits : account.Permits call)
    (backed : ∀ id, account.claims id ≤ owners depot.descriptors id) :
    call.Gives (depot.answer call).1 := by
  cases call with
  | descriptor call =>
    cases call with
    | delete id =>
      have owed : 0 < account.owed.count id := List.count_pos_iff.2 permits
      have claimed : account.owed.count id ≤ account.claims id := Nat.le_add_left _ _
      have present : 0 < owners depot.descriptors id :=
        Nat.lt_of_lt_of_le owed (Nat.le_trans claimed (backed id))
      obtain ⟨outcome, answered, there⟩ := counts.deleted depot.descriptors id safe present
      show Call.Gives (.descriptor (.delete id))
        (DescriptorStore.answer depot.descriptors (.delete id)).1
      rw [answered]
      exact there
    | _ => trivial
  | _ => trivial

end Answers

/-! ### Every turn keeps the balance -/

section Balance

variable {sane : δ → Prop} {owners : δ → ContentId → Nat} {depot depot' : Depot β δ}

/-- The number of operations that hold some content, stored and not yet published. -/
def holders (accounts : List Account) (id : ContentId) : Nat :=
  accounts.countP fun account => account.held = some id

/-- The number of references to some content that were handed out and not yet given back. -/
def pending (accounts : List Account) (id : ContentId) : Nat :=
  (accounts.flatMap Account.owed).count id

lemma standing_middle (front back : List Account) (account : Account) (id : ContentId) :
    holders (front ++ account :: back) id + pending (front ++ account :: back) id =
      holders (front ++ back) id + pending (front ++ back) id + account.claims id := by
  simp only [holders, pending, Account.claims, count_toList, List.countP_append, List.countP_cons,
    List.flatMap_append, List.flatMap_cons, List.count_append, decide_eq_true_eq]
  omega

/-- The owners of content are the keys that map to it and what the operations hold or owe, and the
log says what that is. -/
structure Balanced (sane : δ → Prop) (owners : δ → ContentId → Nat) (depot : Depot β δ)
    (log : List Answered) (accounts : List Account) : Prop where
  safe : sane depot.descriptors
  counted (id : ContentId) : owners depot.descriptors id =
    depot.slots.mapped id + (holders accounts id + pending accounts id)
  logged (member : Nat) (account : Account) :
    accounts[member]? = some account → Account.ofLog log member = account
  member_lt (answered : Answered) : answered ∈ log → answered.member < accounts.length

lemma ofLog_concat (log : List Answered) (answered : Answered) (member : Nat) :
    Account.ofLog (log ++ [answered]) member =
      if answered.member = member then
        (Account.ofLog log member).after answered.call answered.answer
      else Account.ofLog log member := by
  simp only [Account.ofLog, List.filter_append, List.foldl_append, List.filter_singleton]
  split
  · simp [*]
  · simp [*]

lemma balanced_vacant (unused : depot.slots = .empty) (safe : sane depot.descriptors)
    (nobody : ∀ id, owners depot.descriptors id = 0) : Balanced sane owners depot [] [] := by
  refine ⟨safe, ?_, ?_, ?_⟩
  · intro id
    rw [nobody, unused]
    rfl
  · intro member account found
    simp at found
  · intro answered inside
    simp at inside

/-- A call was answered to a member: its own account changes, and the depot accordingly. -/
lemma Balanced.concat {log : List Answered} {front back : List Account} {call : Call}
    {reply : call.Answer} (balanced : Balanced sane owners depot log (front ++ account :: back))
    (safe : sane depot'.descriptors)
    (changed : ∀ id,
      owners depot'.descriptors id + depot.slots.mapped id + account.claims id =
        owners depot.descriptors id + depot'.slots.mapped id +
          (account.after call reply).claims id) :
    Balanced sane owners depot' (log ++ [⟨front.length, call, reply⟩])
      (front ++ account.after call reply :: back) := by
  refine ⟨safe, ?_, ?_, ?_⟩
  · intro id
    have before := balanced.counted id
    have change := changed id
    rw [standing_middle] at before ⊢
    omega
  · intro member held found
    have set : front ++ account.after call reply :: back =
        (front ++ account :: back).set front.length (account.after call reply) := by simp
    rw [set, List.getElem?_set] at found
    rw [ofLog_concat]
    by_cases own : front.length = member
    · subst own
      have old := balanced.logged front.length account (by simp)
      simp at found
      simp [old, found]
    · rw [if_neg own] at found ⊢
      exact balanced.logged member held found
  · intro answered inside
    rcases List.mem_append.1 inside with inside | inside
    · simpa using balanced.member_lt answered inside
    · simp [List.mem_singleton.1 inside]

/-- An operation that begins has taken nothing on. -/
lemma Balanced.start {log : List Answered} {accounts : List Account}
    (balanced : Balanced sane owners depot log accounts) :
    Balanced sane owners depot log (accounts ++ [({} : Account)]) := by
  refine ⟨balanced.safe, ?_, ?_, ?_⟩
  · intro id
    rw [balanced.counted id]
    simp [holders, pending]
  · intro member account found
    rcases Nat.lt_trichotomy member accounts.length with before | same | beyond
    · rw [List.getElem?_append_left before] at found
      exact balanced.logged member account found
    · -- The log has nothing of a member that has only just begun.
      have nobody : log.filter (fun answered => answered.member = member) = [] := by
        rw [List.filter_eq_nil_iff]
        intro answered inside
        have := balanced.member_lt answered inside
        simp
        omega
      subst same
      simp at found
      rw [Account.ofLog, nobody, ← found]
      rfl
    · rw [List.getElem?_eq_none (by simp; omega)] at found
      contradiction
  · intro answered inside
    have := balanced.member_lt answered inside
    simp
    omega

end Balance

section Turns

variable [BlobStore β] [DescriptorStore δ] {sane : δ → Prop} {owners : δ → ContentId → Nat}
  {depot depot' : Depot β δ}

/-- A call that is answered gives back what it has to, and changes the owners of content by as much
as what stands for them. -/
lemma balanced_attempt (counts : CountsOwners sane owners) (safe : sane depot.descriptors)
    {call : Call} {reply : call.Answer} (permits : account.Permits call)
    (backed : ∀ id, account.claims id ≤ owners depot.descriptors id)
    (attempted : depot.attempt call = .answered reply depot') :
    call.Gives reply ∧ sane depot'.descriptors ∧ ∀ id,
      owners depot'.descriptors id + depot.slots.mapped id + account.claims id =
        owners depot.descriptors id + depot'.slots.mapped id +
          (account.after call reply).claims id := by
  rcases Depot.answered_cases attempted with ⟨transfer, rfl⟩ | ⟨-, answered⟩
  · have step := depot.attempt_put transfer
    rw [attempted] at step
    obtain ⟨descriptors, slots⟩ := step
    rw [descriptors, slots]
    exact ⟨trivial, safe, fun _ => rfl⟩
  · have gives := gives_answer counts safe permits backed
    have kept := sane_answer counts safe call
    have changed := balanced_answer counts safe permits gives
    rw [answered] at gives kept changed
    exact ⟨gives, kept, changed⟩

/-- Every turn keeps the balance. -/
theorem preserved_balanced (counts : CountsOwners sane owners) :
    Team.Preserved bookkeeping (fun _ : CacheCall Source => {})
      (Balanced (β := β) sane owners) where
  answered := by
    intro depot log front account back call follows reply depot' balanced agreed attempted
    obtain ⟨permits, next⟩ := agreed
    -- What a member holds or owes has an owner, so that giving a reference back finds one.
    have backed (id : ContentId) : account.claims id ≤ owners depot.descriptors id := by
      have counted := balanced.counted id
      rw [standing_middle] at counted
      omega
    obtain ⟨gives, safe, changed⟩ := balanced_attempt counts balanced.safe permits backed attempted
    exact ⟨_, next reply gives, balanced.concat safe changed⟩
  ongoing := by
    intro depot log front account back call follows rest answer depot' balanced agreed attempted
    obtain ⟨transfer, rfl⟩ := Depot.put_of_ongoing attempted
    have step := depot.attempt_put transfer
    rw [attempted] at step
    obtain ⟨⟨transfer', rfl⟩, descriptors, slots⟩ := step
    refine ⟨account, ⟨trivial, fun reply _ => agreed.2 (answer reply) trivial⟩, ?_⟩
    refine ⟨descriptors ▸ balanced.safe, ?_, balanced.logged, balanced.member_lt⟩
    rw [descriptors, slots]
    exact balanced.counted
  start := fun _ balanced => balanced.start
  clock := fun _ balanced => ⟨balanced.safe, balanced.counted, balanced.logged, balanced.member_lt⟩

end Turns

/-! ### Whole runs -/

section Runs

variable [BlobStore β] [DescriptorStore δ] {Result : κ → Type}

/-- The accounts of all members. -/
def Team.accounts (team : Team Result β δ) : List Account :=
  (List.range team.members.length).map (Account.ofLog team.log)

/-- Every owner of content is accounted for. -/
structure Conserves (owners : δ → ContentId → Nat) (team : Team Result β δ) : Prop where
  counted (id : ContentId) : owners team.depot.descriptors id =
    team.depot.slots.mapped id + holders team.accounts id + pending team.accounts id
  settled (id : ContentId) : team.IsAtRest →
    owners team.depot.descriptors id = team.depot.slots.mapped id
  absent (id : ContentId) : team.IsAtRest → team.depot.slots.mapped id = 0 →
    (DescriptorStore.answer team.depot.descriptors (.contains id)).1 = .ok false

namespace ContentCache

/-- Operations of a cache that nobody else uses the store of take turns. At all times, every owner
of content is a key that maps to it, a put that has stored it, or a reference to be given back. -/
theorem references_conserved {sane : δ → Prop} {owners : δ → ContentId → Nat}
    (counts : CountsOwners sane owners) (cache : ContentCache) (depot : Depot β δ)
    (unused : depot.slots = .empty) (safe : sane depot.descriptors)
    (nobody : ∀ id, owners depot.descriptors id = 0) (turns : List (Team.Turn (CacheCall Source))) :
    Conserves owners (Team.play cache.answer ⟨depot, [], []⟩ turns) := by
  have vacant : Balanced sane owners depot [] [] := balanced_vacant unused safe nobody
  obtain ⟨accounts, accords, balanced⟩ := Team.exists_accords (preserved_balanced counts) depot
    turns (fun call _ => cache.books_answer call) vacant
  generalize Team.play cache.answer ⟨depot, [], []⟩ turns = team at accords balanced ⊢
  have same : team.accounts = accounts := by
    apply List.ext_getElem
    · simpa [Team.accounts] using accords.length_eq
    · intro member _ inside
      simpa [Team.accounts] using
        balanced.logged member accounts[member] (List.getElem?_eq_getElem inside)
  have counted (id : ContentId) : owners team.depot.descriptors id =
      team.depot.slots.mapped id + holders team.accounts id + pending team.accounts id := by
    rw [balanced.counted, same, Nat.add_assoc]
  have settled (id : ContentId) (rest : team.IsAtRest) :
      owners team.depot.descriptors id = team.depot.slots.mapped id := by
    have ended := (accords.settled rest).flip
    have empty (account : Account) (inside : account ∈ accounts) : account = {} := by
      obtain ⟨member, -, result, -, passed⟩ := Team.exists_of_forall₂ ended inside
      exact passed
    rw [balanced.counted, List.eq_replicate_of_mem empty]
    simp [holders, pending, List.flatMap_replicate]
  refine ⟨counted, settled, ?_⟩
  intro id rest unmapped
  rw [counts.contains _ id balanced.safe, settled id rest, unmapped]
  rfl

/-- Equal content comes in under two keys. In the end one key maps to it, an earlier put of the
other key holds it, and a reference was handed out when that key was dropped. -/
theorem references_conserved_dropped :
    Conserves MemoryDescriptors.owners
      (Team.play (answer {}) ⟨MemoryDepot.vacant ⟨0, 0⟩, [], []⟩
        (.start (.put "a" (.ofBytes [120]) none) :: .start (.put "b" (.ofBytes [120]) none) ::
          .start (.put "b" (.ofBytes [120]) none) ::
          (List.replicate 16 (.advance 0) ++ List.replicate 16 (.advance 2) ++
            List.replicate 10 (.advance 1) ++ [.start (.invalidate "b"), .advance 3]))) := by
  refine references_conserved MemoryDescriptors.counts_owners {} _ rfl ?_ ?_ _
  · intro id holding found
    contradiction
  · intro id
    rfl

end ContentCache

end Runs

end AssetCache
