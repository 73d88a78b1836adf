import AssetCache.Proofs.Content.Steps
import AssetCache.Proofs.Crew

/-!
# Operations side by side

Operations of a content store that work side by side on a depot in memory, where every call is
answered at once and no call fails. Each of them is in a stage of its own, and the stages together
are consistent with the depot: no two operations hold the same token, staged bytes lie under their
keys, and blobs lie under their hashes.
-/

namespace AssetCache

namespace ContentStore

variable {store : ContentStore} {admits : Source → Prop} {supply : Nat} {call : Call}
  {contents contents' : Contents} {stage stage' : Stage} {token : Token} {bytes : Bytes}
  {id : ContentId}

/-! ### What a step does not do -/

namespace Step

/-- Tokens come from the supply. -/
lemma token?_eq (step : Step store admits supply call contents stage contents' stage')
    (has : stage'.token? = some token) :
    stage.token? = some token ∨ call = .token ∧ token = ⟨supply⟩ := by
  cases step with
  | leave contents leaves =>
    cases leaves with
    | _ => first | exact Or.inl has | contradiction
  | issue =>
    obtain rfl := Option.some.inj has
    exact Or.inr ⟨rfl, rfl⟩
  | unstage token blobs descriptors unregistered =>
    rcases unregistered with rfl | ⟨bytes, rfl⟩
    · exact Or.inl has
    · exact Or.inl has
  | _ => first | exact Or.inl has | contradiction

/-- What a step may do to the blob under a key. -/
lemma blob_cases (step : Step store admits supply call contents stage contents' stage')
    (apart : store.layout.Apart) (key : String) :
    contents'.blobs.get? key = contents.blobs.get? key ∨
    (∃ token, stage.token? = some token ∧ key = store.stagingKey token) ∨
    (∃ token taken found, stage = .staged token taken ∧ key = store.objectKey (.ofBytes taken) ∧
      call = .blob (.rename (store.stagingKey token) key) ∧
      contents.blobs.get? (store.stagingKey token) = some found ∧
      contents'.blobs.get? key = some found) ∨
    (call = .blob (.delete key) ∧ (∃ id, key = store.objectKey id) ∧
      contents'.blobs.get? key = none) := by
  cases step with
  | take transfer token blobs descriptors admitted accepted =>
    by_cases same : key = store.stagingKey token
    · exact Or.inr (Or.inl ⟨token, rfl, same⟩)
    · exact Or.inl (by rw [Table.get?_insert, if_neg same])
  | unstage token blobs descriptors unregistered =>
    by_cases same : key = store.stagingKey token
    · refine Or.inr (Or.inl ⟨token, ?_, same⟩)
      rcases unregistered with rfl | ⟨bytes, rfl⟩
      · rfl
      · rfl
    · exact Or.inl (by rw [Table.get?_erase, if_neg same])
  | unshare token id owners blobs descriptors =>
    by_cases same : key = store.stagingKey token
    · exact Or.inr (Or.inl ⟨token, rfl, same⟩)
    · exact Or.inl (by rw [Table.get?_erase, if_neg same])
  | promote token taken descriptors staged moved =>
    by_cases target : key = store.objectKey (.ofBytes taken)
    · refine Or.inr (Or.inr (Or.inl ⟨token, taken, _, rfl, target, by rw [target], staged, ?_⟩))
      rw [moved apart, if_pos target]
    · by_cases same : key = store.stagingKey token
      · exact Or.inr (Or.inl ⟨token, rfl, same⟩)
      · exact Or.inl (by rw [moved apart, if_neg target, if_neg same])
  | copy token taken descriptors staged =>
    by_cases target : key = store.objectKey (.ofBytes taken)
    · refine Or.inr (Or.inr (Or.inl ⟨token, taken, _, rfl, target, by rw [target], staged, ?_⟩))
      rw [Table.get?_insert, if_pos target]
    · exact Or.inl (by rw [Table.get?_insert, if_neg target])
  | discard token id blobs descriptors =>
    by_cases same : key = store.objectKey id
    · obtain rfl := same
      exact Or.inr (Or.inr (Or.inr ⟨rfl, ⟨id, rfl⟩, Table.get?_erase_self _ _⟩))
    · exact Or.inl (by rw [Table.get?_erase, if_neg same])
  | remove id blobs descriptors =>
    by_cases same : key = store.objectKey id
    · obtain rfl := same
      exact Or.inr (Or.inr (Or.inr ⟨rfl, ⟨id, rfl⟩, Table.get?_erase_self _ _⟩))
    · exact Or.inl (by rw [Table.get?_erase, if_neg same])
  | _ => exact Or.inl rfl

/-- What a step may do to the blob of some content. -/
lemma object_cases (step : Step store admits supply call contents stage contents' stage')
    (apart : store.layout.Apart) (id : ContentId) :
    contents'.blobs.get? (store.objectKey id) = contents.blobs.get? (store.objectKey id) ∨
    (∃ token taken found, stage = .staged token taken ∧ id = .ofBytes taken ∧
      call = .blob (.rename (store.stagingKey token) (store.objectKey id)) ∧
      contents.blobs.get? (store.stagingKey token) = some found ∧
      contents'.blobs.get? (store.objectKey id) = some found) ∨
    (call = .blob (.delete (store.objectKey id)) ∧
      contents'.blobs.get? (store.objectKey id) = none) := by
  rcases step.blob_cases apart (store.objectKey id) with
    same | ⟨token, -, key⟩ | ⟨token, taken, found, staged, key, moved⟩ | ⟨deleted, -, gone⟩
  · exact Or.inl same
  · exact absurd key (objectKey_ne_stagingKey apart id token)
  · exact Or.inr (Or.inl ⟨token, taken, found, staged, apart.object key, moved⟩)
  · exact Or.inr (Or.inr ⟨deleted, gone⟩)

/-- The staged bytes of other operations stay as they are. -/
lemma staging_eq (step : Step store admits supply call contents stage contents' stage')
    (apart : store.layout.Apart) (foreign : stage.token? ≠ some token) :
    contents'.blobs.get? (store.stagingKey token) =
      contents.blobs.get? (store.stagingKey token) := by
  rcases step.blob_cases apart (store.stagingKey token) with
    same | ⟨other, has, key⟩ | ⟨-, taken, -, -, key, -⟩ | ⟨-, ⟨id, key⟩, -⟩
  · exact same
  · obtain rfl : token = other := apart.staging key
    contradiction
  · exact absurd key.symm (objectKey_ne_stagingKey apart _ token)
  · exact absurd key.symm (objectKey_ne_stagingKey apart id token)

lemma staged (step : Step store admits supply call contents stage contents' stage')
    (apart : store.layout.Apart)
    (before : ∀ token bytes, stage = .staged token bytes →
      contents.blobs.get? (store.stagingKey token) = some bytes)
    (is : stage' = .staged token bytes) :
    contents'.blobs.get? (store.stagingKey token) = some bytes := by
  cases step with
  | pass => exact before token bytes is
  | leave contents leaves =>
    subst is
    cases leaves
  | take transfer other blobs descriptors admitted accepted =>
    cases is
    exact Table.get?_insert_self _ _ _
  | copy other taken descriptors staged =>
    cases is
    rw [Table.get?_insert, if_neg (objectKey_ne_stagingKey apart _ token).symm]
    exact before token bytes rfl
  | _ => contradiction

/-- Content is registered only by a call to that effect. -/
lemma registered (step : Step store admits supply call contents stage contents' stage')
    (present : id ∈ contents'.descriptors.keys) :
    id ∈ contents.descriptors.keys ∨ ∃ record, call = .descriptor (.create id record) := by
  rw [Table.mem_keys_iff] at present ⊢
  obtain ⟨holding, found⟩ := present
  cases step with
  | share token bytes blobs duplicated =>
    obtain ⟨held, there, -⟩ :=
      MemoryDescriptors.descriptor_of_duplicate duplicated id holding found
    exact Or.inl ⟨held, there⟩
  | join blobs duplicated =>
    obtain ⟨held, there, -⟩ :=
      MemoryDescriptors.descriptor_of_duplicate duplicated id holding found
    exact Or.inl ⟨held, there⟩
  | register token bytes blobs created =>
    rw [MemoryDescriptors.create_eq] at created
    obtain ⟨-, rfl⟩ := Prod.mk.inj created
    rw [Table.get?_insert] at found
    split at found
    · next same =>
      obtain rfl := same
      exact Or.inr ⟨_, rfl⟩
    · exact Or.inl ⟨holding, found⟩
  | release blobs deleted =>
    obtain ⟨held, there, -⟩ := MemoryDescriptors.descriptor_of_delete deleted id holding found
    exact Or.inl ⟨held, there⟩
  | empty emptied blobs descriptors =>
    rw [Table.get?_erase] at found
    split at found
    · contradiction
    · exact Or.inl ⟨holding, found⟩
  | _ => exact Or.inl ⟨holding, found⟩

/-- Bytes become the blob of their content only where they are moved. -/
lemma promoted (step : Step store admits supply call contents stage contents' stage')
    (is : stage' = .promoted token bytes) :
    stage = .promoted token bytes ∨
      call = .blob (.rename (store.stagingKey token) (store.objectKey (.ofBytes bytes))) := by
  cases step with
  | pass => exact Or.inl is
  | leave contents leaves =>
    subst is
    cases leaves
  | promote =>
    cases is
    exact Or.inr rfl
  | _ => contradiction

end Step

/-! ### Operations that work side by side -/

/-- Operations of a content store at work on one depot in memory. -/
abbrev ContentCrew := Crew Call Call.Answer ContentCall.Answer MemoryDepot

/-- The operations and the depot after some moves, from a depot in which nothing was stored yet.
Every call is answered at once. -/
def crewAfter (store : ContentStore) (now : Instant) (moves : List (Move ContentCall)) :
    ContentCrew :=
  Crew.play store.answer Depot.answer ⟨.vacant now, []⟩ moves

/-- Every operation keeps to the agreement from the stage that it is in. -/
abbrev InStep (store : ContentStore) (stages : Nat → Stage) (crew : ContentCrew) : Prop :=
  Crew.Accords (store.agreement fun _ => True) Concludes .idle stages crew

lemma crewAfter_concat (now : Instant) (moves : List (Move ContentCall))
    (move : Move ContentCall) :
    store.crewAfter now (moves ++ [move]) =
      (store.crewAfter now moves).move store.answer Depot.answer move :=
  Crew.play_concat moves move

/-- Tokens are issued once, staged bytes lie under their keys, and blobs lie under their hashes. -/
structure Consistent (store : ContentStore) (depot : MemoryDepot) (stages : Nat → Stage) :
    Prop where
  issued (member : Nat) (token : Token) : (stages member).token? = some token →
    token.number < depot.issued
  distinct (member other : Nat) (token : Token) : (stages member).token? = some token →
    (stages other).token? = some token → member = other
  staged (member : Nat) (token : Token) (bytes : Bytes) : stages member = .staged token bytes →
    depot.contents.blobs.get? (store.stagingKey token) = some bytes
  hashed (id : ContentId) (bytes : Bytes) :
    depot.contents.blobs.get? (store.objectKey id) = some bytes → id = .ofBytes bytes

lemma consistent_vacant (now : Instant) :
    Consistent store (.vacant now) fun _ => .idle := by
  refine ⟨?_, ?_, ?_, ?_⟩
  · intro member token has
    contradiction
  · intro member other token has
    contradiction
  · intro member token bytes is
    contradiction
  · intro id bytes found
    contradiction

lemma issued_le_answer (depot : MemoryDepot) (call : Call) :
    depot.issued ≤ (depot.answer call).2.issued := by
  cases call with
  | token => exact Nat.le_succ _
  | blob call => exact Nat.le_succ _
  | _ => exact Nat.le_refl _

/-- Every step of one operation keeps all of them consistent. -/
lemma Consistent.step {depot depot' : MemoryDepot} {stages : Nat → Stage} {member : Nat}
    (consistent : Consistent store depot stages) (apart : store.layout.Apart)
    (step : Step store admits depot.issued call depot.contents (stages member) depot'.contents
      stage')
    (grows : depot.issued ≤ depot'.issued)
    (issues : call = .token → depot.issued < depot'.issued) :
    Consistent store depot' (Function.update stages member stage') := by
  have others {other : Nat} (different : other ≠ member) :
      Function.update stages member stage' other = stages other :=
    Function.update_of_ne different _ _
  have own : Function.update stages member stage' member = stage' := Function.update_self _ _ _
  -- A token that another operation holds is neither the one of this operation nor a new one.
  have apart' {other : Nat} {token : Token} (different : other ≠ member)
      (has : (stages other).token? = some token) (has' : stage'.token? = some token) : False := by
    rcases step.token?_eq has' with old | ⟨-, rfl⟩
    · exact different (consistent.distinct other member token has old)
    · exact Nat.lt_irrefl _ (consistent.issued other _ has)
  refine ⟨?_, ?_, ?_, ?_⟩
  · intro other token has
    by_cases same : other = member
    · rw [same, own] at has
      rcases step.token?_eq has with old | ⟨issuing, rfl⟩
      · exact Nat.lt_of_lt_of_le (consistent.issued member token old) grows
      · exact issues issuing
    · rw [others same] at has
      exact Nat.lt_of_lt_of_le (consistent.issued other token has) grows
  · intro one other token has has'
    by_cases first : one = member <;> by_cases second : other = member
    · rw [first, second]
    · rw [first, own] at has
      rw [others second] at has'
      exact (apart' second has' has).elim
    · rw [others first] at has
      rw [second, own] at has'
      exact (apart' first has has').elim
    · rw [others first] at has
      rw [others second] at has'
      exact consistent.distinct one other token has has'
  · intro other token bytes is
    by_cases same : other = member
    · rw [same, own] at is
      exact step.staged apart (consistent.staged member) is
    · rw [others same] at is
      have foreign : (stages member).token? ≠ some token := by
        intro has
        exact same (consistent.distinct other member token (by rw [is]; rfl) has)
      rw [step.staging_eq apart foreign]
      exact consistent.staged other token bytes is
  · intro id bytes found
    rcases step.object_cases apart id with
      same | ⟨token, taken, moved, is, named, -, staged, there⟩ | ⟨-, gone⟩
    · exact consistent.hashed id bytes (same ▸ found)
    · rw [consistent.staged member token taken is] at staged
      rw [there, ← staged] at found
      rw [named, Option.some.inj found]
    · rw [gone] at found
      contradiction

/-- In every depot that operations have come to, they are in stages that are consistent with it. -/
lemma exists_consistent (store : ContentStore) (apart : store.layout.Apart) (now : Instant)
    (moves : List (Move ContentCall)) :
    ∃ stages, store.InStep stages (store.crewAfter now moves) ∧
      Consistent store (store.crewAfter now moves).state stages := by
  refine Crew.Accords.play ?_ ?_ (Crew.accords_nil _) (consistent_vacant now) moves
  · intro depot stages member call follows consistent agreed
    obtain ⟨stage, followed, step⟩ := step_answer depot agreed
    refine ⟨stage, followed, consistent.step apart step (issued_le_answer depot call) ?_⟩
    rintro rfl
    exact Nat.lt_succ_self _
  · intro task
    exact keeps_answer task fun _ _ => trivial

/-- A move does nothing to the tables, or it is one step of an operation. -/
lemma move_cases {crew : ContentCrew} {stages : Nat → Stage} (accords : store.InStep stages crew)
    (move : Move ContentCall) :
    MemoryDepot.contents (crew.move store.answer Depot.answer move).state =
        crew.state.contents ∨
      ∃ member call stage', move = .advance member ∧ crew.Asks member call ∧
        Step store (fun _ => True) crew.state.issued call crew.state.contents (stages member)
          (MemoryDepot.contents (crew.move store.answer Depot.answer move).state) stage' := by
  cases move with
  | start task => exact Or.inl rfl
  | advance member =>
    rcases Crew.advance_cases Depot.answer crew member with
      same | ⟨task, call, next, found, moved⟩
    · rw [Crew.move, same]
      exact Or.inl rfl
    · obtain ⟨stage', -, step⟩ := step_answer crew.state (accords.keeps member task _ found)
      rw [Crew.move, moved]
      exact Or.inr ⟨member, call, stage', rfl, ⟨task, next, found⟩, step⟩

end ContentStore

end AssetCache
