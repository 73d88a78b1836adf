import AssetCache.Proofs.Content.Steps

/-!
# Owners are accounted for

An operation that stores content has registered exactly one owner if it succeeds, and none if it
fails, whichever of its calls fail. The number of owners that it answers is the number there is.
-/

namespace AssetCache

variable {before after : MemoryDescriptors} {id : ContentId} {owners : Nat}

/-- Some content has one owner more than before, and nothing else is different. -/
structure MemoryDescriptors.Gains (before : MemoryDescriptors) (id : ContentId) (owners : Nat)
    (after : MemoryDescriptors) : Prop where
  /-- Content that was not there has its first owner. -/
  count : owners = (before.refcount? id).getD 0 + 1
  counted : after.refcount? id = some owners
  /-- The descriptor of the first owner stays. -/
  kept (holding : Holding) : before.get? id = some holding →
    after.get? id = some { holding with owners }
  others (other : ContentId) : other ≠ id → after.get? other = before.get? other

/-- Registering an owner gains one. -/
lemma MemoryDescriptors.gains_of_create {record : Descriptor}
    (created : before.create id record = (.ok owners, after)) : before.Gains id owners after := by
  rw [create_eq] at created
  obtain ⟨counted, rfl⟩ := Prod.mk.inj created
  obtain rfl := Except.ok.inj counted
  constructor
  · cases found : before.get? id with
    | none => simp [refcount?, found]
    | some holding => simp [refcount?, found]
  · cases found : before.get? id with
    | none => simp [refcount?]
    | some holding => simp [refcount?]
  · intro holding found
    simp [found]
  · intro other different
    rw [Table.get?_insert, if_neg different]

namespace ContentStore

variable {store : ContentStore} {admits : Source → Prop}

/-- What the stage of an operation says about the descriptors, given those before it. -/
def Accounts (before : MemoryDescriptors) (contents : Contents) : Stage → Prop
  | .shared _ id owners | .owning id owners =>
    ∃ record, before.create id record = (.ok owners, contents.descriptors)
  | .emptied _ | .released => True
  | _ => contents.descriptors = before

/-- Every step keeps the accounts. -/
lemma Step.accounts {supply : Nat} {call : Call} {contents contents' : Contents}
    {stage stage' : Stage} (step : Step store admits supply call contents stage contents' stage')
    (h : Accounts before contents stage) : Accounts before contents' stage' := by
  cases step with
  | pass => exact h
  | leave contents leaves =>
    cases leaves with
    | emptied id => trivial
    | _ => exact h
  | unstage token blobs descriptors unregistered =>
    rcases unregistered with rfl | ⟨bytes, rfl⟩
    · exact h
    · exact h
  | share token bytes blobs duplicated =>
    obtain rfl : _ = before := h
    exact ⟨store.limits.descriptorOf bytes, MemoryDescriptors.create_of_duplicate duplicated _⟩
  | join blobs duplicated =>
    obtain rfl : _ = before := h
    obtain ⟨holding, -⟩ := MemoryDescriptors.duplicate_eq_ok_iff.1 duplicated
    exact ⟨holding.descriptor, MemoryDescriptors.create_of_duplicate duplicated _⟩
  | register token bytes blobs created =>
    obtain rfl : _ = before := h
    exact ⟨_, created⟩
  | release => trivial
  | empty => trivial
  | remove => trivial
  | _ => exact h

/-- Storing content registers one owner if it succeeds, and none if it fails, whichever calls
fail. -/
theorem create_accounts (way : Renaming) (faulty : FaultyDepot) (source : Source) :
    match faulty.run way (store.create source) with
    | (.ok stored, faulty') =>
      faulty.depot.descriptors.Gains stored.id stored.refcount faulty'.depot.descriptors
    | (.error _, faulty') => faulty'.depot.descriptors = faulty.depot.descriptors := by
  have idle : Accounts faulty.depot.descriptors faulty.contents .idle := rfl
  obtain ⟨stage, concluded, accounts⟩ := holds_at_end store (fun _ => True) way Step.accounts
    (.create source) (fun _ _ => trivial) faulty idle
  rcases ran : faulty.run way (store.create source) with ⟨error | stored, faulty'⟩
  · have ended : faulty.run way (store.answer (.create source)) = (.error error, faulty') := ran
    rw [ended] at concluded accounts
    obtain ⟨token, rfl⟩ := concluded
    exact accounts
  · have ended : faulty.run way (store.answer (.create source)) = (.ok stored, faulty') := ran
    rw [ended] at concluded accounts
    obtain rfl : stage = .owning stored.id stored.refcount := concluded
    obtain ⟨record, created⟩ := accounts
    exact MemoryDescriptors.gains_of_create created

end ContentStore

end AssetCache
