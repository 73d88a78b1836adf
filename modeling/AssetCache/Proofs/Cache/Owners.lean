import AssetCache.Proofs.Content.Ledger

/-!
# Stores that count owners

What a cache relies on in a store of descriptors: the answers say truly which owners came and went.
A table of descriptors in memory is such a store (`MemoryDescriptors.counts_owners`).
-/

namespace AssetCache

namespace DescriptorCall

/-- The owners that come with a call. -/
def gained : (call : DescriptorCall) → call.Answer → List ContentId
  | create id _, .ok _ => [id]
  | duplicate id, .ok _ => [id]
  | _, _ => []

/-- The owners that go with a call. -/
def lost : (call : DescriptorCall) → call.Answer → List ContentId
  | delete _, .ok .missing => []
  | delete id, .ok _ => [id]
  | _, _ => []

end DescriptorCall

/-- A store counts the owners of content: its answers say truly who came and who went, and taking an
owner away does not fail where there is one. -/
structure CountsOwners {δ : Type} [DescriptorStore δ] (sane : δ → Prop)
    (owners : δ → ContentId → Nat) : Prop where
  preserved (store : δ) (call : DescriptorCall) :
    sane store → sane (DescriptorStore.answer store call).2.1
  counted (store : δ) (call : DescriptorCall) (id : ContentId) : sane store →
    owners (DescriptorStore.answer store call).2.1 id +
        (call.lost (DescriptorStore.answer store call).1).count id =
      owners store id + (call.gained (DescriptorStore.answer store call).1).count id
  deleted (store : δ) (id : ContentId) : sane store → 0 < owners store id →
    ∃ outcome, (DescriptorStore.answer store (.delete id)).1 = .ok outcome ∧ outcome ≠ .missing
  contains (store : δ) (id : ContentId) : sane store →
    (DescriptorStore.answer store (.contains id)).1 = .ok (decide (0 < owners store id))

namespace MemoryDescriptors

/-- Whatever is there has an owner. -/
def Owned (descriptors : MemoryDescriptors) : Prop :=
  ∀ id holding, descriptors.get? id = some holding → 0 < holding.owners

variable {descriptors : MemoryDescriptors} {id : ContentId} {holding : Holding}

lemma Owned.insert (owned : Owned descriptors) (positive : 0 < holding.owners) :
    Owned (Table.insert descriptors id holding) := by
  intro other held found
  rw [Table.get?_insert] at found
  split at found
  · obtain rfl := Option.some.inj found
    exact positive
  · exact owned other held found

lemma Owned.erase (owned : Owned descriptors) : Owned (Table.erase descriptors id) := by
  intro other held found
  rw [Table.get?_erase] at found
  split at found
  · contradiction
  · exact owned other held found

lemma owners_pos_iff (owned : Owned descriptors) :
    0 < descriptors.owners id ↔ Table.contains descriptors id = true := by
  cases found : Table.get? descriptors id with
  | none => simp [owners_of_absent found, Table.contains, found]
  | some holding =>
    simp [owners_of_present found, Table.contains, found, owned id holding found]

lemma owners_insert_more (more : holding.owners = descriptors.owners id + 1) (other : ContentId) :
    owners (Table.insert descriptors id holding) other =
      descriptors.owners other + [id].count other := by
  rw [owners_insert, List.count_singleton, more]
  by_cases same : other = id
  · simp [same]
  · simp [same, Ne.symm same]

lemma owners_insert_less (less : holding.owners + 1 = descriptors.owners id) (other : ContentId) :
    owners (Table.insert descriptors id holding) other + [id].count other =
      descriptors.owners other := by
  rw [owners_insert, List.count_singleton]
  by_cases same : other = id
  · simp [same, less]
  · simp [same, Ne.symm same]

lemma owners_erase_last (last : descriptors.owners id = 1) (other : ContentId) :
    owners (Table.erase descriptors id) other + [id].count other = descriptors.owners other := by
  rw [owners_erase, List.count_singleton]
  by_cases same : other = id
  · simp [same, last]
  · simp [same, Ne.symm same]

/-- What an answer of a table of descriptors does to the owners. -/
lemma counted_answer (owned : Owned descriptors) (call : DescriptorCall) :
    Owned (DescriptorStore.answer descriptors call).2.1 ∧ ∀ other,
      owners (DescriptorStore.answer descriptors call).2.1 other +
          (call.lost (DescriptorStore.answer descriptors call).1).count other =
        owners descriptors other +
          (call.gained (DescriptorStore.answer descriptors call).1).count other := by
  cases call with
  | create id record =>
    have answered : DescriptorStore.answer descriptors (.create id record) =
        ((create descriptors id record).1, (create descriptors id record).2, none) := rfl
    rw [answered, create_eq]
    refine ⟨owned.insert ?_, owners_insert_more ?_⟩
    · cases Table.get? descriptors id with
      | none => exact Nat.one_pos
      | some holding => exact Nat.succ_pos _
    · cases found : Table.get? descriptors id with
      | none => simp [owners_of_absent found]
      | some holding => simp [owners_of_present found]
  | duplicate id =>
    have answered : DescriptorStore.answer descriptors (.duplicate id) =
        ((duplicate descriptors id).1, (duplicate descriptors id).2, none) := rfl
    rw [answered]
    cases found : Table.get? descriptors id with
    | none =>
      rw [duplicate_of_absent found]
      exact ⟨owned, fun _ => rfl⟩
    | some holding =>
      rw [duplicate_of_present found]
      refine ⟨owned.insert (Nat.succ_pos _), owners_insert_more ?_⟩
      rw [owners_of_present found]
  | delete id =>
    have answered : DescriptorStore.answer descriptors (.delete id) =
        ((delete descriptors id).1, (delete descriptors id).2, none) := rfl
    rw [answered]
    cases found : Table.get? descriptors id with
    | none =>
      rw [delete_of_absent found]
      exact ⟨owned, fun _ => rfl⟩
    | some holding =>
      have positive := owned id holding found
      have held := owners_of_present found
      rcases Nat.lt_or_ge 1 holding.owners with shared | last
      · rw [delete_of_shared found shared]
        refine ⟨owned.insert (Nat.sub_pos_of_lt shared), owners_insert_less ?_⟩
        simp only
        omega
      · rw [delete_of_last found last]
        refine ⟨owned.erase, owners_erase_last ?_⟩
        omega
  | read id => exact ⟨owned, fun _ => rfl⟩
  | contains id => exact ⟨owned, fun _ => rfl⟩

/-- A table of descriptors counts owners. -/
theorem counts_owners : CountsOwners Owned owners where
  preserved := fun _ call owned => (counted_answer owned call).1
  counted := fun _ call other owned => (counted_answer owned call).2 other
  deleted := by
    intro descriptors id owned present
    show ∃ outcome, (delete descriptors id).1 = .ok outcome ∧ outcome ≠ .missing
    cases found : Table.get? descriptors id with
    | none =>
      rw [owners_of_absent found] at present
      contradiction
    | some holding =>
      rcases Nat.lt_or_ge 1 holding.owners with shared | last
      · rw [delete_of_shared found shared]
        exact ⟨_, rfl, nofun⟩
      · rw [delete_of_last found last]
        exact ⟨_, rfl, nofun⟩
  contains := by
    intro descriptors id owned
    show Except.ok (Table.contains descriptors id) = _
    simp [owners_pos_iff owned]

end MemoryDescriptors

end AssetCache
