import AssetCache.Proofs.Descriptor.Reopening
import Mathlib.Algebra.Group.Nat.Defs

/-!
# Two backends that answer alike

A table in memory counts owners by natural numbers, a database by signed words in its rows. As long
as no count outgrows a word, each row mirrors what the table holds (`Relation.Mirrors`), whatever
words the sizes in a descriptor are. The rows are there whenever the database is opened, so that
both backends answer any calls alike (`Database.attend_eq_exchanges`).
-/

namespace AssetCache

open DescriptorStore

/-! ### Rows that stand for a number of owners -/

namespace Row

/-- The row of a descriptor with some owners. -/
def ofHolding (holding : Holding) : Row :=
  { ofDescriptor holding.descriptor with refcount := .ofNat holding.owners }

variable {holding : Holding}

lemma descriptor_ofHolding (holding : Holding) :
    (ofHolding holding).descriptor = holding.descriptor :=
  descriptor_ofDescriptor holding.descriptor

lemma owners_ofHolding (small : holding.owners < 2 ^ 63) :
    (ofHolding holding).owners = holding.owners := by
  show (Int64.ofNat holding.owners).toUInt64.toNat = holding.owners
  rw [Int64.toUInt64_ofNat', UInt64.toNat_ofNat', Nat.mod_eq_of_lt (by omega)]

/-- One owner more is one more in the row. -/
lemma ofHolding_add_one (holding : Holding) :
    { ofHolding holding with refcount := (ofHolding holding).refcount + 1 } =
      ofHolding { holding with owners := holding.owners + 1 } := by
  simp [ofHolding, Int64.ofNat_add]

/-- One owner less is one less in the row. -/
lemma ofHolding_sub_one (owned : 0 < holding.owners) :
    { ofHolding holding with refcount := (ofHolding holding).refcount + -1 } =
      ofHolding { holding with owners := holding.owners - 1 } := by
  obtain ⟨descriptor, owners⟩ := holding
  obtain ⟨others, rfl⟩ := Nat.exists_eq_succ_of_ne_zero (Nat.ne_of_gt owned)
  have back : Int64.ofNat (others + 1) + -1 = Int64.ofNat others := by
    rw [Int64.ofNat_add, Int64.add_assoc]
    exact Int64.add_zero _
  simp only [ofHolding, Nat.succ_eq_add_one, Nat.add_sub_cancel, back]

/-- A row has several owners if its count is greater than one. -/
lemma one_lt_refcount_iff (small : holding.owners < 2 ^ 63) :
    1 < (ofHolding holding).refcount ↔ 1 < holding.owners := by
  rw [Int64.lt_iff_toInt_lt, ofHolding, Int64.toInt_ofNat_of_lt small]
  exact Int.ofNat_lt

end Row

/-! ### A table and its rows -/

/-- There are no more owners than there were calls. -/
lemma MemoryDescriptors.owners_le_length {calls : List DescriptorCall} {id : ContentId}
    {owners : Nat} (held : (serve (∅ : MemoryDescriptors) calls).refcount? id = some owners) :
    owners ≤ calls.length := by
  obtain ⟨holding, found, rfl⟩ := Option.map_eq_some_iff.1 held
  rw [get?_serve, Tally.holding?_eq_some_iff] at found
  rw [found.2.1]
  exact Tally.owners_le_length id calls

/-- Each identity has a row if it has a place in the table, and the row says what there is. -/
def Relation.Mirrors (rows : Relation) (descriptors : MemoryDescriptors) : Prop :=
  ∀ id : ContentId, rows.get? id.text = (descriptors.get? id).map Row.ofHolding

/-- Whatever has a place in the table has owners, but not more than a word can count. -/
def MemoryDescriptors.Countable (descriptors : MemoryDescriptors) : Prop :=
  ∀ id holding, descriptors.get? id = some holding → 0 < holding.owners ∧ holding.owners < 2 ^ 63

namespace Relation.Mirrors

variable {rows : Relation} {descriptors : MemoryDescriptors} {id : ContentId} {holding : Holding}

lemma text_eq_iff {id other : ContentId} : id.text = other.text ↔ id = other := by
  cases id
  cases other
  simp only [ContentId.mk.injEq]

lemma absent (mirrors : rows.Mirrors descriptors) (unheld : descriptors.get? id = none) :
    rows.get? id.text = none := by
  rw [mirrors, unheld, Option.map_none]

lemma present (mirrors : rows.Mirrors descriptors) (held : descriptors.get? id = some holding) :
    rows.get? id.text = some (.ofHolding holding) := by
  rw [mirrors, held, Option.map_some]

lemma contains (mirrors : rows.Mirrors descriptors) (id : ContentId) :
    Table.contains rows id.text = Table.contains descriptors id := by
  unfold Table.contains
  rw [mirrors id, Option.isSome_map]

lemma insert (mirrors : rows.Mirrors descriptors) (id : ContentId) (holding : Holding) :
    Mirrors (Table.insert rows id.text (.ofHolding holding))
      (Table.insert descriptors id holding) := by
  intro other
  simp only [Table.get?_insert, text_eq_iff]
  split
  · rfl
  · exact mirrors other

lemma erase (mirrors : rows.Mirrors descriptors) (id : ContentId) :
    Mirrors (Table.erase rows id.text) (Table.erase descriptors id) := by
  intro other
  simp only [Table.get?_erase, text_eq_iff]
  split
  · rfl
  · exact mirrors other

/-- One owner more is counted alike. -/
lemma count_add_one (mirrors : rows.Mirrors descriptors)
    (held : descriptors.get? id = some holding) (small : holding.owners + 1 < 2 ^ 63) :
    rows.count id 1 (fun _ => true) =
      (some (holding.owners + 1),
        Table.insert rows id.text (.ofHolding { holding with owners := holding.owners + 1 })) := by
  have owners : (Row.ofHolding { holding with owners := holding.owners + 1 }).owners =
      holding.owners + 1 := Row.owners_ofHolding small
  simp only [Relation.count, mirrors.present held, Option.filter_some, if_true,
    Row.ofHolding_add_one, owners]

/-- One owner less is counted alike, as long as it is not the last one. -/
lemma count_sub_one (mirrors : rows.Mirrors descriptors)
    (held : descriptors.get? id = some holding) (small : holding.owners < 2 ^ 63) :
    rows.count id (-1) (fun row => 1 < row.refcount) =
      if 1 < holding.owners then
        (some (holding.owners - 1),
          Table.insert rows id.text (.ofHolding { holding with owners := holding.owners - 1 }))
      else (none, rows) := by
  simp only [Relation.count, mirrors.present held, Option.filter_some,
    Row.one_lt_refcount_iff small, decide_eq_true_eq]
  split
  · next none =>
    split at none
    · cases none
    · next single => rw [if_neg single]
  · next row some =>
    split at some
    · next several =>
      cases some
      have owners : (Row.ofHolding { holding with owners := holding.owners - 1 }).owners =
        holding.owners - 1 := Row.owners_ofHolding (Nat.lt_of_le_of_lt (Nat.sub_le _ _) small)
      rw [Row.ofHolding_sub_one (Nat.lt_of_succ_lt several), owners, if_pos several]
    · cases some

/-! ### What is answered -/

lemma create (mirrors : rows.Mirrors descriptors) (descriptor : Descriptor)
    (countable : MemoryDescriptors.Countable (descriptors.create id descriptor).2) :
    (rows.create id descriptor).1 = (descriptors.create id descriptor).1 ∧
      Mirrors (rows.create id descriptor).2 (descriptors.create id descriptor).2 := by
  cases held : descriptors.get? id with
  | none =>
    simp only [Relation.create, Relation.upsert, mirrors.absent held, MemoryDescriptors.create,
      held]
    exact ⟨rfl, mirrors.insert id ⟨descriptor, 1⟩⟩
  | some holding =>
    simp only [MemoryDescriptors.create, held] at countable ⊢
    have small := (countable id _ (Table.get?_insert_self _ _ _)).2
    simp only [Relation.create, Relation.upsert, mirrors.present held, Row.ofHolding_add_one,
      Row.owners_ofHolding small]
    exact ⟨trivial, mirrors.insert id _⟩

lemma read (mirrors : rows.Mirrors descriptors) (id : ContentId) :
    rows.read id = descriptors.read id := by
  cases held : descriptors.get? id with
  | none => simp only [Relation.read, mirrors.absent held, MemoryDescriptors.read, held]
  | some holding =>
    simp only [Relation.read, mirrors.present held, Row.descriptor_ofHolding,
      MemoryDescriptors.read, held]

lemma duplicate (mirrors : rows.Mirrors descriptors)
    (countable : MemoryDescriptors.Countable (descriptors.duplicate id).2) :
    (rows.duplicate id).1 = (descriptors.duplicate id).1 ∧
      Mirrors (rows.duplicate id).2 (descriptors.duplicate id).2 := by
  cases held : descriptors.get? id with
  | none =>
    simp only [Relation.duplicate, Relation.count, mirrors.absent held, Option.filter_none,
      MemoryDescriptors.duplicate_of_absent held]
    exact ⟨trivial, mirrors⟩
  | some holding =>
    simp only [MemoryDescriptors.duplicate_of_present held] at countable ⊢
    have small := (countable id _ (Table.get?_insert_self _ _ _)).2
    simp only [Relation.duplicate, mirrors.count_add_one held small]
    exact ⟨trivial, mirrors.insert id _⟩

lemma delete (mirrors : rows.Mirrors descriptors) (countable : descriptors.Countable) :
    (rows.delete id).1 = (descriptors.delete id).1 ∧
      Mirrors (rows.delete id).2 (descriptors.delete id).2 := by
  cases held : descriptors.get? id with
  | none =>
    have unheld := mirrors.erase id
    rw [Table.erase_of_absent held] at unheld
    simp only [Relation.delete, Relation.count, Relation.remove, Table.contains,
      mirrors.absent held, Option.filter_none, MemoryDescriptors.delete_of_absent held]
    exact ⟨rfl, unheld⟩
  | some holding =>
    have counted := mirrors.count_sub_one held (countable id holding held).2
    rcases Nat.lt_or_ge 1 holding.owners with several | last
    · rw [if_pos several] at counted
      simp only [Relation.delete, counted, MemoryDescriptors.delete_of_shared held several]
      exact ⟨trivial, mirrors.insert id _⟩
    · rw [if_neg (Nat.not_lt.2 last)] at counted
      simp only [Relation.delete, counted, Relation.remove, Table.contains, mirrors.present held,
        MemoryDescriptors.delete_of_last held last]
      exact ⟨rfl, mirrors.erase id⟩

/-- The table and its rows answer a call alike. -/
lemma answer (mirrors : rows.Mirrors descriptors) (call : DescriptorCall)
    (before : descriptors.Countable)
    (after : MemoryDescriptors.Countable (answer descriptors call).2.1) :
    (DescriptorStore.answer rows call).1 = (DescriptorStore.answer descriptors call).1 ∧
      Mirrors (DescriptorStore.answer rows call).2.1
        (DescriptorStore.answer descriptors call).2.1 := by
  cases call with
  | create id descriptor => exact mirrors.create descriptor after
  | read id => exact ⟨mirrors.read id, mirrors⟩
  | contains id => exact ⟨congrArg Except.ok (mirrors.contains id), mirrors⟩
  | duplicate id => exact mirrors.duplicate after
  | delete id => exact mirrors.delete before

end Relation.Mirrors

/-! ### Databases that are visited -/

/-- What is done to a database: a call is made, or it is closed, to be opened again for the next
call. -/
inductive Visit where
  | call (call : DescriptorCall)
  | reopen
deriving DecidableEq

namespace Visit

/-- The calls of some visits. -/
def calls : List Visit → List DescriptorCall
  | [] => []
  | .call made :: rest => made :: calls rest
  | .reopen :: rest => calls rest

end Visit

namespace Database

/-- The calls of some visits together with their answers. -/
def attend : Database → List Visit → List Exchange
  | _, [] => []
  | database, .call call :: rest =>
    ⟨call, (answer database call).1⟩ :: attend (answer database call).2.1 rest
  | database, .reopen :: rest => attend database.close rest

variable {database database' : Database} {rows : Relation} {descriptors : MemoryDescriptors}

lemma attend_of_mirrors {visits : List Visit} (persists : database.Persists rows)
    (mirrors : rows.Mirrors descriptors)
    (kept : .reopen ∈ visits → database.location ≠ .nowhere)
    (countable : ∀ before, before <+: Visit.calls visits →
      MemoryDescriptors.Countable (serve descriptors before)) :
    database.attend visits = exchanges descriptors (Visit.calls visits) := by
  induction visits generalizing database rows descriptors with
  | nil => rfl
  | cons visit rest ih =>
    cases visit with
    | call call =>
      have left (before : List DescriptorCall) (first : before <+: Visit.calls rest) :
          MemoryDescriptors.Countable (serve (answer descriptors call).2.1 before) :=
        countable (call :: before) (List.cons_prefix_cons.2 ⟨rfl, first⟩)
      obtain ⟨answered, still, located⟩ := persists.answer call
      obtain ⟨alike, mirrored⟩ :=
        mirrors.answer call (countable [] List.nil_prefix) (left [] List.nil_prefix)
      have others := ih still mirrored
        (fun later => located ▸ kept (List.mem_cons_of_mem _ later)) left
      simp only [attend, Visit.calls, exchanges, answered, alike, others]
    | reopen =>
      have kept' : database.location ≠ .nowhere := kept List.mem_cons_self
      exact ih (persists.close kept') mirrors (fun _ => kept') countable

/-- A database that was found empty answers any calls as an empty table does, and it may be closed
and opened again at any time unless it lies in no file. -/
theorem attend_eq_exchanges {event : Option Event} {visits : List Visit}
    (closed : database.session = none) (opens : database.connect = (.ok event, database'))
    (unused : database'.session = some { rows := ∅ })
    (kept : .reopen ∈ visits → database.location ≠ .nowhere)
    (countable : ∀ before, before <+: Visit.calls visits → ∀ id owners,
      (serve (∅ : MemoryDescriptors) before).refcount? id = some owners → owners < 2 ^ 63) :
    database.attend visits = exchanges (∅ : MemoryDescriptors) (Visit.calls visits) := by
  apply attend_of_mirrors (persists_of_connect closed opens unused) _ kept
  · intro before first id holding held
    have counted := held
    rw [MemoryDescriptors.get?_serve, Tally.holding?_eq_some_iff] at counted
    obtain ⟨owned, same, -⟩ := counted
    refine ⟨same ▸ owned, countable before first id holding.owners ?_⟩
    rw [MemoryDescriptors.refcount?, held, Option.map_some]
  · intro id
    rfl

/-- A database is created, and is closed twice before its only descriptor goes. -/
theorem attend_twice_reopened :
    let id : ContentId := ⟨"a"⟩
    let visits : List Visit := [
      .call (.create id ⟨none, 18446744073709551615, some "text/plain", 0, 1⟩), .reopen,
      .call (.duplicate id), .call (.delete id), .reopen, .call (.read id), .call (.delete id),
      .call (.delete id), .call (.duplicate id)]
    attend ⟨.empty 5, .file ⟨["a.db"]⟩, none⟩ visits =
      exchanges (∅ : MemoryDescriptors) (Visit.calls visits) := by
  intro id visits
  refine @attend_eq_exchanges _ _ (some .databaseOpened) _ rfl rfl rfl (fun _ => nofun) ?_
  intro before first other owners held
  have few := MemoryDescriptors.owners_le_length held
  have short : before.length ≤ 7 := first.length_le
  omega

end Database

end AssetCache
