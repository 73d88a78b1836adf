import AssetCache.Cache.Slots
import Mathlib.Data.List.Nodup
import Mathlib.Data.List.Perm.Basic
import Mathlib.Tactic.Common

/-!
# What the slots of a cache hold

Every key whose slot has an entry stands for one reference to the content of the entry. No call to
the slots makes a reference or loses one: what the slots hold afterwards, and what they hand out in
their answer, is what they held before and what the call brought (`Slots.mapped_answer`).
-/

namespace AssetCache

/-! ### Counting in tables -/

namespace Table

variable {κ α : Type}

lemma nodup_entries (table : Table κ α) : table.entries.Nodup :=
  table.nodup.of_map _

variable [DecidableEq κ] {table : Table κ α} {key : κ} {value : α}

lemma perm_erase_of_get? (found : table.get? key = some value) :
    table.entries.Perm ((key, value) :: (table.erase key).entries) := by
  rw [List.perm_ext_iff_of_nodup table.nodup_entries]
  · rintro ⟨other, held⟩
    rw [List.mem_cons, ← get?_eq_some_iff, ← get?_eq_some_iff, get?_erase, Prod.mk.injEq]
    by_cases same : other = key
    · subst same
      simp [found, eq_comm]
    · simp [same]
  · rw [List.nodup_cons, ← get?_eq_some_iff, get?_erase_self]
    exact ⟨by simp, nodup_entries _⟩

lemma perm_insert (table : Table κ α) (key : κ) (value : α) :
    (table.insert key value).entries.Perm ((key, value) :: (table.erase key).entries) := by
  rw [List.perm_ext_iff_of_nodup (nodup_entries _)]
  · rintro ⟨other, held⟩
    rw [List.mem_cons, ← get?_eq_some_iff, ← get?_eq_some_iff, get?_erase, get?_insert,
      Prod.mk.injEq]
    by_cases same : other = key
    · simp [same, eq_comm]
    · simp [same]
  · rw [List.nodup_cons, ← get?_eq_some_iff, get?_erase_self]
    exact ⟨by simp, nodup_entries _⟩

lemma erase_of_absent (absent : table.get? key = none) : table.erase key = table := by
  have kept : (table.erase key).entries = table.entries := by
    show table.entries.filter _ = table.entries
    rw [List.filter_eq_self]
    rintro ⟨other, held⟩ inside
    have different : other ≠ key := by
      rintro rfl
      rw [get?_eq_some_iff.2 inside] at absent
      contradiction
    simpa using different
  cases table
  simpa only [erase, filter, mk.injEq] using kept

lemma mem_keys_filter_iff (keep : α → Bool) :
    key ∈ (table.filter fun _ => keep).keys ↔ (table.get? key).any keep = true := by
  rw [mem_keys_iff, get?_filter]
  cases table.get? key with
  | none => simp
  | some value => simp [Option.filter_eq_some_iff]

/-- Two tables that have the same keys with certain values have equally many of them. -/
lemma countP_eq_of_any {β : Type} {other : Table κ β} {here : α → Bool} {there : β → Bool}
    (same : ∀ key, (table.get? key).any here = (other.get? key).any there) :
    (table.entries.countP fun entry => here entry.2) =
      other.entries.countP fun entry => there entry.2 := by
  -- The keys of both parts are the same up to order, as no key is repeated.
  have perm : (table.filter fun _ => here).keys.Perm (other.filter fun _ => there).keys := by
    apply (List.perm_ext_iff_of_nodup (table.filter _).nodup (other.filter _).nodup).2
    intro key
    show key ∈ keys _ ↔ key ∈ keys _
    rw [mem_keys_filter_iff, mem_keys_filter_iff, same]
  simpa [keys, filter, List.countP_eq_length_filter] using perm.length_eq

end Table

/-- The number of times that a list has what there may be is one or none. -/
lemma count_toList {α : Type} [DecidableEq α] (held : Option α) (value : α) :
    held.toList.count value = if held = some value then 1 else 0 := by
  cases held with
  | none => rfl
  | some held => simp [List.count_singleton]

lemma Slot.isIdle_iff {slot : Slot} :
    slot.isIdle = true ↔ slot.entry = none ∧ slot.inFlight = [] := by
  rw [isIdle, Bool.and_eq_true, Option.isNone_iff_eq_none, List.isEmpty_iff]

namespace Slots

variable (slots : Slots) (key : String) (id : ContentId)

/-- The number of keys whose entry is some content. -/
def mapped : Nat :=
  slots.byKey.entries.countP fun entry => entry.2.content? = some id

/-- Dropping a slot takes away what its entry stood for. -/
lemma mapped_erase :
    mapped { slots with byKey := slots.byKey.erase key } id +
      (slots.contentId? key).toList.count id = slots.mapped id := by
  unfold mapped contentId?
  cases found : slots.byKey.get? key with
  | none => simp [Table.erase_of_absent found]
  | some slot =>
    rw [(Table.perm_erase_of_get? found).countP_eq, List.countP_cons, count_toList]
    simp

/-- Setting a slot replaces what its entry stood for. -/
lemma mapped_insert (slot : Slot) :
    mapped { slots with byKey := slots.byKey.insert key slot } id +
        (slots.contentId? key).toList.count id =
      slots.mapped id + slot.content?.toList.count id := by
  have erased := slots.mapped_erase key id
  have inserted : mapped { slots with byKey := slots.byKey.insert key slot } id =
      mapped { slots with byKey := slots.byKey.erase key } id +
        slot.content?.toList.count id := by
    unfold mapped
    rw [(Table.perm_insert _ _ _).countP_eq, List.countP_cons, count_toList]
    simp
  omega

lemma mapped_settle (slot : Slot) :
    (slots.settle key slot).mapped id + (slots.contentId? key).toList.count id =
      slots.mapped id + slot.content?.toList.count id := by
  unfold settle
  split
  · next idle =>
    have empty : slot.content? = none := by simp [Slot.content?, (Slot.isIdle_iff.1 idle).1]
    rw [empty]
    exact slots.mapped_erase key id
  · exact slots.mapped_insert key id slot

/-- A slot may be changed where its entry stays what it was. -/
lemma mapped_insert_of_content {old slot : Slot} (found : slots.byKey.get? key = some old)
    (same : slot.content? = old.content?) :
    mapped { slots with byKey := slots.byKey.insert key slot } id = slots.mapped id := by
  have inserted := slots.mapped_insert key id slot
  rw [same, contentId?, found] at inserted
  exact Nat.add_right_cancel inserted

end Slots

/-! ### What comes and goes with a call -/

namespace SlotsCall

/-- The references that a call brings. -/
def brought : SlotsCall → List ContentId
  | publish _ _ entry => [entry.value]
  | _ => []

/-- The references that the answer of a call hands out. -/
def handed : (call : SlotsCall) → call.Answer → List ContentId
  | publish _ _ _, publication => publication.released.toList
  | lookup _ _, .expired id => [id]
  | remove _, removed => removed.toList
  | removeAll _, removed => removed
  | sweep _, removed => removed
  | _, _ => []

end SlotsCall

namespace Slots

variable (slots : Slots) (key : String) (id : ContentId)

lemma mapped_submit : (slots.submit key).2.mapped id = slots.mapped id := by
  unfold submit
  cases found : slots.byKey.get? key with
  | some slot => exact slots.mapped_insert_of_content key id found rfl
  | none =>
    have inserted := slots.mapped_insert key id
      { latest := slots.issued + 1, inFlight := [slots.issued + 1] }
    rw [contentId?, found] at inserted
    exact inserted

lemma mapped_withdraw (ticket : Nat) : (slots.withdraw key ticket).mapped id = slots.mapped id := by
  unfold withdraw
  cases found : slots.byKey.get? key with
  | none => rfl
  | some slot =>
    have settled := slots.mapped_settle key id (slot.without ticket)
    rw [contentId?, found] at settled
    exact Nat.add_right_cancel settled

/-- A put that publishes hands out what the key mapped to before, and one that does not hands out
its own content again. -/
lemma mapped_publish (ticket : Nat) (entry : Entry ContentId) :
    (slots.publish key ticket entry).2.mapped id +
        (slots.publish key ticket entry).1.released.toList.count id =
      slots.mapped id + [entry.value].count id := by
  unfold publish
  cases found : slots.byKey.get? key with
  | none => rfl
  | some slot =>
    dsimp only
    split
    · split
      · have inserted := slots.mapped_insert key id
          { slot.without ticket with entry := some entry }
        rw [contentId?, found] at inserted
        exact inserted
      · exact congrArg (· + _) (slots.mapped_insert_of_content key id found rfl)
    · rfl

lemma mapped_lookup (now : Instant) :
    (slots.lookup key now).2.mapped id +
      ((SlotsCall.lookup key now).handed (slots.lookup key now).1).count id = slots.mapped id := by
  unfold lookup
  cases found : slots.byKey.get? key with
  | none => rfl
  | some slot =>
    cases held : slot.entry with
    | none => simp [held, SlotsCall.handed]
    | some entry =>
      simp only [held]
      split
      · have settled := slots.mapped_settle key id { slot with entry := none }
        rw [contentId?, found] at settled
        simpa [Slot.content?, held, SlotsCall.handed] using settled
      · rfl

lemma mapped_removeAll (keys : List String) :
    (slots.removeAll keys).2.mapped id + (slots.removeAll keys).1.count id = slots.mapped id := by
  induction keys generalizing slots with
  | nil => rfl
  | cons key rest ih =>
    have first := slots.mapped_erase key id
    have others := ih (slots.remove key).2
    simp only [remove] at others
    simp only [removeAll, remove, List.count_append]
    omega

/-- Whether the entry of a slot is expired. -/
def isStale (now : Instant) (slot : Slot) : Bool :=
  slot.entry.any (·.isExpired now)

lemma expired?_eq_some_iff {now : Instant} {slot : Slot} :
    expired? now slot = some id ↔ slot.content? = some id ∧ isStale now slot = true := by
  obtain ⟨latest, inFlight, entry⟩ := slot
  cases entry with
  | none => simp [expired?, Slot.content?]
  | some entry => cases stale : entry.isExpired now <;> simp [expired?, Slot.content?, isStale, stale]

lemma content?_swept_eq_some_iff {now : Instant} {slot : Slot} :
    (swept now slot).content? = some id ↔ slot.content? = some id ∧ ¬ isStale now slot = true := by
  obtain ⟨latest, inFlight, entry⟩ := slot
  cases entry with
  | none => simp [swept, Slot.content?]
  | some entry => cases stale : entry.isExpired now <;> simp [swept, Slot.content?, isStale, stale]

lemma length_sweep_fst (slots : Slots) (now : Instant) :
    (slots.sweep now).1.length = slots.byKey.entries.countP fun entry => isStale now entry.2 := by
  simp only [sweep, List.length_filterMap_eq_countP]
  apply List.countP_congr
  rintro ⟨key, slot⟩ -
  cases held : slot.entry with
  | none => simp [expired?, isStale, held]
  | some entry => simp [expired?, isStale, held, Option.isSome_filter]

lemma isIdle_of_content? {slot : Slot} (held : slot.content? = some id) : slot.isIdle = false := by
  obtain ⟨entry, found, -⟩ := Option.map_eq_some_iff.1 held
  simp [Slot.isIdle, found]

/-- What an expired entry stood for is handed out, and what another entry stands for stays. -/
lemma mapped_sweep (now : Instant) :
    (slots.sweep now).2.mapped id + (slots.sweep now).1.count id = slots.mapped id := by
  let entries := slots.byKey.entries
  have kept : (slots.sweep now).2.mapped id =
      entries.countP fun entry => entry.2.content? = some id ∧ ¬ isStale now entry.2 = true := by
    simp only [sweep, mapped, Table.map, Table.filter, List.countP_filter, List.countP_map]
    apply List.countP_congr
    rintro ⟨key, slot⟩ -
    simp only [Function.comp_apply, Bool.and_eq_true, decide_eq_true_eq,
      content?_swept_eq_some_iff]
    constructor
    · exact fun held => held.1
    · intro held
      exact ⟨held, by rw [isIdle_of_content? id (content?_swept_eq_some_iff id |>.2 held)]; rfl⟩
  have taken : (slots.sweep now).1.count id =
      entries.countP fun entry => entry.2.content? = some id ∧ isStale now entry.2 = true := by
    simp only [sweep, List.count, List.countP_filterMap]
    apply List.countP_congr
    rintro ⟨key, slot⟩ -
    rw [decide_eq_true_eq, ← expired?_eq_some_iff]
    cases expired? now slot with
    | none => simp
    | some other => simp
  -- Each entry is either kept or handed out, by whether it is expired.
  have parted := entries.countP_eq_countP_filter_add
    (fun entry => entry.2.content? = some id) fun entry => isStale now entry.2
  simp only [List.countP_filter] at parted
  rw [kept, taken, mapped, parted, Nat.add_comm]
  simp

/-- No call to the slots makes a reference or loses one. -/
theorem mapped_answer (call : SlotsCall) :
    (slots.answer call).2.mapped id + (call.handed (slots.answer call).1).count id =
      slots.mapped id + call.brought.count id := by
  cases call with
  | submit key => exact slots.mapped_submit key id
  | withdraw key ticket => exact slots.mapped_withdraw key id ticket
  | publish key ticket entry => exact slots.mapped_publish key id ticket entry
  | lookup key now => exact slots.mapped_lookup key id now
  | remove key => exact slots.mapped_erase key id
  | removeAll keys => exact slots.mapped_removeAll id keys
  | sweep now => exact slots.mapped_sweep id now

end Slots

end AssetCache
