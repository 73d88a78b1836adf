/-!
# Finite tables

A table maps finitely many keys to values. It is a list of entries without a repeated key, in the
order in which the keys came in; what it holds is seen through `get?`.
-/

namespace AssetCache

variable {κ α : Type}

/-- A finite map from keys to values. -/
structure Table (κ α : Type) where
  entries : List (κ × α)
  nodup : (entries.map Prod.fst).Nodup := by simp

namespace Table

/-- The table that holds nothing. -/
def empty : Table κ α :=
  ⟨[], by simp⟩

instance : EmptyCollection (Table κ α) := ⟨empty⟩
instance : Inhabited (Table κ α) := ⟨empty⟩

/-- The keys that have a value. -/
def keys (table : Table κ α) : List κ :=
  table.entries.map Prod.fst

/-- The number of keys that have a value. -/
def size (table : Table κ α) : Nat :=
  table.entries.length

/-- The part of a table that has a property. -/
def filter (table : Table κ α) (keep : κ → α → Bool) : Table κ α :=
  ⟨table.entries.filter fun entry => keep entry.1 entry.2,
   table.nodup.sublist (List.filter_sublist.map Prod.fst)⟩

/-- The table with every value changed. -/
def map {β : Type} (table : Table κ α) (change : κ → α → β) : Table κ β :=
  ⟨table.entries.map fun entry => (entry.1, change entry.1 entry.2), by
    simpa [List.map_map, Function.comp_def] using table.nodup⟩

variable [DecidableEq κ]

/-- The value of a key. -/
def get? (table : Table κ α) (key : κ) : Option α :=
  (table.entries.find? fun entry => entry.1 = key).map Prod.snd

/-- Whether a key has a value. -/
def contains (table : Table κ α) (key : κ) : Bool :=
  (table.get? key).isSome

/-- The table without a key. -/
def erase (table : Table κ α) (key : κ) : Table κ α :=
  table.filter fun other _ => other ≠ key

/-- The table with the value of a key set; a new key comes last. -/
def insert (table : Table κ α) (key : κ) (value : α) : Table κ α :=
  if h : key ∈ table.keys then
    table.map fun other old => if other = key then value else old
  else
    ⟨table.entries ++ [(key, value)], by
      rw [List.map_append, List.nodup_append]
      refine ⟨table.nodup, by simp, ?_⟩
      intro a ha b hb
      simp only [List.map_cons, List.map_nil, List.mem_singleton] at hb
      subst hb
      rintro rfl
      exact h ha⟩

/-! ### What the operations do to the view -/

@[simp] theorem get?_empty (key : κ) : (∅ : Table κ α).get? key = none := rfl

theorem get?_eq_some_iff {table : Table κ α} {key : κ} {value : α} :
    table.get? key = some value ↔ (key, value) ∈ table.entries := by
  obtain ⟨entries, nodup⟩ := table
  simp only [get?]
  induction entries with
  | nil => simp
  | cons entry rest ih =>
    simp only [List.map_cons, List.nodup_cons] at nodup
    by_cases h : entry.1 = key
    · subst h
      simp only [List.find?_cons, decide_true, Option.map_some, Option.some.injEq, List.mem_cons]
      constructor
      · rintro rfl
        exact Or.inl rfl
      · rintro (h | h)
        · exact (congrArg Prod.snd h).symm
        · exact absurd (List.mem_map_of_mem (f := Prod.fst) h) nodup.1
    · simp only [List.find?_cons, h, decide_false, List.mem_cons]
      rw [ih nodup.2]
      constructor
      · exact Or.inr
      · rintro (h' | h')
        · exact absurd (congrArg Prod.fst h').symm h
        · exact h'

theorem mem_keys_iff {table : Table κ α} {key : κ} :
    key ∈ table.keys ↔ ∃ value, table.get? key = some value := by
  simp only [keys, List.mem_map, get?_eq_some_iff]
  constructor
  · rintro ⟨⟨_, value⟩, h, rfl⟩
    exact ⟨value, h⟩
  · rintro ⟨value, h⟩
    exact ⟨_, h, rfl⟩

theorem get?_eq_none_iff {table : Table κ α} {key : κ} :
    table.get? key = none ↔ key ∉ table.keys := by
  rw [mem_keys_iff]
  cases table.get? key <;> simp

theorem contains_iff {table : Table κ α} {key : κ} :
    table.contains key = true ↔ key ∈ table.keys := by
  rw [mem_keys_iff, contains, Option.isSome_iff_exists]

theorem get?_filter (table : Table κ α) (keep : κ → α → Bool) (key : κ) :
    (table.filter keep).get? key = (table.get? key).filter (keep key) := by
  apply Option.ext
  intro value
  rw [Option.filter_eq_some_iff, get?_eq_some_iff, get?_eq_some_iff]
  simp [filter]

theorem get?_map {β : Type} (table : Table κ α) (change : κ → α → β) (key : κ) :
    (table.map change).get? key = (table.get? key).map (change key) := by
  simp only [get?, map, List.find?_map, Option.map_map]
  have same : ((fun entry : κ × β => decide (entry.1 = key)) ∘
      fun entry : κ × α => (entry.1, change entry.1 entry.2)) =
      fun entry : κ × α => decide (entry.1 = key) := rfl
  rw [same]
  cases h : table.entries.find? fun entry => decide (entry.1 = key) with
  | none => rfl
  | some entry =>
    have := List.find?_some h
    simp only [decide_eq_true_eq] at this
    subst this
    rfl

@[simp] theorem get?_erase (table : Table κ α) (key other : κ) :
    (table.erase key).get? other = if other = key then none else table.get? other := by
  rw [erase, get?_filter]
  by_cases h : other = key
  · subst h
    cases table.get? other <;> simp
  · cases table.get? other <;> simp [h]

@[simp] theorem get?_insert (table : Table κ α) (key other : κ) (value : α) :
    (table.insert key value).get? other = if other = key then some value else table.get? other := by
  unfold insert
  split
  · next h =>
    rw [get?_map]
    obtain ⟨old, hold⟩ := mem_keys_iff.1 h
    by_cases h' : other = key
    · subst h'
      simp [hold]
    · cases table.get? other <;> simp [h']
  · next h =>
    apply Option.ext
    intro found
    rw [get?_eq_some_iff]
    simp only [List.mem_append, List.mem_singleton, Prod.mk.injEq]
    by_cases h' : other = key
    · subst h'
      have : (other, found) ∉ table.entries := fun hm =>
        h (List.mem_map_of_mem (f := Prod.fst) hm)
      simp [this, eq_comm]
    · simp [h', get?_eq_some_iff]

theorem get?_insert_self (table : Table κ α) (key : κ) (value : α) :
    (table.insert key value).get? key = some value := by simp

theorem get?_erase_self (table : Table κ α) (key : κ) : (table.erase key).get? key = none := by simp

/-- A key that was put in only to be taken out again leaves no trace. -/
theorem erase_insert_of_absent {table : Table κ α} {key : κ} (absent : table.get? key = none)
    (value : α) : (table.insert key value).erase key = table := by
  have new : key ∉ table.keys := get?_eq_none_iff.1 absent
  obtain ⟨entries, nodup⟩ := table
  have others : entries.filter (fun entry => decide (entry.1 ≠ key)) = entries := by
    rw [List.filter_eq_self]
    intro entry found
    have := List.mem_map_of_mem (f := Prod.fst) found
    simp only [decide_eq_true_eq]
    rintro rfl
    exact new this
  simp only [insert, new, dite_false, erase, filter, List.filter_append, others]
  simp

end Table

end AssetCache
