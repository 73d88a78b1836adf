import AssetCache.Cache.Plain
import AssetCache.Proofs.Cache.History
import AssetCache.Proofs.Cache.Slots

/-!
# Expired entries go unseen

A plain cache drops an expired entry when its key is looked up or when the cache is swept, and not
before. When it does so cannot be told from what it answers: what a look-up finds depends on the
puts and invalidations alone (`PlainCache.eviction_unseen`), as long as the clock does not go back.
What the table holds does depend on the rest, and is given by `PlainCache.get?_after`.
-/

namespace AssetCache

/-! ### Later readings of a clock -/

lemma Instant.le_trans {a b c : Instant} (first : a ≤ b) (second : b ≤ c) : a ≤ c := by
  rw [Instant.le_iff] at first second ⊢
  omega

namespace Entry

variable {α : Type} {entry : Entry α} {now later : Instant}

/-- What has expired stays so. -/
lemma isExpired_mono (order : now ≤ later) (stale : entry.isExpired now = true) :
    entry.isExpired later = true := by
  obtain ⟨value, expires⟩ := entry
  cases expires with
  | none => exact stale
  | some expires =>
    rw [isExpired_some] at stale ⊢
    exact Instant.le_trans stale order

lemma isExpired_eq_false_iff :
    entry.isExpired now = false ↔ ∀ instant ∈ entry.expires, ¬ instant ≤ now := by
  obtain ⟨value, expires⟩ := entry
  cases expires <;> simp [isExpired]

end Entry

/-! ### What a call does under a key -/

namespace CacheCall

variable {α : Type} {key : String} {call : CacheCall α}

/-- Whether a call decides what a key stands for from then on. -/
def Changes (key : String) : CacheCall α → Prop
  | get _ => False
  | put other _ _ => other = key
  | invalidate other => other = key
  | invalidateAll keys => key ∈ keys
  | cleanUp => False

/-- Whether a call drops what it finds expired under a key. -/
def Visits (key : String) : CacheCall α → Prop
  | get other => other = key
  | put _ _ _ => False
  | invalidate _ => False
  | invalidateAll _ => False
  | cleanUp => True

/-- Whether a call is neither a look-up nor a sweep. -/
def isUpdate : CacheCall α → Bool
  | get _ => false
  | put _ _ _ => true
  | invalidate _ => true
  | invalidateAll _ => true
  | cleanUp => false

lemma Changes.isUpdate (changes : call.Changes key) : call.isUpdate = true := by
  cases call with
  | get => exact changes.elim
  | cleanUp => exact changes.elim
  | _ => rfl

end CacheCall

/-! ### Histories with parts left out -/

/-- What never happens or ends outside a part of a log has happened there or not at all. -/
lemma since_filter_iff {α : Type} {happened ended : α → Prop} {keep : α → Bool} {log : List α}
    (happens : ∀ event, happened event → keep event = true)
    (ends : ∀ event, ended event → keep event = true) :
    Since happened ended (log.filter keep) ↔ Since happened ended log := by
  induction log using List.reverseRecOn with
  | nil => rfl
  | append_singleton log event ih =>
    rw [List.filter_append, since_concat_iff]
    cases kept : keep event with
    | true => rw [List.filter_singleton, kept, cond_true, since_concat_iff, ih]
    | false =>
      have quiet : ¬ happened event ∧ ¬ ended event := by
        constructor
        · intro happened
          rw [happens event happened] at kept
          contradiction
        · intro ended
          rw [ends event ended] at kept
          contradiction
      rw [List.filter_singleton, kept, cond_false, List.append_nil, ih]
      simp [quiet]

/-! ### What a call leaves under a key -/

namespace PlainCache

variable {α : Type} {cache : PlainCache α} {calls before rest : List (Instant × CacheCall α)}
  {key : String} {value : α} {entry : Entry α} {now : Instant} {call : CacheCall α}

lemma get?_invalidateAll (keys : List String) :
    (cache.invalidateAll keys).get? key = if key ∈ keys then none else cache.get? key := by
  induction keys generalizing cache with
  | nil => rfl
  | cons first keys ih =>
    show ((cache.invalidate first).invalidateAll keys).get? key = _
    rw [ih, invalidate, Table.get?_erase]
    by_cases same : key = first <;> simp [same]

lemma get_of_absent (absent : cache.get? key = none) : cache.get now key = (none, cache) := by
  rw [get, absent]

lemma get_of_stale (found : cache.get? key = some entry) (stale : entry.isExpired now = true) :
    cache.get now key = (none, cache.erase key) := by
  rw [get, found]
  exact if_pos stale

lemma get_of_fresh (found : cache.get? key = some entry) (fresh : entry.isExpired now = false) :
    cache.get now key = (some entry.value, cache) := by
  rw [get, found]
  exact if_neg (by simp [fresh])

lemma get?_get (other : String) :
    (cache.get now other).2.get? key = some entry ↔
      cache.get? key = some entry ∧ ¬ (other = key ∧ entry.isExpired now = true) := by
  cases found : cache.get? other with
  | none =>
    rw [get_of_absent found, iff_self_and]
    rintro there ⟨rfl, -⟩
    rw [found] at there
    contradiction
  | some held =>
    cases stale : held.isExpired now with
    | true =>
      rw [get_of_stale found stale, Table.get?_erase]
      by_cases same : other = key
      · subst same
        simp only [if_true, found, Option.some.injEq]
        constructor
        · intro gone
          cases gone
        · rintro ⟨rfl, fresh⟩
          exact absurd ⟨trivial, stale⟩ fresh
      · simp [same, Ne.symm same]
    | false =>
      rw [get_of_fresh found stale, iff_self_and]
      rintro there ⟨rfl, stale'⟩
      rw [found] at there
      cases there
      rw [stale] at stale'
      contradiction

lemma get?_cleanUp :
    (cache.cleanUp now).2.get? key = some entry ↔
      cache.get? key = some entry ∧ entry.isExpired now = false := by
  show (Table.filter _ _).get? key = _ ↔ _
  rw [Table.get?_filter, Option.filter_eq_some_iff, Bool.not_eq_true']

/-- What a call leaves under a key: what it puts there, or what was there before and is neither
replaced nor found expired. -/
lemma get?_answer :
    (cache.answer now call).2.get? key = some entry ↔
      call = .put key entry.value entry.expires ∨
        cache.get? key = some entry ∧
          ¬ (call.Changes key ∨ call.Visits key ∧ entry.isExpired now = true) := by
  cases call with
  | get other =>
    show (cache.get now other).2.get? key = _ ↔ _
    simp [get?_get, CacheCall.Changes, CacheCall.Visits]
  | put other value expires =>
    show (cache.insert other ⟨value, expires⟩).get? key = _ ↔ _
    obtain ⟨value', expires'⟩ := entry
    rw [Table.get?_insert]
    by_cases same : key = other
    · simp [same, CacheCall.Changes]
    · simp [same, Ne.symm same, CacheCall.Changes, CacheCall.Visits]
  | invalidate other =>
    show (cache.erase other).get? key = _ ↔ _
    rw [Table.get?_erase]
    by_cases same : key = other
    · simp [same, CacheCall.Changes]
    · simp [same, Ne.symm same, CacheCall.Changes, CacheCall.Visits]
  | invalidateAll keys =>
    show (cache.invalidateAll keys).get? key = _ ↔ _
    rw [get?_invalidateAll]
    by_cases inside : key ∈ keys <;> simp [inside, CacheCall.Changes, CacheCall.Visits]
  | cleanUp =>
    show (cache.cleanUp now).2.get? key = _ ↔ _
    simp [get?_cleanUp, CacheCall.Changes, CacheCall.Visits]

lemma get_fst :
    (cache.get now key).1 = some value ↔
      ∃ expires, cache.get? key = some ⟨value, expires⟩ ∧
        Entry.isExpired ⟨value, expires⟩ now = false := by
  cases found : cache.get? key with
  | none => simp [get_of_absent found]
  | some held =>
    obtain ⟨value', expires⟩ := held
    cases stale : Entry.isExpired ⟨value', expires⟩ now with
    | true =>
      rw [get_of_stale found stale]
      constructor
      · exact nofun
      · rintro ⟨expires', same, fresh⟩
        cases same
        rw [stale] at fresh
        contradiction
    | false =>
      rw [get_of_fresh found stale]
      constructor
      · intro same
        cases same
        exact ⟨expires, rfl, stale⟩
      · rintro ⟨expires', same, -⟩
        cases same
        rfl

lemma cleanUp_fst :
    (cache.cleanUp now).1 = cache.entries.countP fun named => named.2.isExpired now := by
  have parted := cache.entries.length_eq_countP_add_countP fun named => named.2.isExpired now
  have kept : (cache.cleanUp now).2.size =
      cache.entries.countP fun named => ¬ named.2.isExpired now = true := by
    simp [cleanUp, Table.filter, Table.size, List.countP_eq_length_filter]
  show cache.size - (cache.cleanUp now).2.size = _
  rw [kept, Table.size]
  omega

/-- A sweep leaves nothing for another one at the same reading. -/
lemma cleanUp_cleanUp : ((cache.cleanUp now).2.cleanUp now).1 = 0 := by
  rw [cleanUp_fst, List.countP_eq_zero]
  rintro ⟨key, entry⟩ inside
  rw [← Table.get?_eq_some_iff, get?_cleanUp] at inside
  simp [inside.2]

/-! ### A run of calls -/

/-- A cache that was empty, after some calls. -/
def after (calls : List (Instant × CacheCall α)) : PlainCache α :=
  calls.foldl (fun cache told => (cache.answer told.1 told.2).2) ∅

lemma after_concat (told : Instant × CacheCall α) :
    after (calls ++ [told]) = ((after calls).answer told.1 told.2).2 := by
  simp [after]

/-- An entry is in the table when it was put there and neither has its key been changed since nor
has it been found expired. -/
theorem get?_after :
    (after calls).get? key = some entry ↔
      Since (fun told => told.2 = .put key entry.value entry.expires)
        (fun told => told.2.Changes key ∨ told.2.Visits key ∧ entry.isExpired told.1 = true)
        calls := by
  induction calls using List.reverseRecOn with
  | nil =>
    have absent : (after ([] : List (Instant × CacheCall α))).get? key = none := rfl
    simp [not_since_nil, absent]
  | append_singleton calls told ih => rw [after_concat, get?_answer, since_concat_iff, ih]

/-- As long as an entry has not expired, no look-up or sweep can have dropped it. -/
lemma get?_after_of_fresh (past : ∀ told ∈ calls, told.1 ≤ now)
    (fresh : entry.isExpired now = false) :
    (after calls).get? key = some entry ↔
      Since (fun told => told.2 = .put key entry.value entry.expires) (·.2.Changes key) calls := by
  rw [get?_after]
  constructor
  · rintro ⟨earlier, told, since, split, put, quiet⟩
    exact ⟨earlier, told, since, split, put, fun later inside changes =>
      quiet later inside (Or.inl changes)⟩
  · rintro ⟨earlier, told, since, rfl, put, quiet⟩
    refine ⟨earlier, told, since, rfl, put, ?_⟩
    rintro later inside (changes | ⟨-, stale⟩)
    · exact quiet later inside changes
    · rw [Entry.isExpired_mono (past later (by simp [inside])) stale] at fresh
      contradiction

/-- What a look-up finds, by the calls before it. -/
lemma get_after (past : ∀ told ∈ calls, told.1 ≤ now) :
    ((after calls).get now key).1 = some value ↔
      ∃ expires, Since (fun told => told.2 = .put key value expires) (·.2.Changes key) calls ∧
        ∀ instant ∈ expires, ¬ instant ≤ now := by
  rw [get_fst]
  apply exists_congr
  intro expires
  rw [Entry.isExpired_eq_false_iff]
  refine and_congr_left fun fresh => ?_
  exact get?_after_of_fresh past (Entry.isExpired_eq_false_iff.2 fresh)

/-- Look-ups and sweeps say nothing of what was put last. -/
lemma since_updates_iff {expires : Option Instant} :
    Since (fun told => told.2 = .put key value expires) (·.2.Changes key)
        (calls.filter (·.2.isUpdate)) ↔
      Since (fun told => told.2 = .put key value expires) (·.2.Changes key) calls := by
  apply since_filter_iff
  · intro told put
    rw [put]
    rfl
  · intro told changes
    exact CacheCall.Changes.isUpdate changes

/-- A look-up finds the same when all look-ups and sweeps before it are left out. -/
lemma get_after_updates (past : ∀ told ∈ calls, told.1 ≤ now) :
    ((after calls).get now key).1 = ((after (calls.filter (·.2.isUpdate))).get now key).1 := by
  have past' : ∀ told ∈ calls.filter (·.2.isUpdate), told.1 ≤ now :=
    fun told inside => past told (List.mem_of_mem_filter inside)
  apply Option.ext
  intro value
  rw [get_after past, get_after past']
  simp only [since_updates_iff]

/-- What is seen of a cache in a run of calls, whenever it drops what has expired. -/
structure EvictsUnseen (calls : List (Instant × CacheCall α)) : Prop where
  /-- A look-up is answered, and finds a value just when the last call to change its key has put
  that value there and it has not expired. -/
  found : ∀ before now key rest, calls = before ++ (now, .get key) :: rest →
    ∃ hit, ((after before).answer now (.get key)).1 = .ok hit ∧
      ∀ value, hit = some value ↔ ∃ expires,
        Since (fun told => told.2 = .put key value expires) (·.2.Changes key) before ∧
          ∀ instant ∈ expires, ¬ instant ≤ now
  /-- It finds what it would find if there had been no look-ups and sweeps before it. -/
  unseen : ∀ before now key rest, calls = before ++ (now, .get key) :: rest →
    ((after before).answer now (.get key)).1 =
      ((after (before.filter (·.2.isUpdate))).answer now (.get key)).1
  /-- A sweep drops what has expired, and nothing else. -/
  swept : ∀ before now rest, calls = before ++ (now, .cleanUp) :: rest → ∀ key entry,
    ((after before).answer now .cleanUp).2.get? key = some entry ↔
      (after before).get? key = some entry ∧ entry.isExpired now = false
  /-- It says how many entries that were. -/
  counted : ∀ before now rest, calls = before ++ (now, .cleanUp) :: rest →
    ((after before).answer now .cleanUp).1 =
      .ok ((after before).entries.countP fun named => named.2.isExpired now)
  /-- Another sweep at the same reading finds nothing more. -/
  settled : ∀ before now rest, calls = before ++ (now, .cleanUp) :: rest →
    ((after (before ++ [(now, .cleanUp)])).answer now .cleanUp).1 = .ok 0
  /-- What is live under a key is still there after a call that does not change the key. -/
  kept : ∀ before now call rest, calls = before ++ (now, call) :: rest → ∀ key entry,
    ¬ call.Changes key → (after before).get? key = some entry → entry.isExpired now = false →
      ((after before).answer now call).2.get? key = some entry

/-- When a cache drops what has expired cannot be told from its answers, if the clock does not go
back. -/
theorem eviction_unseen (ordered : (calls.map Prod.fst).Pairwise (· ≤ ·)) :
    EvictsUnseen calls := by
  have past {before rest : List (Instant × CacheCall α)} {now : Instant} {call : CacheCall α}
      (split : calls = before ++ (now, call) :: rest) : ∀ told ∈ before, told.1 ≤ now := by
    intro told inside
    rw [split, List.map_append, List.pairwise_append] at ordered
    exact ordered.2.2 _ (List.mem_map_of_mem inside) now (by simp)
  refine ⟨?_, ?_, ?_, ?_, ?_, ?_⟩
  · intro before now key rest split
    exact ⟨_, rfl, fun value => get_after (past split)⟩
  · intro before now key rest split
    exact congrArg Except.ok (get_after_updates (past split))
  · intro before now rest split key entry
    exact get?_cleanUp
  · intro before now rest split
    exact congrArg Except.ok cleanUp_fst
  · intro before now rest split
    rw [after_concat]
    exact congrArg Except.ok cleanUp_cleanUp
  · intro before now call rest split key entry unchanged there fresh
    refine get?_answer.2 (Or.inr ⟨there, ?_⟩)
    rintro (changes | ⟨-, stale⟩)
    · exact unchanged changes
    · rw [fresh] at stale
      contradiction

/-- One entry expires at the reading at which it is looked up and swept, the other never does. -/
theorem eviction_unseen_two :
    EvictsUnseen [(⟨0, 0⟩, .put "a" 1 (some ⟨1, 0⟩)), (⟨0, 5⟩, .put "b" 2 none),
      (⟨1, 0⟩, .get "a"), (⟨1, 0⟩, .cleanUp), (⟨1, 1⟩, .get "b")] :=
  eviction_unseen (by decide)

end PlainCache

end AssetCache
