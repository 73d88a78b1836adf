import AssetCache.Proofs.Cache.Slots
import AssetCache.Proofs.Depots
import Mathlib.Data.List.Induction

/-!
# The life of a descriptor

A table of descriptors does no more than count. Every identity has a count of its own: the first
owner brings the descriptor, each further owner counts one more, and the descriptor goes with the
last one. What is answered on an identity is what its count says, and the calls on other identities
are of no account (`MemoryDescriptors.lifecycle`).
-/

namespace AssetCache

/-- The identity that a call is about. -/
def DescriptorCall.subject : DescriptorCall → ContentId
  | create id _ | read id | contains id | duplicate id | delete id => id

/-! ### Runs of a store -/

namespace DescriptorStore

variable {δ : Type} [DescriptorStore δ]

/-- A call to a store of descriptors together with its answer. -/
abbrev Exchange := (call : DescriptorCall) × call.Answer

/-- The store after calls that are made one after the other. -/
def serve (store : δ) (calls : List DescriptorCall) : δ :=
  calls.foldl (fun store call => (answer store call).2.1) store

/-- The calls together with their answers. -/
def exchanges : δ → List DescriptorCall → List Exchange
  | _, [] => []
  | store, call :: rest =>
    ⟨call, (answer store call).1⟩ :: exchanges (answer store call).2.1 rest

lemma serve_cons (store : δ) (call : DescriptorCall) (rest : List DescriptorCall) :
    serve store (call :: rest) = serve (answer store call).2.1 rest := rfl

lemma serve_append (store : δ) (before after : List DescriptorCall) :
    serve store (before ++ after) = serve (serve store before) after :=
  List.foldl_append

lemma exchanges_append (store : δ) (before after : List DescriptorCall) :
    exchanges store (before ++ after) =
      exchanges store before ++ exchanges (serve store before) after := by
  induction before generalizing store with
  | nil => rfl
  | cons call rest ih => simp only [List.cons_append, exchanges, ih, serve_cons]

lemma length_exchanges (store : δ) (calls : List DescriptorCall) :
    (exchanges store calls).length = calls.length := by
  induction calls generalizing store with
  | nil => rfl
  | cons call rest ih => simp only [exchanges, List.length_cons, ih]

end DescriptorStore

open DescriptorStore

/-! ### Counting -/

/-- The owners of one identity, counted, and the descriptor that the first of them brought. -/
structure Tally where
  owners : Nat := 0
  /-- The descriptor; it is of no account while there are no owners. -/
  record : Descriptor := ⟨none, 0, none, 0, 0⟩
deriving DecidableEq

namespace Tally

/-- Answers a call by counting. -/
def answer (tally : Tally) : (call : DescriptorCall) → call.Answer × Tally
  | .create _ record =>
    (.ok (tally.owners + 1),
      ⟨tally.owners + 1, if tally.owners = 0 then record else tally.record⟩)
  | .read id =>
    (if tally.owners = 0 then .error (.notFound id.text) else .ok tally.record, tally)
  | .contains _ => (.ok (0 < tally.owners), tally)
  | .duplicate id =>
    if tally.owners = 0 then (.error (.notFound id.text), tally)
    else (.ok (tally.owners + 1), { tally with owners := tally.owners + 1 })
  | .delete _ =>
    match tally.owners with
    | 0 => (.ok .missing, tally)
    | 1 => (.ok .removed, { tally with owners := 0 })
    | remaining + 2 =>
      (.ok (.released (remaining + 1)), { tally with owners := remaining + 1 })

/-- The calls together with what they are answered by counting. -/
def exchanges : Tally → List DescriptorCall → List Exchange
  | _, [] => []
  | tally, call :: rest => ⟨call, (tally.answer call).1⟩ :: (tally.answer call).2.exchanges rest

/-- The count after some calls. -/
def serve (tally : Tally) (calls : List DescriptorCall) : Tally :=
  calls.foldl (fun tally call => (tally.answer call).2) tally

/-- The count of an identity after some calls; those on other identities are passed over. -/
def ofCalls (id : ContentId) (calls : List DescriptorCall) : Tally :=
  serve {} (calls.filter fun call => call.subject = id)

/-- What there is of an identity with this count. -/
def holding? (tally : Tally) : Option Holding :=
  if tally.owners = 0 then none else some ⟨tally.record, tally.owners⟩

variable {tally : Tally}

lemma holding?_eq_some_iff {holding : Holding} :
    tally.holding? = some holding ↔
      0 < tally.owners ∧ holding.owners = tally.owners ∧ holding.descriptor = tally.record := by
  obtain ⟨descriptor, owners⟩ := holding
  unfold holding?
  split
  · next none => simp [none]
  · next some => simp [Nat.pos_of_ne_zero some, eq_comm, and_comm]

lemma ofCalls_concat (id : ContentId) (calls : List DescriptorCall) (call : DescriptorCall) :
    ofCalls id (calls ++ [call]) =
      if call.subject = id then ((ofCalls id calls).answer call).2 else ofCalls id calls := by
  simp only [ofCalls, serve, List.filter_append, List.foldl_append]
  split
  · next same => simp [same]
  · next other => simp [other]

/-- Only with a first owner does a count begin. -/
lemma create_of_unowned {call : DescriptorCall} (none : tally.owners = 0)
    (some : 0 < (tally.answer call).2.owners) :
    ∃ record, call = .create call.subject record ∧ (tally.answer call).2 = ⟨1, record⟩ := by
  cases call with
  | create id record => exact ⟨record, rfl, by simp [answer, none]⟩
  | delete id => simp [answer, none] at some
  | duplicate id => simp [answer, none] at some
  | read id => simp [answer, none] at some
  | contains id => simp [answer, none] at some

/-- As long as there are owners, the descriptor stays. -/
lemma record_answer {call : DescriptorCall} (some : 0 < tally.owners) :
    (tally.answer call).2.record = tally.record := by
  obtain ⟨owners, record⟩ := tally
  obtain ⟨others, rfl⟩ := Nat.exists_eq_succ_of_ne_zero (Nat.ne_of_gt some)
  cases call with
  | delete id => cases others with
    | zero => rfl
    | succ others => rfl
  | _ => rfl

/-- No call counts more than one owner. -/
lemma owners_answer_le (tally : Tally) (call : DescriptorCall) :
    (tally.answer call).2.owners ≤ tally.owners + 1 := by
  obtain ⟨owners, record⟩ := tally
  cases call with
  | create id record => exact Nat.le_refl _
  | read id => exact Nat.le_succ _
  | contains id => exact Nat.le_succ _
  | duplicate id =>
    unfold answer
    split
    · exact Nat.le_succ _
    · exact Nat.le_refl _
  | delete id =>
    match owners with
    | 0 | 1 => exact Nat.zero_le _
    | remaining + 2 => exact Nat.le_add_right _ 2

lemma owners_le_length (id : ContentId) (calls : List DescriptorCall) :
    (ofCalls id calls).owners ≤ calls.length := by
  induction calls using List.reverseRecOn with
  | nil => exact Nat.le_refl 0
  | append_singleton calls call ih =>
    rw [ofCalls_concat, List.length_append]
    split
    · exact Nat.le_trans (owners_answer_le _ _) (Nat.succ_le_succ ih)
    · exact Nat.le_succ_of_le ih

end Tally

/-! ### A table does no more than count -/

/-- What a call comes to, and what there is of its identity afterwards, by what there was. -/
def Holding.answer (held : Option Holding) :
    (call : DescriptorCall) → call.Answer × Option Holding
  | .create _ record =>
    (.ok (held.elim 1 fun holding => holding.owners + 1),
      some (held.elim ⟨record, 1⟩ fun holding => { holding with owners := holding.owners + 1 }))
  | .read id =>
    (held.elim (.error (.notFound id.text)) fun holding => .ok holding.descriptor, held)
  | .contains _ => (.ok held.isSome, held)
  | .duplicate id =>
    match held with
    | none => (.error (.notFound id.text), none)
    | some holding =>
      (.ok (holding.owners + 1), some { holding with owners := holding.owners + 1 })
  | .delete _ =>
    match held with
    | none => (.ok .missing, none)
    | some holding =>
      if holding.owners ≤ 1 then (.ok .removed, none)
      else
        (.ok (.released (holding.owners - 1)),
         some { holding with owners := holding.owners - 1 })

lemma Tally.answer_holding? (tally : Tally) (call : DescriptorCall) :
    Holding.answer tally.holding? call =
      ((tally.answer call).1, (tally.answer call).2.holding?) := by
  obtain ⟨owners, record⟩ := tally
  match call, owners with
  | .create _ _, 0 | .create _ _, _ + 1 => rfl
  | .read _, 0 | .read _, _ + 1 => rfl
  | .contains _, 0 => rfl
  | .contains _, owners + 1 => simp [Holding.answer, holding?, answer]
  | .duplicate _, 0 | .duplicate _, _ + 1 => rfl
  | .delete _, 0 | .delete _, 1 => rfl
  | .delete _, owners + 2 => simp [Holding.answer, holding?, answer]

namespace MemoryDescriptors

variable {descriptors descriptors' : MemoryDescriptors} {tally : Tally} {call : DescriptorCall}
  {id : ContentId}

/-- A call is answered by what there is of its identity, and leaves other identities alone. -/
lemma answer_eq (descriptors : MemoryDescriptors) (call : DescriptorCall) :
    (answer descriptors call).1 = (Holding.answer (descriptors.get? call.subject) call).1 ∧
      ∀ id, (answer descriptors call).2.1.get? id =
        if id = call.subject then (Holding.answer (descriptors.get? call.subject) call).2
        else descriptors.get? id := by
  have unchanged {held : Option Holding} (id : ContentId) (same : descriptors.get? id = held)
      (other : ContentId) :
      descriptors.get? other = if other = id then held else descriptors.get? other := by
    split
    · next own => rw [own, same]
    · rfl
  cases call with
  | create id record =>
    show (create descriptors id record).1 = _ ∧ ∀ other,
      (create descriptors id record).2.get? other = _
    rw [create_eq]
    exact ⟨rfl, fun other => Table.get?_insert _ _ _ _⟩
  | read id =>
    refine ⟨?_, unchanged id rfl⟩
    show read descriptors id = _
    cases found : descriptors.get? id with
    | none => simp only [read, Holding.answer, DescriptorCall.subject, found, Option.elim]
    | some holding => simp only [read, Holding.answer, DescriptorCall.subject, found, Option.elim]
  | contains id => exact ⟨rfl, unchanged id rfl⟩
  | duplicate id =>
    show (duplicate descriptors id).1 = _ ∧ ∀ other, (duplicate descriptors id).2.get? other = _
    cases found : descriptors.get? id with
    | none =>
      simp only [duplicate_of_absent found, Holding.answer, DescriptorCall.subject, found]
      exact ⟨trivial, unchanged id found⟩
    | some holding =>
      simp only [duplicate_of_present found, Holding.answer, DescriptorCall.subject, found]
      exact ⟨trivial, fun other => Table.get?_insert _ _ _ _⟩
  | delete id =>
    show (delete descriptors id).1 = _ ∧ ∀ other, (delete descriptors id).2.get? other = _
    cases found : descriptors.get? id with
    | none =>
      simp only [delete_of_absent found, Holding.answer, DescriptorCall.subject, found]
      exact ⟨trivial, unchanged id found⟩
    | some holding =>
      rcases Nat.lt_or_ge 1 holding.owners with shared | last
      · simp only [delete_of_shared found shared, Holding.answer, DescriptorCall.subject, found,
          if_neg (Nat.not_le.2 shared)]
        exact ⟨trivial, fun other => Table.get?_insert _ _ _ _⟩
      · simp only [delete_of_last found last, Holding.answer, DescriptorCall.subject, found,
          if_pos last]
        exact ⟨trivial, fun other => Table.get?_erase _ _ _⟩

/-- Of any calls, those on an identity are answered by its count. -/
lemma exchanges_of_tally (calls : List DescriptorCall)
    (counted : descriptors.get? id = tally.holding?) :
    ((exchanges descriptors calls).filter fun exchange => exchange.1.subject = id) =
        tally.exchanges (calls.filter fun call => call.subject = id) ∧
      (serve descriptors calls).get? id =
        (tally.serve (calls.filter fun call => call.subject = id)).holding? := by
  induction calls generalizing descriptors tally with
  | nil => exact ⟨rfl, counted⟩
  | cons call rest ih =>
    obtain ⟨answered, left⟩ := answer_eq descriptors call
    have left := left id
    by_cases own : call.subject = id
    · rw [own, counted, Tally.answer_holding?] at answered
      rw [if_pos own.symm, own, counted, Tally.answer_holding?] at left
      obtain ⟨answers, held⟩ := ih left
      simp only [exchanges, List.filter_cons, own, decide_true, if_true, answers, answered,
        serve_cons]
      exact ⟨rfl, held⟩
    · rw [if_neg (Ne.symm own), counted] at left
      simp only [exchanges, List.filter_cons, own, decide_false, Bool.false_eq_true, if_false,
        serve_cons]
      exact ih left

lemma get?_serve (id : ContentId) (calls : List DescriptorCall) :
    (serve (∅ : MemoryDescriptors) calls).get? id = (Tally.ofCalls id calls).holding? := by
  have nothing : (∅ : MemoryDescriptors).get? id = ({} : Tally).holding? := rfl
  exact (exchanges_of_tally calls nothing).2

/-- The descriptor of an identity is the one that its first owner has brought. -/
lemma exists_first (id : ContentId) (calls : List DescriptorCall)
    (owned : 0 < (Tally.ofCalls id calls).owners) :
    ∃ earlier since,
      calls = earlier ++ .create id (Tally.ofCalls id calls).record :: since ∧
      (Tally.ofCalls id earlier).owners = 0 ∧ ∀ part, part <+: since →
        0 < (Tally.ofCalls id
          (earlier ++ .create id (Tally.ofCalls id calls).record :: part)).owners := by
  induction calls using List.reverseRecOn with
  | nil => contradiction
  | append_singleton calls call ih =>
    rcases Nat.eq_zero_or_pos (Tally.ofCalls id calls).owners with none | some
    · -- The count has just begun.
      have own : call.subject = id := by
        by_contra other
        rw [Tally.ofCalls_concat, if_neg other, none] at owned
        contradiction
      subst own
      have last := owned
      rw [Tally.ofCalls_concat, if_pos rfl] at last
      obtain ⟨record, created, counted⟩ := Tally.create_of_unowned none last
      have brought : (Tally.ofCalls call.subject (calls ++ [call])).record = record := by
        rw [Tally.ofCalls_concat, if_pos rfl, counted]
      rw [brought, ← created]
      refine ⟨calls, [], rfl, none, ?_⟩
      intro part nothing
      rw [List.prefix_nil.1 nothing]
      exact owned
    · have same : (Tally.ofCalls id (calls ++ [call])).record =
          (Tally.ofCalls id calls).record := by
        rw [Tally.ofCalls_concat]
        split
        · exact Tally.record_answer some
        · rfl
      obtain ⟨earlier, since, split, none, throughout⟩ := ih some
      have whole := congrArg (· ++ [call]) split
      simp only [List.append_assoc, List.cons_append] at whole
      rw [same]
      refine ⟨earlier, since ++ [call], whole, none, ?_⟩
      intro part before
      rcases List.prefix_concat_iff.1 before with rfl | before
      · rw [← whole]
        exact owned
      · exact throughout part before

/-! ### Calls on different identities -/

/-- Tables that hold the same answer a call alike, and hold the same afterwards. -/
lemma answer_congr (same : ∀ id, descriptors.get? id = descriptors'.get? id)
    (call : DescriptorCall) :
    (answer descriptors call).1 = (answer descriptors' call).1 ∧
      ∀ id, (answer descriptors call).2.1.get? id = (answer descriptors' call).2.1.get? id := by
  obtain ⟨answered, left⟩ := answer_eq descriptors call
  obtain ⟨answered', left'⟩ := answer_eq descriptors' call
  exact ⟨by rw [answered, answered', same], fun id => by rw [left, left', same, same]⟩

lemma exchanges_congr (same : ∀ id, descriptors.get? id = descriptors'.get? id)
    (calls : List DescriptorCall) :
    exchanges descriptors calls = exchanges descriptors' calls ∧
      ∀ id, (serve descriptors calls).get? id = (serve descriptors' calls).get? id := by
  induction calls generalizing descriptors descriptors' with
  | nil => exact ⟨rfl, same⟩
  | cons call rest ih =>
    obtain ⟨answered, left⟩ := answer_congr same call
    obtain ⟨answers, held⟩ := ih left
    exact ⟨by simp only [exchanges, answered, answers], held⟩

/-- Calls on different identities may change places. -/
lemma answer_comm (descriptors : MemoryDescriptors) {other : DescriptorCall}
    (apart : call.subject ≠ other.subject) :
    (answer (answer descriptors call).2.1 other).1 = (answer descriptors other).1 ∧
      (answer (answer descriptors other).2.1 call).1 = (answer descriptors call).1 ∧
      ∀ id, (answer (answer descriptors call).2.1 other).2.1.get? id =
        (answer (answer descriptors other).2.1 call).2.1.get? id := by
  obtain ⟨answered, left⟩ := answer_eq descriptors call
  obtain ⟨answered', left'⟩ := answer_eq descriptors other
  obtain ⟨second, last⟩ := answer_eq (answer descriptors call).2.1 other
  obtain ⟨second', last'⟩ := answer_eq (answer descriptors other).2.1 call
  rw [left, if_neg apart.symm] at second last
  rw [left', if_neg apart] at second' last'
  refine ⟨second.trans answered'.symm, second'.trans answered.symm, ?_⟩
  intro id
  rw [last, last', left, left']
  by_cases own : id = call.subject
  · subst own
    simp [apart]
  · simp [own]

/-! ### All that there is to a table -/

/-- What is answered by a table that was empty before some calls, and what there is in it after
them. -/
structure Lifecycle (calls : List DescriptorCall) : Prop where
  /-- The calls on an identity are answered by a count that knows of no others. -/
  answered (id : ContentId) :
    (exchanges (∅ : MemoryDescriptors) calls).filter (fun exchange => exchange.1.subject = id) =
      Tally.exchanges {} (calls.filter fun call => call.subject = id)
  /-- An identity is there as long as its count is not zero. -/
  present (id : ContentId) (holding : Holding) :
    (serve (∅ : MemoryDescriptors) calls).get? id = some holding ↔
      0 < (Tally.ofCalls id calls).owners ∧ holding.owners = (Tally.ofCalls id calls).owners ∧
        holding.descriptor = (Tally.ofCalls id calls).record
  /-- Its descriptor was brought when it was last absent. -/
  first (id : ContentId) (holding : Holding) :
    (serve (∅ : MemoryDescriptors) calls).get? id = some holding →
      ∃ earlier since, calls = earlier ++ .create id holding.descriptor :: since ∧
        (serve (∅ : MemoryDescriptors) earlier).get? id = none ∧
        ∀ part, part <+: since → ∃ held,
          (serve (∅ : MemoryDescriptors) (earlier ++ .create id holding.descriptor :: part)).get? id
            = some held
  /-- Two calls that follow each other may change places if they are on different identities. -/
  swapped (before after : List DescriptorCall) (call other : DescriptorCall) :
    calls = before ++ call :: other :: after → call.subject ≠ other.subject →
      (serve (∅ : MemoryDescriptors) calls).entries.Perm
          (serve (∅ : MemoryDescriptors) (before ++ other :: call :: after)).entries ∧
        ∃ front answered answered' back, front.length = before.length ∧
          exchanges (∅ : MemoryDescriptors) calls =
            front ++ ⟨call, answered⟩ :: ⟨other, answered'⟩ :: back ∧
          exchanges (∅ : MemoryDescriptors) (before ++ other :: call :: after) =
            front ++ ⟨other, answered'⟩ :: ⟨call, answered⟩ :: back

/-- Every table of descriptors that began empty does no more than count. -/
theorem lifecycle (calls : List DescriptorCall) : Lifecycle calls := by
  refine ⟨?_, ?_, ?_, ?_⟩
  · intro id
    exact (exchanges_of_tally calls rfl).1
  · intro id holding
    rw [get?_serve, Tally.holding?_eq_some_iff]
  · intro id holding found
    rw [get?_serve, Tally.holding?_eq_some_iff] at found
    obtain ⟨owned, -, brought⟩ := found
    obtain ⟨earlier, since, split, none, throughout⟩ := exists_first id calls owned
    rw [brought]
    refine ⟨earlier, since, split, ?_, ?_⟩
    · rw [get?_serve, Tally.holding?, if_pos none]
    · intro part before
      rw [get?_serve]
      exact ⟨⟨_, _⟩, Tally.holding?_eq_some_iff.2 ⟨throughout part before, rfl, rfl⟩⟩
  · rintro before after call other rfl apart
    let start := serve (∅ : MemoryDescriptors) before
    obtain ⟨second, second', left⟩ := answer_comm start apart
    obtain ⟨answers, held⟩ := exchanges_congr left after
    constructor
    · apply (List.perm_ext_iff_of_nodup (Table.nodup_entries _) (Table.nodup_entries _)).2
      rintro ⟨id, holding⟩
      rw [← Table.get?_eq_some_iff, ← Table.get?_eq_some_iff, serve_append, serve_append]
      exact iff_of_eq (congrArg (· = some holding) (held id))
    · refine ⟨exchanges (∅ : MemoryDescriptors) before, (answer start call).1,
        (answer start other).1, exchanges (answer (answer start call).2.1 other).2.1 after,
        length_exchanges _ _, ?_, ?_⟩
      · rw [exchanges_append, exchanges, exchanges, second]
      · rw [exchanges_append, exchanges, exchanges, second', answers]

end MemoryDescriptors

end AssetCache
