import AssetCache.Proofs.Cache.Slots
import Mathlib.Tactic.Common

/-!
# The tickets and the entry of a key

Whatever is done to the slots, what becomes of one key depends on its own slot alone
(`Slots.get?_answer`). Three things can be seen of a key: the tickets of the puts that are under way
on it, the ticket of the last one that was submitted, and its entry. There is one equation for each
of them that says what a call makes of it.
-/

namespace AssetCache

/-! ### One slot -/

namespace Slot

/-- A slot, unless it is idle. -/
def kept? (slot : Slot) : Option Slot :=
  if slot.isIdle then none else some slot

/-- What there is of the slot of a key after a call, by what there was. -/
def next (key : String) (issued : Nat) (held : Option Slot) : SlotsCall → Option Slot
  | .submit other =>
    if key = other then
      let slot := held.getD {}
      some { slot with latest := issued + 1, inFlight := slot.inFlight ++ [issued + 1] }
    else held
  | .withdraw other ticket =>
    if key = other then held.bind fun slot => (slot.without ticket).kept? else held
  | .publish other ticket entry =>
    if key = other then
      held.map fun slot =>
        if ticket ∈ slot.inFlight then
          if slot.latest = ticket then { slot.without ticket with entry := some entry }
          else slot.without ticket
        else slot
    else held
  | .lookup other now =>
    if key = other then
      held.bind fun slot =>
        if slot.entry.any (·.isExpired now) then kept? { slot with entry := none } else some slot
    else held
  | .remove other => if key = other then none else held
  | .removeAll others => if key ∈ others then none else held
  | .sweep now => held.bind fun slot => (Slots.swept now slot).kept?

lemma kept?_eq_filter (slot : Slot) : slot.kept? = (some slot).filter fun slot => !slot.isIdle := by
  unfold kept?
  split
  · next idle => simp [Option.filter_some, idle]
  · next busy => simp [Option.filter_some, busy]

/-- Nothing that can be seen of a slot is lost with an idle one. -/
lemma inFlight_kept? (slot : Slot) : slot.kept?.elim [] inFlight = slot.inFlight := by
  unfold kept?
  split
  · next idle => exact (isIdle_iff.1 idle).2.symm
  · rfl

lemma entry_kept? (slot : Slot) : slot.kept?.bind entry = slot.entry := by
  unfold kept?
  split
  · next idle => exact (isIdle_iff.1 idle).1.symm
  · rfl

/-- A look-up leaves the entry, unless it is expired. -/
lemma entry_lookup (key : String) (issued : Nat) (held : Option Slot) (now : Instant) :
    (next key issued held (.lookup key now)).bind entry =
      (held.bind entry).filter fun entry => !entry.isExpired now := by
  cases held with
  | none => simp [next]
  | some slot =>
    simp only [next, if_true, Option.bind_some]
    cases there : slot.entry with
    | none => simp [there]
    | some entry =>
      cases stale : entry.isExpired now with
      | true => simp [stale, entry_kept?, Option.filter_some]
      | false => simp [stale, there, Option.filter_some]

lemma latest_of_kept? {slot : Slot} {ticket : Nat}
    (kept : slot.kept?.map latest = some ticket) : slot.latest = ticket := by
  unfold kept? at kept
  split at kept
  · cases kept
  · exact Option.some.inj kept

lemma mem_inFlight_without {slot : Slot} {ticket other : Nat} :
    other ∈ (slot.without ticket).inFlight ↔ other ∈ slot.inFlight ∧ ticket ≠ other := by
  simp only [without, List.mem_filter, decide_eq_true_eq]
  rw [ne_comm]

end Slot

namespace Slots

variable {slots : Slots} {key : String} {ticket : Nat} {entry : Entry ContentId}

lemma get?_settle (slots : Slots) (key : String) (slot : Slot) (other : String) :
    (slots.settle key slot).byKey.get? other =
      if other = key then slot.kept? else slots.byKey.get? other := by
  unfold settle Slot.kept?
  split
  · exact Table.get?_erase _ _ _
  · exact Table.get?_insert _ _ _ _

lemma get?_removeAll (slots : Slots) (keys : List String) (key : String) :
    (slots.removeAll keys).2.byKey.get? key =
      if key ∈ keys then none else slots.byKey.get? key := by
  induction keys generalizing slots with
  | nil => rfl
  | cons other rest ih =>
    have first : (slots.remove other).2.byKey.get? key =
      if key = other then none else slots.byKey.get? key := Table.get?_erase _ _ _
    show ((slots.remove other).2.removeAll rest).2.byKey.get? key = _
    rw [ih, first]
    by_cases own : key = other
    · simp [own]
    · simp [own]

lemma get?_withdraw (slots : Slots) (key other : String) (ticket : Nat) :
    (slots.withdraw other ticket).byKey.get? key =
      Slot.next key slots.issued (slots.byKey.get? key) (.withdraw other ticket) := by
  unfold withdraw
  by_cases own : key = other
  · subst own
    cases found : slots.byKey.get? key with
    | none => simp [Slot.next, found]
    | some slot => simp [Slot.next, get?_settle]
  · cases slots.byKey.get? other with
    | none => simp [Slot.next, own]
    | some slot => simp [Slot.next, own, get?_settle]

lemma get?_publish (slots : Slots) (key other : String) (ticket : Nat) (entry : Entry ContentId) :
    (slots.publish other ticket entry).2.byKey.get? key =
      Slot.next key slots.issued (slots.byKey.get? key) (.publish other ticket entry) := by
  unfold publish
  by_cases own : key = other
  · subst own
    cases found : slots.byKey.get? key with
    | none => simp [Slot.next, found]
    | some slot =>
      simp only [Slot.next, if_true, Option.map_some]
      split
      · split
        · simp
        · simp
      · exact found
  · simp only [Slot.next, if_neg own]
    cases slots.byKey.get? other with
    | none => rfl
    | some slot =>
      dsimp only
      split
      · split
        · simp [own]
        · simp [own]
      · rfl

lemma get?_lookup (slots : Slots) (key other : String) (now : Instant) :
    (slots.lookup other now).2.byKey.get? key =
      Slot.next key slots.issued (slots.byKey.get? key) (.lookup other now) := by
  unfold lookup
  by_cases own : key = other
  · subst own
    cases found : slots.byKey.get? key with
    | none => simp [Slot.next, found]
    | some slot =>
      cases held : slot.entry with
      | none => simp [Slot.next, found, held]
      | some entry =>
        simp only [held, Slot.next, if_true, Option.bind_some, Option.any_some]
        split
        · rw [get?_settle, if_pos rfl]
        · exact found
  · simp only [Slot.next, if_neg own]
    cases slots.byKey.get? other with
    | none => rfl
    | some slot =>
      cases held : slot.entry with
      | none => simp [held]
      | some entry =>
        simp only [held]
        split
        · rw [get?_settle, if_neg own]
        · rfl

lemma get?_sweep (slots : Slots) (key : String) (now : Instant) :
    (slots.sweep now).2.byKey.get? key =
      Slot.next key slots.issued (slots.byKey.get? key) (.sweep now) := by
  simp only [sweep, Table.get?_filter, Table.get?_map, Slot.next]
  cases slots.byKey.get? key with
  | none => rfl
  | some slot => exact (Slot.kept?_eq_filter _).symm

/-- What a call leaves of a slot is what it makes of that slot. -/
theorem get?_answer (slots : Slots) (call : SlotsCall) (key : String) :
    (slots.answer call).2.byKey.get? key =
      Slot.next key slots.issued (slots.byKey.get? key) call := by
  cases call with
  | submit other =>
    simp only [answer, submit, Table.get?_insert, Slot.next]
    split
    · next own => rw [own]
    · rfl
  | withdraw other ticket => exact slots.get?_withdraw key other ticket
  | publish other ticket entry => exact slots.get?_publish key other ticket entry
  | lookup other now => exact slots.get?_lookup key other now
  | remove other => exact Table.get?_erase _ _ _
  | removeAll others => exact slots.get?_removeAll others key
  | sweep now => exact slots.get?_sweep key now

/-! ### What can be seen of a key -/

/-- The tickets of the puts that are under way on a key. -/
def underWay (slots : Slots) (key : String) : List Nat :=
  (slots.byKey.get? key).elim [] Slot.inFlight

/-- The ticket of the last put that was submitted on a key, as long as the key has a slot. -/
def latest? (slots : Slots) (key : String) : Option Nat :=
  (slots.byKey.get? key).map Slot.latest

/-- The entry of a key. -/
def held? (slots : Slots) (key : String) : Option (Entry ContentId) :=
  (slots.byKey.get? key).bind Slot.entry

/-- A key that puts are under way on has a slot. -/
lemma exists_latest? (pending : ticket ∈ slots.underWay key) :
    ∃ last, slots.latest? key = some last := by
  unfold underWay at pending
  unfold latest?
  cases found : slots.byKey.get? key with
  | none =>
    rw [found] at pending
    exact absurd pending List.not_mem_nil
  | some slot => exact ⟨slot.latest, rfl⟩

lemma contentId?_eq (slots : Slots) (key : String) :
    slots.contentId? key = (slots.held? key).map Entry.value := by
  unfold contentId? held? Slot.content?
  cases slots.byKey.get? key with
  | none => rfl
  | some slot => rfl

lemma answer_lookup_eq_live {key : String} {now : Instant} {id : ContentId}
    (live : (slots.answer (.lookup key now)).1 = .live id) :
    ∃ entry, slots.held? key = some entry ∧ entry.value = id := by
  unfold held?
  simp only [answer, lookup] at live
  cases found : slots.byKey.get? key with
  | none => simp [found] at live
  | some slot =>
    cases held : slot.entry with
    | none => simp [found, held] at live
    | some entry =>
      simp only [found, held] at live
      split at live
      · cases live
      · cases live
        exact ⟨entry, held, rfl⟩

/-- A put publishes its content if it is still under way, and is the last one. -/
lemma answer_publish_isPublished :
    (slots.answer (.publish key ticket entry)).1.isPublished = true ↔
      ticket ∈ slots.underWay key ∧ slots.latest? key = some ticket := by
  unfold underWay latest?
  simp only [answer, publish]
  cases slots.byKey.get? key with
  | none => simp
  | some slot =>
    simp only [Option.elim_some, Option.map_some, Option.some.injEq]
    split
    · next pending =>
      split
      · next last => simp [pending, last]
      · next overtaken => simp [overtaken]
    · next gone => simp [gone]

end Slots

/-! ### What a call does to a key -/

namespace SlotsCall

/-- Whether a key is dropped. -/
def Drops (key : String) : SlotsCall → Prop
  | remove other => other = key
  | removeAll others => key ∈ others
  | _ => False

/-- Whether a put is submitted, and gets a ticket. -/
def isSubmission : SlotsCall → Bool
  | submit _ => true
  | _ => false

/-- Whether a put is submitted on a key, and gets a ticket. -/
def Obtains (key : String) (ticket : Nat) : (call : SlotsCall) → call.Answer → Prop
  | submit other, ticket' => other = key ∧ ticket' = ticket
  | _, _ => False

/-- Whether a put on a key comes to its end, one way or the other. -/
def Settles (key : String) (ticket : Nat) : SlotsCall → Prop
  | withdraw other ticket' => other = key ∧ ticket' = ticket
  | publish other ticket' _ => other = key ∧ ticket' = ticket
  | _ => False

/-- Whether an entry that a key may have expires. -/
def Expires (key : String) (entry : Entry ContentId) : SlotsCall → Prop
  | lookup other now => other = key ∧ entry.isExpired now = true
  | sweep now => entry.isExpired now = true
  | _ => False

/-- Whether the content of a put becomes the entry of a key. -/
def Publishes (key : String) (ticket : Nat) (entry : Entry ContentId) :
    (call : SlotsCall) → call.Answer → Prop
  | publish other ticket' entry', publication =>
    other = key ∧ ticket' = ticket ∧ entry' = entry ∧ publication.isPublished = true
  | _, _ => False

end SlotsCall

namespace Slots

variable {slots : Slots} {key : String} {ticket : Nat} {entry : Entry ContentId}

lemma issued_removeAll (slots : Slots) (keys : List String) :
    (slots.removeAll keys).2.issued = slots.issued := by
  induction keys generalizing slots with
  | nil => rfl
  | cons key rest ih => exact ih _

/-- Every submission gets a ticket of its own. -/
lemma issued_answer (slots : Slots) (call : SlotsCall) :
    (slots.answer call).2.issued = slots.issued + call.isSubmission.toNat := by
  cases call with
  | submit key => rfl
  | withdraw key ticket =>
    simp only [answer, withdraw]
    split
    · rfl
    · rfl
  | publish key ticket entry =>
    simp only [answer, publish]
    split
    · rfl
    · split
      · split
        · rfl
        · rfl
      · rfl
  | lookup key now =>
    simp only [answer, lookup]
    split
    · rfl
    · split
      · rfl
      · split
        · rfl
        · rfl
  | remove key => rfl
  | removeAll keys => exact slots.issued_removeAll keys
  | sweep now => rfl

/-- A put is under way from its submission to its end, unless its key is dropped. -/
theorem mem_underWay_answer (slots : Slots) (call : SlotsCall) :
    ticket ∈ (slots.answer call).2.underWay key ↔
      call = .submit key ∧ ticket = slots.issued + 1 ∨
        ticket ∈ slots.underWay key ∧ ¬ call.Drops key ∧ ¬ call.Settles key ticket := by
  unfold underWay
  rw [get?_answer]
  generalize slots.byKey.get? key = held
  cases call with
  | submit other =>
    by_cases own : key = other
    · subst own
      cases held with
      | none => simp [Slot.next, SlotsCall.Drops, SlotsCall.Settles]
      | some slot => simp [Slot.next, SlotsCall.Drops, SlotsCall.Settles, or_comm]
    · simp [Slot.next, own, Ne.symm own, SlotsCall.Drops, SlotsCall.Settles]
  | withdraw other ticket' =>
    by_cases own : key = other
    · subst own
      cases held with
      | none => simp [Slot.next]
      | some slot =>
        simp [Slot.next, Slot.inFlight_kept?, Slot.mem_inFlight_without, SlotsCall.Drops,
          SlotsCall.Settles]
    · simp [Slot.next, own, Ne.symm own, SlotsCall.Drops, SlotsCall.Settles]
  | publish other ticket' entry =>
    by_cases own : key = other
    · subst own
      cases held with
      | none => simp [Slot.next]
      | some slot =>
        simp only [Slot.next, if_true, Option.map_some, Option.elim_some, reduceCtorEq, false_and,
          SlotsCall.Drops, not_false_eq_true, SlotsCall.Settles, true_and, false_or]
        rw [← Slot.mem_inFlight_without]
        split
        · split
          · rfl
          · rfl
        · next gone =>
          rw [Slot.mem_inFlight_without]
          constructor
          · intro pending
            exact ⟨pending, fun same => gone (same ▸ pending)⟩
          · exact And.left
    · simp [Slot.next, own, Ne.symm own, SlotsCall.Drops, SlotsCall.Settles]
  | lookup other now =>
    have kept (slot : Slot) (key' : String) :
        (Slot.next key' slots.issued (some slot) (.lookup other now)).elim [] Slot.inFlight =
          slot.inFlight := by
      simp only [Slot.next, Option.bind_some]
      split
      · split
        · exact Slot.inFlight_kept? _
        · rfl
      · rfl
    cases held with
    | none => simp [Slot.next]
    | some slot => simp [kept, SlotsCall.Drops, SlotsCall.Settles]
  | remove other =>
    by_cases own : key = other
    · simp [Slot.next, own, SlotsCall.Drops]
    · simp [Slot.next, own, Ne.symm own, SlotsCall.Drops, SlotsCall.Settles]
  | removeAll others =>
    by_cases own : key ∈ others
    · simp [Slot.next, own, SlotsCall.Drops]
    · simp [Slot.next, own, SlotsCall.Drops, SlotsCall.Settles]
  | sweep now =>
    cases held with
    | none => simp [Slot.next]
    | some slot =>
      simp [Slot.next, Slot.inFlight_kept?, swept, SlotsCall.Drops, SlotsCall.Settles]

/-- The last ticket of a key comes from its last submission, as long as the key is not dropped. -/
theorem latest?_answer {call : SlotsCall}
    (last : (slots.answer call).2.latest? key = some ticket) :
    call = .submit key ∧ ticket = slots.issued + 1 ∨
      slots.latest? key = some ticket ∧ call ≠ .submit key ∧ ¬ call.Drops key := by
  unfold latest? at last ⊢
  rw [get?_answer] at last
  generalize slots.byKey.get? key = held at last ⊢
  cases call with
  | submit other =>
    by_cases own : key = other
    · subst own
      simp only [Slot.next, if_true, Option.map_some, Option.some.injEq] at last
      exact Or.inl ⟨rfl, last.symm⟩
    · simp only [Slot.next, if_neg own] at last
      exact Or.inr ⟨last, by simpa using Ne.symm own, nofun⟩
  | withdraw other ticket' =>
    refine Or.inr ⟨?_, nofun, nofun⟩
    by_cases own : key = other
    · cases held with
      | none => simp [Slot.next, own] at last
      | some slot =>
        simp only [Slot.next, if_pos own, Option.bind_some] at last
        have same := Slot.latest_of_kept? last
        exact congrArg some same
    · simpa only [Slot.next, if_neg own] using last
  | publish other ticket' entry =>
    refine Or.inr ⟨?_, nofun, nofun⟩
    by_cases own : key = other
    · cases held with
      | none => simp [Slot.next, own] at last
      | some slot =>
        simp only [Slot.next, if_pos own, Option.map_some, Option.some.injEq] at last
        split at last
        · split at last
          · exact congrArg some last
          · exact congrArg some last
        · exact congrArg some last
    · simpa only [Slot.next, if_neg own] using last
  | lookup other now =>
    refine Or.inr ⟨?_, nofun, nofun⟩
    by_cases own : key = other
    · cases held with
      | none => simp [Slot.next, own] at last
      | some slot =>
        simp only [Slot.next, if_pos own, Option.bind_some] at last
        split at last
        · have same := Slot.latest_of_kept? last
          exact congrArg some same
        · exact last
    · simpa only [Slot.next, if_neg own] using last
  | remove other =>
    by_cases own : key = other
    · simp [Slot.next, own] at last
    · simp only [Slot.next, if_neg own] at last
      exact Or.inr ⟨last, nofun, Ne.symm own⟩
  | removeAll others =>
    by_cases own : key ∈ others
    · simp [Slot.next, own] at last
    · simp only [Slot.next, if_neg own] at last
      exact Or.inr ⟨last, nofun, own⟩
  | sweep now =>
    refine Or.inr ⟨?_, nofun, nofun⟩
    cases held with
    | none => simp [Slot.next] at last
    | some slot =>
      have same : (swept now slot).latest = ticket := Slot.latest_of_kept? last
      exact congrArg some same

lemma held?_publish (slots : Slots) (key other : String) (ticket : Nat)
    (entry : Entry ContentId) :
    (slots.publish other ticket entry).2.held? key =
      if key = other ∧ (slots.publish other ticket entry).1.isPublished = true then some entry
      else slots.held? key := by
  unfold held?
  rw [get?_publish]
  by_cases own : key = other
  · subst own
    unfold publish
    cases found : slots.byKey.get? key with
    | none => simp [Slot.next]
    | some slot =>
      simp only [Slot.next, if_true, Option.map_some, Option.bind_some, true_and]
      split
      · split
        · rfl
        · rfl
      · rfl
  · simp [Slot.next, own]

/-- An entry was published, and stays until another one is, it expires or its key is dropped. -/
theorem held?_answer (slots : Slots) (call : SlotsCall) :
    (slots.answer call).2.held? key = some entry ↔
      (∃ ticket, call.Publishes key ticket entry (slots.answer call).1) ∨
        slots.held? key = some entry ∧ ¬ call.Drops key ∧ ¬ call.Expires key entry ∧
          ∀ ticket entry', ¬ call.Publishes key ticket entry' (slots.answer call).1 := by
  cases call with
  | publish other ticket entry' =>
    show (slots.publish other ticket entry').2.held? key = some entry ↔ _
    rw [held?_publish]
    simp only [SlotsCall.Publishes, SlotsCall.Drops, SlotsCall.Expires, answer]
    split
    · next published => simp [published, eq_comm]
    · next unpublished =>
      have never (ticket' : Nat) (entry'' : Entry ContentId) : ¬ (other = key ∧ ticket = ticket' ∧
          entry' = entry'' ∧ (slots.publish other ticket entry').1.isPublished = true) :=
        fun published => unpublished ⟨published.1.symm, published.2.2.2⟩
      constructor
      · exact fun held => Or.inr ⟨held, not_false, not_false, never⟩
      · rintro (⟨ticket', published⟩ | ⟨held, -⟩)
        · exact absurd published (never ticket' entry)
        · exact held
  | submit other =>
    simp only [SlotsCall.Publishes, SlotsCall.Drops, SlotsCall.Expires, held?, get?_answer]
    by_cases own : key = other
    · cases slots.byKey.get? key with
      | none => simp [Slot.next, own]
      | some slot => simp [Slot.next, own]
    · simp [Slot.next, own]
  | withdraw other ticket =>
    simp only [SlotsCall.Publishes, SlotsCall.Drops, SlotsCall.Expires, held?, get?_answer]
    by_cases own : key = other
    · cases slots.byKey.get? key with
      | none => simp [Slot.next, own]
      | some slot => simp [Slot.next, own, Slot.entry_kept?, Slot.without]
    · simp [Slot.next, own]
  | lookup other now =>
    simp only [SlotsCall.Publishes, SlotsCall.Drops, SlotsCall.Expires, held?, get?_answer]
    by_cases own : key = other
    · subst own
      rw [Slot.entry_lookup]
      simp [Option.filter_eq_some_iff]
    · simp [Slot.next, own, Ne.symm own]
  | remove other =>
    simp only [SlotsCall.Publishes, SlotsCall.Drops, SlotsCall.Expires, held?, get?_answer]
    by_cases own : key = other
    · simp [Slot.next, own]
    · simp [Slot.next, own, Ne.symm own]
  | removeAll others =>
    simp only [SlotsCall.Publishes, SlotsCall.Drops, SlotsCall.Expires, held?, get?_answer]
    by_cases own : key ∈ others
    · simp [Slot.next, own]
    · simp [Slot.next, own]
  | sweep now =>
    simp only [SlotsCall.Publishes, SlotsCall.Drops, SlotsCall.Expires, held?, get?_answer]
    cases slots.byKey.get? key with
    | none => simp [Slot.next]
    | some slot =>
      simp [Slot.next, Slot.entry_kept?, swept, Option.filter_eq_some_iff]

end Slots

end AssetCache
