import AssetCache.Proofs.Cache.Rivals

/-!
# Slots that are left behind

A slot is there for an entry or for a put that is under way, and is dropped with the last of them.
There is one way in which it is not dropped: a put that was overtaken comes to publish its content
when no other put is under way on its key any more, and the key has no entry (the later ones failed,
or what they published has expired). Then the slot stays and holds nothing, until the key is put,
dropped or swept the next time (`ContentCache.slot_accounted`, `ContentCache.exists_left`).
-/

namespace AssetCache

/-! ### Idle slots -/

/-- Whether a call does away with an idle slot of a key, or takes it into use. -/
def SlotsCall.Clears (key : String) : SlotsCall → Prop
  | submit other => other = key
  | withdraw other _ => other = key
  | remove other => other = key
  | removeAll others => key ∈ others
  | sweep _ => True
  | _ => False

namespace Slot

/-- What is kept of a slot is not idle. -/
lemma any_isIdle_kept? (slot : Slot) : slot.kept?.any isIdle = false := by
  unfold kept?
  split
  · rfl
  · next busy => simpa using busy

/-- A slot is idle without a ticket if it has no other one and no entry. -/
lemma isIdle_without_iff {slot : Slot} {ticket : Nat} :
    (slot.without ticket).isIdle = true ↔
      slot.entry = none ∧ ∀ other ∈ slot.inFlight, other = ticket := by
  rw [isIdle_iff, without, List.filter_eq_nil_iff]
  simp

end Slot

namespace Slots

variable {slots : Slots} {key : String} {ticket : Nat} {entry : Entry ContentId}

/-- Whether a key has a slot that is idle. -/
def isIdleAt (slots : Slots) (key : String) : Bool :=
  (slots.byKey.get? key).any Slot.isIdle

lemma isIdleAt_iff : slots.isIdleAt key = true ↔
    ∃ slot, slots.byKey.get? key = some slot ∧ slot.entry = none ∧ slot.inFlight = [] := by
  simp only [isIdleAt, Option.any_eq_true, Slot.isIdle_iff]

/-- A put leaves the slot of its key idle if it does not publish, and the key has no entry and no
other put under way on it. -/
structure Strands (slots : Slots) (key : String) (ticket : Nat) (publication : Publication) :
    Prop where
  overtaken : publication.isPublished = false
  alone : ∀ other, other ∈ slots.underWay key ↔ other = ticket
  vacant : slots.held? key = none

lemma strands_publish_iff : slots.Strands key ticket (slots.publish key ticket entry).1 ↔
    ∃ slot, slots.byKey.get? key = some slot ∧ ticket ∈ slot.inFlight ∧ slot.latest ≠ ticket ∧
      (slot.without ticket).isIdle = true := by
  have published : (slots.publish key ticket entry).1.isPublished = true ↔
      ticket ∈ slots.underWay key ∧ slots.latest? key = some ticket := answer_publish_isPublished
  unfold underWay latest? at published
  simp only [Slot.isIdle_without_iff]
  constructor
  · rintro ⟨overtaken, alone, vacant⟩
    have pending := (alone ticket).2 rfl
    unfold underWay at alone pending
    unfold held? at vacant
    cases found : slots.byKey.get? key with
    | none =>
      rw [found] at pending
      exact absurd pending List.not_mem_nil
    | some slot =>
      rw [found] at alone pending vacant published
      refine ⟨slot, rfl, pending, ?_, vacant, fun other => (alone other).1⟩
      rintro last
      rw [published.2 ⟨pending, congrArg some last⟩] at overtaken
      contradiction
  · rintro ⟨slot, found, pending, overtaken, vacant, alone⟩
    rw [found] at published
    refine ⟨?_, ?_, ?_⟩
    · rw [Bool.eq_false_iff]
      exact fun done => overtaken (Option.some.inj (published.1 done).2)
    · intro other
      unfold underWay
      rw [found]
      exact ⟨alone other, fun same => same ▸ pending⟩
    · unfold held?
      rw [found]
      exact vacant

/-- A put that comes to publish leaves an idle slot where there was one before, or strands it. -/
lemma isIdleAt_publish (slots : Slots) (key : String) (ticket : Nat) (entry : Entry ContentId) :
    (slots.publish key ticket entry).2.isIdleAt key = true ↔
      slots.Strands key ticket (slots.publish key ticket entry).1 ∨ slots.isIdleAt key = true := by
  rw [strands_publish_iff, isIdleAt, isIdleAt, get?_publish]
  cases slots.byKey.get? key with
  | none => simp [Slot.next]
  | some slot =>
    simp only [Slot.next, if_true, Option.map_some, Option.any_some, Option.some.injEq,
      exists_eq_left']
    by_cases pending : ticket ∈ slot.inFlight
    · have busy : slot.isIdle = false := by
        rw [Bool.eq_false_iff, Ne, Slot.isIdle_iff]
        rintro ⟨-, nobody⟩
        rw [nobody] at pending
        exact List.not_mem_nil pending
      have filled : Slot.isIdle { slot.without ticket with entry := some entry } = false := rfl
      by_cases last : slot.latest = ticket
      · simp [pending, last, busy, filled]
      · simp [pending, last, busy]
    · simp [pending]

/-- A slot becomes idle in one way only, and stays so until it is cleared. -/
theorem isIdleAt_answer (slots : Slots) (call : SlotsCall) (key : String) :
    (slots.answer call).2.isIdleAt key = true ↔
      (∃ ticket entry, call = .publish key ticket entry ∧
        slots.Strands key ticket (slots.publish key ticket entry).1) ∨
      slots.isIdleAt key = true ∧ ¬ call.Clears key := by
  by_cases publishes : ∃ ticket entry, call = .publish key ticket entry
  · obtain ⟨ticket, entry, rfl⟩ := publishes
    show (slots.publish key ticket entry).2.isIdleAt key = true ↔ _
    rw [isIdleAt_publish]
    simp only [SlotsCall.Clears, not_false_eq_true, and_true]
    refine or_congr_left ⟨fun strands => ⟨ticket, entry, rfl, strands⟩, ?_⟩
    rintro ⟨ticket', entry', ⟨⟩, strands⟩
    exact strands
  · rw [or_iff_right (fun ⟨ticket, entry, same, _⟩ => publishes ⟨ticket, entry, same⟩)]
    unfold isIdleAt
    rw [get?_answer]
    generalize slots.byKey.get? key = held
    cases call with
    | submit other =>
      by_cases own : key = other
      · simp [Slot.next, own, Slot.isIdle, SlotsCall.Clears]
      · simp [Slot.next, own, Ne.symm own, SlotsCall.Clears]
    | withdraw other ticket =>
      by_cases own : key = other
      · cases held with
        | none => simp [Slot.next, own]
        | some slot => simp [Slot.next, own, Slot.any_isIdle_kept?, SlotsCall.Clears]
      · simp [Slot.next, own, Ne.symm own, SlotsCall.Clears]
    | publish other ticket entry =>
      have other : key ≠ other := by
        rintro rfl
        exact publishes ⟨ticket, entry, rfl⟩
      simp [Slot.next, other, SlotsCall.Clears]
    | lookup other now =>
      by_cases own : key = other
      · cases held with
        | none => simp [Slot.next, own]
        | some slot =>
          simp only [Slot.next, if_pos own, Option.bind_some, SlotsCall.Clears, not_false_eq_true,
            and_true, Option.any_some]
          split
          · next stale =>
            -- A slot that has an entry was not idle before.
            have busy : slot.isIdle = false := by
              cases held : slot.entry with
              | none =>
                rw [held] at stale
                contradiction
              | some entry => simp [Slot.isIdle, held]
            rw [Slot.any_isIdle_kept?, busy]
          · rfl
      · simp [Slot.next, own, SlotsCall.Clears]
    | remove other =>
      by_cases own : key = other
      · simp [Slot.next, own, SlotsCall.Clears]
      · simp [Slot.next, own, Ne.symm own, SlotsCall.Clears]
    | removeAll others =>
      by_cases own : key ∈ others
      · simp [Slot.next, own, SlotsCall.Clears]
      · simp [Slot.next, own, SlotsCall.Clears]
    | sweep now =>
      cases held with
      | none => simp [Slot.next]
      | some slot => simp [Slot.next, Slot.any_isIdle_kept?, SlotsCall.Clears]

end Slots

/-! ### What was left behind by the log -/

/-- Whether something does away with an idle slot of a key, or takes it into use. -/
def Answered.Clears (answered : Answered) (key : String) : Prop :=
  answered.Does fun call _ => call.Clears key

/-- After what was done before, a put comes to its end that is the only one under way on its key. A
later one had been submitted, and the key has no entry. -/
inductive Strands (log : List Answered) (key : String) : Answered → Prop
  | publish {member ticket : Nat} {entry : Entry ContentId} {publication : Publication}
    (alone : ∀ other, Since (·.Obtains key other)
      (fun answered => answered.Drops key ∨ answered.Settles key other) log ↔ other = ticket)
    (overtaken : ∃ later ∈ log, ∃ ticket', ticket < ticket' ∧ later.Obtains key ticket')
    (vacant : ∀ entry', ¬ Since (fun answered => ∃ ticket, answered.Publishes key ticket entry')
      (fun answered => answered.Drops key ∨ answered.Expires key entry' ∨
        ∃ ticket entry'', answered.Publishes key ticket entry'') log) :
    Strands log key ⟨member, .slots (.publish key ticket entry), publication⟩

/-- A put has stranded the slot of a key, and nobody has cleared it since. -/
def LeftBehind (log : List Answered) (key : String) : Prop :=
  SinceThen (fun before => Strands before key) (·.Clears key) log

lemma not_strands_of_beside {log : List Answered} {key : String} {answered : Answered}
    (beside : answered.call.Beside) : ¬ Strands log key answered := by
  rintro ⟨⟩
  exact beside

namespace Slots.Records

variable {slots : Slots} {log : List Answered} {key : String} {ticket : Nat}
  {entry : Entry ContentId}

/-- What a put does to the slot of its key is known from the log. -/
lemma strands_iff (records : Slots.Records log slots) (member : Nat) :
    slots.Strands key ticket (slots.publish key ticket entry).1 ↔
      AssetCache.Strands log key
        ⟨member, .slots (.publish key ticket entry), (slots.publish key ticket entry).1⟩ := by
  have published : (slots.publish key ticket entry).1.isPublished = true ↔
      ticket ∈ slots.underWay key ∧ slots.latest? key = some ticket :=
    Slots.answer_publish_isPublished
  constructor
  · rintro ⟨overtaken, alone, vacant⟩
    have pending := (alone ticket).2 rfl
    refine .publish (fun other => records.mem_underWay_iff.symm.trans (alone other)) ?_ ?_
    · by_contra first
      rw [published.2 ⟨pending, (records.latest?_eq_iff pending).2 first⟩] at overtaken
      contradiction
    · intro entry' held
      rw [← records.held?_iff, vacant] at held
      contradiction
  · rintro ⟨alone, overtaken, vacant⟩
    have pending := records.mem_underWay_iff.2 ((alone ticket).2 rfl)
    refine ⟨?_, fun other => records.mem_underWay_iff.trans (alone other), ?_⟩
    · rw [Bool.eq_false_iff]
      exact fun done => (records.latest?_eq_iff pending).1 (published.1 done).2 overtaken
    · rw [Option.eq_none_iff_forall_ne_some]
      exact fun entry' held => vacant entry' (records.held?_iff.1 held)

/-- A key has an idle slot just when a put has left it behind. -/
theorem isIdleAt_iff_leftBehind (records : Slots.Records log slots) :
    slots.isIdleAt key = true ↔ LeftBehind log key := by
  induction records with
  | empty => exact iff_of_false nofun not_sinceThen_nil
  | concat records meets ih =>
    rw [LeftBehind, sinceThen_concat_iff, ← LeftBehind, ← ih]
    cases meets with
    | beside beside =>
      rw [or_iff_right (not_strands_of_beside beside)]
      exact (and_iff_left (Answered.not_does_of_beside beside)).symm
    | call member call =>
      rw [isIdleAt_answer]
      refine or_congr_left ⟨?_, ?_⟩
      · rintro ⟨ticket, entry, rfl, strands⟩
        exact (records.strands_iff member).1 strands
      · intro strands
        cases strands with
        | publish alone overtaken vacant =>
          exact ⟨_, _, rfl, (records.strands_iff member).2 (.publish alone overtaken vacant)⟩

end Slots.Records

/-! ### Puts that are under way -/

section

variable {β δ : Type} [DescriptorStore δ] {limits : IngestLimits} {team : CacheTeam β δ}
  {before after : List Answered} {member : Nat} {key : String} {ticket : Nat}

/-- A put that has come to its end is not under way any more. -/
lemma Orderly.not_mem_underWay (orderly : Orderly limits team) {call : SlotsCall}
    {reply : call.Answer} (split : team.log = before ++ ⟨member, .slots call, reply⟩ :: after)
    (settles : call.Settles key ticket) : ticket ∉ team.depot.slots.underWay key := by
  intro pending
  obtain ⟨front, submission, since, parts, obtains, quiet⟩ :=
    orderly.records.mem_underWay_iff.1 pending
  obtain ⟨front', back, rfl⟩ := List.append_of_mem (orderly.submitted_of_settles split settles)
  rw [List.append_assoc, List.cons_append] at split
  obtain ⟨-, -, rfl⟩ := orderly.records.ticket_unique parts split obtains
    (Answered.obtains_submit member key ticket)
  exact quiet ⟨member, .slots call, reply⟩ (by simp) (Or.inr settles)

/-- A put that is done has come to its end with the ticket that it got, one way or the other. -/
lemma CacheCall.Concludes.exists_settles {source : Source} {expires : Option Instant}
    {result : Except StoreError Unit} {own : List SlotsExchange}
    (concludes : (CacheCall.put key source expires).Concludes δ result own)
    (submitted : ⟨.submit key, ticket⟩ ∈ own) :
    ∃ (call : SlotsCall) (reply : call.Answer), ⟨call, reply⟩ ∈ own ∧ call.Settles key ticket := by
  rcases concludes with ⟨ticket', entry, publication, rfl, -⟩ | ⟨ticket', error, rfl, -⟩
  · obtain rfl : ticket = ticket' := by simpa using submitted
    exact ⟨.publish key ticket entry, publication, by simp, rfl, rfl⟩
  · obtain rfl : ticket = ticket' := by simpa using submitted
    exact ⟨.withdraw key ticket, (), by simp, rfl, rfl⟩

/-- A put has the ticket, and goes on. -/
def InProgress (team : CacheTeam β δ) (key : String) (ticket : Nat) : Prop :=
  ∃ member source expires call next,
    team.members[member]? = some ⟨.put key source expires, .ask call next⟩ ∧
      ⟨member, .slots (.submit key), ticket⟩ ∈ team.log

/-- Every ticket that a slot waits for belongs to a put that goes on. -/
lemma Orderly.inProgress_of_mem_underWay (orderly : Orderly limits team)
    (pending : ticket ∈ team.depot.slots.underWay key) : InProgress team key ticket := by
  obtain ⟨front, submission, since, parts, obtains, -⟩ :=
    orderly.records.mem_underWay_iff.1 pending
  rw [Answered.eq_of_obtains obtains] at parts
  generalize submission.member = member at parts
  obtain ⟨task, ⟨operation, found⟩, permits, -⟩ := orderly.follows.permitted _ _ _ parts
  have submitted : ⟨member, .slots (.submit key), ticket⟩ ∈ team.log := by simp [parts]
  cases task with
  | put other source expires =>
    obtain ⟨-, rfl⟩ := permits
    cases operation with
    | ask call next => exact ⟨member, source, expires, call, next, found, submitted⟩
    | done result =>
      have concludes : CacheCall.Concludes δ (.put key source expires) result
        ((errands δ limits).deeds team.log member) := orderly.follows.keeps member _ _ found
      obtain ⟨call, reply, ended, settles⟩ :=
        concludes.exists_settles ((mem_deeds_iff _ member _).2 submitted)
      rw [mem_deeds_iff] at ended
      obtain ⟨before, after, split⟩ := List.append_of_mem ended
      exact absurd pending (orderly.not_mem_underWay split settles)
  | _ => exact False.elim permits

/-! ### Whole runs -/

/-- What the slot of a key is there for. -/
structure SlotAccounted (team : CacheTeam β δ) (key : String) : Prop where
  /-- The slot holds an entry or waits for a put, unless a put has left it behind. -/
  kept_iff : (∀ slot, team.depot.slots.byKey.get? key = some slot →
    (∃ entry, slot.entry = some entry) ∨ ∃ ticket, ticket ∈ slot.inFlight) ↔
      ¬ LeftBehind team.log key
  /-- What it waits for is a put that goes on. -/
  inProgress : ∀ ticket ∈ team.depot.slots.underWay key, InProgress team key ticket
  /-- When nothing is left to do, there are slots for the keys that map to content, and for those
  where one was left behind. -/
  rest : team.IsAtRest → ((∃ slot, team.depot.slots.byKey.get? key = some slot) ↔
    (∃ id, team.depot.slots.contentId? key = some id) ∨ LeftBehind team.log key)

omit [DescriptorStore δ] in
lemma not_inProgress_of_isAtRest (rest : team.IsAtRest) : ¬ InProgress team key ticket := by
  rintro ⟨member, source, expires, call, next, found, -⟩
  have done := rest _ (List.mem_of_getElem? found)
  contradiction

lemma Orderly.slotAccounted (orderly : Orderly limits team) : SlotAccounted team key := by
  have idle : team.depot.slots.isIdleAt key = true ↔ LeftBehind team.log key :=
    orderly.records.isIdleAt_iff_leftBehind
  refine ⟨?_, fun ticket => orderly.inProgress_of_mem_underWay, ?_⟩
  · rw [← idle, Slots.isIdleAt_iff]
    constructor
    · rintro kept ⟨slot, found, empty, nobody⟩
      rcases kept slot found with ⟨entry, held⟩ | ⟨ticket, pending⟩
      · rw [empty] at held
        contradiction
      · rw [nobody] at pending
        contradiction
    · intro busy slot found
      by_cases empty : slot.entry = none
      · by_cases nobody : slot.inFlight = []
        · exact absurd ⟨slot, found, empty, nobody⟩ busy
        · exact Or.inr (List.exists_mem_of_ne_nil _ nobody)
      · exact Or.inl (Option.ne_none_iff_exists'.1 empty)
  · intro rest
    rw [← idle, Slots.isIdleAt_iff]
    unfold Slots.contentId? Slot.content?
    constructor
    · rintro ⟨slot, found⟩
      cases held : slot.entry with
      | some entry => exact Or.inl ⟨entry.value, by simp [found, held]⟩
      | none =>
        refine Or.inr ⟨slot, found, held, List.eq_nil_iff_forall_not_mem.2 fun ticket pending => ?_⟩
        have waiting : ticket ∈ team.depot.slots.underWay key := by
          unfold Slots.underWay
          rw [found]
          exact pending
        exact not_inProgress_of_isAtRest rest (orderly.inProgress_of_mem_underWay waiting)
    · rintro (⟨id, maps⟩ | ⟨slot, found, -⟩)
      · obtain ⟨slot, found, -⟩ := Option.bind_eq_some_iff.1 maps
        exact ⟨slot, found⟩
      · exact ⟨slot, found⟩

end

namespace ContentCache

/-- Operations of a cache take turns over any stores. Every slot has an entry or a put under way,
unless a put that was overtaken has left it behind. -/
theorem slot_accounted {β δ : Type} [BlobStore β] [DescriptorStore δ] (cache : ContentCache)
    (depot : Depot β δ) (unused : depot.slots = .empty)
    (turns : List (Team.Turn (CacheCall Source))) (key : String) :
    SlotAccounted (cache.teamAfter depot turns) key :=
  (cache.orderly_teamAfter depot unused turns).slotAccounted

/-- Another put comes in while one is under way, and what it has published expires and is looked up
before the first one comes to its end. -/
def expiring : List (Team.Turn (CacheCall Source)) :=
  .start (.put "a" (.ofBytes [120]) none) :: .advance 0 ::
    .start (.put "a" (.ofBytes [121]) (some ⟨5, 0⟩)) :: List.replicate 16 (.advance 1) ++
      .clock ⟨9, 0⟩ :: .start (.get "a") :: List.replicate 8 (.advance 2) ++
        List.replicate 16 (.advance 0)

/-- All operations have succeeded, and an idle slot is left. -/
theorem slot_accounted_expiring :
    SlotAccounted (teamAfter {} (MemoryDepot.vacant ⟨0, 0⟩) expiring) "a" ∧
      (teamAfter {} (MemoryDepot.vacant ⟨0, 0⟩) expiring).IsAtRest ∧
      LeftBehind (teamAfter {} (MemoryDepot.vacant ⟨0, 0⟩) expiring).log "a" := by
  have accounted := slot_accounted {} (MemoryDepot.vacant ⟨0, 0⟩) rfl expiring "a"
  have run : (teamAfter {} (MemoryDepot.vacant ⟨0, 0⟩) expiring).IsAtRest ∧
      (teamAfter {} (MemoryDepot.vacant ⟨0, 0⟩) expiring).depot.slots.isIdleAt "a" = true := by
    decide +kernel
  obtain ⟨rested, idle⟩ := run
  have orderly := orderly_teamAfter {} (MemoryDepot.vacant ⟨0, 0⟩) rfl expiring
  exact ⟨accounted, rested, orderly.records.isIdleAt_iff_leftBehind.1 idle⟩

/-- There may be a slot that holds nothing and waits for nothing, even when nothing is left to
do. -/
theorem exists_left : ¬ ∀ (cache : ContentCache) (now : Instant)
    (turns : List (Team.Turn (CacheCall Source))) (key : String) (slot : Slot),
    (cache.teamAfter (MemoryDepot.vacant now) turns).IsAtRest →
    (cache.teamAfter (MemoryDepot.vacant now) turns).depot.slots.byKey.get? key = some slot →
      (∃ entry, slot.entry = some entry) ∨ ∃ ticket, ticket ∈ slot.inFlight := by
  intro claimed
  have run : (teamAfter {} (MemoryDepot.vacant ⟨0, 0⟩) overtaking).IsAtRest ∧
      (teamAfter {} (MemoryDepot.vacant ⟨0, 0⟩) overtaking).depot.slots.byKey.get? "a" =
        some { latest := 2 } := by
    decide +kernel
  rcases claimed {} ⟨0, 0⟩ overtaking "a" _ run.1 run.2 with ⟨entry, ⟨⟩⟩ | ⟨ticket, ⟨⟩⟩

end ContentCache

end AssetCache
