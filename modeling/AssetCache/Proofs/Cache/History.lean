import AssetCache.Proofs.Cache.Tickets
import AssetCache.Proofs.Conduct
import AssetCache.Proofs.Content.Calls

/-!
# What the slots are by the log

The slots of a cache are determined by the calls that were made to them. What can be seen of a key
is what has happened to it and was not ended since: a put is under way since it was submitted
(`Slots.Records.mem_underWay_iff`), the last one is the one since whose submission there was no
other (`Slots.Records.since_latest`), and the entry is the one that was published last
(`Slots.Records.held?_iff`). Tickets are given out in order, and published in order
(`Slots.Records.inOrder_published`).
-/

namespace AssetCache

/-! ### What has happened and was not ended since -/

section Since

variable {α : Type} {happened ended : α → Prop} {log : List α} {event : α}

/-- Something has happened after what was before it, and nothing has ended it since. -/
def SinceThen (happened : List α → α → Prop) (ended : α → Prop) (log : List α) : Prop :=
  ∃ earlier event since, log = earlier ++ event :: since ∧ happened earlier event ∧
    ∀ later ∈ since, ¬ ended later

/-- Something has happened, and nothing has ended it since. -/
def Since (happened ended : α → Prop) (log : List α) : Prop :=
  ∃ earlier event since, log = earlier ++ event :: since ∧ happened event ∧
    ∀ later ∈ since, ¬ ended later

lemma not_sinceThen_nil {happened : List α → α → Prop} : ¬ SinceThen happened ended [] := by
  rintro ⟨earlier, event, since, split, -⟩
  simp at split

lemma sinceThen_concat_iff {happened : List α → α → Prop} :
    SinceThen happened ended (log ++ [event]) ↔
      happened log event ∨ SinceThen happened ended log ∧ ¬ ended event := by
  constructor
  · rintro ⟨earlier, cause, since, whole, caused, quiet⟩
    rcases concat_eq_append_cons_iff.1 whole with ⟨-, rfl, rfl⟩ | ⟨between, rfl, split⟩
    · exact Or.inl caused
    · refine Or.inr ⟨⟨earlier, cause, between, split, caused, ?_⟩, quiet event (by simp)⟩
      intro later inside
      exact quiet later (List.mem_append_left _ inside)
  · rintro (caused | ⟨⟨earlier, cause, since, rfl, caused, quiet⟩, still⟩)
    · exact ⟨log, event, [], rfl, caused, by simp⟩
    · refine ⟨earlier, cause, since ++ [event], by simp, caused, ?_⟩
      intro later inside
      rcases List.mem_append.1 inside with inside | inside
      · exact quiet later inside
      · rw [List.mem_singleton.1 inside]
        exact still

lemma not_since_nil : ¬ Since happened ended [] := by
  show ¬ SinceThen (fun _ => happened) ended []
  exact not_sinceThen_nil

lemma since_concat_iff :
    Since happened ended (log ++ [event]) ↔
      happened event ∨ Since happened ended log ∧ ¬ ended event := by
  show SinceThen (fun _ => happened) ended (log ++ [event]) ↔
    happened event ∨ SinceThen (fun _ => happened) ended log ∧ ¬ ended event
  exact sinceThen_concat_iff

/-- What has happened has happened for a last time. -/
lemma Since.last (since : Since happened ended log) :
    Since happened (fun event => ended event ∨ happened event) log := by
  induction log using List.reverseRecOn with
  | nil => exact absurd since not_since_nil
  | append_singleton log event ih =>
    rw [since_concat_iff] at since ⊢
    by_cases now : happened event
    · exact Or.inl now
    · obtain ⟨since, still⟩ := since.resolve_left now
      exact Or.inr ⟨ih since, not_or.2 ⟨still, now⟩⟩

end Since

/-! ### Calls to the slots in a log -/

namespace Answered

/-- Whether something was done to the slots. -/
def Does (does : (call : SlotsCall) → call.Answer → Prop) : Answered → Prop
  | ⟨_, .slots call, reply⟩ => does call reply
  | _ => False

/-- Whether a put was submitted on a key. -/
def Submits (answered : Answered) (key : String) : Prop :=
  answered.Does fun call _ => call = .submit key

/-- Whether a put was submitted on a key and got a ticket. -/
def Obtains (answered : Answered) (key : String) (ticket : Nat) : Prop :=
  answered.Does fun call reply => call.Obtains key ticket reply

/-- Whether a key was dropped. -/
def Drops (answered : Answered) (key : String) : Prop :=
  answered.Does fun call _ => call.Drops key

/-- Whether a put on a key came to its end. -/
def Settles (answered : Answered) (key : String) (ticket : Nat) : Prop :=
  answered.Does fun call _ => call.Settles key ticket

/-- Whether an entry that a key may have expired. -/
def Expires (answered : Answered) (key : String) (entry : Entry ContentId) : Prop :=
  answered.Does fun call _ => call.Expires key entry

/-- Whether the content of a put became the entry of a key. -/
def Publishes (answered : Answered) (key : String) (ticket : Nat) (entry : Entry ContentId) :
    Prop :=
  answered.Does fun call reply => call.Publishes key ticket entry reply

/-- Whether a put was submitted, on any key. -/
def isSubmission : Answered → Bool
  | ⟨_, .slots call, _⟩ => call.isSubmission
  | _ => false

/-- The ticket of the put whose content became the entry of a key. -/
def published? (key : String) : Answered → Option Nat
  | ⟨_, .slots (.publish other ticket _), publication⟩ =>
    if other = key ∧ publication.isPublished = true then some ticket else none
  | _ => none

variable {answered : Answered} {key : String} {ticket : Nat} {entry : Entry ContentId}

lemma eq_of_obtains (obtains : answered.Obtains key ticket) :
    answered = ⟨answered.member, .slots (.submit key), ticket⟩ := by
  obtain ⟨member, call, reply⟩ := answered
  cases call with
  | slots call =>
    cases call with
    | submit other =>
      obtain ⟨rfl, rfl⟩ : other = key ∧ reply = ticket := obtains
      rfl
    | _ => exact False.elim obtains
  | _ => exact False.elim obtains

lemma obtains_submit (member : Nat) (key : String) (ticket : Nat) :
    Obtains ⟨member, .slots (.submit key), ticket⟩ key ticket :=
  ⟨rfl, rfl⟩

lemma eq_of_publishes (publishes : answered.Publishes key ticket entry) : ∃ released,
    answered = ⟨answered.member, .slots (.publish key ticket entry), ⟨true, released⟩⟩ := by
  obtain ⟨member, call, reply⟩ := answered
  cases call with
  | slots call =>
    cases call with
    | publish other ticket' entry' =>
      obtain ⟨isPublished, released⟩ := reply
      obtain ⟨rfl, rfl, rfl, rfl⟩ : other = key ∧ ticket' = ticket ∧ entry' = entry ∧
        isPublished = true := publishes
      exact ⟨released, rfl⟩
    | _ => exact False.elim publishes
  | _ => exact False.elim publishes

lemma exists_of_settles (settles : answered.Settles key ticket) : ∃ (call : SlotsCall)
    (reply : call.Answer), answered = ⟨answered.member, .slots call, reply⟩ ∧
      call.Settles key ticket := by
  obtain ⟨member, call, reply⟩ := answered
  cases call with
  | slots call => exact ⟨call, reply, rfl, settles⟩
  | _ => exact False.elim settles

lemma not_expires (lasting : entry.expires = none) : ¬ answered.Expires key entry := by
  obtain ⟨value, expires⟩ := entry
  cases lasting
  obtain ⟨member, call, reply⟩ := answered
  cases call with
  | slots call =>
    cases call with
    | lookup other now => exact fun expires => Bool.false_ne_true expires.2
    | sweep now => exact Bool.false_ne_true
    | _ => exact id
  | _ => exact id

lemma isSubmission_of_beside (beside : answered.call.Beside) :
    answered.isSubmission = false := by
  obtain ⟨member, call, reply⟩ := answered
  cases call with
  | slots call => exact beside.elim
  | _ => rfl

lemma published?_of_beside (beside : answered.call.Beside) : answered.published? key = none := by
  obtain ⟨member, call, reply⟩ := answered
  cases call with
  | slots call => exact beside.elim
  | _ => rfl

/-- Calls that are not to the slots do nothing to them. -/
lemma not_does_of_beside {answered : Answered} {does : (call : SlotsCall) → call.Answer → Prop}
    (beside : answered.call.Beside) : ¬ answered.Does does := by
  obtain ⟨member, call, reply⟩ := answered
  cases call with
  | slots call => exact beside.elim
  | _ => exact id

end Answered

namespace Slots

/-- What an answered call makes of the slots. -/
inductive Meets : Slots → Answered → Slots → Prop
  | beside {slots : Slots} {answered : Answered} (beside : answered.call.Beside) :
    Meets slots answered slots
  | call {slots : Slots} (member : Nat) (call : SlotsCall) :
    Meets slots ⟨member, .slots call, (slots.answer call).1⟩ (slots.answer call).2

/-- The slots are what a log has made of them. -/
inductive Records : List Answered → Slots → Prop
  | empty : Records [] .empty
  | concat {log : List Answered} {answered : Answered} {slots slots' : Slots}
    (records : Records log slots) (meets : Meets slots answered slots') :
    Records (log ++ [answered]) slots'

end Slots

namespace Slots

variable {slots slots' : Slots} {answered : Answered} {log before after : List Answered}
  {key : String} {ticket : Nat} {entry : Entry ContentId}

lemma obtains_iff (call : SlotsCall) :
    call.Obtains key ticket (slots.answer call).1 ↔
      call = .submit key ∧ ticket = slots.issued + 1 := by
  cases call with
  | submit other => simp [SlotsCall.Obtains, answer, submit, eq_comm]
  | _ => simp [SlotsCall.Obtains]

/-- The puts that are under way on a key are those that were submitted and have not come to their
ends, where the key was not dropped since. -/
theorem Records.mem_underWay_iff (records : Records log slots) :
    ticket ∈ slots.underWay key ↔ Since (·.Obtains key ticket)
      (fun answered => answered.Drops key ∨ answered.Settles key ticket) log := by
  induction records with
  | empty =>
    simp only [not_since_nil, iff_false]
    exact List.not_mem_nil
  | concat records meets ih =>
    rw [since_concat_iff, ← ih, not_or]
    cases meets with
    | beside beside =>
      simp [Answered.Obtains, Answered.Drops, Answered.Settles, Answered.not_does_of_beside beside]
    | call member call =>
      rw [mem_underWay_answer, ← obtains_iff]
      rfl

/-- No put was submitted on a key since its last one was. -/
theorem Records.since_latest (records : Records log slots)
    (last : slots.latest? key = some ticket) :
    Since (·.Obtains key ticket) (fun answered => answered.Submits key ∨ answered.Drops key)
      log := by
  induction records with
  | empty => cases last
  | concat records meets ih =>
    rw [since_concat_iff, not_or]
    cases meets with
    | beside beside =>
      exact Or.inr ⟨ih last, Answered.not_does_of_beside beside, Answered.not_does_of_beside beside⟩
    | call member call =>
      rcases latest?_answer last with submitted | ⟨last, other, undropped⟩
      · exact Or.inl ((obtains_iff call).2 submitted)
      · exact Or.inr ⟨ih last, other, undropped⟩

/-- The entry of a key is the one that was published last, if the key was not dropped and the entry
not found expired since. -/
theorem Records.held?_iff (records : Records log slots) :
    slots.held? key = some entry ↔
      Since (fun answered => ∃ ticket, answered.Publishes key ticket entry)
        (fun answered => answered.Drops key ∨ answered.Expires key entry ∨
          ∃ ticket entry', answered.Publishes key ticket entry') log := by
  induction records with
  | empty =>
    simp only [not_since_nil, iff_false]
    exact nofun
  | concat records meets ih =>
    rw [since_concat_iff, ← ih, not_or, not_or]
    cases meets with
    | beside beside =>
      simp [Answered.Publishes, Answered.Drops, Answered.Expires,
        Answered.not_does_of_beside beside]
    | call member call =>
      rw [held?_answer]
      simp only [not_exists]
      rfl

/-! ### Tickets in order -/

lemma Records.of_concat (records : Records (log ++ [answered]) slots) :
    ∃ slots', Records log slots' ∧ Meets slots' answered slots := by
  generalize whole : log ++ [answered] = longer at records
  cases records with
  | empty => simp at whole
  | concat records meets =>
    obtain ⟨rfl, same⟩ := List.append_inj' whole rfl
    cases same
    exact ⟨_, records, meets⟩

/-- What the slots were when a call was answered. -/
lemma Records.of_append_cons (records : Records (before ++ answered :: after) slots) :
    ∃ slots' slots'', Records before slots' ∧ Meets slots' answered slots'' := by
  induction after using List.reverseRecOn generalizing slots with
  | nil =>
    obtain ⟨slots', records, meets⟩ := records.of_concat
    exact ⟨slots', slots, records, meets⟩
  | append_singleton after last ih =>
    rw [← List.cons_append, ← List.append_assoc] at records
    obtain ⟨slots', records, -⟩ := records.of_concat
    exact ih records

lemma Meets.eq_answer {member : Nat} {call : SlotsCall} {reply : call.Answer}
    (meets : Meets slots ⟨member, .slots call, reply⟩ slots') :
    reply = (slots.answer call).1 ∧ slots' = (slots.answer call).2 := by
  generalize whole : (⟨member, .slots call, reply⟩ : Answered) = answered at meets
  cases meets with
  | beside beside =>
    rw [← whole] at beside
    exact beside.elim
  | call member call =>
    cases whole
    exact ⟨rfl, rfl⟩

/-- What a call in the log was answered is what the slots answered at that time. -/
lemma Records.reply_eq {member : Nat} {call : SlotsCall} {reply : call.Answer}
    (records : Records (before ++ ⟨member, .slots call, reply⟩ :: after) slots) :
    ∃ slots', Records before slots' ∧ reply = (slots'.answer call).1 := by
  obtain ⟨slots', slots'', earlier, meets⟩ := records.of_append_cons
  exact ⟨slots', earlier, meets.eq_answer.1⟩

lemma Records.issued_eq (records : Records log slots) :
    slots.issued = log.countP Answered.isSubmission := by
  induction records with
  | empty => rfl
  | concat records meets ih =>
    rw [List.countP_append, List.countP_singleton, ← ih]
    cases meets with
    | beside beside => simp [Answered.isSubmission_of_beside beside]
    | call member call =>
      rw [issued_answer]
      show _ = _ + if call.isSubmission = true then 1 else 0
      cases call.isSubmission with
      | true => rfl
      | false => rfl

lemma Records.ticket_eq (records : Records (before ++ answered :: after) slots)
    (obtains : answered.Obtains key ticket) :
    ticket = before.countP Answered.isSubmission + 1 := by
  obtain ⟨slots', slots'', records, meets⟩ := records.of_append_cons
  rw [← records.issued_eq]
  cases meets with
  | beside beside => exact absurd obtains (Answered.not_does_of_beside beside)
  | call member call => exact ((obtains_iff call).1 obtains).2

/-- Of two submissions, the later one has the greater ticket. -/
theorem Records.ticket_cases {before' after' : List Answered} {answered' : Answered}
    {key' : String} {ticket' : Nat} (records : Records log slots)
    (here : log = before ++ answered :: after) (there : log = before' ++ answered' :: after')
    (obtains : answered.Obtains key ticket) (obtains' : answered'.Obtains key' ticket') :
    (ticket = ticket' ∧ before = before' ∧ answered = answered' ∧ after = after') ∨
      (ticket < ticket' ∧ ∃ between, before' = before ++ answered :: between ∧
        after = between ++ answered' :: after') ∨
      ticket' < ticket ∧ ∃ between, before = before' ++ answered' :: between ∧
        after' = between ++ answered :: after := by
  have first := (here ▸ records).ticket_eq obtains
  have second := (there ▸ records).ticket_eq obtains'
  have counts {key : String} {ticket : Nat} {event : Answered}
      (obtains : event.Obtains key ticket) : event.isSubmission = true := by
    rw [Answered.eq_of_obtains obtains]
    rfl
  rcases append_cons_cases (here ▸ there) with
    ⟨rfl, rfl, rfl⟩ | ⟨between, rfl, rest⟩ | ⟨between, rfl, rest⟩
  · exact Or.inl ⟨first.trans second.symm, rfl, rfl, rfl⟩
  · rw [List.countP_append, List.countP_cons_of_pos (counts obtains)] at second
    exact Or.inr (Or.inl ⟨by omega, between, rfl, rest⟩)
  · rw [List.countP_append, List.countP_cons_of_pos (counts obtains')] at first
    exact Or.inr (Or.inr ⟨by omega, between, rfl, rest⟩)

/-- No ticket is given out twice. -/
theorem Records.ticket_unique {before' after' : List Answered} {answered' : Answered}
    {key' : String} (records : Records log slots) (here : log = before ++ answered :: after)
    (there : log = before' ++ answered' :: after') (obtains : answered.Obtains key ticket)
    (obtains' : answered'.Obtains key' ticket) :
    before = before' ∧ answered = answered' ∧ after = after' := by
  rcases records.ticket_cases here there obtains obtains' with ⟨-, same⟩ | ⟨less, -⟩ | ⟨less, -⟩
  · exact same
  · exact absurd less (Nat.lt_irrefl _)
  · exact absurd less (Nat.lt_irrefl _)

/-- A key that has a slot has not seen a later submission than its last one. -/
lemma Records.le_of_latest {latest : Nat} (records : Records log slots)
    (last : slots.latest? key = some latest) (inside : answered ∈ log)
    (obtains : answered.Obtains key ticket) : ticket ≤ latest := by
  obtain ⟨earlier, event, since, split, obtains', quiet⟩ := records.since_latest last
  obtain ⟨front, back, split'⟩ := List.append_of_mem inside
  rcases records.ticket_cases split split' obtains' obtains with
    ⟨same, -⟩ | ⟨-, between, -, rfl⟩ | ⟨less, -⟩
  · exact Nat.le_of_eq same.symm
  · have submits : answered.Submits key := by
      rw [Answered.eq_of_obtains obtains]
      rfl
    exact absurd (Or.inl submits) (quiet answered (by simp))
  · exact Nat.le_of_lt less

/-- A put that is under way is the last one of its key if no later one was submitted. -/
lemma Records.latest?_eq_iff (records : Records log slots) (pending : ticket ∈ slots.underWay key) :
    slots.latest? key = some ticket ↔
      ¬ ∃ later ∈ log, ∃ ticket', ticket < ticket' ∧ later.Obtains key ticket' := by
  constructor
  · rintro last ⟨later, inside, ticket', less, obtains⟩
    exact absurd less (Nat.not_lt.2 (records.le_of_latest last inside obtains))
  · intro first
    obtain ⟨latest, last⟩ := exists_latest? pending
    obtain ⟨front, submission, since, parts, obtains, -⟩ := records.mem_underWay_iff.1 pending
    have atMost : ticket ≤ latest := records.le_of_latest last (by simp [parts]) obtains
    have atLeast : latest ≤ ticket := by
      obtain ⟨front, event, since, parts, obtains, -⟩ := records.since_latest last
      by_contra less
      exact first ⟨event, by simp [parts], latest, Nat.lt_of_not_le less, obtains⟩
    rw [last, Nat.le_antisymm atLeast atMost]

/-- What was published and does not expire is there until its key is dropped. -/
lemma Records.exists_held? (records : Records log slots)
    (published : Since (fun answered => ∃ ticket entry, answered.Publishes key ticket entry)
      (·.Drops key) log)
    (lasting : ∀ answered ∈ log, ∀ ticket entry, answered.Publishes key ticket entry →
      entry.expires = none) : ∃ entry, slots.held? key = some entry := by
  obtain ⟨earlier, event, since, split, ⟨ticket, entry, publishes⟩, quiet⟩ := published.last
  refine ⟨entry, records.held?_iff.2 ⟨earlier, event, since, split, ⟨ticket, publishes⟩, ?_⟩⟩
  rintro later inside (drops | expires | published)
  · exact quiet later inside (Or.inl drops)
  · exact Answered.not_expires (lasting event (by simp [split]) ticket entry publishes) expires
  · exact quiet later inside (Or.inr published)

/-- The tickets of the puts whose content has become the entry of a key, in order. -/
def published (key : String) (log : List Answered) : List Nat :=
  log.filterMap (Answered.published? key)

/-- What is known of the tickets that were published under a key. -/
structure InOrder (key : String) (tickets : List Nat) (slots : Slots) : Prop where
  sorted : tickets.Pairwise (· < ·)
  issued : ∀ ticket ∈ tickets, ticket ≤ slots.issued
  latest : ∀ ticket ∈ tickets, ∀ last, slots.latest? key = some last → ticket ≤ last
  settled : ∀ ticket ∈ tickets, ticket ∉ slots.underWay key
  pending : ∀ ticket ∈ slots.underWay key, ticket ≤ slots.issued

/-- A call that publishes nothing under a key keeps the tickets in order. -/
lemma InOrder.answer {tickets : List Nat} (ordered : InOrder key tickets slots)
    (call : SlotsCall) : InOrder key tickets (slots.answer call).2 := by
  refine ⟨ordered.sorted, ?_, ?_, ?_, ?_⟩
  · intro ticket inside
    rw [issued_answer]
    exact Nat.le_add_right_of_le (ordered.issued ticket inside)
  · intro ticket inside last newest
    rcases latest?_answer newest with ⟨-, rfl⟩ | ⟨newest, -⟩
    · exact Nat.le_succ_of_le (ordered.issued ticket inside)
    · exact ordered.latest ticket inside last newest
  · intro ticket inside pending
    rcases (mem_underWay_answer slots call).1 pending with ⟨-, rfl⟩ | ⟨pending, -⟩
    · exact Nat.not_succ_le_self _ (ordered.issued _ inside)
    · exact ordered.settled ticket inside pending
  · intro ticket pending
    rw [issued_answer]
    rcases (mem_underWay_answer slots call).1 pending with ⟨rfl, rfl⟩ | ⟨pending, -⟩
    · exact Nat.le_refl _
    · exact Nat.le_add_right_of_le (ordered.pending ticket pending)

/-- What is published has a later ticket than all that was published before. -/
lemma InOrder.publish {tickets : List Nat} (ordered : InOrder key tickets slots)
    (published : (slots.answer (.publish key ticket entry)).1.isPublished = true) :
    InOrder key (tickets ++ [ticket]) (slots.answer (.publish key ticket entry)).2 := by
  obtain ⟨pending, newest⟩ := answer_publish_isPublished.1 published
  have others := ordered.answer (.publish key ticket entry)
  refine ⟨?_, ?_, ?_, ?_, others.pending⟩
  · refine List.pairwise_append.2 ⟨ordered.sorted, List.pairwise_singleton _ _, ?_⟩
    intro other inside ticket' single
    rw [List.mem_singleton.1 single]
    have different : other ≠ ticket := by
      rintro rfl
      exact ordered.settled other inside pending
    exact Nat.lt_of_le_of_ne (ordered.latest other inside ticket newest) different
  · intro other inside
    rcases List.mem_append.1 inside with inside | single
    · exact others.issued other inside
    · rw [List.mem_singleton.1 single, issued_answer]
      exact ordered.pending ticket pending
  · intro other inside last newest'
    rcases List.mem_append.1 inside with inside | single
    · exact others.latest other inside last newest'
    · rcases latest?_answer newest' with ⟨submitted, -⟩ | ⟨newest', -⟩
      · cases submitted
      · rw [List.mem_singleton.1 single]
        rw [newest] at newest'
        cases newest'
        exact Nat.le_refl _
  · intro other inside pending'
    rcases List.mem_append.1 inside with inside | single
    · exact others.settled other inside pending'
    · rw [List.mem_singleton.1 single] at pending'
      rcases (mem_underWay_answer slots _).1 pending' with ⟨submitted, -⟩ | ⟨-, -, unsettled⟩
      · cases submitted
      · exact unsettled ⟨rfl, rfl⟩

lemma published_concat (key : String) (log : List Answered) (answered : Answered) :
    published key (log ++ [answered]) = published key log ++ (answered.published? key).toList := by
  unfold published
  rw [List.filterMap_append]
  cases ticket? : answered.published? key with
  | none => simp [ticket?]
  | some ticket => simp [ticket?]

/-- What is published under a key is published in the order in which it was submitted. -/
theorem Records.inOrder_published (records : Records log slots) :
    InOrder key (published key log) slots := by
  induction records with
  | empty =>
    refine ⟨List.Pairwise.nil, ?_, ?_, ?_, ?_⟩
    · exact fun _ => nofun
    · exact fun _ => nofun
    · exact fun _ => nofun
    · exact fun _ => nofun
  | @concat log answered slots slots' records meets ih =>
    rw [published_concat]
    have unpublished (none : answered.published? key = none) (call : SlotsCall) :
        InOrder key (published key log ++ (answered.published? key).toList)
          (slots.answer call).2 := by
      rw [none, Option.toList_none, List.append_nil]
      exact ih.answer call
    cases meets with
    | beside beside =>
      rw [Answered.published?_of_beside beside, Option.toList_none, List.append_nil]
      exact ih
    | call member call =>
      cases call with
      | publish other ticket entry =>
        by_cases success : other = key ∧
          (slots.answer (.publish other ticket entry)).1.isPublished = true
        · obtain ⟨rfl, success⟩ := success
          have ticket? : Answered.published? other ⟨member, .slots (.publish other ticket entry),
              (slots.answer (.publish other ticket entry)).1⟩ = some ticket :=
            if_pos ⟨rfl, success⟩
          rw [ticket?]
          exact ih.publish success
        · exact unpublished (if_neg success) _
      | _ => exact unpublished rfl _

end Slots

section Teams

variable {κ β δ : Type} [BlobStore β] [DescriptorStore δ] {Result : κ → Type}
  {program : (task : κ) → Operation (Result task)} {depot depot' : Depot β δ}

lemma meets_of_answered {call : Call} {reply : call.Answer} (member : Nat)
    (attempted : depot.attempt call = .answered reply depot') :
    Slots.Meets depot.slots ⟨member, call, reply⟩ depot'.slots := by
  cases call with
  | slots call =>
    cases attempted
    exact .call member call
  | blob call =>
    cases call with
    | put transfer =>
      have step := depot.attempt_put transfer
      rw [attempted] at step
      rw [step.2]
      exact .beside trivial
    | _ =>
      cases attempted
      exact .beside trivial
  | _ =>
    cases attempted
    exact .beside trivial

lemma slots_of_ongoing {call rest : Call} {answer : rest.Answer → call.Answer}
    (attempted : depot.attempt call = .ongoing rest answer depot') :
    depot'.slots = depot.slots := by
  obtain ⟨transfer, rfl⟩ := Depot.put_of_ongoing attempted
  have step := depot.attempt_put transfer
  rw [attempted] at step
  exact step.2.2

/-- The log of a team knows all that was done to the slots. -/
theorem Team.records_play (unused : depot.slots = .empty) (turns : List (Turn κ)) :
    Slots.Records (play program ⟨depot, [], []⟩ turns).log
      (play program ⟨depot, [], []⟩ turns).depot.slots := by
  induction turns using List.reverseRecOn with
  | nil =>
    show Slots.Records [] depot.slots
    rw [unused]
    exact .empty
  | append_singleton turns turn ih =>
    rw [play_append]
    generalize play program ⟨depot, [], []⟩ turns = team at ih ⊢
    rcases team.turn_cases program turn with
      ⟨task, -, started⟩ | ⟨-, log, slots⟩ | ⟨front, task, call, next, back, -, moved⟩
    · show Slots.Records (team.turn program turn).log (team.turn program turn).depot.slots
      rw [started]
      exact ih
    · show Slots.Records (team.turn program turn).log (team.turn program turn).depot.slots
      rw [log, slots]
      exact ih
    · show Slots.Records (team.turn program turn).log (team.turn program turn).depot.slots
      rcases moved with
        ⟨reply, depot, attempted, moved⟩ | ⟨rest, answer, depot, attempted, moved⟩
      · rw [moved]
        exact ih.concat (meets_of_answered _ attempted)
      · rw [moved, slots_of_ongoing attempted]
        exact ih

end Teams

end AssetCache
