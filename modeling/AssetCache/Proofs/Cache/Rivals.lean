import AssetCache.Proofs.Cache.Invalidation
import AssetCache.Proofs.Cache.Owners
import Mathlib.Order.Lattice.Nat

/-!
# Puts that rival each other

Of several puts on one key that overlap, the last one that succeeds should win. But a put that was
submitted later takes the word from all earlier ones that are still under way, and does so even if
it fails in the end. So a key maps to the content of the last put that succeeded and was not
overtaken (`ContentCache.last_unovertaken_wins`), and may map to nothing although a put on it
succeeded (`ContentCache.exists_overtaken`).
-/

namespace AssetCache

variable {β δ : Type}

/-- A put succeeded, and its key was not dropped since it was submitted. -/
def Succeeded (team : CacheTeam β δ) (key : String) (ticket : Nat) (source : Source) : Prop :=
  ∃ member expires, team.members[member]? = some ⟨.put key source expires, .done (.ok ())⟩ ∧
    Since (· = ⟨member, .slots (.submit key), ticket⟩) (·.Drops key) team.log

/-- When a put came to publish its content, a later one had been submitted on its key. -/
def Overtaken (log : List Answered) (key : String) (ticket : Nat) : Prop :=
  ∃ before member entry publication after,
    log = before ++ ⟨member, .slots (.publish key ticket entry), publication⟩ :: after ∧
      ∃ later ∈ before, ∃ ticket', ticket < ticket' ∧ later.Obtains key ticket'

/-- A put succeeded and was not overtaken, and its key was not dropped since it was submitted. -/
def Prevails (team : CacheTeam β δ) (key : String) (ticket : Nat) (source : Source) : Prop :=
  Succeeded team key ticket source ∧ ¬ Overtaken team.log key ticket

/-- Of some puts, the one that was submitted last. -/
structure LastPut (puts : Nat → Source → Prop) (ticket : Nat) (source : Source) : Prop where
  among : puts ticket source
  last : ∀ ticket' source', puts ticket' source' → ticket' ≤ ticket

/-- A key maps to the content of the last one of some puts, or to nothing if there are none. -/
inductive Stands (limits : IngestLimits) (slots : Slots) (key : String)
    (puts : Nat → Source → Prop) : Prop
  | vacant (nobody : ∀ ticket source, ¬ puts ticket source) (empty : slots.contentId? key = none)
  | mapped {ticket : Nat} {source : Source} {bytes : Bytes} (last : LastPut puts ticket source)
    (accepted : limits.accepted? source = some bytes)
    (holds : slots.contentId? key = some (.ofBytes bytes))

/-- Among puts that are not too many, one is the last. -/
lemma exists_lastPut {puts : Nat → Source → Prop} {ticket bound : Nat} {source : Source}
    (among : puts ticket source) (bounded : ∀ ticket source, puts ticket source → ticket ≤ bound) :
    ∃ ticket source, LastPut puts ticket source := by
  have above : BddAbove {ticket | ∃ source, puts ticket source} :=
    ⟨bound, fun ticket ⟨source, among⟩ => bounded ticket source among⟩
  have nonempty : {ticket | ∃ source, puts ticket source}.Nonempty := ⟨ticket, source, among⟩
  obtain ⟨source', among'⟩ := Nat.sSup_mem nonempty above
  refine ⟨_, source', among', ?_⟩
  intro ticket' source'' among''
  exact le_csSup above ⟨source'', among''⟩

/-! ### The end of a put -/

section

variable [DescriptorStore δ] {limits : IngestLimits} {team : CacheTeam β δ}
  {log before after : List Answered} {slots : Slots} {member : Nat} {key : String} {ticket : Nat}
  {source : Source} {entry : Entry ContentId} {publication : Publication}

/-- Giving a reference back never fails. -/
def Reliable (δ : Type) [DescriptorStore δ] : Prop :=
  ∀ (store : δ) (id : ContentId) (error : StoreError),
    (DescriptorStore.answer store (.delete id)).1 ≠ .error error

lemma MemoryDescriptors.reliable : Reliable MemoryDescriptors := by
  intro store id error
  show (MemoryDescriptors.delete store id).1 ≠ .error error
  unfold MemoryDescriptors.delete
  split
  · split
    · exact nofun
    · exact nofun
  · exact nofun

/-- Where references are given back without fail, the puts that come to publish succeed, and the
others fail. -/
lemma CacheCall.Concludes.put_cases (reliable : Reliable δ) {expires : Option Instant}
    {result : Except StoreError Unit} {own : List SlotsExchange}
    (concludes : (put key source expires).Concludes δ result own) :
    (result = .ok () ∧ ∃ ticket entry publication,
      own = [⟨.submit key, ticket⟩, ⟨.publish key ticket entry, publication⟩]) ∨
    ∃ ticket error, own = [⟨.submit key, ticket⟩, ⟨.withdraw key ticket, ()⟩] ∧
      result = .error error := by
  rcases concludes with ⟨ticket, entry, publication, own, failed⟩ | ⟨ticket, error, own, failed⟩
  · refine Or.inl ⟨?_, ticket, entry, publication, own⟩
    cases result with
    | ok _ => rfl
    | error error =>
      obtain ⟨store, id, refused⟩ := failed error rfl
      exact absurd refused (reliable store id error)
  · exact Or.inr ⟨ticket, error, own, failed⟩

/-- A put comes to its end after it was submitted, and has done nothing else. -/
lemma CacheCall.eq_of_settles {task : CacheCall Source} {own : List SlotsExchange}
    {call : SlotsCall} (permits : task.Permits limits own call)
    (settles : call.Settles key ticket) : own = [⟨.submit key, ticket⟩] := by
  cases call with
  | withdraw other ticket' =>
    obtain ⟨rfl, rfl⟩ := settles
    cases task with
    | put key' source expires =>
      obtain ⟨own, rfl⟩ := permits
      exact own
    | _ => exact False.elim permits
  | publish other ticket' entry =>
    obtain ⟨rfl, rfl⟩ := settles
    cases task with
    | put key' source expires =>
      obtain ⟨own, rfl, -⟩ := permits
      exact own
    | _ => exact False.elim permits
  | _ => exact False.elim settles

lemma Orderly.deeds_of_settles (orderly : Orderly limits team) {call : SlotsCall}
    {reply : call.Answer} (split : team.log = before ++ ⟨member, .slots call, reply⟩ :: after)
    (settles : call.Settles key ticket) :
    (errands δ limits).deeds before member = [⟨.submit key, ticket⟩] := by
  obtain ⟨task, -, permits, -⟩ := orderly.follows.permitted before after _ split
  exact CacheCall.eq_of_settles permits settles

lemma Orderly.submitted_of_settles (orderly : Orderly limits team) {call : SlotsCall}
    {reply : call.Answer} (split : team.log = before ++ ⟨member, .slots call, reply⟩ :: after)
    (settles : call.Settles key ticket) : ⟨member, .slots (.submit key), ticket⟩ ∈ before := by
  have submitted : (⟨.submit key, ticket⟩ : SlotsExchange) ∈
      (errands δ limits).deeds before member := by
    rw [orderly.deeds_of_settles split settles]
    exact List.mem_singleton_self _
  exact (mem_deeds_iff before member _).1 submitted

/-- No two members submitted one put. -/
lemma Slots.Records.member_unique {member' : Nat} (records : Slots.Records log slots)
    (submitted : ⟨member, .slots (.submit key), ticket⟩ ∈ log)
    (submitted' : ⟨member', .slots (.submit key), ticket⟩ ∈ log) : member = member' := by
  obtain ⟨front, back, split⟩ := List.append_of_mem submitted
  obtain ⟨front', back', split'⟩ := List.append_of_mem submitted'
  obtain ⟨-, same, -⟩ := records.ticket_unique split split'
    (Answered.obtains_submit member key ticket) (Answered.obtains_submit member' key ticket)
  exact congrArg Answered.member same

/-- A put comes to its end only once. -/
lemma Orderly.not_settles (orderly : Orderly limits team) {call : SlotsCall} {reply : call.Answer}
    (split : team.log = before ++ ⟨member, .slots call, reply⟩ :: after)
    (settles : call.Settles key ticket) : ∀ earlier ∈ before, ¬ earlier.Settles key ticket := by
  intro earlier inside settled
  obtain ⟨call', reply', same, settles'⟩ := Answered.exists_of_settles settled
  obtain ⟨front, back, parts⟩ := List.append_of_mem inside
  have split' : team.log = front ++ ⟨earlier.member, .slots call', reply'⟩ ::
      (back ++ ⟨member, .slots call, reply⟩ :: after) := by
    rw [← same, split, parts, List.append_assoc, List.cons_append]
  -- Both ends belong to the member that has the ticket, and it had only submitted until then.
  have own : member = earlier.member := by
    apply orderly.records.member_unique
    · rw [split]
      exact List.mem_append_left _ (orderly.submitted_of_settles split settles)
    · rw [split']
      exact List.mem_append_left _ (orderly.submitted_of_settles split' settles')
  subst own
  have deed : (⟨call', reply'⟩ : SlotsExchange) ∈
      (errands δ limits).deeds before earlier.member := by
    rw [mem_deeds_iff, ← same]
    exact inside
  rw [orderly.deeds_of_settles split settles, List.mem_singleton] at deed
  cases deed
  exact settles'

/-- At rest, the puts that succeeded are those that came to publish. -/
lemma Orderly.succeeded_iff (orderly : Orderly limits team) (reliable : Reliable δ)
    (rest : team.IsAtRest) :
    Succeeded team key ticket source ↔ ∃ member entry publication,
      team.HasTask member (.put key source entry.expires) ∧
      ⟨member, .slots (.publish key ticket entry), publication⟩ ∈ team.log ∧
      Since (· = ⟨member, .slots (.submit key), ticket⟩) (·.Drops key) team.log := by
  constructor
  · rintro ⟨member, expires, found, since⟩
    rcases (orderly.follows.keeps member _ _ found).put_cases reliable with
      ⟨-, ticket', entry, publication, own⟩ | ⟨ticket', error, -, ⟨⟩⟩
    have submitted : (⟨.submit key, ticket⟩ : SlotsExchange) ∈
        (errands δ limits).deeds team.log member := by
      obtain ⟨earlier, submission, later, split, rfl, -⟩ := since
      rw [mem_deeds_iff, split]
      exact List.mem_append_right _ List.mem_cons_self
    have published : (⟨.publish key ticket' entry, publication⟩ : SlotsExchange) ∈
        (errands δ limits).deeds team.log member := by
      rw [own]
      exact List.mem_cons_of_mem _ List.mem_cons_self
    obtain rfl : ticket = ticket' := by
      rw [own] at submitted
      simpa using submitted
    rw [mem_deeds_iff] at published
    obtain ⟨before, after, split⟩ := List.append_of_mem published
    obtain ⟨-, source', bytes, has, -⟩ := orderly.put_of_publish split
    cases Team.HasTask.unique ⟨_, found⟩ has
    exact ⟨member, entry, publication, has, published, since⟩
  · rintro ⟨member, entry, publication, ⟨operation, found⟩, published, since⟩
    have done := rest _ (List.mem_of_getElem? found)
    cases operation with
    | ask call next => cases done
    | done result =>
      rcases (orderly.follows.keeps member _ _ found).put_cases reliable with
        ⟨rfl, -⟩ | ⟨ticket', error, own, -⟩
      · exact ⟨member, _, found, since⟩
      · have deed : (⟨.publish key ticket entry, publication⟩ : SlotsExchange) ∈
            (errands δ limits).deeds team.log member := by
          rw [mem_deeds_iff]
          exact published
        rw [own] at deed
        simp at deed

/-! ### Which put is published -/

/-- A later submission than one that was not ended since was not ended since either. -/
lemma Slots.Records.since_later {ticket' : Nat} {later : Answered} {ended : Answered → Prop}
    (records : Slots.Records log slots) (since : Since (·.Obtains key ticket) ended log)
    (inside : later ∈ log) (obtains : later.Obtains key ticket') (less : ticket < ticket') :
    Since (· = later) ended log := by
  obtain ⟨earlier, event, since, split, obtained, quiet⟩ := since
  obtain ⟨front, back, split'⟩ := List.append_of_mem inside
  rcases records.ticket_cases split split' obtained obtains with
    ⟨rfl, -⟩ | ⟨-, between, -, rest⟩ | ⟨less', -⟩
  · exact absurd less (Nat.lt_irrefl _)
  · refine ⟨front, later, back, split', rfl, ?_⟩
    intro other inside'
    exact quiet other (by simp [rest, inside'])
  · exact absurd less' (Nat.lt_asymm less)

/-- What was not ended since a submission was not ended before or after something else that came
after the submission. -/
lemma Slots.Records.since_before {event : Answered} {ended : Answered → Prop}
    (records : Slots.Records log slots) (split : log = before ++ event :: after)
    (submitted : ⟨member, .slots (.submit key), ticket⟩ ∈ before)
    (since : Since (· = ⟨member, .slots (.submit key), ticket⟩) ended log) :
    Since (· = ⟨member, .slots (.submit key), ticket⟩) ended before ∧
      ∀ later ∈ after, ¬ ended later := by
  obtain ⟨earlier, submission, since, parts, rfl, quiet⟩ := since
  obtain ⟨front, back, rfl⟩ := List.append_of_mem submitted
  rw [List.append_assoc, List.cons_append] at split
  have own := Answered.obtains_submit member key ticket
  obtain ⟨rfl, -, rfl⟩ := records.ticket_unique parts split own own
  constructor
  · exact ⟨earlier, _, back, rfl, rfl, fun later inside => quiet later (by simp [inside])⟩
  · exact fun later inside => quiet later (by simp [inside])

lemma Orderly.overtaken_iff (orderly : Orderly limits team)
    (split : team.log =
      before ++ ⟨member, .slots (.publish key ticket entry), publication⟩ :: after) :
    Overtaken team.log key ticket ↔
      ∃ later ∈ before, ∃ ticket', ticket < ticket' ∧ later.Obtains key ticket' := by
  constructor
  · rintro ⟨before', member', entry', publication', after', split', overtaken⟩
    have settles (member : Nat) (entry : Entry ContentId) (publication : Publication) :
        Answered.Settles ⟨member, .slots (.publish key ticket entry), publication⟩ key ticket :=
      ⟨rfl, rfl⟩
    rcases append_cons_cases (split.symm.trans split') with
      ⟨rfl, -⟩ | ⟨between, parts, -⟩ | ⟨between, parts, -⟩
    · exact overtaken
    · exact absurd (settles member entry publication)
        (orderly.not_settles split' ⟨rfl, rfl⟩ _ (by simp [parts]))
    · exact absurd (settles member' entry' publication')
        (orderly.not_settles split ⟨rfl, rfl⟩ _ (by simp [parts]))
  · intro overtaken
    exact ⟨before, member, entry, publication, after, split, overtaken⟩

/-- The content of a put whose key was not dropped is published unless the put was overtaken. -/
lemma Orderly.isPublished_iff (orderly : Orderly limits team)
    (split : team.log =
      before ++ ⟨member, .slots (.publish key ticket entry), publication⟩ :: after)
    (submitted : Since (· = ⟨member, .slots (.submit key), ticket⟩) (·.Drops key) before) :
    publication.isPublished = true ↔ ¬ Overtaken team.log key ticket := by
  rw [orderly.overtaken_iff split]
  obtain ⟨slots, earlier, rfl⟩ := (split ▸ orderly.records).reply_eq
  have pending : ticket ∈ slots.underWay key := by
    obtain ⟨front, submission, since, parts, rfl, quiet⟩ := submitted
    refine earlier.mem_underWay_iff.2 ⟨front, _, since, parts, ⟨rfl, rfl⟩, ?_⟩
    rintro later inside (drops | settles)
    · exact quiet later inside drops
    · exact orderly.not_settles split ⟨rfl, rfl⟩ later (by simp [parts, inside]) settles
  rw [Slots.answer_publish_isPublished, and_iff_right pending, earlier.latest?_eq_iff pending]

/-- A put that prevails has published its content. -/
lemma Orderly.published_of_prevails (orderly : Orderly limits team) (reliable : Reliable δ)
    (rest : team.IsAtRest) (prevails : Prevails team key ticket source) :
    Since (fun answered => ∃ entry, answered.Publishes key ticket entry) (·.Drops key)
      team.log := by
  obtain ⟨succeeded, first⟩ := prevails
  obtain ⟨member, entry, publication, -, came, submitted⟩ :=
    (orderly.succeeded_iff reliable rest).1 succeeded
  obtain ⟨before, after, split⟩ := List.append_of_mem came
  obtain ⟨submitted, quiet⟩ := orderly.records.since_before split
    (orderly.submitted_of_settles split ⟨rfl, rfl⟩) submitted
  have published := (orderly.isPublished_iff split submitted).2 first
  exact ⟨before, _, after, split, ⟨entry, rfl, rfl, rfl, published⟩, quiet⟩

/-- A put that has published its content prevails, unless its key was dropped. -/
lemma Orderly.prevails_of_published (orderly : Orderly limits team) (reliable : Reliable δ)
    (rest : team.IsAtRest) {released : Option ContentId}
    (split : team.log =
      before ++ ⟨member, .slots (.publish key ticket entry), ⟨true, released⟩⟩ :: after)
    (submitted : Since (· = ⟨member, .slots (.submit key), ticket⟩) (·.Drops key) team.log) :
    ∃ source bytes, Prevails team key ticket source ∧ limits.accepted? source = some bytes ∧
      entry.value = .ofBytes bytes := by
  obtain ⟨-, source, bytes, has, accepted, value⟩ := orderly.put_of_publish split
  obtain ⟨since, -⟩ := orderly.records.since_before split
    (orderly.submitted_of_settles split ⟨rfl, rfl⟩) submitted
  have first := (orderly.isPublished_iff split since).1 rfl
  have came : ⟨member, .slots (.publish key ticket entry), ⟨true, released⟩⟩ ∈ team.log := by
    rw [split]
    exact List.mem_append_right _ List.mem_cons_self
  have succeeded : Succeeded team key ticket source :=
    (orderly.succeeded_iff reliable rest).2 ⟨member, entry, _, has, came, submitted⟩
  exact ⟨source, bytes, ⟨succeeded, first⟩, accepted, value⟩

/-- What was published before the content of a put was submitted before the put, unless the put was
overtaken. -/
lemma Orderly.le_of_published (orderly : Orderly limits team)
    (split : team.log =
      before ++ ⟨member, .slots (.publish key ticket entry), publication⟩ :: after)
    (first : ¬ Overtaken team.log key ticket) {ticket' : Nat} {entry' : Entry ContentId}
    {published : Answered} (inside : published ∈ before)
    (publishes : published.Publishes key ticket' entry') : ticket' ≤ ticket := by
  obtain ⟨front, back, rfl⟩ := List.append_of_mem inside
  obtain ⟨released, same⟩ := Answered.eq_of_publishes publishes
  have split' : team.log = front ++ ⟨published.member, .slots (.publish key ticket' entry'),
      ⟨true, released⟩⟩ :: (back ++ ⟨member, .slots (.publish key ticket entry), publication⟩ ::
        after) := by
    rw [split, ← same, List.append_assoc, List.cons_append]
  have submitted := orderly.submitted_of_settles split' ⟨rfl, rfl⟩
  -- Else it would have been submitted later, and have overtaken the put.
  by_contra less
  refine first ((orderly.overtaken_iff split).2 ⟨_, List.mem_append_left _ submitted,
    ticket', Nat.lt_of_not_le less, rfl, rfl⟩)

/-! ### Which put wins -/

omit [DescriptorStore δ] in
/-- A put is known by its ticket. -/
lemma Succeeded.source_eq {source' : Source} (records : Slots.Records team.log slots)
    (succeeded : Succeeded team key ticket source)
    (succeeded' : Succeeded team key ticket source') : source = source' := by
  obtain ⟨member, expires, found, earlier, submission, later, split, rfl, -⟩ := succeeded
  obtain ⟨member', expires', found', earlier', submission', later', split', rfl, -⟩ := succeeded'
  obtain rfl : member = member' := by
    apply records.member_unique
    · rw [split]
      exact List.mem_append_right _ List.mem_cons_self
    · rw [split']
      exact List.mem_append_right _ List.mem_cons_self
  rw [found] at found'
  cases found'
  rfl

omit [DescriptorStore δ] in
lemma Succeeded.le_issued (records : Slots.Records team.log slots)
    (succeeded : Succeeded team key ticket source) : ticket ≤ slots.issued := by
  obtain ⟨member, expires, -, earlier, submission, later, split, rfl, -⟩ := succeeded
  rw [records.issued_eq, split, List.countP_append, List.countP_cons_of_pos rfl]
  rw [split] at records
  rw [records.ticket_eq (Answered.obtains_submit member key ticket)]
  omega

/-- The content of a put that succeeded was accepted. -/
lemma Orderly.accepted_of_succeeded (orderly : Orderly limits team) (reliable : Reliable δ)
    (rest : team.IsAtRest) (succeeded : Succeeded team key ticket source) :
    ∃ bytes, limits.accepted? source = some bytes := by
  obtain ⟨member, entry, publication, has, came, -⟩ :=
    (orderly.succeeded_iff reliable rest).1 succeeded
  obtain ⟨before, after, split⟩ := List.append_of_mem came
  obtain ⟨-, source', bytes, has', accepted, -⟩ := orderly.put_of_publish split
  cases has.unique has'
  exact ⟨bytes, accepted⟩

/-- Of the puts that prevail, the one that published last was submitted last. -/
lemma Orderly.le_of_prevails (orderly : Orderly limits team) (reliable : Reliable δ)
    (rest : team.IsAtRest)
    (split : team.log =
      before ++ ⟨member, .slots (.publish key ticket entry), publication⟩ :: after)
    (first : ¬ Overtaken team.log key ticket)
    (quiet : ∀ later ∈ after, ¬ ∃ ticket entry, later.Publishes key ticket entry) {ticket' : Nat}
    {source' : Source} (prevails : Prevails team key ticket' source') : ticket' ≤ ticket := by
  obtain ⟨front, event, back, split', ⟨entry', publishes⟩, -⟩ :=
    orderly.published_of_prevails reliable rest prevails
  rcases append_cons_cases (split.symm.trans split') with
    ⟨-, rfl, -⟩ | ⟨between, -, rfl⟩ | ⟨between, rfl, -⟩
  · exact Nat.le_of_eq publishes.2.1.symm
  · exact absurd ⟨ticket', entry', publishes⟩ (quiet event (by simp))
  · exact orderly.le_of_published split first (by simp) publishes

/-- What is published does not expire, where no put was given an expiry. -/
lemma Orderly.lasting_of_publishes (orderly : Orderly limits team)
    (lasting : ∀ member source expires,
      team.HasTask member (.put key source expires) → expires = none)
    {answered : Answered} (inside : answered ∈ team.log)
    (publishes : answered.Publishes key ticket entry) : entry.expires = none := by
  obtain ⟨before, after, split⟩ := List.append_of_mem inside
  obtain ⟨released, same⟩ := Answered.eq_of_publishes publishes
  rw [same] at split
  obtain ⟨-, source, bytes, has, -⟩ := orderly.put_of_publish split
  exact lasting answered.member source entry.expires has

/-- Where puts do not expire, a key maps in the end to the content of the last put that prevails. -/
theorem Orderly.stands (orderly : Orderly limits team) (reliable : Reliable δ)
    (rest : team.IsAtRest) (lasting : ∀ member source expires,
      team.HasTask member (.put key source expires) → expires = none) :
    Stands limits team.depot.slots key (Prevails team key) := by
  cases held : team.depot.slots.held? key with
  | none =>
    refine .vacant ?_ (by rw [Slots.contentId?_eq, held, Option.map_none])
    intro ticket source prevails
    obtain ⟨earlier, event, later, split, ⟨entry, publishes⟩, quiet⟩ :=
      orderly.published_of_prevails reliable rest prevails
    obtain ⟨entry', held'⟩ := orderly.records.exists_held?
      ⟨earlier, event, later, split, ⟨ticket, entry, publishes⟩, quiet⟩
      fun answered inside ticket entry publishes => orderly.lasting_of_publishes lasting inside
        publishes
    rw [held] at held'
    cases held'
  | some entry =>
    obtain ⟨putter, ticket, published, submitted⟩ :=
      orderly.since_of_held? orderly.records (List.prefix_refl _) held
    obtain ⟨before, event, after, split, ⟨rfl, publishes⟩, quiet⟩ := published
    obtain ⟨released, same⟩ := Answered.eq_of_publishes publishes
    rw [same] at split
    obtain ⟨source, bytes, prevails, accepted, value⟩ :=
      orderly.prevails_of_published reliable rest split submitted
    refine .mapped ⟨prevails, ?_⟩ accepted
      (by rw [Slots.contentId?_eq, held, Option.map_some, value])
    intro ticket' source' prevails'
    exact orderly.le_of_prevails reliable rest split prevails.2
      (fun later inside published => quiet later inside (Or.inr published)) prevails'

/-- The last of some puts is known by its ticket. -/
lemma LastPut.source_eq {puts : Nat → Source → Prop} {ticket' : Nat} {source' : Source}
    (unique : ∀ ticket source source', puts ticket source → puts ticket source' → source = source')
    (last : LastPut puts ticket source) (last' : LastPut puts ticket' source') :
    source = source' := by
  obtain rfl : ticket = ticket' :=
    Nat.le_antisymm (last'.last ticket source last.among) (last.last ticket' source' last'.among)
  exact unique ticket source source' last.among last'.among

/-- Where a key maps to the content of the last one of some puts, it maps to nothing if and only if
there are none. -/
lemma Stands.contentId?_eq_none_iff {puts : Nat → Source → Prop}
    (stands : Stands limits slots key puts) :
    slots.contentId? key = none ↔ ∀ ticket source, ¬ puts ticket source := by
  cases stands with
  | vacant nobody empty => exact iff_of_true empty nobody
  | mapped last accepted holds =>
    rw [holds]
    exact iff_of_false (Option.some_ne_none _) fun nobody => nobody _ _ last.among

lemma Stands.contentId?_eq_of_last {puts : Nat → Source → Prop}
    (unique : ∀ ticket source source', puts ticket source → puts ticket source' → source = source')
    (stands : Stands limits slots key puts) (last : LastPut puts ticket source) :
    slots.contentId? key = (limits.accepted? source).map ContentId.ofBytes := by
  cases stands with
  | vacant nobody empty => exact absurd last.among (nobody ticket source)
  | mapped last' accepted holds =>
    obtain rfl := last.source_eq unique last'
    rw [holds, accepted, Option.map_some]

end

/-! ### Whole runs -/

/-- Where the last put that succeeded was overtaken, the last one that was not has put the same
content. -/
def OvertakenInVain (limits : IngestLimits) (team : CacheTeam β δ) (key : String) : Prop :=
  ∀ ticket source, LastPut (Succeeded team key) ticket source → Overtaken team.log key ticket →
    ∃ ticket' source', LastPut (Prevails team key) ticket' source' ∧
      (limits.accepted? source').map ContentId.ofBytes =
        (limits.accepted? source).map ContentId.ofBytes

/-- The last put that succeeded and was not overtaken wins. -/
structure LastUnovertakenWins (limits : IngestLimits) (team : CacheTeam β δ) (key : String) :
    Prop where
  stands : Stands limits team.depot.slots key (Prevails team key)
  /-- The last put that succeeded wins if and only if it was not overtaken, or it makes no
  difference. -/
  last_wins_iff : Stands limits team.depot.slots key (Succeeded team key) ↔
    OvertakenInVain limits team key
  /-- Where all puts since a key was dropped last have succeeded, the last one wins. -/
  unfailing : (∀ member ticket,
      Since (· = ⟨member, .slots (.submit key), ticket⟩) (·.Drops key) team.log →
        ∃ source, Succeeded team key ticket source) →
    Stands limits team.depot.slots key (Succeeded team key)

section

variable [DescriptorStore δ] {limits : IngestLimits} {team : CacheTeam β δ} {key : String}
  {ticket : Nat} {source : Source}

omit [DescriptorStore δ] in
lemma Prevails.source_eq {slots : Slots} {source' : Source}
    (records : Slots.Records team.log slots) (prevails : Prevails team key ticket source)
    (prevails' : Prevails team key ticket source') : source = source' :=
  prevails.1.source_eq records prevails'.1

/-- If the last put that succeeded wins, then it does not matter that it was overtaken. -/
lemma Orderly.overtakenInVain_of_stands (orderly : Orderly limits team) (reliable : Reliable δ)
    (rest : team.IsAtRest) (stands : Stands limits team.depot.slots key (Prevails team key))
    (wins : Stands limits team.depot.slots key (Succeeded team key)) :
    OvertakenInVain limits team key := by
  intro ticket source last overtaken
  have holds := wins.contentId?_eq_of_last
    (fun _ _ _ first second => first.source_eq orderly.records second) last
  cases stands with
  | vacant nobody empty =>
    obtain ⟨bytes, accepted⟩ := orderly.accepted_of_succeeded reliable rest last.among
    rw [empty, accepted] at holds
    cases holds
  | mapped last' accepted' holds' =>
    refine ⟨_, _, last', ?_⟩
    rw [← holds, holds', accepted', Option.map_some]

/-- If it does not matter that the last put that succeeded was overtaken, then it wins. -/
lemma Orderly.stands_of_overtakenInVain (orderly : Orderly limits team) (reliable : Reliable δ)
    (rest : team.IsAtRest) (stands : Stands limits team.depot.slots key (Prevails team key))
    (vain : OvertakenInVain limits team key) :
    Stands limits team.depot.slots key (Succeeded team key) := by
  by_cases some : ∃ ticket source, Succeeded team key ticket source
  · obtain ⟨ticket, source, among⟩ := some
    obtain ⟨ticket, source, last⟩ := exists_lastPut among fun ticket source succeeded =>
      Succeeded.le_issued orderly.records succeeded
    obtain ⟨bytes, accepted⟩ := orderly.accepted_of_succeeded reliable rest last.among
    have prevailing {ticket' : Nat} {source' : Source}
        (last' : LastPut (Prevails team key) ticket' source') :
        team.depot.slots.contentId? key = (limits.accepted? source').map ContentId.ofBytes :=
      stands.contentId?_eq_of_last
        (fun _ _ _ first second => first.source_eq orderly.records second) last'
    refine .mapped last accepted ?_
    by_cases overtaken : Overtaken team.log key ticket
    · obtain ⟨ticket', source', last', same⟩ := vain ticket source last overtaken
      rw [prevailing last', same, accepted, Option.map_some]
    · have last' : LastPut (Prevails team key) ticket source :=
        ⟨⟨last.among, overtaken⟩, fun ticket source first => last.last ticket source first.1⟩
      rw [prevailing last', accepted, Option.map_some]
  · have nobody (ticket : Nat) (source : Source) : ¬ Succeeded team key ticket source :=
      fun succeeded => some ⟨ticket, source, succeeded⟩
    exact .vacant nobody (stands.contentId?_eq_none_iff.2 fun ticket source prevails =>
      nobody ticket source prevails.1)

omit [DescriptorStore δ] in
/-- The last put that succeeded was not overtaken unless another one failed. -/
lemma not_overtaken_of_last (records : Slots.Records team.log team.depot.slots)
    (unfailing : ∀ member ticket,
      Since (· = ⟨member, .slots (.submit key), ticket⟩) (·.Drops key) team.log →
        ∃ source, Succeeded team key ticket source)
    (last : LastPut (Succeeded team key) ticket source) : ¬ Overtaken team.log key ticket := by
  rintro ⟨before, member, entry, publication, after, split, later, inside, ticket', less, obtains⟩
  obtain ⟨member', expires, -, earlier, submission, since, parts, rfl, quiet⟩ := last.among
  have submitted := records.since_later
    ⟨earlier, _, since, parts, Answered.obtains_submit member' key ticket, quiet⟩
    (by simp [split, inside]) obtains less
  rw [Answered.eq_of_obtains obtains] at submitted
  obtain ⟨source', succeeded⟩ := unfailing _ _ submitted
  exact absurd less (Nat.not_lt.2 (last.last ticket' source' succeeded))

end

namespace ContentCache

/-- Operations of a cache take turns over any stores in which references are given back without
fail, until nothing is left to do. If no put on a key was given an expiry, then the last put that
succeeded and was not overtaken wins. -/
theorem last_unovertaken_wins [BlobStore β] [DescriptorStore δ] (reliable : Reliable δ)
    (cache : ContentCache) (depot : Depot β δ) (unused : depot.slots = .empty)
    (turns : List (Team.Turn (CacheCall Source))) (key : String)
    (lasting : ∀ source expires, .start (.put key source expires) ∈ turns → expires = none)
    (rest : (cache.teamAfter depot turns).IsAtRest) :
    LastUnovertakenWins cache.store.limits (cache.teamAfter depot turns) key := by
  have orderly := cache.orderly_teamAfter depot unused turns
  have stands : Stands cache.store.limits (cache.teamAfter depot turns).depot.slots key
      (Prevails (cache.teamAfter depot turns) key) :=
    orderly.stands reliable rest fun member source expires has =>
      lasting source expires (Team.start_of_hasTask has)
  have wins := orderly.stands_of_overtakenInVain reliable rest stands
  refine ⟨stands, ⟨orderly.overtakenInVain_of_stands reliable rest stands, wins⟩, ?_⟩
  intro unfailing
  apply wins
  intro ticket source last overtaken
  exact absurd overtaken (not_overtaken_of_last orderly.records unfailing last)

/-- Two puts of other content come in while one is under way. The first of them succeeds, and the
second one fails. -/
theorem last_unovertaken_wins_overlapping :
    LastUnovertakenWins {} (teamAfter {} (MemoryDepot.vacant ⟨0, 0⟩)
      (.start (.put "a" (.ofBytes [120]) none) :: .advance 0 ::
        .start (.put "a" (.ofBytes [121]) none) :: List.replicate 16 (.advance 1) ++
          .start (.put "a" ⟨[.error (.ofKind .connectionReset)], none⟩ none) ::
            List.replicate 8 (.advance 2) ++ List.replicate 16 (.advance 0))) "a" := by
  refine last_unovertaken_wins MemoryDescriptors.reliable {} (MemoryDepot.vacant ⟨0, 0⟩) rfl _ "a"
    ?_ (by decide +kernel)
  intro source expires inside
  simp only [List.reduceReplicate, List.cons_append, List.nil_append, List.mem_cons,
    Team.Turn.start.injEq, CacheCall.put.injEq, true_and, reduceCtorEq, List.not_mem_nil, or_self,
    or_false, false_or] at inside
  rcases inside with ⟨-, rfl⟩ | ⟨-, rfl⟩ | ⟨-, rfl⟩
  · rfl
  · rfl
  · rfl

/-- A put has the time to be submitted; another one comes in and fails; then the first one goes on
to its end. -/
def overtaking : List (Team.Turn (CacheCall Source)) :=
  [.start (.put "a" (.ofBytes [120]) none), .advance 0] ++
    .start (.put "a" ⟨[.error (.ofKind .connectionReset)], none⟩ none) ::
      List.replicate 8 (.advance 1) ++ List.replicate 16 (.advance 0)

/-- Whether an operation has put something under a key. -/
def hasPut (key : String) : (task : CacheCall Source) × Operation (task.Answer OpenedContent) → Bool
  | ⟨.put other _ _, .done (.ok _)⟩ => other = key
  | _ => false

lemma exists_of_hasPut {key : String}
    {member : Option ((task : CacheCall Source) × Operation (task.Answer OpenedContent))}
    (has : member.any (hasPut key) = true) :
    ∃ source expires, member = some ⟨.put key source expires, .done (.ok ())⟩ := by
  cases member with
  | none => cases has
  | some member =>
    rw [Option.any_some] at has
    unfold hasPut at has
    split at has
    · next other source expires result =>
      obtain rfl : other = key := of_decide_eq_true has
      exact ⟨source, expires, rfl⟩
    · cases has

lemma put_of_start_overtaking {task : CacheCall Source} (begun : .start task ∈ overtaking) :
    ∃ source, task = .put "a" source none := by
  have tasks : overtaking.filterMap Team.Turn.task? = [.put "a" (.ofBytes [120]) none,
      .put "a" ⟨[.error (.ofKind .connectionReset)], none⟩ none] := rfl
  have inside : task ∈ overtaking.filterMap Team.Turn.task? :=
    List.mem_filterMap.2 ⟨_, begun, rfl⟩
  rw [tasks] at inside
  rcases List.mem_pair.1 inside with rfl | rfl
  · exact ⟨_, rfl⟩
  · exact ⟨_, rfl⟩

/-- The first put is submitted, and nobody drops its key. -/
lemma since_overtaking : Since (· = ⟨0, .slots (.submit "a"), 1⟩) (·.Drops "a")
    (teamAfter {} (MemoryDepot.vacant ⟨0, 0⟩) overtaking).log := by
  have orderly := orderly_teamAfter {} (MemoryDepot.vacant ⟨0, 0⟩) rfl overtaking
  obtain ⟨later, log⟩ := log_prefix_teamAfter {} (MemoryDepot.vacant ⟨0, 0⟩)
    [.start (.put "a" (.ofBytes [120]) none), .advance 0] (overtaking.drop 2)
  refine ⟨[], _, later, log.symm, rfl, ?_⟩
  intro answered inside drops
  have logged : answered ∈ (teamAfter {} (MemoryDepot.vacant ⟨0, 0⟩) overtaking).log :=
    log ▸ List.mem_append_right _ inside
  rcases orderly.invalidates_of_drops logged drops with has | ⟨keys, has, -⟩
  · obtain ⟨source, ⟨⟩⟩ := put_of_start_overtaking (Team.start_of_hasTask has)
  · obtain ⟨source, ⟨⟩⟩ := put_of_start_overtaking (Team.start_of_hasTask has)

/-- A key may map to nothing although a put on it succeeded, nobody has dropped the key, and nothing
is left to do. -/
theorem exists_overtaken : ¬ ∀ (cache : ContentCache) (now : Instant)
    (turns : List (Team.Turn (CacheCall Source))) (key : String),
    (∀ task, .start task ∈ turns →
      (∃ source, task = .put key source none) ∨ task = .invalidate key) →
    (cache.teamAfter (MemoryDepot.vacant now) turns).IsAtRest →
      Stands cache.store.limits (cache.teamAfter (MemoryDepot.vacant now) turns).depot.slots key
        (Succeeded (cache.teamAfter (MemoryDepot.vacant now) turns) key) := by
  intro claimed
  have run : (teamAfter {} (MemoryDepot.vacant ⟨0, 0⟩) overtaking).IsAtRest ∧
      (teamAfter {} (MemoryDepot.vacant ⟨0, 0⟩) overtaking).depot.slots.contentId? "a" = none ∧
      (teamAfter {} (MemoryDepot.vacant ⟨0, 0⟩) overtaking).members[0]?.any (hasPut "a") := by
    decide +kernel
  obtain ⟨rested, gone, put⟩ := run
  obtain ⟨source, expires, found⟩ := exists_of_hasPut put
  have stands := claimed {} ⟨0, 0⟩ overtaking "a"
    (fun task begun => Or.inl (put_of_start_overtaking begun)) rested
  exact stands.contentId?_eq_none_iff.1 gone 1 source ⟨0, expires, found, since_overtaking⟩

end ContentCache

end AssetCache
