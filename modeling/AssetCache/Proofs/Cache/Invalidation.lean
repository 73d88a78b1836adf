import AssetCache.Proofs.Cache.Errands
import AssetCache.Proofs.Cache.History
import AssetCache.Proofs.Depots

/-!
# Invalidation beats earlier puts

Operations of a content cache run side by side over any stores, in any turns. A put that publishes
its content is the one that was submitted last on its key, and the key was not dropped since. So
what is published under a key comes in the order in which it was submitted, and whoever looks a key
up finds nothing of a put that was submitted before the key was dropped
(`ContentCache.invalidation_wins`).
-/

namespace AssetCache

/-- A put is known by its ticket. -/
lemma Slots.Records.since_submitted {log : List Answered} {slots : Slots} {member : Nat}
    {key : String} {ticket : Nat} {ended : Answered → Prop} (records : Slots.Records log slots)
    (since : Since (·.Obtains key ticket) ended log)
    (submitted : ⟨member, .slots (.submit key), ticket⟩ ∈ log) :
    Since (· = ⟨member, .slots (.submit key), ticket⟩) ended log := by
  obtain ⟨earlier, event, later, split, obtains, quiet⟩ := since
  obtain ⟨earlier', later', split'⟩ := List.append_of_mem submitted
  obtain ⟨-, same, -⟩ :=
    records.ticket_unique split split' obtains (Answered.obtains_submit member key ticket)
  exact ⟨earlier, event, later, split, same, quiet⟩

/-- The operations of a cache side by side. -/
abbrev CacheTeam (β δ : Type) :=
  Team (fun call : CacheCall Source => call.Answer OpenedContent) β δ

/-- The operations go about their errands, and the log knows all that they do to the slots. -/
structure Orderly {β δ : Type} [DescriptorStore δ] (limits : IngestLimits) (team : CacheTeam β δ) :
    Prop where
  follows : Team.Follows (errands δ limits) (CacheCall.Concludes δ) team
  records : Slots.Records team.log team.depot.slots

section

variable {β δ : Type} [DescriptorStore δ] {limits : IngestLimits} {team : CacheTeam β δ}
  {before after : List Answered} {member : Nat} {key : String} {ticket : Nat}
  {entry : Entry ContentId} {publication : Publication}

/-- Only a put publishes, and it publishes the content of its own stream with its own ticket. -/
lemma Orderly.put_of_publish (orderly : Orderly limits team)
    (split : team.log =
      before ++ ⟨member, .slots (.publish key ticket entry), publication⟩ :: after) :
    ⟨member, .slots (.submit key), ticket⟩ ∈ before ∧ ∃ source bytes,
      team.HasTask member (.put key source entry.expires) ∧
        limits.accepted? source = some bytes ∧ entry.value = .ofBytes bytes := by
  obtain ⟨task, has, permits, -⟩ := orderly.follows.permitted before after _ split
  cases task with
  | put key' source expires =>
    obtain ⟨own, rfl, bytes, accepted, rfl⟩ := permits
    have submitted : (⟨.submit key, ticket⟩ : SlotsExchange) ∈
        (errands δ limits).deeds before member := by
      rw [own]
      exact List.mem_singleton_self _
    exact ⟨(mem_deeds_iff before member _).1 submitted, source, bytes, has, accepted, rfl⟩
  | _ => exact False.elim permits

/-- Only an invalidation drops a key. -/
lemma Orderly.invalidates_of_drops (orderly : Orderly limits team) {answered : Answered}
    (inside : answered ∈ team.log) (drops : answered.Drops key) :
    team.HasTask answered.member (.invalidate key) ∨
      ∃ keys, team.HasTask answered.member (.invalidateAll keys) ∧ key ∈ keys := by
  obtain ⟨before, after, split⟩ := List.append_of_mem inside
  obtain ⟨task, has, permits, -⟩ := orderly.follows.permitted before after answered split
  obtain ⟨member, call, reply⟩ := answered
  cases call with
  | slots call =>
    cases call with
    | remove other =>
      obtain rfl : other = key := drops
      cases task with
      | invalidate key' =>
        obtain ⟨-, rfl⟩ := permits
        exact Or.inl has
      | _ => exact False.elim permits
    | removeAll others =>
      cases task with
      | invalidateAll keys =>
        obtain ⟨-, rfl⟩ := permits
        exact Or.inr ⟨others, has, drops⟩
      | _ => exact False.elim permits
    | _ => exact False.elim drops
  | _ => exact False.elim drops

/-- Whoever publishes was the last to submit, and the key was not dropped since. -/
lemma Orderly.since_submission (orderly : Orderly limits team) {released : Option ContentId}
    (split : team.log =
      before ++ ⟨member, .slots (.publish key ticket entry), ⟨true, released⟩⟩ :: after) :
    Since (· = ⟨member, .slots (.submit key), ticket⟩)
      (fun answered => answered.Submits key ∨ answered.Drops key) before := by
  obtain ⟨submitted, -⟩ := orderly.put_of_publish split
  obtain ⟨slots, earlier, published⟩ := (split ▸ orderly.records).reply_eq
  obtain ⟨-, last⟩ :=
    Slots.answer_publish_isPublished.1 (congrArg Publication.isPublished published).symm
  exact earlier.since_submitted (earlier.since_latest last) submitted

/-- The entry of a key was published by a put, and its key was not dropped since the put was
submitted. -/
lemma Orderly.since_of_held? (orderly : Orderly limits team) {slots : Slots}
    (earlier : Slots.Records before slots) (grown : before <+: team.log)
    (held : slots.held? key = some entry) : ∃ putter ticket,
    Since (fun answered => answered.member = putter ∧ answered.Publishes key ticket entry)
      (fun answered => answered.Drops key ∨
        ∃ ticket' entry', answered.Publishes key ticket' entry') before ∧
    Since (· = ⟨putter, .slots (.submit key), ticket⟩) (·.Drops key) before := by
  obtain ⟨front, event, since, parts, ⟨ticket, publishes⟩, quiet⟩ := earlier.held?_iff.1 held
  obtain ⟨released, same⟩ := Answered.eq_of_publishes publishes
  obtain ⟨after, split⟩ := grown
  have whole : team.log = front ++ ⟨event.member, .slots (.publish key ticket entry),
      ⟨true, released⟩⟩ :: (since ++ after) := by
    rw [← split, parts, ← same, List.append_assoc, List.cons_append]
  obtain ⟨front', submission, streaming, parts', submitted, quiet'⟩ :=
    orderly.since_submission whole
  refine ⟨event.member, ticket, ⟨front, event, since, parts, ⟨rfl, publishes⟩, ?_⟩, ?_⟩
  · rintro later inside (drops | published)
    · exact quiet later inside (Or.inl drops)
    · exact quiet later inside (Or.inr (Or.inr published))
  · refine ⟨front', submission, streaming ++ event :: since, ?_, submitted, ?_⟩
    · rw [parts, parts', List.append_assoc, List.cons_append]
    · intro later inside
      rcases List.mem_append.1 inside with inside | inside
      · exact fun drops => quiet' later inside (Or.inr drops)
      · rcases List.mem_cons.1 inside with rfl | inside
        · rw [same]
          exact id
        · exact fun drops => quiet later inside (Or.inl drops)

/-- A look-up by a member found the entry that a put had published under its ticket. -/
structure Serves (log before : List Answered) (getter putter : Nat) (key : String) (ticket : Nat)
    (entry : Entry ContentId) : Prop where
  looked : ∃ now after,
    log = before ++ ⟨getter, .slots (.lookup key now), .live entry.value⟩ :: after
  published : Since (fun answered => answered.member = putter ∧ answered.Publishes key ticket entry)
    (fun answered => answered.Drops key ∨ ∃ ticket' entry', answered.Publishes key ticket' entry')
    before
  submitted : Since (· = ⟨putter, .slots (.submit key), ticket⟩) (·.Drops key) before

/-- A key was not dropped between the submission of a put and its publication, nor between that and
the look-up that found it. -/
lemma Orderly.serves_of_live (orderly : Orderly limits team) {now : Instant} {id : ContentId}
    (split : team.log = before ++ ⟨member, .slots (.lookup key now), .live id⟩ :: after) :
    ∃ putter ticket entry, entry.value = id ∧
      Serves team.log before member putter key ticket entry := by
  obtain ⟨slots, earlier, found⟩ := (split ▸ orderly.records).reply_eq
  obtain ⟨entry, held, rfl⟩ := Slots.answer_lookup_eq_live found.symm
  have grown : before <+: team.log := by
    rw [split]
    exact List.prefix_append _ _
  obtain ⟨putter, ticket, published, submitted⟩ :=
    orderly.since_of_held? earlier grown held
  exact ⟨putter, ticket, entry, rfl, ⟨now, after, split⟩, published, submitted⟩

/-- What is found was submitted after the key was last dropped. -/
lemma Serves.not_mem_of_drops {log between rest : List Answered} {getter putter : Nat}
    {dropped : Answered} {slots : Slots} (records : Slots.Records before slots)
    (serves : Serves log before getter putter key ticket entry)
    (parts : before = between ++ dropped :: rest) (drops : dropped.Drops key) :
    ⟨putter, .slots (.submit key), ticket⟩ ∉ between := by
  intro inside
  obtain ⟨front, submission, later, whole, rfl, quiet⟩ := serves.submitted
  obtain ⟨front', later', rfl⟩ := List.append_of_mem inside
  have own := Answered.obtains_submit putter key ticket
  have twice : before = front' ++ ⟨putter, .slots (.submit key), ticket⟩ ::
      (later' ++ dropped :: rest) := by
    rw [parts, List.append_assoc, List.cons_append]
  obtain ⟨-, -, rfl⟩ := records.ticket_unique whole twice own own
  exact quiet dropped (by simp) drops

end

/-! ### Whole runs -/

namespace ContentCache

variable {β δ : Type} [BlobStore β] [DescriptorStore δ]

/-- A cache over some stores after its operations have taken some turns. -/
def teamAfter (cache : ContentCache) (depot : Depot β δ)
    (turns : List (Team.Turn (CacheCall Source))) : CacheTeam β δ :=
  Team.play cache.answer ⟨depot, [], []⟩ turns

lemma orderly_teamAfter (cache : ContentCache) (depot : Depot β δ)
    (unused : depot.slots = .empty) (turns : List (Team.Turn (CacheCall Source))) :
    Orderly cache.store.limits (cache.teamAfter depot turns) where
  follows := Team.follows_play upheld_errands depot turns (cache.errands_answer δ)
  records := Team.records_play unused turns

/-- What has happened after some turns has happened after more of them. -/
lemma log_prefix_teamAfter (cache : ContentCache) (depot : Depot β δ)
    (first second : List (Team.Turn (CacheCall Source))) :
    (cache.teamAfter depot first).log <+: (cache.teamAfter depot (first ++ second)).log := by
  rw [teamAfter, teamAfter, Team.play_append]
  exact Team.log_prefix_play _ second

/-- Invalidation beats earlier puts. -/
structure InvalidationWins (cache : ContentCache) (depot : Depot β δ)
    (turns : List (Team.Turn (CacheCall Source))) : Prop where
  /-- A put that publishes the content of its stream is the one that was submitted last, and its key
  was not dropped since. -/
  published (before after : List Answered) (putter : Nat) (key : String) (ticket : Nat)
    (entry : Entry ContentId) (released : Option ContentId) :
    (cache.teamAfter depot turns).log =
        before ++ ⟨putter, .slots (.publish key ticket entry), ⟨true, released⟩⟩ :: after →
      Since (· = ⟨putter, .slots (.submit key), ticket⟩)
        (fun answered => answered.Submits key ∨ answered.Drops key) before ∧
      ∃ source bytes, (cache.teamAfter depot turns).HasTask putter (.put key source entry.expires) ∧
        cache.store.limits.accepted? source = some bytes ∧ entry.value = .ofBytes bytes
  increasing (key : String) :
    (Slots.published key (cache.teamAfter depot turns).log).Pairwise (· < ·)
  /-- What a get comes to that hits is what a put has published. -/
  served (getter : Nat) (key : String) (opened : OpenedContent) :
    (cache.teamAfter depot turns).members[getter]? = some ⟨.get key, .done (.ok (some opened))⟩ →
      ∃ before putter ticket entry,
        Serves (cache.teamAfter depot turns).log before getter putter key ticket entry
  /-- A get that begins after a key was dropped finds nothing of a put that was submitted before
  that. -/
  fresh (first second : List (Team.Turn (CacheCall Source))) (getter putter : Nat) (key : String)
    (ticket : Nat) (entry : Entry ContentId) (before part rest : List Answered)
    (dropped : Answered) :
    turns = first ++ second → (cache.teamAfter depot first).members.length ≤ getter →
      (cache.teamAfter depot first).log = part ++ dropped :: rest → dropped.Drops key →
      Serves (cache.teamAfter depot turns).log before getter putter key ticket entry →
        ⟨putter, .slots (.submit key), ticket⟩ ∉ part

/-- Over any stores and in any turns, invalidation beats earlier puts. -/
theorem invalidation_wins (cache : ContentCache) (depot : Depot β δ)
    (unused : depot.slots = .empty) (turns : List (Team.Turn (CacheCall Source))) :
    InvalidationWins cache depot turns := by
  have orderly (turns : List (Team.Turn (CacheCall Source))) :
      Orderly cache.store.limits (cache.teamAfter depot turns) :=
    cache.orderly_teamAfter depot unused turns
  refine ⟨?_, ?_, ?_, ?_⟩
  · intro before after putter key ticket entry released split
    exact ⟨(orderly turns).since_submission split, ((orderly turns).put_of_publish split).2⟩
  · intro key
    exact (orderly turns).records.inOrder_published.sorted
  · intro getter key opened found
    have concluded := (orderly turns).follows.keeps getter (.get key) _ found
    obtain ⟨now, id, own⟩ := concluded opened rfl
    have looked : (⟨.lookup key now, .live id⟩ : SlotsExchange) ∈
        (errands δ cache.store.limits).deeds (cache.teamAfter depot turns).log getter := by
      rw [own]
      exact List.mem_singleton_self _
    obtain ⟨before, after, split⟩ := List.append_of_mem ((mem_deeds_iff _ _ _).1 looked)
    obtain ⟨putter, ticket, entry, -, serves⟩ := (orderly turns).serves_of_live split
    exact ⟨before, putter, ticket, entry, serves⟩
  · rintro first second getter putter key ticket entry before part rest dropped rfl late split drops
      serves
    obtain ⟨now, after, looked⟩ := serves.looked
    -- The look-up is not in the log yet when the key is dropped.
    have unlogged : ⟨getter, .slots (.lookup key now), .live entry.value⟩ ∉
        (cache.teamAfter depot first).log := fun inside =>
      absurd ((orderly first).follows.lt_of_mem inside) (Nat.not_lt.2 late)
    obtain ⟨more, whole⟩ := cache.log_prefix_teamAfter depot first second
    obtain ⟨slots, earlier, -⟩ := (looked ▸ (orderly (first ++ second)).records).reply_eq
    obtain ⟨later, rfl⟩ : ∃ later, before = (cache.teamAfter depot first).log ++ later := by
      rcases List.append_eq_append_iff.1 (whole.trans looked) with
        ⟨later, same, -⟩ | ⟨later, same, others⟩
      · exact ⟨later, same⟩
      · cases later with
        | nil => exact ⟨[], by rw [same, List.append_nil, List.append_nil]⟩
        | cons event later =>
          cases others
          exact absurd (by simp [same]) unlogged
    have parts : (cache.teamAfter depot first).log ++ later =
        part ++ dropped :: (rest ++ later) := by
      rw [split, List.append_assoc, List.cons_append]
    exact serves.not_mem_of_drops earlier parts drops

/-- A key is dropped while a put is under way on it, and looked up after another put. -/
theorem invalidation_wins_streaming :
    InvalidationWins {} (MemoryDepot.vacant ⟨0, 0⟩)
      (.start (.put "a" (.ofBytes [120]) none) :: List.replicate 3 (.advance 0) ++
        .start (.invalidate "a") :: .advance 1 :: .start (.put "a" (.ofBytes [121]) none) ::
          List.replicate 16 (.advance 2) ++ List.replicate 16 (.advance 0) ++
            .start (.get "a") :: List.replicate 4 (.advance 3)) :=
  invalidation_wins {} (MemoryDepot.vacant ⟨0, 0⟩) rfl _

end ContentCache

end AssetCache
