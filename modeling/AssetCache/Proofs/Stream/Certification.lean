import AssetCache.Proofs.Depots
import AssetCache.Proofs.Stream.Ingestion

/-!
# No certificate for part of a stream

A store takes a digested stream in as it likes: it may ask for as many items as it wants, go on
after an error, stop early, and return whatever it wants. Attributes are given out only if it has
succeeded and has seen the stream end, and then they are those of the whole source
(`Sink.certifies_whole`). The stores of the library are such sinks (`BlobStore.exists_drains_put`).
-/

namespace AssetCache

/-! ### Sinks -/

/-- A way to take a stream in. By the items that it has been given, a sink asks for one more, or it
drops the stream and returns. -/
abbrev Sink := List Item → Option (Except StoreError Nat)

/-- What a sink makes of a stream after some items: all items that it has been given when it
returns, what it returns, and the stream as it is dropped. -/
inductive Sink.Drains (sink : Sink) :
    List Item → Upload → List Item → Except StoreError Nat → Upload → Prop
  | returns {items : List Item} {upload : Upload} {result : Except StoreError Nat} :
      sink items = some result → Drains sink items upload items result upload
  | asks {seen items : List Item} {upload dropped : Upload} {result : Except StoreError Nat} :
      sink seen = none →
        Drains sink (seen ++ [upload.poll.1]) upload.poll.2 items result dropped →
          Drains sink seen upload items result dropped

/-! ### What a stream has come to -/

/-- A source comes to its first item and what the rest of it comes to. -/
lemma Source.collect_of_poll (source : Source) :
    match source.poll.1 with
    | .chunk bytes => source.collect = (bytes ++ ·) <$> source.poll.2.collect
    | .notReady => source.collect = source.poll.2.collect
    | .error error => source.collect = .error error
    | .ended => source.collect = .ok [] := by
  obtain ⟨items, inlet⟩ := source
  cases items with
  | nil =>
    cases inlet with
    | none => rfl
    | some name => rfl
  | cons item rest =>
    cases item with
    | _ => rfl

namespace Item

lemma content_concat_chunk (items : List Item) (bytes : Bytes) :
    content (items ++ [.chunk bytes]) = content items ++ bytes := by
  simp [content, chunks_singleton, chunk?]

lemma content_concat_notReady (items : List Item) :
    content (items ++ [.notReady]) = content items := by
  simp [content, chunks_singleton, chunk?]

end Item

/-- What was read and the rest of a source stay the same whole when one more item is read. -/
lemma Source.collect_poll {source : Source} {items : List Item}
    (more : source.poll.1.isLast = false) :
    (Item.content items ++ ·) <$> source.collect =
      (Item.content (items ++ [source.poll.1]) ++ ·) <$> source.poll.2.collect := by
  have collected := source.collect_of_poll
  generalize source.poll = polled at more collected
  obtain ⟨item, rest⟩ := polled
  cases item with
  | chunk bytes =>
    dsimp only at collected ⊢
    rw [collected, Item.content_concat_chunk]
    cases rest.collect with
    | error error => rfl
    | ok later => exact congrArg Except.ok (List.append_assoc _ _ _).symm
  | notReady =>
    dsimp only at collected ⊢
    rw [collected, Item.content_concat_notReady]
  | error error => contradiction
  | ended => contradiction

namespace IngestLimits

variable {limits : IngestLimits} {size : Nat} {item : Item}

/-- The end that is passed on is that of the source. -/
lemma eq_ended_of_passes (ended : limits.passes size item = .ended) : item = .ended := by
  cases item with
  | chunk bytes =>
    rw [passes] at ended
    split at ended
    · contradiction
    · contradiction
  | error error => contradiction
  | notReady => contradiction
  | ended => rfl

/-- An error that is passed on is that of the source, or the limit was passed. -/
lemma eq_error_of_passes {error : IoError} (failed : limits.passes size item = .error error) :
    item = .error error ∨ error = Digest.tooLarge limits := by
  cases item with
  | chunk bytes =>
    rw [passes] at failed
    split at failed
    · exact Or.inr (Item.error.inj failed).symm
    · contradiction
  | error error' => exact Or.inl failed
  | notReady => contradiction
  | ended => contradiction

end IngestLimits

namespace Upload

/-- A digest that is done has left an outcome. -/
def IsSettled (upload : Upload) (outcome : Outcome) : Prop :=
  ∃ digest, upload.digest = some digest ∧ digest.done = true ∧
    digest.receiver = .settled outcome

lemma IsSettled.outcome?_eq {upload : Upload} {outcome : Outcome}
    (settled : upload.IsSettled outcome) : upload.outcome? = some outcome := by
  obtain ⟨digest, held, -, holds⟩ := settled
  rw [outcome?, held]
  show digest.receiver.outcome? = some outcome
  rw [holds]
  rfl

/-- How a digested stream stands that has answered with some items. -/
inductive Standing (limits : IngestLimits) (source : Source) (items : List Item) (upload : Upload) :
    Prop
  /-- It has neither failed nor ended, and the source comes to what was read and the rest of it. -/
  | reading : upload.Reads limits source items → (∀ item ∈ items, item.isLast = false) →
      source.collect = (Item.content items ++ ·) <$> upload.source.collect →
        Standing limits source items upload
  /-- It has ended, and the whole source was read. -/
  | ended {bytes : Bytes} : .ended ∈ items → (∀ error, .error error ∉ items) →
      limits.accepted? source = some bytes →
        upload.IsSettled (.ok (limits.attributesOf bytes)) → Standing limits source items upload
  /-- It has failed, as its source did or because it became too large. -/
  | failed {error : IoError} : .error error ∈ items →
      (∀ other, .error other ∈ items → other = error) →
        source.collect = .error error ∨ error = Digest.tooLarge limits →
          upload.IsSettled (.error error) → Standing limits source items upload

namespace Standing

open Digest

variable {limits : IngestLimits} {source : Source} {items : List Item} {upload : Upload}

lemma of_digested (limits : IngestLimits) (source : Source) :
    Standing limits source [] (.digested limits source) := by
  refine .reading (Upload.reads_digested limits source) ?_ ?_
  · exact fun _ none => absurd none List.not_mem_nil
  · show source.collect = ([] ++ ·) <$> source.collect
    exact (id_map _).symm

/-- A stream that answers with its first error or its end has come to that. -/
lemma of_last (reads : upload.Reads limits source items)
    (quiet : ∀ item ∈ items, item.isLast = false)
    (rest : source.collect = (Item.content items ++ ·) <$> upload.source.collect)
    (last : upload.poll.1.isLast = true) :
    Standing limits source (items ++ [upload.poll.1]) upload.poll.2 := by
  obtain ⟨answered, -, digest, held, passed⟩ := Upload.poll_reading reads.digest
  have collected := upload.source.collect_of_poll
  have clean (error : IoError) : .error error ∉ items := by
    intro inside
    have more := quiet _ inside
    contradiction
  generalize upload.poll.1 = item at last answered passed ⊢
  cases passed with
  | chunk => contradiction
  | notReady => contradiction
  | @last _ _ outcome settled done holds =>
    cases item with
    | chunk bytes => contradiction
    | notReady => contradiction
    | ended =>
      cases settled
      rw [IngestLimits.eq_ended_of_passes answered.symm] at collected
      have whole : source.collect = .ok (Item.content items) := by
        rw [rest, collected]
        exact congrArg Except.ok (List.append_nil _)
      refine .ended (by simp) ?_ (IngestLimits.accepted?_eq_some_iff.2 ⟨whole, reads.small⟩)
        ⟨digest, held, done, holds⟩
      simpa using clean
    | error error =>
      cases settled
      refine .failed (by simp) ?_ ?_ ⟨digest, held, done, holds⟩
      · intro other inside
        rcases List.mem_append.1 inside with inside | inside
        · exact absurd inside (clean other)
        · simpa using inside
      · rcases IngestLimits.eq_error_of_passes answered.symm with failed | large
        · rw [failed] at collected
          rw [rest, collected]
          exact Or.inl rfl
        · exact Or.inr large

/-- A stream that is done answers the end, and nothing changes. -/
lemma poll_of_settled {outcome : Outcome} (settled : upload.IsSettled outcome) :
    upload.poll = (.ended, upload) := by
  obtain ⟨digest, held, done, -⟩ := settled
  exact Upload.poll_done held done

/-- Asking a digested stream for an item. -/
lemma poll (stands : Standing limits source items upload) :
    Standing limits source (items ++ [upload.poll.1]) upload.poll.2 := by
  cases stands with
  | reading reads quiet rest =>
    cases last : upload.poll.1.isLast with
    | true => exact of_last reads quiet rest last
    | false =>
      refine .reading (reads.poll last) ?_ ?_
      · exact List.forall_mem_append.2 ⟨quiet, List.forall_mem_singleton.2 last⟩
      · obtain ⟨answered, moved, -⟩ := Upload.poll_reading reads.digest
        have same : upload.poll.1 = upload.source.poll.1 := by
          rw [answered] at last ⊢
          exact IngestLimits.passes_of_not_isLast last
        rw [same] at last
        rw [moved, same, rest, Source.collect_poll last]
  | ended ended clean accepted settled =>
    rw [poll_of_settled settled]
    refine .ended (List.mem_append_left _ ended) ?_ accepted settled
    simpa using clean
  | failed failed once origin settled =>
    rw [poll_of_settled settled]
    refine .failed (List.mem_append_left _ failed) ?_ origin settled
    simpa using once

end Standing

end Upload

/-- Whatever a sink does, the stream that it drops stands as the items say that it was given. -/
lemma Sink.Drains.stands {sink : Sink} {limits : IngestLimits} {source : Source}
    {seen items : List Item} {upload dropped : Upload} {result : Except StoreError Nat}
    (drains : sink.Drains seen upload items result dropped)
    (stands : Upload.Standing limits source seen upload) :
    Upload.Standing limits source items dropped := by
  induction drains with
  | returns => exact stands
  | asks _ _ ih => exact ih stands.poll

/-! ### The certificate -/

/-- What ingesting a source comes to, by the items that its sink was given and what it returned. -/
structure Certifies (limits : IngestLimits) (key : String) (source : Source) (items : List Item)
    (result : Except StoreError Nat) (verdict : Except StoreError Attributes) : Prop where
  /-- Attributes are given out just when the sink has succeeded, of whatever size it says, and was
  given the end of the stream and no error. -/
  certified : (∃ attributes, verdict = .ok attributes) ↔
    (∃ size, result = .ok size) ∧ .ended ∈ items ∧ ∀ error, .error error ∉ items
  /-- They are those of the whole source. -/
  whole : ∀ attributes, verdict = .ok attributes →
    ∃ bytes, limits.accepted? source = some bytes ∧ attributes = limits.attributesOf bytes
  /-- A sink that fails has the last word. -/
  refused : ∀ error, result = .error error → verdict = .error error
  /-- An error that a sink was given and has passed over is brought up again. -/
  failed : ∀ size error, result = .ok size → .error error ∈ items → verdict = .error (.io error)
  /-- Such an error is that of the source, or says that the source is too large. -/
  origin : ∀ error, .error error ∈ items →
    source.collect = .error error ∨ error = Digest.tooLarge limits
  /-- A sink must not succeed on less than the stream. -/
  unfinished : ∀ size, result = .ok size → .ended ∉ items → (∀ error, .error error ∉ items) →
    verdict = .error (.io (.withText .unexpectedEof
      ("sink for " ++ key ++ " finished before the source was exhausted")))

/-- Ingesting comes to the verdict on what the put is answered with. -/
lemma run_ingest_fst {σ : Type} (answer : σ → (call : Call) → call.Answer × σ) (state : σ)
    (limits : IngestLimits) (key : String) (source : Source) :
    (Program.run answer state (ingest limits key source)).1 =
      (answer state (.blob (.put { key, upload := .digested limits source }))).1.verdict key := by
  rw [Depot.ingest_eq, Program.run_ask, Program.run_bind]
  rfl

namespace Upload.Standing

variable {limits : IngestLimits} {key : String} {source : Source} {items : List Item}
  {dropped : Upload} {result : Except StoreError Nat}

lemma origin (stands : Standing limits source items dropped) {error : IoError}
    (failed : .error error ∈ items) :
    source.collect = .error error ∨ error = Digest.tooLarge limits := by
  cases stands with
  | reading _ quiet =>
    have more := quiet _ failed
    contradiction
  | ended _ clean => exact absurd failed (clean error)
  | failed _ once origin =>
    rw [once error failed]
    exact origin

lemma not_mem_of_quiet (quiet : ∀ item ∈ items, item.isLast = false) {item : Item}
    (last : item.isLast = true) : item ∉ items := by
  intro inside
  rw [quiet item inside] at last
  contradiction

/-- The outcome of a stream that is dropped is what the items say that were given. -/
lemma outcome_cases (stands : Standing limits source items dropped) :
    (dropped.outcome? = none ∧ .ended ∉ items ∧ ∀ error, .error error ∉ items) ∨
      (∃ bytes, dropped.outcome? = some (.ok (limits.attributesOf bytes)) ∧
        limits.accepted? source = some bytes ∧ .ended ∈ items ∧ ∀ error, .error error ∉ items) ∨
      ∃ error, dropped.outcome? = some (.error error) ∧
        ∀ other, .error other ∈ items ↔ other = error := by
  cases stands with
  | reading reads quiet =>
    refine Or.inl ⟨?_, not_mem_of_quiet quiet rfl, fun error => not_mem_of_quiet quiet rfl⟩
    rw [Upload.outcome?, reads.digest]
    rfl
  | ended ended clean accepted settled =>
    exact Or.inr (Or.inl ⟨_, settled.outcome?_eq, accepted, ended, clean⟩)
  | @failed error failed once origin settled =>
    refine Or.inr (Or.inr ⟨error, settled.outcome?_eq, fun other => ⟨once other, ?_⟩⟩)
    rintro rfl
    exact failed

lemma certifies (stands : Standing limits source items dropped) :
    Certifies limits key source items result
      (PutReply.verdict key ⟨result, dropped.outcome?⟩) := by
  have origin : ∀ error, .error error ∈ items →
      source.collect = .error error ∨ error = Digest.tooLarge limits :=
    fun error failed => stands.origin failed
  cases result with
  | error error =>
    refine ⟨?_, nofun, ?_, nofun, origin, nofun⟩
    · constructor
      · rintro ⟨attributes, other⟩
        contradiction
      · rintro ⟨⟨size, other⟩, -⟩
        contradiction
    · rintro other ⟨⟩
      rfl
  | ok size =>
    rcases stands.outcome_cases with
      ⟨outcome, unended, clean⟩ | ⟨bytes, outcome, accepted, ended, clean⟩ | ⟨error, outcome, once⟩
    · rw [outcome]
      refine ⟨?_, nofun, nofun, ?_, origin, fun _ _ _ _ => rfl⟩
      · constructor
        · rintro ⟨attributes, other⟩
          contradiction
        · rintro ⟨-, ended, -⟩
          exact absurd ended unended
      · intro _ error _ failed
        exact absurd failed (clean error)
    · rw [outcome]
      refine ⟨?_, ?_, nofun, ?_, origin, ?_⟩
      · exact ⟨fun _ => ⟨⟨size, rfl⟩, ended, clean⟩, fun _ => ⟨_, rfl⟩⟩
      · rintro attributes ⟨⟩
        exact ⟨bytes, accepted, rfl⟩
      · intro _ error _ failed
        exact absurd failed (clean error)
      · intro _ _ unended
        exact absurd ended unended
    · rw [outcome]
      have failed : .error error ∈ items := (once error).2 rfl
      refine ⟨?_, nofun, nofun, ?_, origin, ?_⟩
      · constructor
        · rintro ⟨attributes, other⟩
          contradiction
        · rintro ⟨-, -, clean⟩
          exact absurd failed (clean error)
      · intro _ other _ failed'
        rw [(once other).1 failed']
        rfl
      · intro _ _ _ clean
        exact absurd failed (clean error)

end Upload.Standing

/-- Whatever sink a source is ingested into, and whatever else there is around it, attributes are
given out for the whole source or not at all. -/
theorem Sink.certifies_whole {σ : Type} {answer : σ → (call : Call) → call.Answer × σ} {state : σ}
    {sink : Sink} {limits : IngestLimits} {key : String} {source : Source} {items : List Item}
    {result : Except StoreError Nat} {dropped : Upload}
    (drains : sink.Drains [] (.digested limits source) items result dropped)
    (replied : (answer state (.blob (.put { key, upload := .digested limits source }))).1 =
      ⟨result, dropped.outcome?⟩) :
    Certifies limits key source items result
      (Program.run answer state (ingest limits key source)).1 := by
  rw [run_ingest_fst, replied]
  exact (drains.stands (Upload.Standing.of_digested limits source)).certifies

/-- A store that says that it is done after the first of two chunks. -/
theorem certifies_whole_early :
    Certifies ⟨8, 4⟩ "key" ⟨[.chunk [1], .chunk [2]], none⟩ [.chunk [1]] (.ok 1)
      (Program.run
        (fun depot call => match call with
          | .blob (.put transfer) => (⟨.ok 1, transfer.upload.poll.2.outcome?⟩, depot)
          | other => Depot.answer depot other)
        (MemoryDepot.vacant ⟨0, 0⟩) (ingest ⟨8, 4⟩ "key" ⟨[.chunk [1], .chunk [2]], none⟩)).1 := by
  have drains : Sink.Drains (fun items => if items = [] then none else some (.ok 1)) []
      (.digested ⟨8, 4⟩ ⟨[.chunk [1], .chunk [2]], none⟩) [.chunk [1]] (.ok 1) _ :=
    .asks rfl (.returns rfl)
  exact Sink.certifies_whole drains rfl

/-! ### The stores of the library -/

namespace Sink

/-- The sink that asks until the stream fails or ends, and then does something with the bytes. -/
def reader (complete : Bytes → Except StoreError Nat) : Sink := fun items =>
  match items.getLast? with
  | some .ended => some (complete (Item.content items))
  | some (.error error) => some (.error (.io error))
  | _ => none

variable {complete : Bytes → Except StoreError Nat} {seen : List Item}

lemma reader_concat (complete : Bytes → Except StoreError Nat) (seen : List Item) (item : Item) :
    reader complete (seen ++ [item]) = match item with
      | .ended => some (complete (Item.content seen))
      | .error error => some (.error (.io error))
      | _ => none := by
  rw [reader, List.getLast?_concat]
  cases item with
  | ended =>
    have same : Item.content (seen ++ [.ended]) = Item.content seen := by
      simp [Item.content, Item.chunks_singleton, Item.chunk?]
    dsimp only
    rw [same]
  | _ => rfl

/-- What the reader returns for a stream that comes to some bytes, or to an error. -/
def returned (complete : Bytes → Except StoreError Nat) :
    Except IoError Bytes → Except StoreError Nat
  | .ok bytes => complete bytes
  | .error error => .error (.io error)

/-- After some items, the reader makes of the rest of a stream what that comes to in one go. -/
def Concludes (complete : Bytes → Except StoreError Nat) (seen : List Item) (upload : Upload) :
    Prop :=
  ∃ items dropped, (reader complete).Drains seen upload items
      (returned complete ((Item.content seen ++ ·) <$> upload.collect.1)) dropped ∧
    upload.collect.2 = dropped.outcome?

variable {upload : Upload}

/-- The reader asks for one item, and goes on unless the stream has failed or ended with it. -/
lemma Concludes.of_poll (more : reader complete seen = none)
    (later : upload.poll.1 ≠ .ended → ∀ seen, reader complete seen = none →
      Concludes complete seen upload.poll.2) : Concludes complete seen upload := by
  have asks {items : List Item} {result : Except StoreError Nat} {dropped : Upload}
      (drains : (reader complete).Drains (seen ++ [upload.poll.1]) upload.poll.2 items result
        dropped) := Drains.asks more drains
  have next := reader_concat complete seen upload.poll.1
  have polled := upload.collect_of_poll
  unfold Concludes
  generalize upload.poll = shown at asks next polled later
  obtain ⟨item, rest⟩ := shown
  cases item with
  | ended =>
    dsimp only at polled next
    rw [← List.append_nil (Item.content seen)] at next
    rw [polled]
    exact ⟨_, rest, asks (.returns next), rfl⟩
  | error error =>
    dsimp only at polled
    rw [polled]
    exact ⟨_, rest, asks (.returns next), rfl⟩
  | notReady =>
    obtain ⟨items, dropped, drains, outcome⟩ := later (by simp) _ next
    dsimp only at polled
    rw [Item.content_concat_notReady] at drains
    rw [polled]
    exact ⟨items, dropped, asks drains, outcome⟩
  | chunk bytes =>
    obtain ⟨items, dropped, drains, outcome⟩ := later (by simp) _ next
    have whole : (Item.content (seen ++ [.chunk bytes]) ++ ·) <$> rest.collect.1 =
        (Item.content seen ++ ·) <$> (bytes ++ ·) <$> rest.collect.1 := by
      rw [Item.content_concat_chunk]
      cases rest.collect.1 with
      | error error => rfl
      | ok later => exact congrArg Except.ok (List.append_assoc _ _ _)
    dsimp only at polled drains
    rw [whole] at drains
    rw [polled]
    exact ⟨items, dropped, asks drains, outcome⟩

lemma concludes (items : List Item) (digest : Option Digest) (more : reader complete seen = none) :
    Concludes complete seen ⟨⟨items, none⟩, digest⟩ := by
  induction items generalizing digest seen with
  | nil =>
    refine .of_poll more fun unended => ?_
    obtain ⟨item, rest, none, -⟩ := Upload.source_poll unended
    contradiction
  | cons item rest ih =>
    refine .of_poll more fun unended seen more => ?_
    obtain ⟨item', rest', same, asked⟩ := Upload.source_poll unended
    cases same
    generalize (Upload.poll _).2 = upload at asked ⊢
    obtain ⟨source, digest⟩ := upload
    cases asked
    exact ih digest more

end Sink

namespace BlobStore

variable {β : Type} [BlobStore β]

lemma settle_fst (store : β) (key : String) (token : Token) (bytes : Bytes)
    (outcome : Option Outcome) :
    (settle store key token bytes outcome).1 =
      ⟨(settle store key token bytes none).1.size, outcome⟩ := by
  simp only [settle]
  cases complete store key token bytes with
  | mk completed store =>
    cases completed with
    | error error => rfl
    | ok _ => rfl

/-- Any store of the library takes a stream in by a sink: its put is answered with what the sink
returns, and with what the digest of the stream has come to when it is dropped. -/
theorem exists_drains_put (store : β) (token : Token) (key : String) (items : List Item)
    (digest : Option Digest) :
    ∃ (sink : Sink) (items' : List Item) (dropped : Upload),
      sink.Drains [] ⟨⟨items, none⟩, digest⟩ items'
          (put store token { key, upload := ⟨⟨items, none⟩, digest⟩ }).1.size dropped ∧
        (put store token { key, upload := ⟨⟨items, none⟩, digest⟩ }).1.outcome =
          dropped.outcome? := by
  simp only [put]
  generalize start store key token = started
  obtain ⟨begun, store⟩ := started
  cases begun with
  | error error => exact ⟨fun _ => some (.error error), [], _, .returns rfl, rfl⟩
  | ok _ =>
    obtain ⟨items', dropped, drains, outcome⟩ : Sink.Concludes
        (fun bytes => (settle store key token bytes none).1.size) [] ⟨⟨items, none⟩, digest⟩ :=
      Sink.concludes items digest rfl
    rw [Item.content_nil, show (([] : Bytes) ++ ·) = id from rfl, id_map] at drains
    refine ⟨.reader fun bytes => (settle store key token bytes none).1.size, items', dropped, ?_⟩
    generalize Upload.collect _ = collected at drains outcome
    obtain ⟨result, outcome'⟩ := collected
    cases result with
    | error error => exact ⟨drains, outcome⟩
    | ok bytes =>
      dsimp only
      rw [settle_fst]
      exact ⟨drains, outcome⟩

end BlobStore

end AssetCache
