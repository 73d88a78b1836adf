import AssetCache.Content.Ingest
import AssetCache.Proofs.Conduct
import AssetCache.Proofs.Stream.Polls
import AssetCache.Proofs.Transfers

/-!
# Ingesting a stream into memory

A stream is taken in whole or not at all. Under some limits it comes to its bytes, or to the first
thing that stops it: an error of its own, or a chunk with which it is too large
(`IngestLimits.Reading`). In the first case its bytes lie under the key, and its attributes are
theirs, however they were cut into chunks; in the second the blobs are what they were
(`Depot.ingests_whole`).
-/

namespace AssetCache

namespace IngestLimits

/-- An item that stops a stream after those in front of it, and what the stream comes to. -/
inductive Stops (limits : IngestLimits) (front : List Item) : Item → Except IoError Bytes → Prop
  | ended : Stops limits front .ended (.ok (Item.content front))
  | failed (error : IoError) : Stops limits front (.error error) (.error error)
  | tooLarge {bytes : Bytes} : limits.maxBytes < (Item.content front).length + bytes.length →
      Stops limits front (.chunk bytes) (.error (Digest.tooLarge limits))

/-- The items in front of some item do not stop a stream. -/
structure Spares (limits : IngestLimits) (front : List Item) : Prop where
  more : ∀ item ∈ front, item.isLast = false
  small : (Item.content front).length ≤ limits.maxBytes

/-- What a stream comes to under some limits. The end is an item after all others, and the first
item that stops the stream decides. -/
def Reading (limits : IngestLimits) (items : List Item) (result : Except IoError Bytes) : Prop :=
  ∃ front item rest, items ++ [.ended] = front ++ item :: rest ∧ limits.Spares front ∧
    limits.Stops front item result

variable {limits : IngestLimits} {items front rest : List Item} {item : Item}

/-- An item stops the stream after those in front of it, or it does not. -/
lemma Spares.concat (spares : limits.Spares front) (item : Item) :
    limits.Spares (front ++ [item]) ∨ ∃ result, limits.Stops front item result := by
  cases item with
  | ended => exact Or.inr ⟨_, .ended⟩
  | error error => exact Or.inr ⟨_, .failed error⟩
  | notReady =>
    refine Or.inl ⟨?_, ?_⟩
    · exact List.forall_mem_append.2 ⟨spares.more, List.forall_mem_singleton.2 rfl⟩
    · have whole : Item.content [.notReady] = [] := rfl
      rw [Item.content_append, whole, List.append_nil]
      exact spares.small
  | chunk bytes =>
    by_cases large : limits.maxBytes < (Item.content front).length + bytes.length
    · exact Or.inr ⟨_, .tooLarge large⟩
    · refine Or.inl ⟨?_, ?_⟩
      · exact List.forall_mem_append.2 ⟨spares.more, List.forall_mem_singleton.2 rfl⟩
      · have whole : Item.content [.chunk bytes] = bytes := List.append_nil bytes
        rw [Item.content_append, List.length_append, whole]
        exact Nat.not_lt.1 large

/-- A stream that does not end before its last item comes to all its bytes, or to an error. -/
lemma eq_content_of_reading {bytes : Bytes} (whole : .ended ∉ items)
    (reading : limits.Reading items (.ok bytes)) : bytes = Item.content items := by
  obtain ⟨front, item, rest, split, -, stops⟩ := reading
  cases stops
  rcases concat_eq_append_cons_iff.1 split with ⟨-, rfl, -⟩ | ⟨between, -, rfl⟩
  · rfl
  · exact absurd (List.mem_append_right _ List.mem_cons_self) whole

/-- Every stream comes to something. -/
lemma exists_reading (limits : IngestLimits) (items : List Item) :
    ∃ result, limits.Reading items result := by
  have stopped : limits.Spares items ∨ ∃ front item rest result,
      items = front ++ item :: rest ∧ limits.Spares front ∧ limits.Stops front item result := by
    induction items using List.reverseRecOn with
    | nil => exact Or.inl ⟨fun item none => absurd none List.not_mem_nil, Nat.zero_le _⟩
    | append_singleton items last ih =>
      rcases ih with spares | ⟨front, item, rest, result, rfl, spares, stops⟩
      · rcases spares.concat last with spares' | ⟨result, stops⟩
        · exact Or.inl spares'
        · exact Or.inr ⟨items, last, [], result, rfl, spares, stops⟩
      · exact Or.inr ⟨front, item, rest ++ [last], result, by simp, spares, stops⟩
  rcases stopped with spares | ⟨front, item, rest, result, rfl, spares, stops⟩
  · exact ⟨_, items, .ended, [], rfl, spares, .ended⟩
  · exact ⟨result, front, item, rest ++ [.ended], by simp, spares, stops⟩

end IngestLimits

/-! ### Reading in one go -/

namespace Upload

open Digest

variable {limits : IngestLimits} {items front : List Item}

/-- It makes no difference whether a stream says at once that it has ended. -/
lemma collectItems_concat_ended (digest : Option Digest) (items : List Item) :
    collectItems digest (items ++ [.ended]) = collectItems digest items := by
  induction items generalizing digest with
  | nil =>
    have ended := pass_ended digest
    generalize passed : pass digest .ended = result at ended
    obtain ⟨item, digest'⟩ := result
    obtain rfl : item = .ended := ended
    simp only [List.nil_append, collectItems, passed]
  | cons item rest ih => simp only [List.cons_append, collectItems, ih]

/-- Items that do not stop the stream are read one after the other. -/
lemma collectItems_append {read : Bytes} (more : ∀ item ∈ front, item.isLast = false)
    (small : (read ++ Item.content front).length ≤ limits.maxBytes) (rest : List Item) :
    collectItems (some (reading limits read)) (front ++ rest) =
      ((Item.content front ++ ·) <$>
          (collectItems (some (reading limits (read ++ Item.content front))) rest).1,
        (collectItems (some (reading limits (read ++ Item.content front))) rest).2) := by
  induction front generalizing read with
  | nil =>
    simp only [Item.content_nil, List.append_nil, List.nil_append]
    exact Prod.ext (id_map _).symm rfl
  | cons item front ih =>
    have later : ∀ item ∈ front, item.isLast = false :=
      fun item among => more item (List.mem_cons_of_mem _ among)
    cases item with
    | error error =>
      have last := more _ List.mem_cons_self
      contradiction
    | ended =>
      have last := more _ List.mem_cons_self
      contradiction
    | notReady => exact ih later small
    | chunk bytes =>
      have split : Item.content (.chunk bytes :: front) = bytes ++ Item.content front := rfl
      rw [split, ← List.append_assoc] at small
      have fits : read.length + bytes.length ≤ limits.maxBytes := by
        simp only [List.length_append] at small
        omega
      rw [List.cons_append, collectItems, pass_chunk fits]
      simp only [ih later small, split, List.append_assoc]
      generalize (collectItems _ rest).1 = result
      cases result with
      | error error => rfl
      | ok later => simp [Functor.map, Except.map]

/-- What a stream comes to that is read under some limits. -/
lemma collect_of_reading {result : Except IoError Bytes} (reading : limits.Reading items result) :
    (digested limits ⟨items, none⟩).collect.1 = result ∧
      ∀ bytes, result = .ok bytes →
        (digested limits ⟨items, none⟩).collect.2 = some (.ok (limits.attributesOf bytes)) := by
  obtain ⟨front, item, rest, split, spares, stops⟩ := reading
  have small : ([] ++ Item.content front).length ≤ limits.maxBytes := spares.small
  have read : (digested limits ⟨items, none⟩).collect =
      ((Item.content front ++ ·) <$>
          (collectItems (some (Digest.reading limits (Item.content front))) (item :: rest)).1,
        (collectItems (some (Digest.reading limits (Item.content front))) (item :: rest)).2.bind
          (·.receiver.outcome?)) := by
    simp only [collect, digested, begin_eq_reading]
    rw [← collectItems_concat_ended, split, collectItems_append spares.more small]
    rfl
  rw [read]
  cases stops with
  | ended =>
    refine ⟨congrArg Except.ok (List.append_nil _), ?_⟩
    intro bytes same
    cases same
    rfl
  | failed error => exact ⟨rfl, fun _ other => by contradiction⟩
  | tooLarge large =>
    obtain ⟨digest, passed⟩ := pass_chunk_of_lt large
    rw [collectItems, passed]
    exact ⟨rfl, fun _ other => by contradiction⟩

end Upload

/-! ### Reading item by item -/

/-- What a put is answered with once the rest of its stream has come in, and the blobs then. -/
def Transfer.conclusion (transfer : Transfer) (blobs : MemoryBlobs) : PutReply × MemoryBlobs :=
  match transfer.upload.collect with
  | (.error error, outcome) => (⟨.error (.io error), outcome⟩, blobs)
  | (.ok bytes, outcome) =>
    (⟨.ok (transfer.received ++ bytes).length, outcome⟩,
      blobs.insert transfer.key (transfer.received ++ bytes))

/-- A put in one go is answered with what its stream comes to. -/
lemma MemoryBlobs.put_eq_conclusion (blobs : MemoryBlobs) (token : Token) (key : String)
    (upload : Upload) :
    BlobStore.put blobs token { key, upload } =
      Transfer.conclusion { key, upload } blobs := by
  simp only [BlobStore.put, BlobStore.start, BlobStore.settle, BlobStore.complete,
    BlobStore.abandon, Transfer.conclusion]
  obtain ⟨result, outcome⟩ := upload.collect
  cases result with
  | error error => rfl
  | ok bytes => rfl

/-- A stream that goes on has asked its source, which was not at its end. -/
lemma Upload.source_poll {items : List Item} {digest : Option Digest}
    (more : (Upload.poll ⟨⟨items, none⟩, digest⟩).1 ≠ .ended) :
    ∃ item rest, items = item :: rest ∧
      (Upload.poll ⟨⟨items, none⟩, digest⟩).2.source = ⟨rest, none⟩ := by
  cases done : digest.any (·.done) with
  | true => exact absurd (by simp [poll, isDone, done, pass_ended]) more
  | false =>
    cases items with
    | nil => exact absurd (by simp [poll, isDone, done, pass_ended]) more
    | cons item rest => exact ⟨item, rest, rfl, by simp [poll, isDone, done]⟩

/-- One step of a put that has begun leaves what it comes to as it is. -/
lemma Transfer.advance_of_begun (key : String) {upload : Upload} (token fresh : Token)
    (received : Bytes) (closed : upload.source.inlet = none) (blobs : MemoryBlobs) :
    (upload.poll.1 ≠ .ended ∧ ∃ received',
      advance blobs fresh ⟨key, upload, some token, received⟩ =
          .moved ⟨key, upload.poll.2, some token, received'⟩ blobs ∧
        conclusion ⟨key, upload.poll.2, some token, received'⟩ blobs =
          conclusion ⟨key, upload, some token, received⟩ blobs) ∨
      advance blobs fresh ⟨key, upload, some token, received⟩ =
        .finished (conclusion ⟨key, upload, some token, received⟩ blobs).1
          (conclusion ⟨key, upload, some token, received⟩ blobs).2 := by
  have busy : isWaiting ⟨key, upload, some token, received⟩ = false := by simp [isWaiting, closed]
  have polled := upload.collect_of_poll
  simp only [advance, busy, Bool.false_eq_true, if_false, conclusion]
  generalize upload.poll = result at polled ⊢
  obtain ⟨item, upload'⟩ := result
  cases item with
  | chunk bytes =>
    refine Or.inl ⟨by simp, received ++ bytes, rfl, ?_⟩
    dsimp only at polled ⊢
    rw [polled]
    obtain ⟨result, outcome⟩ := upload'.collect
    cases result with
    | error error => rfl
    | ok later => simp [Functor.map, Except.map]
  | notReady =>
    refine Or.inl ⟨by simp, received, rfl, ?_⟩
    dsimp only at polled ⊢
    rw [polled]
  | error error =>
    dsimp only at polled ⊢
    rw [polled]
    exact Or.inr rfl
  | ended =>
    dsimp only at polled ⊢
    rw [polled]
    simp only [List.append_nil]
    exact Or.inr rfl

namespace Depot

variable {α β δ : Type} [BlobStore β] [DescriptorStore δ]

/-- What an operation comes to, and the depot after it, if its calls are attempted one after the
other while nothing else happens. -/
inductive Completes : Depot β δ → Operation α → α → Depot β δ → Prop
  | done {depot : Depot β δ} {result : α} : Completes depot (.done result) result depot
  | moved {depot depot' last : Depot β δ} {operation operation' : Operation α} {result : α} :
      operation.step attempt depot = .moved operation' depot' →
        Completes depot' operation' result last → Completes depot operation result last

/-- A put that has begun takes its stream in item by item, and is then answered. -/
lemma completes_put {depot last : Depot MemoryBlobs δ} {next : PutReply → Operation α} {result : α}
    {key : String} {token : Token} {received : Bytes} (items : List Item) (digest : Option Digest)
    (rest : Completes
      { depot with
        blobs := (Transfer.conclusion ⟨key, ⟨⟨items, none⟩, digest⟩, some token, received⟩
          depot.blobs).2 }
      (next (Transfer.conclusion ⟨key, ⟨⟨items, none⟩, digest⟩, some token, received⟩
        depot.blobs).1) result last) :
    Completes depot
      (.ask (.blob (.put ⟨key, ⟨⟨items, none⟩, digest⟩, some token, received⟩)) next)
      result last := by
  induction items generalizing digest received with
  | nil =>
    have closed : (⟨⟨[], none⟩, digest⟩ : Upload).source.inlet = none := rfl
    rcases Transfer.advance_of_begun key token ⟨0⟩ received closed depot.blobs with
      ⟨more, -⟩ | finished
    · obtain ⟨item, rest, none, -⟩ := Upload.source_poll more
      contradiction
    · exact .moved (by simp [Program.step, attempt, finished]) rest
  | cons item items ih =>
    have closed : (⟨⟨item :: items, none⟩, digest⟩ : Upload).source.inlet = none := rfl
    rcases Transfer.advance_of_begun key token ⟨0⟩ received closed depot.blobs with
      ⟨more, received', moved, same⟩ | finished
    · obtain ⟨item', items', split, asked⟩ := Upload.source_poll more
      obtain ⟨rfl, rfl⟩ := List.cons.inj split
      generalize (Upload.poll ⟨⟨item :: items, none⟩, digest⟩).2 = upload at moved same asked
      obtain ⟨source, digest'⟩ := upload
      obtain rfl : source = ⟨items, none⟩ := asked
      rw [← same] at rest
      exact .moved (by simp [Program.step, attempt, moved]) (ih digest' rest)
    · exact .moved (by simp [Program.step, attempt, finished]) rest

/-- Ingesting is a put, and what is said of its answer. -/
lemma ingest_eq (limits : IngestLimits) (key : String) (source : Source) :
    ingest limits key source =
      .ask (.blob (.put { key, upload := .digested limits source })) fun reply =>
        (reply.event?.elim (.done ()) Operation.report).bind fun _ =>
          .done (reply.verdict key) := by
  refine congrArg (Program.ask _) (funext fun reply => ?_)
  rw [Program.bind_done]
  cases reply.event? with
  | none => rfl
  | some event => rfl

/-- What ingesting a stream comes to, and the depot after it. -/
lemma run_ingest (limits : IngestLimits) (key : String) (source : Source)
    (depot : Depot MemoryBlobs δ) :
    depot.run (ingest limits key source) =
      ((Transfer.conclusion { key, upload := .digested limits source } depot.blobs).1.verdict key,
        { depot with
          blobs := (Transfer.conclusion { key, upload := .digested limits source } depot.blobs).2
          issued := depot.issued + 1
          events := depot.events ++ (Transfer.conclusion { key, upload := .digested limits source }
            depot.blobs).1.event?.toList }) := by
  rw [ingest_eq]
  simp only [run, Program.run_ask, answer, answerBlob, issue, BlobStore.answer,
    MemoryBlobs.put_eq_conclusion]
  generalize Transfer.conclusion { key, upload := .digested limits source } depot.blobs = concluded
  cases concluded.1.event? with
  | none => simp
  | some event => rfl

/-- What is said of the answer to a put takes one more step at most. -/
lemma completes_verdict (depot : Depot β δ) (key : String) (reply : PutReply) :
    Completes depot
      ((reply.event?.elim (.done ()) Operation.report).bind fun _ => .done (reply.verdict key))
      (reply.verdict key) { depot with events := depot.events ++ reply.event?.toList } := by
  cases reply.event? with
  | none =>
    rw [Option.toList_none, List.append_nil]
    exact .done
  | some event => exact .moved rfl .done

/-- Ingesting a stream item by item comes to what ingesting it in one go comes to. -/
lemma completes_ingest (limits : IngestLimits) (key : String) (items : List Item)
    (depot : Depot MemoryBlobs δ) :
    Completes depot (ingest limits key ⟨items, none⟩)
      (depot.run (ingest limits key ⟨items, none⟩)).1
      (depot.run (ingest limits key ⟨items, none⟩)).2 := by
  rw [run_ingest, ingest_eq]
  exact .moved rfl (completes_put items _ (completes_verdict _ key _))

/-- How the blobs of a depot in memory take in a stream under a key. -/
structure IngestsWhole (limits : IngestLimits) (key : String) (items : List Item)
    (depot : Depot MemoryBlobs δ) : Prop where
  /-- The stream comes to its bytes or to an error. -/
  reads : ∃ result, limits.Reading items result
  /-- Its bytes lie under the key, and what is answered are their attributes; -/
  taken (bytes : Bytes) : limits.Reading items (.ok bytes) →
    (depot.run (ingest limits key ⟨items, none⟩)).1 = .ok (limits.attributesOf bytes) ∧
      (depot.run (ingest limits key ⟨items, none⟩)).2.blobs = depot.blobs.insert key bytes ∧
      (bytes.length < UInt64.size → (limits.attributesOf bytes).size.toNat = bytes.length)
  /-- an error is what is answered, and the blobs are what they were. -/
  refused (error : IoError) : limits.Reading items (.error error) →
    (depot.run (ingest limits key ⟨items, none⟩)).1 = .error (.io error) ∧
      (depot.run (ingest limits key ⟨items, none⟩)).2.blobs = depot.blobs
  /-- It comes to the same when it is asked for one item after the other. -/
  stepwise : Completes depot (ingest limits key ⟨items, none⟩)
    (depot.run (ingest limits key ⟨items, none⟩)).1 (depot.run (ingest limits key ⟨items, none⟩)).2
  /-- How the content is cut into chunks is of no account. -/
  uncut (limits' : IngestLimits) (key' : String) (items' : List Item) (depot' : Depot MemoryBlobs δ)
    (attributes attributes' : Attributes) :
    .ended ∉ items → .ended ∉ items' → Item.content items = Item.content items' →
    limits.sniffBytes = limits'.sniffBytes →
    (depot.run (ingest limits key ⟨items, none⟩)).1 = .ok attributes →
    (depot'.run (ingest limits' key' ⟨items', none⟩)).1 = .ok attributes' →
    attributes = attributes' ∧
      (depot.run (ingest limits key ⟨items, none⟩)).2.blobs.get? key =
        some (Item.content items) ∧
      (depot'.run (ingest limits' key' ⟨items', none⟩)).2.blobs.get? key' =
        some (Item.content items)

lemma run_ingest_of_read {limits : IngestLimits} {items : List Item} {bytes : Bytes}
    (reading : limits.Reading items (.ok bytes)) (key : String) (depot : Depot MemoryBlobs δ) :
    (depot.run (ingest limits key ⟨items, none⟩)).1 = .ok (limits.attributesOf bytes) ∧
      (depot.run (ingest limits key ⟨items, none⟩)).2.blobs = depot.blobs.insert key bytes := by
  obtain ⟨collected, settled⟩ := Upload.collect_of_reading reading
  have whole : (Upload.digested limits ⟨items, none⟩).collect =
      (.ok bytes, some (.ok (limits.attributesOf bytes))) := Prod.ext collected (settled bytes rfl)
  rw [run_ingest, Transfer.conclusion, whole]
  exact ⟨rfl, rfl⟩

lemma run_ingest_of_failed {limits : IngestLimits} {items : List Item} {error : IoError}
    (reading : limits.Reading items (.error error)) (key : String) (depot : Depot MemoryBlobs δ) :
    (depot.run (ingest limits key ⟨items, none⟩)).1 = .error (.io error) ∧
      (depot.run (ingest limits key ⟨items, none⟩)).2.blobs = depot.blobs := by
  obtain ⟨collected, -⟩ := Upload.collect_of_reading reading
  obtain ⟨outcome, whole⟩ : ∃ outcome, (Upload.digested limits ⟨items, none⟩).collect =
      (.error error, outcome) := ⟨_, Prod.ext collected rfl⟩
  rw [run_ingest, Transfer.conclusion, whole]
  exact ⟨rfl, rfl⟩

/-- A stream that is ingested with success is one that was read to its end. -/
lemma taken_of_run_ingest {limits : IngestLimits} {items : List Item} {key : String}
    {depot : Depot MemoryBlobs δ} {attributes : Attributes} (whole : .ended ∉ items)
    (succeeded : (depot.run (ingest limits key ⟨items, none⟩)).1 = .ok attributes) :
    attributes = limits.attributesOf (Item.content items) ∧
      (depot.run (ingest limits key ⟨items, none⟩)).2.blobs.get? key =
        some (Item.content items) := by
  obtain ⟨result, reading⟩ := limits.exists_reading items
  cases result with
  | error error =>
    rw [(run_ingest_of_failed reading key depot).1] at succeeded
    contradiction
  | ok bytes =>
    obtain ⟨answered, stored⟩ := run_ingest_of_read reading key depot
    obtain rfl := IngestLimits.eq_content_of_reading whole reading
    rw [answered] at succeeded
    rw [stored, Table.get?_insert_self]
    exact ⟨(Except.ok.inj succeeded).symm, rfl⟩

/-- Every stream is taken into memory in whole or not at all, and its attributes are those of its
content. -/
theorem ingests_whole (limits : IngestLimits) (key : String) (items : List Item)
    (depot : Depot MemoryBlobs δ) : IngestsWhole limits key items depot := by
  refine ⟨limits.exists_reading items, ?_, ?_, completes_ingest limits key items depot, ?_⟩
  · intro bytes reading
    obtain ⟨answered, stored⟩ := run_ingest_of_read reading key depot
    exact ⟨answered, stored, fun small => UInt64.toNat_ofNat_of_lt' small⟩
  · intro error reading
    exact run_ingest_of_failed reading key depot
  · intro limits' key' items' depot' attributes attributes' whole whole' same prefixes ran ran'
    obtain ⟨rfl, stored⟩ := taken_of_run_ingest whole ran
    obtain ⟨rfl, stored'⟩ := taken_of_run_ingest whole' ran'
    rw [← same] at stored' ⊢
    refine ⟨?_, stored, stored'⟩
    rw [IngestLimits.attributesOf, IngestLimits.attributesOf, prefixes]

end Depot

end AssetCache
