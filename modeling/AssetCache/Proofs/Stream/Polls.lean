import AssetCache.Proofs.Digests
import Mathlib.Data.List.Induction

/-!
# Asking a digested stream for items

A digested stream may be asked for items as often as one likes, and what its receiver holds may be
taken out of it at any time. Up to the first error or end, the stream passes on what its source
answers, and nothing is in the receiver; with that item the outcome is there; and from then on
the stream answers the end without asking its source (`Upload.delivers_once`).
-/

namespace AssetCache

namespace Item

/-- The bytes of a chunk. -/
def chunk? : Item → Option Bytes
  | chunk bytes => some bytes
  | _ => none

/-- Whether a stream fails or ends with an item. -/
def isLast : Item → Bool
  | error _ | ended => true
  | chunk _ | notReady => false

/-- The chunks among some items. -/
def chunks (items : List Item) : List Bytes :=
  items.filterMap chunk?

/-- The bytes of all chunks among some items. -/
def content (items : List Item) : Bytes :=
  (chunks items).flatten

@[simp] lemma chunks_append (front back : List Item) :
    chunks (front ++ back) = chunks front ++ chunks back :=
  List.filterMap_append

@[simp] lemma content_nil : content [] = [] := rfl

@[simp] lemma content_append (front back : List Item) :
    content (front ++ back) = content front ++ content back := by
  simp [content]

lemma chunks_singleton (item : Item) : chunks [item] = item.chunk?.toList := by
  cases item with
  | _ => rfl

lemma chunk?_of_isLast {item : Item} (last : item.isLast = true) : item.chunk? = none := by
  cases item with
  | error error => rfl
  | ended => rfl
  | chunk bytes => contradiction
  | notReady => contradiction

end Item

/-- The chunk that a source answers with is the first of its chunks. -/
lemma Source.chunks_poll (source : Source) :
    source.poll.1.chunk?.toList ++ Item.chunks source.poll.2.items = Item.chunks source.items := by
  obtain ⟨items, inlet⟩ := source
  cases items with
  | nil =>
    cases inlet with
    | none => rfl
    | some name => rfl
  | cons item rest =>
    rw [Source.poll_cons, ← Item.chunks_singleton, ← Item.chunks_append]
    rfl

namespace IngestLimits

/-- What is passed on of an item after a number of bytes. -/
def passes (limits : IngestLimits) (size : Nat) : Item → Item
  | .chunk bytes =>
    if limits.maxBytes < size + bytes.length then .error (Digest.tooLarge limits)
    else .chunk bytes
  | item => item

/-- What a stream comes to that answers with an item after some content. -/
def outcomeOf? (limits : IngestLimits) (content : Bytes) : Item → Option Outcome
  | .error error => some (.error error)
  | .ended => some (.ok (limits.attributesOf content))
  | .chunk _ | .notReady => none

variable {limits : IngestLimits} {item : Item}

/-- An item that does not fail or end the stream is passed on as it is. -/
lemma passes_of_not_isLast {size : Nat} (more : (limits.passes size item).isLast = false) :
    limits.passes size item = item := by
  cases item with
  | chunk bytes =>
    by_cases large : limits.maxBytes < size + bytes.length
    · rw [passes, if_pos large] at more
      contradiction
    · exact if_neg large
  | error error => rfl
  | notReady => rfl
  | ended => rfl

lemma isLast_of_outcomeOf? {content : Bytes} {outcome : Outcome}
    (settled : limits.outcomeOf? content item = some outcome) : item.isLast = true := by
  cases item with
  | error error => rfl
  | ended => rfl
  | chunk bytes => contradiction
  | notReady => contradiction

end IngestLimits

/-- Who takes twice takes nothing the second time. -/
lemma Receiver.take_take (receiver : Receiver) : receiver.take.2.take.2 = receiver.take.2 := by
  cases receiver with
  | _ => rfl

namespace Upload

open Digest

/-- What is done with a digested stream. -/
inductive Request where
  /-- It is asked for its next item. -/
  | poll
  /-- What its receiver holds is taken. -/
  | take
deriving DecidableEq

/-- The stream once its receiver was emptied. -/
def take (upload : Upload) : Upload :=
  { upload with
    digest := upload.digest.map fun digest =>
      { digest with receiver := digest.receiver.take.2 } }

/-- The stream after a request. -/
def meet (upload : Upload) : Request → Upload
  | .poll => upload.poll.2
  | .take => upload.take

/-- The stream after some requests. -/
def after (upload : Upload) (requests : List Request) : Upload :=
  requests.foldl meet upload

/-- The items that the stream answers with in the course of some requests. -/
def answers : Upload → List Request → List Item
  | _, [] => []
  | upload, .poll :: rest => upload.poll.1 :: upload.poll.2.answers rest
  | upload, .take :: rest => upload.take.answers rest

/-- What the receiver of a digested stream holds. -/
def receiver? (upload : Upload) : Option Receiver :=
  upload.digest.map (·.receiver)

@[simp] lemma after_nil (upload : Upload) : upload.after [] = upload := rfl

lemma after_append (upload : Upload) (before since : List Request) :
    upload.after (before ++ since) = (upload.after before).after since :=
  List.foldl_append

lemma answers_append (upload : Upload) (before since : List Request) :
    upload.answers (before ++ since) =
      upload.answers before ++ (upload.after before).answers since := by
  induction before generalizing upload with
  | nil => rfl
  | cons request rest ih =>
    cases request with
    | poll => exact congrArg (upload.poll.1 :: ·) (ih upload.poll.2)
    | take => exact ih upload.take

variable {limits : IngestLimits} {source : Source} {upload : Upload} {digest : Digest}
  {requests : List Request}

/-! ### One item -/

/-- How a digest that has read some content stands once an item was passed on. -/
inductive Passed (limits : IngestLimits) (content : Bytes) : Item → Digest → Prop
  | chunk {bytes : Bytes} : (content ++ bytes).length ≤ limits.maxBytes →
      Passed limits content (.chunk bytes) (reading limits (content ++ bytes))
  | notReady : Passed limits content .notReady (reading limits content)
  | last {item : Item} {digest : Digest} {outcome : Outcome} :
      limits.outcomeOf? content item = some outcome → digest.done = true →
        digest.receiver = .settled outcome → Passed limits content item digest

lemma pass_reading (limits : IngestLimits) (content : Bytes) (item : Item) :
    ∃ digest, pass (some (reading limits content)) item =
        (limits.passes content.length item, some digest) ∧
      Passed limits content (limits.passes content.length item) digest := by
  cases item with
  | notReady => exact ⟨_, rfl, .notReady⟩
  | error error => exact ⟨_, rfl, .last rfl rfl rfl⟩
  | ended => exact ⟨_, rfl, .last rfl rfl rfl⟩
  | chunk bytes =>
    by_cases large : limits.maxBytes < content.length + bytes.length
    · refine ⟨{ reading limits content with size := content.length + bytes.length }.finish
        (.error (tooLarge limits)), ?_, ?_⟩
      · simp [pass, reading, absorb, IngestLimits.passes, large]
      · rw [IngestLimits.passes, if_pos large]
        exact .last rfl rfl rfl
    · rw [IngestLimits.passes, if_neg large, pass_chunk (Nat.not_lt.1 large)]
      exact ⟨_, rfl, .chunk (by rw [List.length_append]; exact Nat.not_lt.1 large)⟩

/-- A stream whose digest is under way asks its source, and passes on what it may. -/
lemma poll_reading {content : Bytes} (read : upload.digest = some (reading limits content)) :
    upload.poll.1 = limits.passes content.length upload.source.poll.1 ∧
      upload.poll.2.source = upload.source.poll.2 ∧
      ∃ digest, upload.poll.2.digest = some digest ∧
        Passed limits content upload.poll.1 digest := by
  have undone : upload.isDone = false := by rw [isDone, read]; rfl
  obtain ⟨digest, passed, stands⟩ := pass_reading limits content upload.source.poll.1
  have polled : upload.poll = (limits.passes content.length upload.source.poll.1,
      ⟨upload.source.poll.2, some digest⟩) := by
    simp only [poll, undone, Bool.false_eq_true, if_false, read, passed]
  rw [polled]
  exact ⟨rfl, rfl, digest, rfl, stands⟩

/-- When the stream is not ready, its digest stays as it is. -/
lemma poll_of_notReady {content : Bytes} (read : upload.digest = some (reading limits content))
    (unready : upload.poll.1 = .notReady) :
    upload.poll.2 = { upload with source := upload.source.poll.2 } := by
  obtain ⟨-, moved, digest, held, passed⟩ := poll_reading read
  rw [unready] at passed
  have same : digest = reading limits content := by
    cases passed with
    | notReady => rfl
    | last settled => contradiction
  obtain ⟨source, _⟩ := upload
  cases read
  rw [same] at held
  exact congrArg₂ Upload.mk moved held

/-- A stream whose digest is done answers the end, and asks nobody. -/
lemma poll_done (held : upload.digest = some digest) (done : digest.done = true) :
    upload.poll = (.ended, upload) := by
  obtain ⟨source, _⟩ := upload
  cases held
  simp [poll, isDone, pass, done]

/-! ### Before the last item -/

/-- No error and no end was answered so far. -/
def IsUnderWay (upload : Upload) (requests : List Request) : Prop :=
  ∀ item ∈ upload.answers requests, item.isLast = false

lemma isUnderWay_nil (upload : Upload) : upload.IsUnderWay [] := by
  intro item none
  contradiction

lemma isUnderWay_concat_poll :
    upload.IsUnderWay (requests ++ [.poll]) ↔
      upload.IsUnderWay requests ∧ (upload.after requests).poll.1.isLast = false := by
  rw [IsUnderWay, answers_append, List.forall_mem_append]
  exact and_congr_right fun _ => List.forall_mem_singleton

lemma isUnderWay_concat_take :
    upload.IsUnderWay (requests ++ [.take]) ↔ upload.IsUnderWay requests := by
  rw [IsUnderWay, answers_append]
  exact iff_of_eq (by rw [show (upload.after requests).answers [.take] = [] from rfl,
    List.append_nil, IsUnderWay])

/-- What is known of a stream that has answered neither an error nor the end: its digest has read
what was passed on, and the source holds the rest. -/
structure Reads (limits : IngestLimits) (source : Source) (items : List Item) (upload : Upload) :
    Prop where
  digest : upload.digest = some (reading limits (Item.content items))
  small : (Item.content items).length ≤ limits.maxBytes
  chunks : Item.chunks items ++ Item.chunks upload.source.items = Item.chunks source.items

lemma reads_digested (limits : IngestLimits) (source : Source) :
    Reads limits source [] (digested limits source) := by
  refine ⟨?_, Nat.zero_le _, rfl⟩
  rw [Item.content_nil, ← begin_eq_reading]
  rfl

lemma Reads.poll {items : List Item} (reads : Reads limits source items upload)
    (more : upload.poll.1.isLast = false) :
    Reads limits source (items ++ [upload.poll.1]) upload.poll.2 := by
  obtain ⟨answered, moved, digest, held, passed⟩ := poll_reading reads.digest
  have same : upload.poll.1 = upload.source.poll.1 := by
    rw [answered] at more ⊢
    exact IngestLimits.passes_of_not_isLast more
  have whole : Item.chunks (items ++ [upload.poll.1]) ++ Item.chunks upload.poll.2.source.items =
      Item.chunks source.items := by
    rw [Item.chunks_append, Item.chunks_singleton, same, moved, List.append_assoc,
      Source.chunks_poll, reads.chunks]
  generalize upload.poll.1 = item at more passed whole ⊢
  cases passed with
  | @chunk bytes small =>
    have grown : Item.content (items ++ [.chunk bytes]) = Item.content items ++ bytes := by
      simp [Item.content, Item.chunks_singleton, Item.chunk?]
    exact ⟨by rw [held, grown], by rw [grown]; exact small, whole⟩
  | notReady =>
    have same : Item.content (items ++ [.notReady]) = Item.content items := by
      simp [Item.content, Item.chunks_singleton, Item.chunk?]
    exact ⟨by rw [held, same], by rw [same]; exact reads.small, whole⟩
  | last settled done holds =>
    rw [IngestLimits.isLast_of_outcomeOf? settled] at more
    contradiction

/-- Nothing is taken from a receiver that holds nothing. -/
lemma Reads.take {items : List Item} (reads : Reads limits source items upload) :
    upload.take = upload := by
  obtain ⟨source, _⟩ := upload
  obtain ⟨held, -, -⟩ := reads
  cases held
  rfl

/-- What is known as long as neither an error nor the end was answered. -/
lemma reads_after (under : (digested limits source).IsUnderWay requests) :
    Reads limits source ((digested limits source).answers requests)
      ((digested limits source).after requests) := by
  induction requests using List.reverseRecOn with
  | nil => exact reads_digested limits source
  | append_singleton requests request ih =>
    rw [answers_append, after_append]
    cases request with
    | poll =>
      obtain ⟨under, more⟩ := isUnderWay_concat_poll.1 under
      exact (ih under).poll more
    | take =>
      have reads := ih (isUnderWay_concat_take.1 under)
      have same : ((digested limits source).after requests).after [.take] =
          (digested limits source).after requests := reads.take
      rw [same, show ((digested limits source).after requests).answers [.take] = [] from rfl,
        List.append_nil]
      exact reads

/-! ### After the last item -/

/-- A stream that is done answers the end to every request, and nothing changes but that what the
receiver holds is taken. -/
lemma after_of_done (held : upload.digest = some digest) (done : digest.done = true)
    (requests : List Request) :
    (∀ item ∈ upload.answers requests, item = .ended) ∧
      (upload.after requests).source = upload.source ∧
      (upload.after requests).receiver? =
        some (if .take ∈ requests then digest.receiver.take.2 else digest.receiver) := by
  induction requests generalizing upload digest with
  | nil =>
    refine ⟨?_, rfl, ?_⟩
    · intro item none
      contradiction
    · rw [after_nil, receiver?, held]
      rfl
  | cons request rest ih =>
    cases request with
    | poll =>
      obtain ⟨answered, asked, holds⟩ := ih held done
      have polled := poll_done held done
      refine ⟨?_, ?_, ?_⟩
      · intro item among
        rw [answers, polled] at among
        rcases List.mem_cons.1 among with rfl | among
        · rfl
        · exact answered item among
      · show (upload.poll.2.after rest).source = upload.source
        rw [polled]
        exact asked
      · show (upload.poll.2.after rest).receiver? = _
        rw [polled, holds]
        simp
    | take =>
      have taken : upload.take.digest =
          some { digest with receiver := digest.receiver.take.2 } := by
        rw [take, held]
        rfl
      obtain ⟨answered, asked, holds⟩ := ih taken done
      refine ⟨answered, asked, ?_⟩
      show (upload.take.after rest).receiver? = _
      rw [holds]
      simp [Receiver.take_take]

/-- Either neither an error nor the end was answered, or one of the two was answered first. -/
lemma exists_last (upload : Upload) (requests : List Request) :
    upload.IsUnderWay requests ∨
      ∃ before since, requests = before ++ .poll :: since ∧ upload.IsUnderWay before ∧
        (upload.after before).poll.1.isLast = true := by
  induction requests using List.reverseRecOn with
  | nil => exact Or.inl (isUnderWay_nil upload)
  | append_singleton requests request ih =>
    rcases ih with under | ⟨before, since, rfl, under, last⟩
    · cases request with
      | take => exact Or.inl (isUnderWay_concat_take.2 under)
      | poll =>
        cases last : (upload.after requests).poll.1.isLast with
        | false => exact Or.inl (isUnderWay_concat_poll.2 ⟨under, last⟩)
        | true => exact Or.inr ⟨requests, [], rfl, under, last⟩
    · exact Or.inr ⟨before, since ++ [request], by simp, under, last⟩

/-- How a digested stream stands that has answered its last item, and what it answers later. -/
lemma settled_after {before : List Request} (since : List Request)
    (under : (digested limits source).IsUnderWay before)
    (last : ((digested limits source).after before).poll.1.isLast = true) :
    ∃ outcome, limits.outcomeOf? (Item.content ((digested limits source).answers before))
          ((digested limits source).after before).poll.1 = some outcome ∧
      (∀ item ∈ ((digested limits source).after (before ++ [.poll])).answers since,
        item = .ended) ∧
      ((digested limits source).after (before ++ .poll :: since)).source =
        ((digested limits source).after (before ++ [.poll])).source ∧
      ((digested limits source).after (before ++ .poll :: since)).receiver? =
        some (if .take ∈ since then .closed else .settled outcome) := by
  obtain ⟨-, -, digest, held, passed⟩ := poll_reading (reads_after under).digest
  have polled : ((digested limits source).after (before ++ [.poll])) =
      ((digested limits source).after before).poll.2 := after_append _ _ _
  have later : ((digested limits source).after (before ++ .poll :: since)) =
      (((digested limits source).after before).poll.2).after since := after_append _ _ _
  rw [later, polled]
  generalize ((digested limits source).after before).poll.1 = item at last passed ⊢
  cases passed with
  | chunk => contradiction
  | notReady => contradiction
  | @last _ _ outcome settled done holds =>
    obtain ⟨answered, asked, receiver⟩ := after_of_done held done since
    rw [holds] at receiver
    exact ⟨outcome, settled, answered, asked, receiver⟩

/-! ### Any requests -/

/-- How a stream that digests a source under some limits meets some requests. -/
structure DeliversOnce (limits : IngestLimits) (source : Source) (upload : Upload)
    (requests : List Request) : Prop where
  /-- The chunks that were passed on are the first chunks of the source, as they were, -/
  forwarded : Item.chunks (upload.answers requests) <+: Item.chunks source.items
  /-- and they are not too large together. -/
  bounded : (Item.content (upload.answers requests)).length ≤ limits.maxBytes
  /-- As long as neither an error nor the end was answered, the stream asks its source once for
  every item, and passes the item on unless it makes the content too large, -/
  passed : upload.IsUnderWay requests →
    (upload.after requests).poll.1 =
        limits.passes (Item.content (upload.answers requests)).length
          (upload.after requests).source.poll.1 ∧
      (upload.after requests).poll.2.source = (upload.after requests).source.poll.2
  /-- and its receiver is empty, so that it is closed if the stream is dropped now. -/
  empty : upload.IsUnderWay requests →
    (upload.after requests).receiver? = some .waiting ∧
      (upload.after requests).receiver?.map Receiver.drop = some .closed
  /-- When the stream is not ready, nothing changes but that its source was asked. -/
  unready : (upload.after requests).poll.1 = .notReady →
    (upload.after requests).poll.2 =
      { upload.after requests with source := (upload.after requests).source.poll.2 }
  /-- The first error or end puts into the receiver what the stream came to. There it stays until it
  is taken, and all later requests are answered with the end, without asking the source. -/
  settled (before since : List Request) : requests = before ++ .poll :: since →
    upload.IsUnderWay before → (upload.after before).poll.1.isLast = true →
    ∃ outcome,
      limits.outcomeOf? (Item.content (upload.answers before)) (upload.after before).poll.1 =
          some outcome ∧
        (∀ item ∈ (upload.after (before ++ [.poll])).answers since, item = .ended) ∧
        (upload.after requests).source = (upload.after (before ++ [.poll])).source ∧
        (upload.after requests).receiver? =
          some (if .take ∈ since then .closed else .settled outcome)

/-- The chunks that were passed on are those that were passed on before the last item. -/
lemma chunks_answers_of_last {before since : List Request}
    (under : (digested limits source).IsUnderWay before)
    (last : ((digested limits source).after before).poll.1.isLast = true) :
    Item.chunks ((digested limits source).answers (before ++ .poll :: since)) =
      Item.chunks ((digested limits source).answers before) := by
  obtain ⟨-, -, answered, -⟩ := settled_after since under last
  have none : Item.chunks (((digested limits source).after (before ++ [.poll])).answers since) =
      [] := by
    refine List.filterMap_eq_nil_iff.2 fun item among => ?_
    rw [answered item among]
    rfl
  rw [after_append] at none
  rw [answers_append, Item.chunks_append, answers, ← List.singleton_append, Item.chunks_append,
    Item.chunks_singleton, Item.chunk?_of_isLast last]
  exact (congrArg (_ ++ ·) none).trans (List.append_nil _)

/-- A digested stream delivers what it came to once, whatever its source does and however often it
is asked. -/
theorem delivers_once (limits : IngestLimits) (source : Source) (requests : List Request) :
    DeliversOnce limits source (digested limits source) requests := by
  have content : Item.chunks ((digested limits source).answers requests) <+:
        Item.chunks source.items ∧
      (Item.content ((digested limits source).answers requests)).length ≤ limits.maxBytes := by
    rcases exists_last (digested limits source) requests with
      under | ⟨before, since, rfl, under, last⟩
    · have reads := reads_after under
      exact ⟨⟨_, reads.chunks⟩, reads.small⟩
    · have reads := reads_after under
      unfold Item.content
      rw [chunks_answers_of_last under last]
      exact ⟨⟨_, reads.chunks⟩, reads.small⟩
  refine ⟨content.1, content.2, ?_, ?_, ?_, ?_⟩
  · intro under
    obtain ⟨answered, moved, -⟩ := poll_reading (reads_after under).digest
    exact ⟨answered, moved⟩
  · intro under
    rw [receiver?, (reads_after under).digest]
    exact ⟨rfl, rfl⟩
  · intro unready
    rcases exists_last (digested limits source) requests with
      under | ⟨before, since, rfl, under, last⟩
    · exact poll_of_notReady (reads_after under).digest unready
    · obtain ⟨-, -, answered, -⟩ := settled_after (since ++ [.poll]) under last
      have ended := answered ((digested limits source).after (before ++ .poll :: since)).poll.1
      rw [answers_append, ← after_append, List.append_assoc] at ended
      have done := ended (List.mem_append_right _ List.mem_cons_self)
      rw [unready] at done
      contradiction
  · rintro before since rfl under last
    exact settled_after since under last

/-- A chunk that goes beyond the limit is not passed on, and neither is anything after it. -/
example : (digested ⟨8, 4⟩ ⟨[.chunk [1, 2, 3], .notReady, .chunk [4, 5], .chunk [6]], none⟩).answers
    [.poll, .poll, .poll, .take, .poll] =
      [.chunk [1, 2, 3], .notReady, .error (tooLarge ⟨8, 4⟩), .ended] := rfl

end Upload

end AssetCache
