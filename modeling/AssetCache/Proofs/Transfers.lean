import AssetCache.Blob.Memory
import AssetCache.Proofs.Digests

/-!
# Streams that come in item by item

A store takes a stream in step by step, and other things may happen between two steps. What a
stream comes to does not depend on that: what has come in and what is still to come are together
what the whole stream comes to (`Transfer.Carries`), at every step of the transfer. So when the
transfer ends, it ends as if the stream had been read in one go.
-/

namespace AssetCache

namespace Upload

/-- A digest that is under way passes on that a stream is not ready, and takes no notice. -/
lemma pass_notReady {digest : Option Digest} (undone : digest.any (·.done) = false) :
    pass digest .notReady = (.notReady, digest) := by
  cases digest with
  | none => rfl
  | some digest =>
    have undone' : digest.done = false := undone
    simp [pass, undone', Digest.absorb]

/-- The end of a stream is passed on as it is, whether the digest is done or not. -/
lemma pass_ended (digest : Option Digest) : (pass digest .ended).1 = .ended := by
  cases digest with
  | none => rfl
  | some digest =>
    cases done : digest.done with
    | true => simp [pass, done]
    | false => simp [pass, done, Digest.absorb]

/-- A digest that is done passes on nothing but the end. -/
lemma pass_of_done {digest : Option Digest} (done : digest.any (·.done) = true) (item : Item) :
    pass digest item = (.ended, digest) := by
  cases digest with
  | none => contradiction
  | some digest =>
    have done' : digest.done = true := done
    simp [pass, done']

/-- Reading a stream is asking for its next item, and then reading the rest. -/
theorem collect_of_poll (upload : Upload) :
    match upload.poll with
    | (.chunk bytes, rest) => upload.collect = ((bytes ++ ·) <$> rest.collect.1, rest.collect.2)
    | (.notReady, rest) => upload.collect = rest.collect
    | (.error error, rest) => upload.collect = (.error error, rest.outcome?)
    | (.ended, rest) => upload.collect = (.ok [], rest.outcome?) := by
  obtain ⟨⟨items, inlet⟩, digest⟩ := upload
  cases done : digest.any (·.done) with
  | true =>
    simp only [poll, isDone, done, if_true, pass_of_done]
    cases items with
    | nil => simp only [collect, collectItems, outcome?, pass_of_done done]
    | cons item rest => simp only [collect, collectItems, outcome?, pass_of_done done]
  | false =>
    cases items with
    | nil =>
      cases inlet with
      | none =>
        have ended := pass_ended digest
        simp only [poll, isDone, done, Bool.false_eq_true, if_false, Source.poll_nil]
        generalize passed : pass digest .ended = result at ended
        obtain ⟨item, digest'⟩ := result
        obtain rfl : item = .ended := ended
        simp only [collect, collectItems, outcome?, passed]
      | some inlet =>
        simp [poll, isDone, done, Source.poll, pass_notReady]
    | cons item rest =>
      simp only [poll, isDone, done, Bool.false_eq_true, if_false, Source.poll_cons]
      generalize passed : pass digest item = result
      obtain ⟨item', digest'⟩ := result
      cases item' with
      | _ => simp only [collect, collectItems, outcome?, passed]

end Upload

/-! ### Transfers -/

namespace Transfer

/-- What has come in and what is still to come are together what digesting a stream comes to. -/
def Carries (limits : IngestLimits) (source : Source) (transfer : Transfer) : Prop :=
  (Upload.digested limits source).collect =
    ((transfer.received ++ ·) <$> transfer.upload.collect.1, transfer.upload.collect.2)

variable {limits : IngestLimits} {source : Source} {transfer : Transfer} {blobs : MemoryBlobs}
  {fresh : Token}

/-- A transfer that has not begun carries the whole stream. -/
lemma carries_digested (limits : IngestLimits) (source : Source) (key : String) :
    Carries limits source { key, upload := .digested limits source } := by
  unfold Carries
  cases (Upload.digested limits source).collect with
  | mk result outcome =>
    cases result with
    | error error => rfl
    | ok bytes => rfl

/-- What the put of a stream is answered with, and the blobs after it. -/
inductive Puts (limits : IngestLimits) (source : Source) (key : String) (blobs : MemoryBlobs) :
    PutReply → MemoryBlobs → Prop
  | taken {bytes : Bytes} (accepted : limits.accepted? source = some bytes) :
    Puts limits source key blobs ⟨.ok bytes.length, some (.ok (limits.attributesOf bytes))⟩
      (blobs.insert key bytes)
  | refused (error : StoreError) (outcome : Option Outcome)
    (refused : limits.accepted? source = none) :
    Puts limits source key blobs ⟨.error error, outcome⟩ blobs

/-- A stream that is read to its end with some bytes is taken with these bytes. -/
lemma accepted_of_collected {bytes : Bytes} {outcome : Option Outcome}
    (collected : (Upload.digested limits source).collect = (.ok bytes, outcome)) :
    limits.accepted? source = some bytes ∧ outcome = some (.ok (limits.attributesOf bytes)) := by
  cases accepted : limits.accepted? source with
  | none =>
    obtain ⟨error, failed⟩ := Upload.collect_digested_of_refused accepted
    rw [collected] at failed
    contradiction
  | some taken =>
    rw [Upload.collect_digested_of_accepted accepted] at collected
    obtain ⟨same, rfl⟩ := Prod.mk.inj collected
    obtain rfl := Except.ok.inj same
    exact ⟨rfl, rfl⟩

/-- A stream that comes to its end with some bytes is put with these bytes. -/
lemma puts_of_collected {key : String} {bytes : Bytes} {outcome : Option Outcome}
    (collected : (Upload.digested limits source).collect = (.ok bytes, outcome)) :
    Puts limits source key blobs ⟨.ok bytes.length, outcome⟩ (blobs.insert key bytes) := by
  obtain ⟨accepted, rfl⟩ := accepted_of_collected collected
  exact .taken accepted

lemma puts_of_failed {key : String} {error : IoError} {outcome : Option Outcome}
    (collected : (Upload.digested limits source).collect = (.error error, outcome)) :
    Puts limits source key blobs ⟨.error (.io error), outcome⟩ blobs := by
  cases accepted : limits.accepted? source with
  | none => exact .refused _ _ accepted
  | some taken =>
    rw [Upload.collect_digested_of_accepted accepted] at collected
    obtain ⟨same, -⟩ := Prod.mk.inj collected
    contradiction

/-- One step of a transfer goes on with the same stream under the same key, or it ends as if the
stream had been read in one go. -/
theorem advance_of_carries (blobs : MemoryBlobs) (fresh : Token)
    (carries : transfer.Carries limits source) :
    match transfer.advance blobs fresh with
    | .moved after blobs' =>
      blobs' = blobs ∧ after.key = transfer.key ∧ after.Carries limits source
    | .finished reply blobs' => Puts limits source transfer.key blobs reply blobs'
    | .waiting => True := by
  unfold advance
  cases transfer.token with
  | none => exact ⟨rfl, rfl, carries⟩
  | some token =>
    dsimp only
    by_cases waits : transfer.isWaiting = true
    · rw [if_pos waits]
      trivial
    · rw [if_neg waits]
      have polled := transfer.upload.collect_of_poll
      unfold Carries at carries
      generalize transfer.upload.poll = result at polled ⊢
      obtain ⟨item, upload⟩ := result
      cases item with
      | chunk bytes =>
        refine ⟨rfl, rfl, ?_⟩
        rw [Carries, carries, polled]
        cases upload.collect.1 with
        | error error => rfl
        | ok later => simp [Functor.map, Except.map]
      | notReady =>
        refine ⟨rfl, rfl, ?_⟩
        rw [Carries, carries, polled]
      | error error =>
        rw [polled] at carries
        exact puts_of_failed carries
      | ended =>
        rw [polled] at carries
        refine puts_of_collected (carries.trans ?_)
        simp [Functor.map, Except.map]

/-- What any store of blobs answers of a stream that it has stored is what digesting the stream
comes to. -/
def Reports (limits : IngestLimits) (source : Source) (reply : PutReply) : Prop :=
  ∀ size, reply.size = .ok size → ∃ bytes, limits.accepted? source = some bytes ∧
    reply.outcome = some (.ok (limits.attributesOf bytes))

lemma reports_failed (error : StoreError) (outcome : Option Outcome) :
    Reports limits source ⟨.error error, outcome⟩ := by
  intro size stored
  cases stored

/-- In any store, a transfer goes on with the same stream, or ends with a report of the stream. -/
theorem reports_of_advance {β : Type} [BlobStore β] (store : β) (fresh : Token)
    (carries : transfer.Carries limits source) :
    match transfer.advance store fresh with
    | .moved after _ => after.Carries limits source
    | .finished reply _ => Reports limits source reply
    | .waiting => True := by
  unfold advance
  cases transfer.token with
  | none =>
    cases BlobStore.start store transfer.key fresh with
    | mk begun store =>
      cases begun with
      | error error => exact reports_failed error _
      | ok _ => exact carries
  | some token =>
    dsimp only
    by_cases waits : transfer.isWaiting = true
    · rw [if_pos waits]
      trivial
    · rw [if_neg waits]
      have polled := transfer.upload.collect_of_poll
      unfold Carries at carries
      generalize transfer.upload.poll = result at polled ⊢
      obtain ⟨item, upload⟩ := result
      cases item with
      | chunk bytes =>
        rw [polled] at carries
        refine carries.trans ?_
        cases upload.collect.1 with
        | error error => rfl
        | ok later => simp [Functor.map, Except.map]
      | notReady =>
        rw [polled] at carries
        exact carries
      | error error => exact reports_failed _ _
      | ended =>
        rw [polled] at carries
        have collected : (Upload.digested limits source).collect =
            (.ok transfer.received, upload.outcome?) := by
          refine carries.trans ?_
          simp [Functor.map, Except.map]
        obtain ⟨accepted, settled⟩ := accepted_of_collected collected
        dsimp only [BlobStore.settle]
        cases BlobStore.complete store transfer.key token transfer.received with
        | mk completed store =>
          cases completed with
          | error error => exact reports_failed error _
          | ok _ => exact fun _ _ => ⟨transfer.received, accepted, settled⟩

end Transfer

end AssetCache
