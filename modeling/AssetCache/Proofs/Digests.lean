import AssetCache.Stream.Digest
import Mathlib.Tactic.Common

/-!
# What digesting a stream comes to

The attributes of content are a function of its bytes, however these were cut into chunks. A digest
under way is determined by the bytes that it has read (`Digest.reading`), and a stream is taken in
if it ends without an error and is not too large (`IngestLimits.accepted?`).
-/

namespace AssetCache

/-- The identity of some content. -/
def ContentId.ofBytes (bytes : Bytes) : ContentId :=
  ⟨Sha1.hexDigest bytes⟩

namespace IngestLimits

/-- The attributes of some content. -/
def attributesOf (limits : IngestLimits) (bytes : Bytes) : Attributes :=
  ⟨some (Sha1.hexDigest bytes), bytes.length.toUInt64,
   some (MediaType.sniff (bytes.take limits.sniffBytes)).name⟩

/-- The descriptor of some content. -/
def descriptorOf (limits : IngestLimits) (bytes : Bytes) : Descriptor :=
  .ofAttributes (limits.attributesOf bytes)

/-- The bytes of a stream that ends without an error and is not too large. -/
def accepted? (limits : IngestLimits) (source : Source) : Option Bytes :=
  match source.collect with
  | .ok bytes => if bytes.length ≤ limits.maxBytes then some bytes else none
  | .error _ => none

@[simp] lemma id_attributesOf (limits : IngestLimits) (bytes : Bytes) :
    (limits.attributesOf bytes).id = some (.ofBytes bytes) := rfl

lemma accepted?_eq_some_iff {limits : IngestLimits} {source : Source} {bytes : Bytes} :
    limits.accepted? source = some bytes ↔
      source.collect = .ok bytes ∧ bytes.length ≤ limits.maxBytes := by
  unfold accepted?
  split
  · next found h =>
    rw [h]
    constructor
    · intro same
      split at same
      · next small =>
        obtain rfl := Option.some.inj same
        exact ⟨rfl, small⟩
      · contradiction
    · rintro ⟨same, small⟩
      obtain rfl := Except.ok.inj same
      rw [if_pos small]
  · next error h =>
    simp [h]

/-- The size in a descriptor is the size of the content, as long as the limit is a word. -/
lemma toNat_size_descriptorOf {limits : IngestLimits} (bound : limits.maxBytes < UInt64.size)
    {bytes : Bytes} (small : bytes.length ≤ limits.maxBytes) :
    (limits.descriptorOf bytes).size.toNat = bytes.length :=
  UInt64.toNat_ofNat_of_lt' (Nat.lt_of_le_of_lt small bound)

end IngestLimits

namespace Digest

/-- The digest of a stream of which some bytes were read. -/
def reading (limits : IngestLimits) (bytes : Bytes) : Digest :=
  ⟨limits, .feed .initial bytes, bytes.length, bytes.take limits.sniffBytes, false, .waiting⟩

/-- The digest of a stream that has ended after some bytes. -/
def ended (limits : IngestLimits) (bytes : Bytes) : Digest :=
  (reading limits bytes).finish (.ok (limits.attributesOf bytes))

lemma begin_eq_reading (limits : IngestLimits) : begin limits = reading limits [] := by
  simp [begin, reading]

end Digest

namespace Upload

open Digest

variable {limits : IngestLimits}

lemma pass_chunk {read bytes : Bytes} (small : read.length + bytes.length ≤ limits.maxBytes) :
    pass (some (reading limits read)) (.chunk bytes) =
      (.chunk bytes, some (reading limits (read ++ bytes))) := by
  have start : read.take limits.sniffBytes ++
        bytes.take (limits.sniffBytes - min limits.sniffBytes read.length) =
      (read ++ bytes).take limits.sniffBytes := by
    rw [List.take_append]
    congr 2
    omega
  simp [pass, reading, absorb, Nat.not_lt.2 small, start, Sha1.Hasher.feed_append]

lemma pass_chunk_of_lt {read bytes : Bytes} (large : limits.maxBytes < read.length + bytes.length) :
    ∃ digest, pass (some (reading limits read)) (.chunk bytes) =
      (.error (tooLarge limits), digest) := by
  simp [pass, reading, absorb, large]

/-- Digesting passes on all bytes of a stream that is taken in, and finds their attributes. -/
lemma collectItems_of_accepted {items : List Item} (read : Bytes) {bytes : Bytes}
    (collected : Source.collectItems items = .ok bytes)
    (small : read.length + bytes.length ≤ limits.maxBytes) :
    collectItems (some (reading limits read)) items =
      (.ok bytes, some (ended limits (read ++ bytes))) := by
  induction items generalizing read bytes with
  | nil =>
    obtain rfl := Except.ok.inj collected
    simp only [List.append_nil]
    rfl
  | cons item rest ih =>
    cases item with
    | chunk front =>
      obtain ⟨back, collected', rfl⟩ : ∃ back, Source.collectItems rest = .ok back ∧
          front ++ back = bytes := by
        cases h : Source.collectItems rest with
        | error error => simp [Source.collectItems, h, Functor.map, Except.map] at collected
        | ok back => simpa [Source.collectItems, h, Functor.map, Except.map] using collected
      rw [List.length_append] at small
      have step := ih (read ++ front) collected' (by rw [List.length_append]; omega)
      rw [List.append_assoc] at step
      rw [collectItems, pass_chunk (by omega)]
      simp only [step]
      rfl
    | error error => simp [Source.collectItems] at collected
    | notReady => exact ih read collected small
    | ended =>
      obtain rfl := Except.ok.inj collected
      simp only [List.append_nil]
      rfl

/-- Digesting fails on a stream that is not taken in. -/
lemma collectItems_of_not_accepted {items : List Item} (read : Bytes)
    (refused : ∀ bytes, Source.collectItems items = .ok bytes →
      limits.maxBytes < read.length + bytes.length)
    (small : read.length ≤ limits.maxBytes) :
    ∃ error, (collectItems (some (reading limits read)) items).1 = .error error := by
  induction items generalizing read with
  | nil =>
    have := refused [] rfl
    simp only [List.length_nil] at this
    omega
  | cons item rest ih =>
    cases item with
    | chunk front =>
      by_cases large : limits.maxBytes < read.length + front.length
      · obtain ⟨digest, passed⟩ := pass_chunk_of_lt large
        rw [collectItems, passed]
        exact ⟨_, rfl⟩
      · obtain ⟨error, failed⟩ := ih (read ++ front)
          (fun bytes collected => by
            have := refused (front ++ bytes) (by
              simp [Source.collectItems, collected, Functor.map, Except.map])
            simp only [List.length_append] at this ⊢
            omega)
          (by rw [List.length_append]; omega)
        refine ⟨error, ?_⟩
        rw [collectItems, pass_chunk (Nat.not_lt.1 large)]
        simp only [failed]
        rfl
    | error error => exact ⟨error, rfl⟩
    | notReady => exact ih read (fun bytes collected => refused bytes collected) small
    | ended =>
      have := refused [] rfl
      simp only [List.length_nil] at this
      omega

/-- A digested stream that is taken in comes to its bytes and their attributes. -/
theorem collect_digested_of_accepted {source : Source} {bytes : Bytes}
    (accepted : limits.accepted? source = some bytes) :
    (digested limits source).collect = (.ok bytes, some (.ok (limits.attributesOf bytes))) := by
  obtain ⟨collected, small⟩ := IngestLimits.accepted?_eq_some_iff.1 accepted
  have small' : ([] : Bytes).length + bytes.length ≤ limits.maxBytes := by simpa using small
  have read := collectItems_of_accepted [] collected small'
  rw [← begin_eq_reading] at read
  simp only [collect, digested, read]
  rfl

/-- A digested stream that is not taken in comes to an error. -/
theorem collect_digested_of_refused {source : Source}
    (refused : limits.accepted? source = none) :
    ∃ error, (digested limits source).collect.1 = .error error := by
  have large (bytes : Bytes) (collected : Source.collectItems source.items = .ok bytes) :
      limits.maxBytes < ([] : Bytes).length + bytes.length := by
    by_contra small
    have accepted : limits.accepted? source = some bytes :=
      IngestLimits.accepted?_eq_some_iff.2 ⟨collected, by simpa using small⟩
    rw [refused] at accepted
    contradiction
  obtain ⟨error, failed⟩ := collectItems_of_not_accepted [] large (Nat.zero_le _)
  rw [← begin_eq_reading] at failed
  exact ⟨error, failed⟩

end Upload

end AssetCache
