import AssetCache.MediaType.Sniff
import AssetCache.Record
import AssetCache.Settings.Limits
import AssetCache.Sha1
import AssetCache.Stream

/-!
# Digesting streams

A stream that is digested passes its items on unchanged, and hashes and counts the bytes on the
way. What it found out is settled once: the attributes of the content at the end of the stream, or
the first error. After that it answers nothing but the end.
-/

namespace AssetCache

/-- What digesting a stream comes to. -/
abbrev Outcome := Except IoError Attributes

/-- The place where an outcome is left for whoever waits for it. -/
inductive Receiver where
  /-- Nothing is there yet. -/
  | waiting
  /-- The outcome is there. -/
  | settled (outcome : Outcome)
  /-- Nothing will come: the outcome was taken, or the stream was dropped before it had one. -/
  | closed

namespace Receiver

/-- Leaves an outcome, unless there was one before. -/
def settle (receiver : Receiver) (outcome : Outcome) : Receiver :=
  match receiver with
  | .waiting => .settled outcome
  | other => other

/-- Takes the outcome that is there. -/
def take : Receiver → Option Outcome × Receiver
  | .settled outcome => (some outcome, .closed)
  | other => (none, other)

/-- What is there once the stream has been dropped. -/
def drop : Receiver → Receiver
  | .waiting => .closed
  | other => other

/-- The outcome that is there. -/
def outcome? : Receiver → Option Outcome
  | .settled outcome => some outcome
  | _ => none

end Receiver

/-- A digest under way. -/
structure Digest where
  limits : IngestLimits
  hasher : Sha1.Hasher
  size : Nat
  /-- The leading bytes that are kept for recognising the media type. -/
  start : Bytes
  done : Bool
  receiver : Receiver

namespace Digest

/-- The digest of a stream of which nothing is read yet. -/
def begin (limits : IngestLimits) : Digest :=
  ⟨limits, .initial, 0, [], false, .waiting⟩

/-- The error for content beyond the greatest size. -/
def tooLarge (limits : IngestLimits) : IoError :=
  .withText .invalidData ("blob exceeds max size of " ++ toString limits.maxBytes ++ " bytes")

/-- The attributes of all bytes so far. -/
def attributes (digest : Digest) : Attributes :=
  ⟨some (Bytes.toHex digest.hasher.finish), digest.size.toUInt64,
   some (MediaType.sniff digest.start).name⟩

/-- The digest with an outcome, after which it reads nothing more. -/
def finish (digest : Digest) (outcome : Outcome) : Digest :=
  { digest with done := true, receiver := digest.receiver.settle outcome }

/-- What is passed on of an item, and the digest after it. -/
def absorb (digest : Digest) : Item → Item × Digest
  | .notReady => (.notReady, digest)
  | .error error => (.error error, digest.finish (.error error))
  | .ended => (.ended, digest.finish (.ok digest.attributes))
  | .chunk bytes =>
    let size := digest.size + bytes.length
    if digest.limits.maxBytes < size then
      let error := tooLarge digest.limits
      (.error error, { digest with size }.finish (.error error))
    else
      let room := digest.limits.sniffBytes - digest.start.length
      (.chunk bytes,
       { digest with
         size, hasher := digest.hasher.feed bytes, start := digest.start ++ bytes.take room })

end Digest

/-- A stream on its way into a store, digested or not. -/
structure Upload where
  source : Source
  digest : Option Digest := none

namespace Upload

/-- A stream that is digested under some limits. -/
def digested (limits : IngestLimits) (source : Source) : Upload :=
  ⟨source, some (.begin limits)⟩

/-- Whether nothing more will be read, whatever the stream itself holds. -/
def isDone (upload : Upload) : Bool :=
  upload.digest.any (·.done)

/-- What is passed on of an item of the stream, and the digest after it. -/
def pass : Option Digest → Item → Item × Option Digest
  | none, item => (item, none)
  | some digest, item =>
    if digest.done then (.ended, some digest)
    else
      let (item, digest) := digest.absorb item
      (item, some digest)

/-- Asks for the next item. A digest that is done does not ask the stream itself. -/
def poll (upload : Upload) : Item × Upload :=
  let (item, source) := if upload.isDone then (.ended, upload.source) else upload.source.poll
  let (item, digest) := pass upload.digest item
  (item, ⟨source, digest⟩)

/-- What the digest of a stream came to when the stream is dropped. -/
def outcome? (upload : Upload) : Option Outcome :=
  upload.digest.bind (·.receiver.outcome?)

/-- The bytes that are passed on of some items and the end after them, up to the first error. -/
def collectItems : Option Digest → List Item → Except IoError Bytes × Option Digest
  | digest, [] => (.ok [], (pass digest .ended).2)
  | digest, item :: rest =>
    match pass digest item with
    | (.chunk bytes, digest) =>
      let (result, digest) := collectItems digest rest
      ((bytes ++ ·) <$> result, digest)
    | (.notReady, digest) => collectItems digest rest
    | (.error error, digest) => (.error error, digest)
    | (.ended, digest) => (.ok [], digest)

/-- Reads a stream to its end or its first error: the bytes passed on, and what the digest of
the stream came to. -/
def collect (upload : Upload) : Except IoError Bytes × Option Outcome :=
  let (result, digest) := collectItems upload.digest upload.source.items
  (result, digest.bind (·.receiver.outcome?))

end Upload

end AssetCache
