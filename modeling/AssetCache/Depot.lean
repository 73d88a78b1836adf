import AssetCache.Operation

/-!
# The environment of operations

A depot is all that operations work on: the blobs, the descriptors, the slots of the cache, the
clock and the supply of tokens, and the events that were reported. It answers a call at once where
an operation runs alone, or step by step where operations run side by side.
-/

namespace AssetCache

/-- All that operations work on. -/
structure Depot (β δ : Type) where
  blobs : β
  descriptors : δ
  slots : Slots := .empty
  /-- The number of tokens issued so far. -/
  issued : Nat := 0
  /-- The next reading of the clock. -/
  now : Instant
  /-- The events reported so far. -/
  events : List Event := []

namespace Depot

variable {β δ : Type} [BlobStore β] [DescriptorStore δ]

/-- The depot at a later time. -/
def pass (depot : Depot β δ) (nanos : Nat) : Depot β δ :=
  let total := depot.now.nanos + nanos
  { depot with now := ⟨depot.now.secs + (total / 1000000000 : Nat), total % 1000000000⟩ }

/-- Reads the clock, which moves on with every reading. -/
def readClock (depot : Depot β δ) : Instant × Depot β δ :=
  (depot.now, depot.pass 1000)

/-- Issues a token that was not issued before. -/
def issue (depot : Depot β δ) : Token × Depot β δ :=
  (⟨depot.issued⟩, { depot with issued := depot.issued + 1 })

/-- Takes note of an event. -/
def report (depot : Depot β δ) (event : Event) : Depot β δ :=
  { depot with events := depot.events ++ [event] }

/-- Answers a call to the descriptors. -/
def answerDescriptor (depot : Depot β δ) (call : DescriptorCall) : call.Answer × Depot β δ :=
  let (reply, descriptors, event) := DescriptorStore.answer depot.descriptors call
  (reply, { depot with descriptors, events := depot.events ++ event.toList })

/-- Answers a call to the blobs at once. -/
def answerBlob (depot : Depot β δ) (call : BlobCall) : call.Answer × Depot β δ :=
  let (token, depot) := depot.issue
  let (reply, blobs) := BlobStore.answer token depot.blobs call
  (reply, { depot with blobs })

/-- Answers a call at once. -/
def answer (depot : Depot β δ) : (call : Call) → call.Answer × Depot β δ
  | .clock => depot.readClock
  | .token => depot.issue
  | .report event => ((), depot.report event)
  | .blob call => depot.answerBlob call
  | .descriptor call => depot.answerDescriptor call
  | .slots call =>
    let (reply, slots) := depot.slots.answer call
    (reply, { depot with slots })

/-- Runs an operation alone, to its end. -/
def run {α : Type} (depot : Depot β δ) (operation : Operation α) : α × Depot β δ :=
  operation.run answer depot

/-- One attempt at a call. A blob that comes in takes one attempt for every item. -/
def attempt (depot : Depot β δ) : (call : Call) → Attempt Call Call.Answer (Depot β δ) call
  | .blob (.put transfer) =>
    let (token, depot) := if transfer.token.isNone then depot.issue else (⟨0⟩, depot)
    match transfer.advance depot.blobs token with
    | .finished reply blobs => .answered reply { depot with blobs }
    | .moved transfer blobs => .ongoing (.blob (.put transfer)) id { depot with blobs }
    | .waiting => .blocked
  | call =>
    let (reply, depot) := depot.answer call
    .answered reply depot

end Depot

end AssetCache
