import AssetCache.Blob.Store
import AssetCache.Cache.Slots
import AssetCache.Descriptor.Store

/-!
# Operations

An operation of the content store or the content cache is a program whose calls go to the blobs,
to the descriptors, to the slots of the cache, to the clock and to the supply of tokens. Between
two calls anything may happen; a call is one step, except that a blob comes in item by item.
-/

namespace AssetCache

/-- A call that an operation makes. -/
inductive Call where
  | clock
  | token
  | report (event : Event)
  | blob (call : BlobCall)
  | descriptor (call : DescriptorCall)
  | slots (call : SlotsCall)

/-- What a call is answered with. -/
abbrev Call.Answer : Call → Type
  | clock => Instant
  | token => Token
  | report _ => Unit
  | blob call => call.Answer
  | descriptor call => call.Answer
  | slots call => call.Answer

/-- A program that makes these calls. -/
abbrev Operation (α : Type) := Program Call Call.Answer α

namespace Operation

/-- Reads the clock. -/
def clock : Operation Instant :=
  .ask .clock .done

/-- Takes a new token. -/
def token : Operation Token :=
  .ask .token .done

/-- Reports an event. -/
def report (event : Event) : Operation Unit :=
  .ask (.report event) .done

/-- Makes a call to the blobs. -/
def blob (call : BlobCall) : Operation call.Answer :=
  .ask (.blob call) .done

/-- Makes a call to the descriptors. -/
def descriptor (call : DescriptorCall) : Operation call.Answer :=
  .ask (.descriptor call) .done

/-- Makes a call to the slots. -/
def slots (call : SlotsCall) : Operation call.Answer :=
  .ask (.slots call) .done

end Operation

end AssetCache
