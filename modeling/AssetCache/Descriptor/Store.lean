import AssetCache.Event
import AssetCache.Record

/-!
# Stores of descriptors

A descriptor store counts the owners of content. The descriptor that the first owner brought stays
until the last owner has gone, and each operation on an identity is one step.
-/

namespace AssetCache

/-- A place where descriptors are kept. The operations say what an operation comes to and which
store it leaves. -/
class DescriptorStore (δ : Type) where
  /-- Opens what the store needs before its next operation; the event, if any, says that it was
  opened just now. -/
  connect : δ → Except StoreError (Option Event) × δ
  /-- Adds an owner, with a descriptor in case there was none; answers the number of owners. -/
  create : δ → ContentId → Descriptor → Except StoreError Nat × δ
  read : δ → ContentId → Except StoreError Descriptor
  contains : δ → ContentId → Except StoreError Bool
  /-- Adds an owner to a descriptor that is there; answers the number of owners. -/
  duplicate : δ → ContentId → Except StoreError Nat × δ
  /-- Takes an owner away, and the descriptor with the last one. -/
  delete : δ → ContentId → Except StoreError DeleteOutcome × δ

/-- A call to a descriptor store. -/
inductive DescriptorCall where
  | create (id : ContentId) (descriptor : Descriptor)
  | read (id : ContentId)
  | contains (id : ContentId)
  | duplicate (id : ContentId)
  | delete (id : ContentId)
deriving DecidableEq

namespace DescriptorCall

/-- What a call is answered with when it succeeds. -/
abbrev Value : DescriptorCall → Type
  | create _ _ => Nat
  | read _ => Descriptor
  | contains _ => Bool
  | duplicate _ => Nat
  | delete _ => DeleteOutcome

/-- What a call is answered with. -/
abbrev Answer (call : DescriptorCall) : Type :=
  Except StoreError call.Value

end DescriptorCall

namespace DescriptorStore

variable {δ : Type} [DescriptorStore δ]

/-- Carries out a call on a store that is open. -/
def perform (store : δ) : (call : DescriptorCall) → call.Answer × δ
  | .create id descriptor => create store id descriptor
  | .read id => (read store id, store)
  | .contains id => (contains store id, store)
  | .duplicate id => duplicate store id
  | .delete id => delete store id

/-- Answers a call, opening the store if need be, and says whether it was opened just now. -/
def answer (store : δ) (call : DescriptorCall) : call.Answer × δ × Option Event :=
  match connect store with
  | (.error error, store) => (.error error, store, none)
  | (.ok event, store) =>
    let (reply, store) := perform store call
    (reply, store, event)

end DescriptorStore

end AssetCache
