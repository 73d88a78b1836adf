import AssetCache.Descriptor.Store
import AssetCache.Table

/-!
# Descriptors in memory

A table of descriptors with the number of their owners.
-/

namespace AssetCache

/-- A descriptor and the number of its owners. -/
structure Holding where
  descriptor : Descriptor
  owners : Nat
deriving DecidableEq, Repr

/-- The descriptor and the owners of every identity that has some. -/
abbrev MemoryDescriptors := Table ContentId Holding

namespace MemoryDescriptors

/-- The number of owners of an identity that is present. -/
def refcount? (store : MemoryDescriptors) (id : ContentId) : Option Nat :=
  (store.get? id).map Holding.owners

/-- Adds an owner; the first one brings the descriptor. -/
def create (store : MemoryDescriptors) (id : ContentId) (descriptor : Descriptor) :
    Except StoreError Nat × MemoryDescriptors :=
  match store.get? id with
  | some holding =>
    (.ok (holding.owners + 1), store.insert id { holding with owners := holding.owners + 1 })
  | none => (.ok 1, store.insert id ⟨descriptor, 1⟩)

/-- The descriptor of an identity. -/
def read (store : MemoryDescriptors) (id : ContentId) : Except StoreError Descriptor :=
  match store.get? id with
  | some holding => .ok holding.descriptor
  | none => .error (.notFound id.text)

/-- Adds an owner to a descriptor that is there. -/
def duplicate (store : MemoryDescriptors) (id : ContentId) :
    Except StoreError Nat × MemoryDescriptors :=
  match store.get? id with
  | some holding =>
    (.ok (holding.owners + 1), store.insert id { holding with owners := holding.owners + 1 })
  | none => (.error (.notFound id.text), store)

/-- Takes an owner away. -/
def delete (store : MemoryDescriptors) (id : ContentId) :
    Except StoreError DeleteOutcome × MemoryDescriptors :=
  match store.get? id with
  | some holding =>
    if holding.owners ≤ 1 then (.ok .removed, store.erase id)
    else
      (.ok (.released (holding.owners - 1)),
       store.insert id { holding with owners := holding.owners - 1 })
  | none => (.ok .missing, store)

end MemoryDescriptors

instance : DescriptorStore MemoryDescriptors where
  connect store := (.ok none, store)
  create := MemoryDescriptors.create
  read := MemoryDescriptors.read
  contains store id := .ok (store.contains id)
  duplicate := MemoryDescriptors.duplicate
  delete := MemoryDescriptors.delete

end AssetCache
