/-!
# Records of content

What is known about content: its identity, the attributes found while it streams in, and the
descriptor that is stored for it.
-/

namespace AssetCache

/-- The identity of stored content: the hexadecimal SHA-1 of its bytes. -/
structure ContentId where
  text : String
deriving DecidableEq, Repr

/-- The order of identities is that of their texts. -/
instance : Ord ContentId := ⟨fun a b => compare a.text b.text⟩

/-- The identity of content as found while it streams. The hash is absent only before the end. -/
structure Attributes where
  hash : Option String
  size : UInt64
  contentType : Option String
deriving DecidableEq, Repr

/-- The identity, once the hash is known. -/
def Attributes.id (attributes : Attributes) : Option ContentId :=
  attributes.hash.map ContentId.mk

/-- The record that is stored for content. The last two fields describe how it is laid out;
content is never split, so there is one chunk of the whole size. -/
structure Descriptor where
  hash : Option String
  size : UInt64
  contentType : Option String
  chunkSize : UInt64
  numberOfChunks : UInt64
deriving DecidableEq, Repr

namespace Descriptor

/-- The identity, if the hash is known. -/
def id (descriptor : Descriptor) : Option ContentId :=
  descriptor.hash.map ContentId.mk

/-- What the descriptor says of the content itself. -/
def attributes (descriptor : Descriptor) : Attributes :=
  ⟨descriptor.hash, descriptor.size, descriptor.contentType⟩

/-- The descriptor of content that is one chunk. -/
def ofAttributes (attributes : Attributes) : Descriptor :=
  ⟨attributes.hash, attributes.size, attributes.contentType, attributes.size, 1⟩

end Descriptor

/-- A descriptor together with the number of its owners. -/
structure DescriptorEntry where
  descriptor : Descriptor
  refcount : UInt64
deriving DecidableEq, Repr

/-- The entry of a descriptor with its first owner. -/
def DescriptorEntry.first (descriptor : Descriptor) : DescriptorEntry :=
  ⟨descriptor, 1⟩

/-- What became of a descriptor when one of its owners let go. -/
inductive DeleteOutcome where
  /-- Other owners remain. -/
  | released (remaining : Nat)
  /-- The last owner went, and the descriptor with it. -/
  | removed
  /-- There was no such descriptor. -/
  | missing
deriving DecidableEq, Repr

namespace DeleteOutcome

/-- The outcome as a signed word of 64 bits: the owners that remain, or -1 if there were none. -/
def count : DeleteOutcome → Int
  | .released remaining => Int.bmod remaining UInt64.size
  | .removed => 0
  | .missing => -1

/-- Whether the descriptor went with its last owner. -/
def isRemoved : DeleteOutcome → Bool
  | .removed => true
  | _ => false

end DeleteOutcome

end AssetCache
