import AssetCache.Json.Read
import AssetCache.Json.Write
import AssetCache.Record

/-!
# Records as JSON

The texts of identities, attributes, descriptors and entries, and how they are read. Texts are
written with every field, in order; fields that may be null may also be missing when read.
-/

namespace AssetCache

open Json

/-- The text of a string that may be absent. -/
def optionalString (content : Option String) : List Char :=
  optional (fun content => string content.toList) content

/-- Reads a string that may be null. -/
def readOptionalString : Reader Unit (Option String) := fun tokens => do
  let (content, rest) ← readOptional (readString ()) tokens
  return (content.map String.ofList, rest)

namespace ContentId

/-- The text of an identity: a string. -/
def toJson (id : ContentId) : List Char :=
  string id.text.toList

/-- Reads an identity. -/
def read : Reader Unit ContentId := fun tokens => do
  let (content, rest) ← readString () tokens
  return (⟨String.ofList content⟩, rest)

/-- The identity that a text holds. -/
def ofJson? (text : List Char) : Except Unit ContentId :=
  readText () read text

end ContentId

namespace Attributes

/-- The fields of attributes and their texts. -/
def members (attributes : Attributes) : List (String × List Char) :=
  [("hash", optionalString attributes.hash),
   ("size", natural attributes.size.toNat),
   ("contentType", optionalString attributes.contentType)]

/-- The text of attributes. -/
def toJson (attributes : Attributes) : List Char :=
  object attributes.members

/-- Attributes that are partly read. -/
structure Partly where
  hash : Option (Option String) := none
  size : Option UInt64 := none
  contentType : Option (Option String) := none

/-- How attributes are read. -/
def schema : Schema Unit Partly Attributes where
  malformed := ()
  fields :=
    [.once () "hash" (·.hash) (fun r v => { r with hash := some v }) readOptionalString,
     .once () "size" (·.size) (fun r v => { r with size := some v }) (readWord ()),
     .once () "contentType" (·.contentType) (fun r v => { r with contentType := some v })
      readOptionalString]
  start := {}
  finish record := do return ⟨record.hash.join, ← record.size, record.contentType.join⟩
  mayStopEarly := false

/-- The attributes that a text holds. -/
def ofJson? (text : List Char) : Except Unit Attributes :=
  readText () schema.read text

end Attributes

namespace Descriptor

/-- The fields of a descriptor and their texts. -/
def members (descriptor : Descriptor) : List (String × List Char) :=
  [("hash", optionalString descriptor.hash),
   ("size", natural descriptor.size.toNat),
   ("contentType", optionalString descriptor.contentType),
   ("chunkSize", natural descriptor.chunkSize.toNat),
   ("numberOfChunks", natural descriptor.numberOfChunks.toNat)]

/-- The text of a descriptor. -/
def toJson (descriptor : Descriptor) : List Char :=
  object descriptor.members

/-- A descriptor that is partly read. -/
structure Partly where
  hash : Option (Option String) := none
  size : Option UInt64 := none
  contentType : Option (Option String) := none
  chunkSize : Option UInt64 := none
  numberOfChunks : Option UInt64 := none

/-- How a descriptor is read. -/
def schema : Schema Unit Partly Descriptor where
  malformed := ()
  fields :=
    [.once () "hash" (·.hash) (fun r v => { r with hash := some v }) readOptionalString,
     .once () "size" (·.size) (fun r v => { r with size := some v }) (readWord ()),
     .once () "contentType" (·.contentType) (fun r v => { r with contentType := some v })
      readOptionalString,
     .once () "chunkSize" (·.chunkSize) (fun r v => { r with chunkSize := some v }) (readWord ()),
     .once () "numberOfChunks" (·.numberOfChunks) (fun r v => { r with numberOfChunks := some v })
      (readWord ())]
  start := {}
  finish record := do
    return ⟨record.hash.join, ← record.size, record.contentType.join, ← record.chunkSize,
      ← record.numberOfChunks⟩
  mayStopEarly := false

/-- The descriptor that a text holds. -/
def ofJson? (text : List Char) : Except Unit Descriptor :=
  readText () schema.read text

end Descriptor

namespace DescriptorEntry

/-- The fields of an entry and their texts. -/
def members (entry : DescriptorEntry) : List (String × List Char) :=
  [("descriptor", entry.descriptor.toJson),
   ("refcount", natural entry.refcount.toNat)]

/-- The text of an entry. -/
def toJson (entry : DescriptorEntry) : List Char :=
  object entry.members

/-- An entry that is partly read. -/
structure Partly where
  descriptor : Option Descriptor := none
  refcount : Option UInt64 := none

/-- How an entry is read. -/
def schema : Schema Unit Partly DescriptorEntry where
  malformed := ()
  fields :=
    [.once () "descriptor" (·.descriptor) (fun r v => { r with descriptor := some v })
      Descriptor.schema.read,
     .once () "refcount" (·.refcount) (fun r v => { r with refcount := some v }) (readWord ())]
  start := {}
  finish record := do return ⟨← record.descriptor, ← record.refcount⟩
  mayStopEarly := false

/-- The entry that a text holds. -/
def ofJson? (text : List Char) : Except Unit DescriptorEntry :=
  readText () schema.read text

end DescriptorEntry

end AssetCache
