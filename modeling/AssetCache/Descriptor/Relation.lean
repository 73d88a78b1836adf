import AssetCache.Descriptor.Store
import AssetCache.Table

/-!
# Descriptors as rows

The descriptors of a database are the rows of one relation with the identity as its key. All
numbers are signed words of 64 bits there, and a row is only kept while its count is positive.
-/

namespace AssetCache

/-- The columns of a descriptor beside its identity. -/
structure Row where
  hash : Option String
  size : Int64
  contentType : Option String
  chunkSize : Int64
  numberOfChunks : Int64
  refcount : Int64
deriving DecidableEq

namespace Row

/-- The first row of a descriptor. -/
def ofDescriptor (descriptor : Descriptor) : Row where
  hash := descriptor.hash
  size := descriptor.size.toInt64
  contentType := descriptor.contentType
  chunkSize := descriptor.chunkSize.toInt64
  numberOfChunks := descriptor.numberOfChunks.toInt64
  refcount := 1

/-- The descriptor in a row. -/
def descriptor (row : Row) : Descriptor where
  hash := row.hash
  size := row.size.toUInt64
  contentType := row.contentType
  chunkSize := row.chunkSize.toUInt64
  numberOfChunks := row.numberOfChunks.toUInt64

/-- The count of a row as a number of owners. -/
def owners (row : Row) : Nat :=
  row.refcount.toUInt64.toNat

@[simp] theorem descriptor_ofDescriptor (descriptor : Descriptor) :
    (ofDescriptor descriptor).descriptor = descriptor := by
  simp [ofDescriptor, Row.descriptor]

end Row

/-- The rows by identity. -/
abbrev Relation := Table String Row

namespace Relation

/-- Inserts a row, or counts one more in the row that is there; returns the count. -/
def upsert (rows : Relation) (id : ContentId) (descriptor : Descriptor) : Nat × Relation :=
  let row := match rows.get? id.text with
    | some row => { row with refcount := row.refcount + 1 }
    | none => .ofDescriptor descriptor
  (row.owners, rows.insert id.text row)

/-- Adds to the count of the row that is there, if the row satisfies a condition; returns the
count. -/
def count (rows : Relation) (id : ContentId) (change : Int64) (condition : Row → Bool) :
    Option Nat × Relation :=
  match (rows.get? id.text).filter condition with
  | none => (none, rows)
  | some row =>
    let row := { row with refcount := row.refcount + change }
    (some row.owners, rows.insert id.text row)

/-- Deletes a row; returns how many there were. -/
def remove (rows : Relation) (id : ContentId) : Nat × Relation :=
  (if rows.contains id.text then 1 else 0, rows.erase id.text)

/-! ### The operations of a descriptor store -/

/-- Adds an owner; the first one brings the descriptor. -/
def create (rows : Relation) (id : ContentId) (descriptor : Descriptor) :
    Except StoreError Nat × Relation :=
  let (owners, rows) := rows.upsert id descriptor
  (.ok owners, rows)

/-- The descriptor of an identity. -/
def read (rows : Relation) (id : ContentId) : Except StoreError Descriptor :=
  match rows.get? id.text with
  | some row => .ok row.descriptor
  | none => .error (.notFound id.text)

/-- Adds an owner to a descriptor that is there. -/
def duplicate (rows : Relation) (id : ContentId) : Except StoreError Nat × Relation :=
  match rows.count id 1 fun _ => true with
  | (some owners, rows) => (.ok owners, rows)
  | (none, rows) => (.error (.notFound id.text), rows)

/-- Takes an owner away while there are several, and else deletes the row. -/
def delete (rows : Relation) (id : ContentId) : Except StoreError DeleteOutcome × Relation :=
  match rows.count id (-1) fun row => 1 < row.refcount with
  | (some owners, rows) => (.ok (.released owners), rows)
  | (none, rows) =>
    let (removed, rows) := rows.remove id
    (.ok (if 0 < removed then .removed else .missing), rows)

end Relation

instance : DescriptorStore Relation where
  connect rows := (.ok none, rows)
  create := Relation.create
  read := Relation.read
  contains rows id := .ok (rows.contains id.text)
  duplicate := Relation.duplicate
  delete := Relation.delete

end AssetCache
