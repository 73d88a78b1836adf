import AssetCache.Blob.Store
import AssetCache.Table

/-!
# Blobs in memory

A table of blobs. A blob enters the table when its stream has ended, and not before.
-/

namespace AssetCache

/-- The bytes under every key. -/
abbrev MemoryBlobs := Table String Bytes

namespace MemoryBlobs

/-- The bytes under a key, as a stream. -/
def get (blobs : MemoryBlobs) (key : String) : Except StoreError Source :=
  match blobs.get? key with
  | none => .error (.notFound key)
  | some bytes => .ok (.ofBytes bytes)

/-- Takes a blob away. -/
def delete (blobs : MemoryBlobs) (key : String) : Except StoreError Unit × MemoryBlobs :=
  if blobs.contains key then (.ok (), blobs.erase key) else (.error (.notFound key), blobs)

/-- Moves a blob to another key; a blob that was there before is replaced. -/
def rename (blobs : MemoryBlobs) (source target : String) :
    Except StoreError Unit × MemoryBlobs :=
  match blobs.get? source with
  | none => (.error (.notFound source), blobs)
  | some bytes => (.ok (), (blobs.erase source).insert target bytes)

end MemoryBlobs

instance : BlobStore MemoryBlobs where
  start blobs _ _ := (.ok (), blobs)
  hold blobs _ _ _ := blobs
  abandon blobs _ _ := blobs
  complete blobs key _ bytes := (.ok (), blobs.insert key bytes)
  get := MemoryBlobs.get
  delete := MemoryBlobs.delete
  contains blobs key := .ok (blobs.contains key)
  rename := MemoryBlobs.rename

/-- Blobs in memory that are renamed by copying. -/
structure CopyingBlobs where
  blobs : MemoryBlobs

namespace CopyingBlobs

/-- What an operation on the table leaves of the store. -/
def lift {α : Type} (result : α × MemoryBlobs) : α × CopyingBlobs :=
  (result.1, ⟨result.2⟩)

end CopyingBlobs

instance : BlobStore CopyingBlobs where
  start store _ _ := (.ok (), store)
  hold store _ _ _ := store
  abandon store _ _ := store
  complete store key _ bytes := (.ok (), ⟨store.blobs.insert key bytes⟩)
  get store := MemoryBlobs.get store.blobs
  delete store key := CopyingBlobs.lift (MemoryBlobs.delete store.blobs key)
  contains store key := .ok (store.blobs.contains key)
  rename store source target := CopyingBlobs.lift <|
    (renameByCopy source target).run (BlobStore.answer ⟨0⟩) store.blobs

end AssetCache
