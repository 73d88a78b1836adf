import AssetCache.Blob.Directory
import AssetCache.Blob.Memory

/-!
# Blobs in one of the stores

The stores of blobs that can be chosen at run time.
-/

namespace AssetCache

/-- Blobs in one of the stores. -/
inductive AnyBlobs where
  | memory (blobs : MemoryBlobs)
  | copying (blobs : CopyingBlobs)
  | directory (blobs : DirectoryBlobs)

namespace AnyBlobs

/-- What an operation on one of the stores leaves. -/
def lift {α β : Type} (wrap : β → AnyBlobs) (result : α × β) : α × AnyBlobs :=
  (result.1, wrap result.2)

/-- What lies in a store, in order: the keys, or the files and directories with the sizes. -/
def listing : AnyBlobs → List String
  | memory blobs => blobs.keys.mergeSort (· ≤ ·)
  | copying blobs => blobs.blobs.keys.mergeSort (· ≤ ·)
  | directory blobs => blobs.tree.listing

end AnyBlobs

instance : BlobStore AnyBlobs where
  start
    | .memory blobs, key, token => BlobStore.start blobs key token |> AnyBlobs.lift .memory
    | .copying blobs, key, token => BlobStore.start blobs key token |> AnyBlobs.lift .copying
    | .directory blobs, key, token => BlobStore.start blobs key token |> AnyBlobs.lift .directory
  hold
    | .memory blobs, key, token, bytes => .memory (BlobStore.hold blobs key token bytes)
    | .copying blobs, key, token, bytes => .copying (BlobStore.hold blobs key token bytes)
    | .directory blobs, key, token, bytes => .directory (BlobStore.hold blobs key token bytes)
  abandon
    | .memory blobs, key, token => .memory (BlobStore.abandon blobs key token)
    | .copying blobs, key, token => .copying (BlobStore.abandon blobs key token)
    | .directory blobs, key, token => .directory (BlobStore.abandon blobs key token)
  complete
    | .memory blobs, key, token, bytes =>
      BlobStore.complete blobs key token bytes |> AnyBlobs.lift .memory
    | .copying blobs, key, token, bytes =>
      BlobStore.complete blobs key token bytes |> AnyBlobs.lift .copying
    | .directory blobs, key, token, bytes =>
      BlobStore.complete blobs key token bytes |> AnyBlobs.lift .directory
  get
    | .memory blobs, key => BlobStore.get blobs key
    | .copying blobs, key => BlobStore.get blobs key
    | .directory blobs, key => BlobStore.get blobs key
  delete
    | .memory blobs, key => BlobStore.delete blobs key |> AnyBlobs.lift .memory
    | .copying blobs, key => BlobStore.delete blobs key |> AnyBlobs.lift .copying
    | .directory blobs, key => BlobStore.delete blobs key |> AnyBlobs.lift .directory
  contains
    | .memory blobs, key => BlobStore.contains blobs key
    | .copying blobs, key => BlobStore.contains blobs key
    | .directory blobs, key => BlobStore.contains blobs key
  rename
    | .memory blobs, source, target =>
      BlobStore.rename blobs source target |> AnyBlobs.lift .memory
    | .copying blobs, source, target =>
      BlobStore.rename blobs source target |> AnyBlobs.lift .copying
    | .directory blobs, source, target =>
      BlobStore.rename blobs source target |> AnyBlobs.lift .directory

end AssetCache
