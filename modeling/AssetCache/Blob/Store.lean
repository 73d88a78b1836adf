import AssetCache.Program
import AssetCache.Stream.Digest
import AssetCache.Token

/-!
# Stores of blobs

A blob store keeps bytes under keys. A blob comes in as a stream, step by step; it is there once
the stream has ended, and a stream that fails leaves nothing behind.
-/

namespace AssetCache

/-- What putting a blob comes to. -/
structure PutReply where
  /-- The size that was stored. -/
  size : Except StoreError Nat
  /-- What the digest of the stream came to, if it is digested and came to something. -/
  outcome : Option Outcome

/-- A blob on its way into a store. -/
structure Transfer where
  key : String
  upload : Upload
  /-- The token under which the store takes the blob in, once it has begun. -/
  token : Option Token := none
  /-- The bytes so far. -/
  received : Bytes := []

/-- A place where blobs are kept. The operations say what an operation comes to and which store it
leaves. -/
class BlobStore (β : Type) where
  /-- Makes room for a blob that will come in under a token. -/
  start : β → String → Token → Except StoreError Unit × β
  /-- Takes note of the bytes that have come in so far. -/
  hold : β → String → Token → Bytes → β
  /-- Gives up a blob that was coming in. -/
  abandon : β → String → Token → β
  /-- Stores a blob that is complete. -/
  complete : β → String → Token → Bytes → Except StoreError Unit × β
  get : β → String → Except StoreError Source
  delete : β → String → Except StoreError Unit × β
  contains : β → String → Except StoreError Bool
  rename : β → String → String → Except StoreError Unit × β

namespace BlobStore

variable {β : Type} [BlobStore β]

/-- Stores a complete blob, and says what its put came to. -/
def settle (store : β) (key : String) (token : Token) (bytes : Bytes) (outcome : Option Outcome) :
    PutReply × β :=
  match complete store key token bytes with
  | (.error error, store) => (⟨.error error, outcome⟩, store)
  | (.ok (), store) => (⟨.ok bytes.length, outcome⟩, store)

/-- Reads a stream to its end and stores its bytes. -/
def put (store : β) (token : Token) (transfer : Transfer) : PutReply × β :=
  match start store transfer.key token with
  | (.error error, store) => (⟨.error error, transfer.upload.outcome?⟩, store)
  | (.ok (), store) =>
    match transfer.upload.collect with
    | (.error error, outcome) =>
      (⟨.error (.io error), outcome⟩, abandon store transfer.key token)
    | (.ok bytes, outcome) => settle store transfer.key token bytes outcome

end BlobStore

/-! ### One item at a time -/

/-- What one step of a transfer comes to. -/
inductive Transfer.Progress (β : Type) where
  | finished (reply : PutReply) (store : β)
  | moved (transfer : Transfer) (store : β)
  /-- Nothing comes in at present. -/
  | waiting

/-- Whether the stream of a transfer says that it is not ready, though there is more to come. -/
def Transfer.isPaused (transfer : Transfer) : Bool :=
  transfer.token.isSome && !transfer.upload.isDone &&
    transfer.upload.source.items.head? = some .notReady

/-- Whether a transfer waits for items that come in later. -/
def Transfer.isWaiting (transfer : Transfer) : Bool :=
  !transfer.upload.isDone && transfer.upload.source.items.isEmpty &&
    transfer.upload.source.inlet.isSome

/-- One step of a transfer: it begins, or it takes in the next item of its stream. -/
def Transfer.advance {β : Type} [BlobStore β] (store : β) (fresh : Token) (transfer : Transfer) :
    Transfer.Progress β :=
  match transfer.token with
  | none =>
    match BlobStore.start store transfer.key fresh with
    | (.error error, store) => .finished ⟨.error error, transfer.upload.outcome?⟩ store
    | (.ok (), store) => .moved { transfer with token := some fresh } store
  | some token =>
    if transfer.isWaiting then .waiting
    else
      match transfer.upload.poll with
      | (.chunk bytes, upload) =>
        let received := transfer.received ++ bytes
        .moved { transfer with upload, received }
          (BlobStore.hold store transfer.key token received)
      | (.notReady, upload) => .moved { transfer with upload } store
      | (.error error, upload) =>
        .finished ⟨.error (.io error), upload.outcome?⟩
          (BlobStore.abandon store transfer.key token)
      | (.ended, upload) =>
        let (reply, store) :=
          BlobStore.settle store transfer.key token transfer.received upload.outcome?
        .finished reply store

/-! ### Calls -/

/-- A call to a blob store. -/
inductive BlobCall where
  | put (transfer : Transfer)
  | get (key : String)
  | delete (key : String)
  | contains (key : String)
  | rename (source target : String)

namespace BlobCall

/-- What a call is answered with. -/
abbrev Answer : BlobCall → Type
  | put _ => PutReply
  | get _ => Except StoreError Source
  | delete _ => Except StoreError Unit
  | contains _ => Except StoreError Bool
  | rename _ _ => Except StoreError Unit

/-- The call that puts a stream under a key. -/
def ofStream (key : String) (source : Source) : BlobCall :=
  .put { key, upload := ⟨source, none⟩ }

end BlobCall

/-- Answers a call at once. The token is for a blob that comes in. -/
def BlobStore.answer {β : Type} [BlobStore β] (token : Token) (store : β) :
    (call : BlobCall) → call.Answer × β
  | .put transfer => put store token transfer
  | .get key => (get store key, store)
  | .delete key => delete store key
  | .contains key => (contains store key, store)
  | .rename source target => rename store source target

/-- Renaming where a store has no way of its own: the blob is read, put under its new key, and
deleted under the old one. -/
def renameByCopy (source target : String) :
    Program BlobCall BlobCall.Answer (Except StoreError Unit) :=
  .ask (.get source) fun
    | .error error => .done (.error error)
    | .ok stream =>
      .ask (.ofStream target stream) fun reply =>
        match reply.size with
        | .error error => .done (.error error)
        | .ok _ => .ask (.delete source) .done

end AssetCache
