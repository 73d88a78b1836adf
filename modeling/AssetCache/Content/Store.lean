import AssetCache.Blob.Key
import AssetCache.Content.Ingest

/-!
# The content store

Content is kept once, under its identity, for as long as it has owners. It comes in under a staging
key while it is hashed; then the staged blob becomes the blob of the content, or is dropped if the
content is there already. The descriptors count the owners.
-/

namespace AssetCache

/-- What storing content comes to. -/
structure StoredContent where
  id : ContentId
  /-- The descriptor as it is stored: that of the first owner. -/
  descriptor : Descriptor
  /-- The number of owners. -/
  refcount : Nat
deriving DecidableEq

/-- Content that is open for reading. -/
structure OpenedContent where
  descriptor : Descriptor
  stream : Source
deriving DecidableEq

/-- The limits and the layout of a content store. -/
structure ContentStore where
  limits : IngestLimits := {}
  layout : KeyLayout := .fanned

namespace ContentStore

open Operation

/-- Drops a staged blob that is of no use. -/
def discardStaging (staging : String) : Operation Unit := do
  match ← blob (.delete staging) with
  | .ok () => return
  | .error error =>
    if error.isNotFound then return else report .discardFailed

/-- Drops the blob of content whose descriptor was not stored, unless somebody else has stored the
descriptor meanwhile. -/
def discardOrphan (store : ContentStore) (id : ContentId) : Operation Unit := do
  match ← descriptor (.contains id) with
  | .ok true => return
  | .error _ => report .orphanUnknown
  | .ok false =>
    match ← blob (.delete (store.layout.objectKey id)) with
    | .ok () => return
    | .error error =>
      if error.isNotFound then return else report .orphanKept

/-- Makes a staged blob the blob of its content, and stores the descriptor. -/
def promote (store : ContentStore) (staging : String) (id : ContentId) (record : Descriptor) :
    Operation (Except StoreError StoredContent) := do
  match ← blob (.rename staging (store.layout.objectKey id)) with
  | .error error => return .error error
  | .ok () =>
    match ← descriptor (.create id record) with
    | .ok refcount => return .ok ⟨id, record, refcount⟩
    | .error error =>
      store.discardOrphan id
      return .error error

/-- Goes on after an owner was added to content that is there: the staged blob is dropped, and the
descriptor of the first owner is read. -/
def deduplicate (staging : String) (id : ContentId) (record : Descriptor) (refcount : Nat) :
    Operation StoredContent := do
  if let .error _ ← blob (.delete staging) then report .stagingKept
  match ← descriptor (.read id) with
  | .ok stored => return ⟨id, stored, refcount⟩
  | .error _ =>
    report .readBackFailed
    return ⟨id, record, refcount⟩

/-- Registers an owner of staged content: of the content that is there already, or else of the
staged blob itself. -/
def commit (store : ContentStore) (staging : String) (attributes : Attributes) :
    Operation (Except StoreError StoredContent) := do
  let some id := attributes.id | return .error (.invalid "ingested content has no hash")
  let record := Descriptor.ofAttributes attributes
  match ← descriptor (.contains id) with
  | .error error => return .error error
  | .ok false => store.promote staging id record
  | .ok true =>
    match ← descriptor (.duplicate id) with
    | .ok refcount => return .ok (← deduplicate staging id record refcount)
    | .error error =>
      if error.isNotFound then store.promote staging id record else return .error error

/-- Stores the content of a stream and registers one owner of it. Equal content is stored once. -/
def create (store : ContentStore) (source : Source) :
    Operation (Except StoreError StoredContent) := do
  let staging := store.layout.stagingKey (← token).text
  match ← ingest store.limits staging source with
  | .error error =>
    discardStaging staging
    return .error error
  | .ok attributes =>
    match ← store.commit staging attributes with
    | .ok stored =>
      report .contentStored
      return .ok stored
    | .error error =>
      discardStaging staging
      return .error error

/-- Opens stored content for reading. -/
def read (store : ContentStore) (id : ContentId) :
    Operation (Except StoreError OpenedContent) := do
  match ← descriptor (.read id) with
  | .error error => return .error error
  | .ok record =>
    match ← blob (.get (store.layout.objectKey id)) with
    | .error error => return .error error
    | .ok stream => return .ok ⟨record, stream⟩

/-- Whether content is stored. -/
def contains (id : ContentId) : Operation (Except StoreError Bool) :=
  descriptor (.contains id)

/-- Registers another owner of stored content; answers the number of owners. -/
def duplicate (id : ContentId) : Operation (Except StoreError Nat) :=
  descriptor (.duplicate id)

/-- Takes an owner of content away, and the blob with the last one. A blob that cannot be deleted
is reported and left behind. -/
def delete (store : ContentStore) (id : ContentId) :
    Operation (Except StoreError DeleteOutcome) := do
  match ← descriptor (.delete id) with
  | .error error => return .error error
  | .ok outcome =>
    if outcome.isRemoved then
      match ← blob (.delete (store.layout.objectKey id)) with
      | .ok () => report .contentRemoved
      | .error error => report (if error.isNotFound then .blobGone else .blobKept)
    return .ok outcome

end ContentStore

end AssetCache
