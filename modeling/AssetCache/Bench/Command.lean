import AssetCache.Bench.Rig
import AssetCache.Record.Shown

/-!
# Commands

What a task on the bench can be told to do, and what it answers.
-/

namespace AssetCache.Bench

/-- What a task has come to. -/
inductive TaskResult where
  | success
  | truth (value : Bool)
  | stored (content : StoredContent)
  | opened (descriptor : Descriptor) (data : Bytes) (shown : Option String)
  | owners (count : Nat)
  | released (outcome : DeleteOutcome)
  | removed (count : Nat)
  | size (bytes : Nat)
  | data (bytes : Bytes)
  | descriptor (descriptor : Descriptor)
  | attributes (attributes : Attributes)
  | text (text : String)
  | label (label : String)
  | length (length : Nat)
  | miss
  | value (value : String)
  | failure (error : StoreError)
  | panicked
  | aborted

namespace TaskResult

/-- What a task answers with what it has come to, or its failure. -/
def ofResult {α : Type} (wrap : α → TaskResult) : Except StoreError α → TaskResult
  | .ok result => wrap result
  | .error error => .failure error

/-- The bytes of a stream that was opened. -/
def ofStream (wrap : Bytes → TaskResult) (stream : Source) : TaskResult :=
  match stream.collect with
  | .ok bytes => wrap bytes
  | .error error => .failure (.io error)

/-- Open content with its bytes, and how it is shown if a name for it is given. -/
def ofOpened (name : Option String) (content : OpenedContent) : TaskResult :=
  ofStream (.opened content.descriptor · (name.map content.descriptor.shownOpen)) content.stream

/-- What a look-up in the content cache finds. -/
def ofHit (name : Option String) : Option OpenedContent → TaskResult
  | none => .miss
  | some content => ofOpened name content

/-- What a look-up in the plain cache finds. -/
def ofValue : Option String → TaskResult
  | none => .miss
  | some found => .value found

end TaskResult

/-- What is put into a cache: a stream into the content cache, a value into the plain one. -/
structure Payload where
  source : Source
  value : String

/-- What a task is told to do. `isShown` asks how open content is shown. -/
inductive Command where
  | create (source : Source)
  | read (id : ContentId) (isShown : Bool)
  | contains (id : ContentId)
  | duplicate (id : ContentId)
  | delete (id : ContentId)
  | objectKey (id : ContentId)
  | ingest (key : String) (source : Source)
  | put (key : String) (payload : Payload) (expires : Option Instant)
  | putFor (key : String) (payload : Payload) (ttl : Duration)
  | putDefault (key : String) (source : Source)
  | get (key : String) (isShown : Bool)
  | invalidate (key : String)
  | invalidateAll (keys : List String)
  | cleanUp
  | blob (call : BlobCall)
  | descriptor (call : DescriptorCall)
  | drill (drill : Drill) (inner : List Drill)
  | count

namespace Command

/-- The stream that a command brings. -/
def source? : Command → Option Source
  | create source | ingest _ source | putDefault _ source => some source
  | put _ payload _ | putFor _ payload _ => some payload.source
  | blob (.put transfer) => some transfer.upload.source
  | _ => none

/-- The answer to a call to the blobs. -/
def ofBlob : (call : BlobCall) → call.Answer → TaskResult
  | .put _, reply => .ofResult .size reply.size
  | .get _, result => match result with
    | .ok stream => .ofStream .data stream
    | .error error => .failure error
  | .delete _, result => .ofResult (fun _ => .success) result
  | .contains _, result => .ofResult .truth result
  | .rename _ _, result => .ofResult (fun _ => .success) result

/-- The answer to a call to the descriptors. -/
def ofDescriptor : (call : DescriptorCall) → call.Answer → TaskResult
  | .create _ _, result => .ofResult .owners result
  | .read _, result => .ofResult .descriptor result
  | .contains _, result => .ofResult .truth result
  | .duplicate _, result => .ofResult .owners result
  | .delete _, result => .ofResult .released result

/-- Puts something into the cache that is in use. -/
def putRoutine (rig : Rig) (isPlain : Bool) (key : String) (payload : Payload)
    (expires : Option Instant) : Routine (Except StoreError Unit) :=
  if isPlain then rig.request (.plain (.put key payload.value expires))
  else rig.request (.content (.put key payload.source expires))

/-- The routine of a command; `isPlain` says which cache is in use. -/
def routine (rig : Rig) (isPlain : Bool) : Command → Routine TaskResult
  | create source => do
    return .ofResult .stored (← rig.perform (rig.cache.store.create source))
  | read id isShown => do
    match ← rig.perform (rig.cache.store.read id) with
    | .ok content => return .ofOpened (if isShown then some "OpenedContent" else none) content
    | .error error => return .failure error
  | contains id => do return .ofResult .truth (← rig.perform (ContentStore.contains id))
  | duplicate id => do return .ofResult .owners (← rig.perform (ContentStore.duplicate id))
  | delete id => do
    return .ofResult .released (← rig.perform (rig.cache.store.delete id))
  | objectKey id => return .text (rig.cache.store.layout.objectKey id)
  | ingest key source => do
    return .ofResult .attributes
      (← rig.perform (AssetCache.ingest rig.cache.store.limits key source))
  | put key payload expires => do
    return .ofResult (fun _ => .success) (← putRoutine rig isPlain key payload expires)
  | putFor key payload ttl => do
    match Instant.expiry (← act (.base .clock)) ttl with
    | .error error => return .failure error
    | .ok expires =>
      return .ofResult (fun _ => .success) (← putRoutine rig isPlain key payload (some expires))
  | putDefault key source => do
    return .ofResult (fun _ => .success) (← rig.perform (rig.cache.putDefault key source))
  | get key isShown => do
    if isPlain then return .ofResult .ofValue (← rig.request (.plain (.get key)))
    else
      let name := if isShown then some "CachedContent" else none
      return .ofResult (.ofHit name) (← rig.request (.content (.get key)))
  | invalidate key => do
    let job : Routine (Except StoreError Unit) :=
      if isPlain then rig.request (.plain (.invalidate key))
      else rig.request (.content (.invalidate key))
    return .ofResult (fun _ => .success) (← job)
  | invalidateAll keys => do
    let job : Routine (Except StoreError Unit) :=
      if isPlain then rig.request (.plain (.invalidateAll keys))
      else rig.request (.content (.invalidateAll keys))
    return .ofResult (fun _ => .success) (← job)
  | cleanUp => do
    let job : Routine (Except StoreError Nat) :=
      if isPlain then rig.request (.plain .cleanUp) else rig.request (.content .cleanUp)
    return .ofResult .removed (← job)
  | blob call => do return ofBlob call (← blobRoutine call)
  | descriptor call => do return ofDescriptor call (← rig.descriptor call)
  | drill first inner => do
    return .ofResult .label (← act (.submit (.drill first inner)))
  | count => do
    match ← act (.submit .obtain) with
    | .error error => return .failure error
    | .ok () => return .length (← act .count)

end Command

end AssetCache.Bench
