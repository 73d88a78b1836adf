import AssetCache.Bench.Act

/-!
# Routines of calls and jobs

How the calls of operations become acts on the bench: each call to a store is registered and treated
as its rule says, and calls to what lies behind a handle are submitted to the handle.
-/

namespace AssetCache.Bench

/-- What lies behind the handle of a rig. -/
inductive Behind where
  | nothing
  | cache
  | descriptors
deriving DecidableEq

/-- What is set up on the bench: the content store, its cache, and the handle. -/
structure Rig where
  cache : ContentCache := {}
  behind : Behind := .nothing

/-! ### Calls to the stores -/

/-- Registers a call, and waits for a permit if its rule says so. -/
def enter (method : Method) (text : String) : Routine Rule := do
  let rule ← act (.arrive method text)
  if let some gate := rule.gate then act (.pass gate)
  return rule

/-- A call under a rule that can only make it fail. -/
def guarded {α : Type} (method : Method) (text : String) (call : Routine (Except StoreError α)) :
    Routine (Except StoreError α) := do
  match (← enter method text).error with
  | some error => return .error error
  | none => call

/-- What a put is answered with in place of its success. -/
def Rule.amend (rule : Rule) (reply : PutReply) : PutReply :=
  match reply.size with
  | .error _ => reply
  | .ok size =>
    { reply with
      size := match rule.after with
        | some error => .error error
        | none => .ok (rule.size.getD size) }

/-- A put under its rule. -/
def Rule.put (rule : Rule) (transfer : Transfer) : Routine PutReply := do
  match rule.error, rule.take with
  | some error, _ => return ⟨.error error, transfer.upload.outcome?⟩
  | none, some limit =>
    return rule.amend (← act (.sip ⟨limit, rule.swallow, transfer.upload, 0, 0⟩))
  | none, none => return rule.amend (← act (.base (.blob (.put transfer))))

/-- A call to the blobs. -/
def blobRoutine : (call : BlobCall) → Routine call.Answer
  | .put transfer => do
    let rule ← enter .blobPut ("blob.put " ++ transfer.key)
    let reply ← rule.put transfer
    if let some inlet := transfer.upload.source.inlet then act (.leave inlet)
    return reply
  | .get key => guarded .blobGet ("blob.get " ++ key) (act (.base (.blob (.get key))))
  | .delete key => guarded .blobDelete ("blob.delete " ++ key) (act (.base (.blob (.delete key))))
  | .contains key =>
    guarded .blobExists ("blob.exists " ++ key) (act (.base (.blob (.contains key))))
  | .rename source target =>
    guarded .blobRename ("blob.rename " ++ source ++ " -> " ++ target)
      (act (.base (.blob (.rename source target))))

/-- A call to the descriptors. -/
def descriptorRoutine : (call : DescriptorCall) → Routine call.Answer
  | .create id descriptor =>
    guarded .descCreate ("desc.create " ++ id.text)
      (act (.base (.descriptor (.create id descriptor))))
  | .read id =>
    guarded .descRead ("desc.read " ++ id.text) (act (.base (.descriptor (.read id))))
  | .contains id => do
    let rule ← enter .descExists ("desc.exists " ++ id.text)
    match rule.error, rule.value with
    | some error, _ => return .error error
    | none, some value => return .ok value
    | none, none => act (.base (.descriptor (.contains id)))
  | .duplicate id =>
    guarded .descDuplicate ("desc.duplicate " ++ id.text)
      (act (.base (.descriptor (.duplicate id))))
  | .delete id =>
    guarded .descDelete ("desc.delete " ++ id.text) (act (.base (.descriptor (.delete id))))

namespace Rig

/-- A call to the descriptors, through the handle if they lie behind it. -/
def descriptor (rig : Rig) (call : DescriptorCall) : Routine call.Answer :=
  if rig.behind = .descriptors then act (.submit (.descriptor call)) else descriptorRoutine call

/-- A call of an operation. -/
def call (rig : Rig) : (call : Call) → Routine call.Answer
  | .blob call => blobRoutine call
  | .descriptor call => rig.descriptor call
  | .clock => act (.base .clock)
  | .token => act (.base .token)
  | .report event => act (.base (.report event))
  | .slots call => act (.base (.slots call))

/-- An operation on the bench. -/
def perform {α : Type} (rig : Rig) (operation : Operation α) : Routine α :=
  operation.lower rig.call

/-- A drill: it passes its gate, panics if it has to, leaves its label, and then fails, calls the
next drill through the handle, or answers with its label. -/
def drill (drill : Drill) (inner : List Drill) : Routine (Except StoreError String) := do
  if let some gate := drill.gate then act (.pass gate)
  if drill.panics then
    let fault ← act .panic
    nomatch fault
  act (.append drill.label)
  match drill.error, inner with
  | some error, _ => return .error error
  | none, next :: rest => act (.submit (.drill next rest))
  | none, [] => return .ok drill.label

/-- A job, as it is done by whoever runs it. -/
def job (rig : Rig) : (job : Job) → Routine job.Answer
  | .descriptor call => descriptorRoutine call
  | .content call => rig.perform (rig.cache.answer call)
  | .plain call => act (.plain call)
  | .drill first inner => drill first inner
  | .obtain => return .ok ()

/-- A job, through the handle if it concerns the cache and the cache lies behind the handle. -/
def request (rig : Rig) (job : Job) : Routine job.Answer :=
  if rig.behind = .cache then act (.submit job) else rig.job job

end Rig

end AssetCache.Bench
