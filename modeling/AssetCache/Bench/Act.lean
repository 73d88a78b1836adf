import AssetCache.Bench.Rule
import AssetCache.Cache.Content

/-!
# Acts on the bench

A routine is what one task on the bench does: a program of acts. Besides the calls of operations
there are acts for what the bench adds to them: rules and gates, sinks that take only part of a
stream, handles that defer a job, and faults that end a task.
-/

namespace AssetCache.Bench

/-- A call on a handle that tests its order: what it waits for, what it leaves in the list, and how
it ends. -/
structure Drill where
  label : String
  gate : Option String := none
  panics : Bool := false
  error : Option StoreError := none

/-- What can be submitted to a handle. -/
inductive Job where
  | descriptor (call : DescriptorCall)
  | content (call : CacheCall Source)
  | plain (call : CacheCall String)
  /-- A drill, and the drills that are called in turn on the same handle from within. -/
  | drill (drill : Drill) (inner : List Drill)
  /-- Asks for the instance behind the handle. -/
  | obtain

namespace Job

/-- What a job comes to when it succeeds. -/
abbrev Value : Job → Type
  | descriptor call => call.Value
  | content call => call.Value OpenedContent
  | plain call => call.Value String
  | drill _ _ => String
  | obtain => Unit

/-- What a job is answered with. -/
abbrev Answer (job : Job) : Type :=
  Except StoreError job.Value

end Job

/-- A sink that takes a number of chunks from a stream. -/
structure Sip where
  limit : Nat
  swallow : Bool
  upload : Upload
  taken : Nat := 0
  size : Nat := 0

/-- What a task does next. -/
inductive Act where
  /-- Makes a call of an operation. -/
  | base (call : Call)
  /-- Registers a call to a store, which is answered with the rule for it. -/
  | arrive (method : Method) (text : String)
  /-- Waits for a permit of a gate, and uses it up. -/
  | pass (gate : String)
  /-- Takes chunks from a stream. -/
  | sip (sip : Sip)
  /-- Lets go of the stream that comes in under a name. -/
  | leave (inlet : String)
  /-- Makes a call to the plain cache. -/
  | plain (call : CacheCall String)
  /-- Submits a job to the handle and waits for its answer. -/
  | submit (job : Job)
  /-- Adds a label to the list. -/
  | append (label : String)
  /-- Asks for the length of the list. -/
  | count
  /-- Ends the task in a fault. -/
  | panic

/-- What an act is answered with. -/
abbrev Act.Answer : Act → Type
  | base call => call.Answer
  | arrive _ _ => Rule
  | pass _ => Unit
  | sip _ => PutReply
  | leave _ => Unit
  | plain call => call.Answer String
  | submit job => job.Answer
  | append _ => Unit
  | count => Nat
  | panic => Empty

/-- A program of acts. -/
abbrev Routine (α : Type) := Program Act Act.Answer α

/-- The routine of one act. -/
def act (act : Act) : Routine act.Answer :=
  .ask act .done

end AssetCache.Bench
