import AssetCache.Bench.Command
import AssetCache.Blob.Backend
import AssetCache.Cache.Plain
import AssetCache.Depot
import AssetCache.Descriptor.Registry
import AssetCache.Forward

/-!
# The laboratory

Tasks run on one thread, each until it has to wait, in the order in which they became ready. What a
task can wait for is a permit of a gate, an item of a feed, the answer to a queued job, or, for the
task that empties the queue of the handle, the end of the producer.
-/

namespace AssetCache.Bench

/-- A stream whose items are sent in while its reader is at work. -/
structure Feed where
  /-- The number of the step that reads the stream. -/
  reader : Nat
  items : List Item := []
  isOpen : Bool := true
  /-- Whether the stream is still held by somebody. -/
  isRead : Bool := true

/-- What a task waits for. -/
inductive Reason where
  | gate (name : String)
  | feed (name : String)
  | answer
  | producer
deriving DecidableEq

/-- A job in the queue of the handle. -/
structure Deferred where
  /-- The number of the step that waits for the answer. -/
  caller : Nat
  /-- The job; it comes to the rest of the routine that submitted it. -/
  routine : Routine (Routine TaskResult)
  /-- The rest of that routine, if the job fails without having been run to its end. -/
  onFailure : StoreError → Routine TaskResult

/-- A task. -/
inductive Task where
  /-- The task of a step. -/
  | step (index : Nat) (routine : Routine TaskResult)
  /-- The task that empties the queue of the handle, with the job that it is about. -/
  | drain (current : Option (Deferred × Routine (Routine TaskResult)))

/-- Whether a task is that of a step. -/
def Task.isStep (task : Task) (index : Nat) : Bool :=
  match task with
  | .step other _ => other = index
  | .drain _ => false

/-- A task that can go on. -/
structure Ready where
  task : Task
  /-- Whether a permit of the gate that it waited for is set aside for it. -/
  isGranted : Bool := false

/-- How the producer of a handle ends. -/
inductive Ending where
  | success
  | failure (error : StoreError)
  | panic

/-- All that the tasks work on, and the tasks themselves. -/
structure Lab where
  rig : Rig
  /-- Whether the cache in use is the plain one. -/
  isPlain : Bool := false
  rules : Rules := ∅
  depot : Depot AnyBlobs AnyDescriptors
  cache : PlainCache String := ∅
  labels : List String := []
  handle : Forward Unit Deferred := .pending
  /-- How the producer ended, if it did. -/
  ending : Option Ending := none
  counts : Table Method Nat := ∅
  trace : List String := []
  gates : Table String Nat := ∅
  feeds : Table String Feed := ∅
  /-- The number of chunks that sinks took. -/
  pulled : Nat := 0
  ready : List Ready := []
  waiting : List (Reason × Task) := []
  /-- What steps have come to since the last report. -/
  finished : List (Nat × TaskResult) := []

namespace Lab

/-! ### Acts -/

/-- What comes of one act of a routine. -/
inductive Step (ρ : Type) where
  | ended (result : ρ)
  | moved (routine : Routine ρ)
  /-- The routine makes way for other tasks. -/
  | paused (routine : Routine ρ)
  | blocked (reason : Reason)
  | panicked
  | submitted (job : Job) (next : job.Answer → Routine ρ)

/-- The stream with the items that have come in for it. -/
def refill (lab : Lab) (source : Source) : Source × Lab :=
  match source.inlet with
  | none => (source, lab)
  | some name =>
    match lab.feeds.get? name with
    | none => (source, lab)
    | some feed =>
      (⟨source.items ++ feed.items, if feed.isOpen then some name else none⟩,
       { lab with feeds := lab.feeds.insert name { feed with items := [] } })

/-- Makes a call of an operation. -/
def call {ρ : Type} (lab : Lab) (call : Call) (next : call.Answer → Routine ρ) : Step ρ × Lab :=
  match lab.depot.attempt call with
  | .answered reply depot => (.moved (next reply), { lab with depot })
  | .ongoing rest reply depot =>
    (.moved (.ask (.base rest) fun answer => next (reply answer)), { lab with depot })
  | .blocked => (.blocked .answer, lab)

/-- One step of a put. -/
def put {ρ : Type} (lab : Lab) (transfer : Transfer) (next : PutReply → Routine ρ) :
    Step ρ × Lab :=
  let (source, lab) := lab.refill transfer.upload.source
  let transfer := { transfer with upload := { transfer.upload with source } }
  match source.inlet, transfer.isWaiting && transfer.token.isSome with
  | some name, true => (.blocked (.feed name), lab)
  | _, _ =>
    match lab.call (.blob (.put transfer)) next with
    | (.moved routine, lab) => (if transfer.isPaused then .paused routine else .moved routine, lab)
    | other => other

/-- One step of a sink that takes chunks. -/
def sip {ρ : Type} (lab : Lab) (sip : Sip) (next : PutReply → Routine ρ) : Step ρ × Lab :=
  if sip.limit ≤ sip.taken then
    (.moved (next ⟨.ok sip.size, sip.upload.outcome?⟩), lab)
  else
    let (source, lab) := lab.refill sip.upload.source
    let upload := { sip.upload with source }
    match source.inlet, !upload.isDone && source.items.isEmpty with
    | some name, true => (.blocked (.feed name), lab)
    | _, _ =>
      match upload.poll with
      | (.chunk bytes, upload) =>
        let sip := { sip with upload, taken := sip.taken + 1, size := sip.size + bytes.length }
        (.moved (.ask (.sip sip) next), { lab with pulled := lab.pulled + 1 })
      | (.notReady, upload) => (.paused (.ask (.sip { sip with upload }) next), lab)
      | (.error error, upload) =>
        if sip.swallow then (.moved (.ask (.sip { sip with upload }) next), lab)
        else (.moved (next ⟨.error (.io error), upload.outcome?⟩), lab)
      | (.ended, upload) => (.moved (next ⟨.ok sip.size, upload.outcome?⟩), lab)

/-- Registers a call to a store, and finds the rule for it. -/
def arrive (lab : Lab) (method : Method) (text : String) : Rule × Lab :=
  let number := (lab.counts.get? method).getD 0 + 1
  (lab.rules.find method number,
   { lab with counts := lab.counts.insert method number, trace := lab.trace ++ [text] })

/-- Marks a stream as one that nobody holds any more. -/
def leave (lab : Lab) (name : String) : Lab :=
  match lab.feeds.get? name with
  | none => lab
  | some feed => { lab with feeds := lab.feeds.insert name { feed with isRead := false } }

/-- Carries out the next act of a routine. -/
def act {ρ : Type} (lab : Lab) (isGranted : Bool) : Routine ρ → Step ρ × Lab
  | .done result => (.ended result, lab)
  | .ask (.base (.blob (.put transfer))) next => lab.put transfer next
  | .ask (.base call) next => lab.call call next
  | .ask (.arrive method text) next =>
    let (rule, lab) := lab.arrive method text
    (.moved (next rule), lab)
  | .ask (.pass gate) next =>
    if isGranted then (.moved (next ()), lab)
    else
      match (lab.gates.get? gate).getD 0 with
      | 0 => (.blocked (.gate gate), lab)
      | permits + 1 => (.moved (next ()), { lab with gates := lab.gates.insert gate permits })
  | .ask (.sip sip) next => lab.sip sip next
  | .ask (.leave inlet) next => (.moved (next ()), lab.leave inlet)
  | .ask (.plain call) next =>
    let (now, depot) := lab.depot.readClock
    let (reply, cache) := lab.cache.answer now call
    (.moved (next reply), { lab with depot, cache })
  | .ask (.submit job) next => (.submitted job next, lab)
  | .ask (.append label) next => (.moved (next ()), { lab with labels := lab.labels ++ [label] })
  | .ask .count next => (.moved (next lab.labels.length), lab)
  | .ask .panic _ => (.panicked, lab)

/-! ### Tasks -/

/-- Lets a task go on before all others. -/
def front (lab : Lab) (task : Task) : Lab :=
  { lab with ready := ⟨task, false⟩ :: lab.ready }

/-- Lets a task go on after all others. -/
def back (lab : Lab) (task : Task) : Lab :=
  { lab with ready := lab.ready ++ [⟨task, false⟩] }

/-- Makes a task wait. -/
def wait (lab : Lab) (reason : Reason) (task : Task) : Lab :=
  { lab with waiting := lab.waiting ++ [(reason, task)] }

/-- Marks the streams that a step reads as ones that nobody holds any more. -/
def leaveAll (lab : Lab) (index : Nat) : Lab :=
  { lab with
    feeds := lab.feeds.map fun _ feed =>
      if feed.reader = index then { feed with isRead := false } else feed }

/-- Takes note of what a step has come to. -/
def finish (lab : Lab) (index : Nat) (outcome : TaskResult) : Lab :=
  { lab with finished := lab.finished ++ [(index, outcome)] }.leaveAll index

/-- Hands the answer to a queued job over to the step that waits for it, if it still does. -/
def deliver (lab : Lab) (caller : Nat) (rest : Routine TaskResult) : Lab :=
  let isCaller (entry : Reason × Task) : Bool :=
    decide (entry.1 = .answer) && entry.2.isStep caller
  if lab.waiting.any isCaller then
    { lab with waiting := lab.waiting.filter fun entry => !isCaller entry }.back (.step caller rest)
  else lab

/-- Submits the job of a step to the handle. -/
def submit (lab : Lab) (index : Nat) (job : Job) (next : job.Answer → Routine TaskResult) : Lab :=
  let deferred : Deferred :=
    ⟨index, (lab.rig.job job).bind fun answer => .done (next answer),
     fun error => next (.error error)⟩
  match lab.handle.submit deferred with
  | (.direct (), handle) =>
    { lab with handle }.front (.step index (deferred.routine.bind fun rest => rest))
  | (.refused error, handle) => { lab with handle }.front (.step index (next (.error error)))
  | (.deferred, handle) => { lab with handle }.wait .answer (.step index (.done .aborted))

/-- One act of the task of a step. -/
def stepTask (lab : Lab) (isGranted : Bool) (index : Nat) (routine : Routine TaskResult) : Lab :=
  match lab.act isGranted routine with
  | (.ended outcome, lab) => lab.finish index outcome
  | (.moved routine, lab) => lab.front (.step index routine)
  | (.paused routine, lab) => lab.back (.step index routine)
  | (.blocked reason, lab) => lab.wait reason (.step index routine)
  | (.panicked, lab) => lab.finish index .panicked
  | (.submitted job next, lab) => lab.submit index job next

/-- Reports an event. -/
def report (lab : Lab) (event : Event) : Lab :=
  { lab with depot := lab.depot.report event }

/-- Takes what the producer has come to. -/
def produce (lab : Lab) : Ending → Lab
  | .success => { lab with handle := lab.handle.produce (.ok ()) }
  | .failure error =>
    { lab with handle := lab.handle.produce (.error error) }.report .producerFailed
  | .panic =>
    { lab with handle := lab.handle.produce (.error Forward.panicked) }.report .producerPanicked

/-- Goes on with the queue of the handle when no job is under way. -/
def nextJob (lab : Lab) : Lab :=
  match lab.handle.stage, lab.ending with
  | .producing, none => lab.wait .producer (.drain none)
  | .producing, some ending => (lab.produce ending).front (.drain none)
  | _, _ =>
    match lab.handle.next with
    | (.run deferred (), handle) =>
      { lab with handle }.front (.drain (some (deferred, deferred.routine)))
    | (.refuse deferred error, handle) =>
      (({ lab with handle }.leaveAll deferred.caller).deliver deferred.caller
        (deferred.onFailure error)).front (.drain none)
    | (.idle, handle) => { lab with handle }

/-- One act of the job that is under way. -/
def jobTask (lab : Lab) (isGranted : Bool) (deferred : Deferred)
    (routine : Routine (Routine TaskResult)) : Lab :=
  let again (routine : Routine (Routine TaskResult)) : Task := .drain (some (deferred, routine))
  let close (lab : Lab) (rest : Routine TaskResult) : Lab :=
    ({ lab with handle := lab.handle.finish }.leaveAll deferred.caller).deliver
      deferred.caller rest |>.front (.drain none)
  match lab.act isGranted routine with
  | (.ended rest, lab) => close lab rest
  | (.moved routine, lab) => lab.front (again routine)
  | (.paused routine, lab) => lab.back (again routine)
  | (.blocked reason, lab) => lab.wait reason (again routine)
  | (.panicked, lab) => close (lab.report .callPanicked) (deferred.onFailure Forward.interrupted)
  | (.submitted _ _, lab) => lab.wait .answer (again routine)

/-- One act of the task that is ready first. -/
def tick (lab : Lab) : Lab :=
  match lab.ready with
  | [] => lab
  | ⟨.step index routine, isGranted⟩ :: rest =>
    { lab with ready := rest }.stepTask isGranted index routine
  | ⟨.drain none, _⟩ :: rest => { lab with ready := rest }.nextJob
  | ⟨.drain (some (deferred, routine)), isGranted⟩ :: rest =>
    { lab with ready := rest }.jobTask isGranted deferred routine

/-- Lets all tasks go on until each of them waits; the fuel bounds the number of acts. -/
def settle : Nat → Lab → Lab
  | 0, lab => lab
  | fuel + 1, lab => if lab.ready.isEmpty then lab else settle fuel lab.tick

/-! ### From outside -/

/-- Starts the task of a step. -/
def start (lab : Lab) (index : Nat) (command : Command) : Lab :=
  let feeds := match command.source?.bind (·.inlet) with
    | some name => lab.feeds.insert name { reader := index }
    | none => lab.feeds
  { lab with feeds }.back (.step index (command.routine lab.rig lab.isPlain))

/-- Lets the tasks go on that wait for something. -/
def wake (lab : Lab) (reason : Reason) : Lab :=
  let (woken, waiting) := lab.waiting.partition fun entry => entry.1 = reason
  { lab with waiting, ready := lab.ready ++ woken.map fun entry => ⟨entry.2, false⟩ }

/-- Sets permits aside for the tasks that have waited longest for them. -/
def grant (lab : Lab) (gate : String) : Nat → List (Reason × Task) → List Ready × Lab
  | permits, [] => ([], { lab with waiting := [], gates := lab.gates.insert gate permits })
  | permits, entry :: rest =>
    match permits, decide (entry.1 = .gate gate) with
    | permits + 1, true =>
      let (granted, lab) := lab.grant gate permits rest
      (⟨entry.2, true⟩ :: granted, lab)
    | permits, _ =>
      let (granted, lab) := lab.grant gate permits rest
      (granted, { lab with waiting := entry :: lab.waiting })

/-- Adds permits to a gate. -/
def openGate (lab : Lab) (gate : String) (permits : Nat) : Lab :=
  let (granted, lab) :=
    lab.grant gate ((lab.gates.get? gate).getD 0 + permits) lab.waiting
  { lab with ready := lab.ready ++ granted }

/-- Sends an item to a stream; whether it was accepted. -/
def feed (lab : Lab) (name : String) (item : Item) : Bool × Lab :=
  match lab.feeds.get? name with
  | none => (false, lab)
  | some feed =>
    if feed.isOpen && feed.isRead then
      (true,
       { lab with
         feeds := lab.feeds.insert name { feed with items := feed.items ++ [item] }
       }.wake (.feed name))
    else (false, lab)

/-- Ends a stream; whether it was open. -/
def close (lab : Lab) (name : String) : Bool × Lab :=
  match lab.feeds.get? name with
  | none => (false, lab)
  | some feed =>
    (feed.isOpen,
     { lab with feeds := lab.feeds.insert name { feed with isOpen := false } }.wake (.feed name))

/-- Ends the producer of the handle; whether it was still running. -/
def release (lab : Lab) (ending : Ending) : Bool × Lab :=
  match lab.handle.stage, lab.ending with
  | .producing, none => (true, { lab with ending := some ending }.wake .producer)
  | _, _ => (false, lab)

/-- Whether the handle still holds a job of a step. -/
def isQueued (lab : Lab) (index : Nat) : Bool :=
  let isOf : Task → Bool
    | .drain (some (deferred, _)) => deferred.caller = index
    | _ => false
  lab.handle.queue.any (·.caller = index) || lab.ready.any (isOf ·.task) ||
    lab.waiting.any (isOf ·.2)

/-- The gate for which a permit was set aside for a step that has not used it. -/
def grantedGate? (lab : Lab) (index : Nat) : Option String :=
  lab.ready.findSome? fun entry =>
    match entry with
    | ⟨.step other (.ask (.pass gate) _), true⟩ => if other = index then some gate else none
    | _ => none

/-- Cancels the task of a step. A job that it has queued stays in the queue. -/
def abort (lab : Lab) (index : Nat) : Lab :=
  if lab.ready.any (·.task.isStep index) || lab.waiting.any (·.2.isStep index) then
    let gate := lab.grantedGate? index
    let lab := { lab with
      ready := lab.ready.filter fun entry => !entry.task.isStep index
      waiting := lab.waiting.filter fun entry => !entry.2.isStep index
      finished := lab.finished ++ [(index, .aborted)] }
    let lab := if lab.isQueued index then lab else lab.leaveAll index
    match gate with
    | some gate => lab.openGate gate 1
    | none => lab
  else lab

end Lab

end AssetCache.Bench
