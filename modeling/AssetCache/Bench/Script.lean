import AssetCache.Bench.Lab

/-!
# Scripts

A script is a list of steps that are taken on the bench one after the other. A step starts a task or
acts on the tasks from outside; then all tasks go on until each of them waits, and what has happened
is reported. A quick step is followed by the next one at once.
-/

namespace AssetCache.Bench

/-- What a step does. -/
inductive Deed where
  | start (command : Command)
  | feed (name : String) (item : Item)
  | close (name : String)
  | openGate (name : String) (permits : Nat)
  | abort (index : Nat)
  | release (ending : Ending)
  | contentId (key : String)
  | sleep (millis : Nat)
  /-- Closes the connections of the descriptors. -/
  | disconnect
  /-- Does nothing. -/
  | look

/-- The number of items and keys that a step brings. -/
def Deed.size : Deed → Nat
  | .start (.invalidateAll keys) => keys.length
  | .start (.drill _ inner) => inner.length
  | .start command => (command.source?.map (·.items.length)).getD 0
  | _ => 1

/-- A step of a script. -/
structure ScriptStep where
  deed : Deed
  isQuick : Bool := false

/-- What a step from outside found. -/
inductive Note where
  | truth (value : Bool)
  | text (value : String)

/-- What has happened since the report before, and how things stand. -/
structure Report where
  /-- What steps have come to, in the order of their numbers. -/
  finished : List (Nat × TaskResult)
  note : Option Note
  trace : List String
  events : List Event
  blobs : List String
  /-- The identities in memory with the numbers of their owners, in order. -/
  owners : Option (List (String × Nat))
  cached : Nat
  handle : HandleState
  labels : List String

namespace Lab

/-- Takes a step, as the one of a number. -/
def take (lab : Lab) (index : Nat) : Deed → Option Note × Lab
  | .start command => (none, lab.start index command)
  | .feed name item =>
    let (accepted, lab) := lab.feed name item
    (some (.truth accepted), lab)
  | .close name =>
    let (closed, lab) := lab.close name
    (some (.truth closed), lab)
  | .openGate name permits => (none, lab.openGate name permits)
  | .abort other => (none, lab.abort other)
  | .release ending =>
    let (released, lab) := lab.release ending
    (some (.truth released), lab)
  | .contentId key => ((lab.depot.slots.contentId? key).map fun id => .text id.text, lab)
  | .sleep millis => (none, { lab with depot := lab.depot.pass (millis * 1000000) })
  | .disconnect =>
    (none, { lab with depot := { lab.depot with descriptors := lab.depot.descriptors.close } })
  | .look => (none, lab)

/-- The identities that are held in memory, with the numbers of their owners. -/
def owners (lab : Lab) : Option (List (String × Nat)) :=
  match lab.depot.descriptors with
  | .memory store =>
    let owners := store.entries.map fun entry => (entry.1.text, entry.2.owners)
    some (owners.mergeSort fun a b => a.1 ≤ b.1)
  | .database _ => none

/-- Reports what has happened, and forgets it. -/
def reportAll (lab : Lab) (note : Option Note) : Report × Lab :=
  ({ finished := lab.finished.mergeSort fun a b => a.1 ≤ b.1
     note
     trace := lab.trace
     events := lab.depot.events
     blobs := lab.depot.blobs.listing
     owners := lab.owners
     cached := lab.cache.size
     handle := lab.handle.state
     labels := lab.labels },
   { lab with finished := [], trace := [], depot := { lab.depot with events := [] } })

/-- Takes the steps of a script; the fuel bounds the acts after one step. -/
def playFrom (fuel : Nat) (lab : Lab) (index : Nat) : List ScriptStep → List Report × Lab
  | [] => ([], lab)
  | step :: rest =>
    let (note, lab) := lab.take index step.deed
    if step.isQuick then playFrom fuel lab (index + 1) rest
    else
      let (report, lab) := (lab.settle fuel).reportAll note
      let (reports, lab) := playFrom fuel lab (index + 1) rest
      (report :: reports, lab)

/-- More acts than any script of these steps can lead to. -/
def enough (steps : List ScriptStep) : Nat :=
  let size := steps.foldl (fun size step => size + 1 + step.deed.size) 0
  64 * (size + 4) * (size + 4)

/-- Takes all steps of a script. -/
def play (lab : Lab) (steps : List ScriptStep) : List Report × Lab :=
  let lab := if lab.rig.behind = .nothing then lab else lab.back (.drain none)
  lab.playFrom (enough steps) 0 steps

/-- The numbers of the steps whose tasks have not ended. -/
def pending (lab : Lab) : List Nat :=
  let index? : Task → Option Nat
    | .step index _ => some index
    | .drain _ => none
  (lab.ready.filterMap (index? ·.task) ++ lab.waiting.filterMap (index? ·.2)).mergeSort (· ≤ ·)

end Lab

end AssetCache.Bench
