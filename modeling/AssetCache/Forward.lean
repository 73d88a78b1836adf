import AssetCache.Error

/-!
# Handles to instances under construction

A handle stands in for an instance that a producer is still building. Operations that are submitted
meanwhile are queued; when the instance is there they are run one at a time in the order of their
submission, and only when none is left do operations go to the instance directly. If the producer
fails, every operation is refused with its failure.
-/

namespace AssetCache

/-- How far a handle has come. -/
inductive Stage (τ : Type) where
  /-- The producer is still running. -/
  | producing
  /-- The producer has ended, and the queue is being emptied. -/
  | draining (product : Except StoreError τ)
  /-- The queue was empty once. -/
  | settled (product : Except StoreError τ)

/-- A handle to an instance, with the operations that wait for it. -/
structure Forward (τ ω : Type) where
  stage : Stage τ
  queue : List ω := []
  /-- Whether one of the queued operations is under way. -/
  isBusy : Bool := false

/-- What a handle shows of itself. -/
inductive HandleState where
  | pending
  | resolved
  | failed
deriving DecidableEq, Repr

/-- The name of what a handle shows. -/
def HandleState.name : HandleState → String
  | .pending => "Pending"
  | .resolved => "Resolved"
  | .failed => "Failed"

/-- What is to be done with an operation that was submitted. -/
inductive Admission (τ : Type) where
  /-- It is queued. -/
  | deferred
  /-- It is run on the instance. -/
  | direct (target : τ)
  /-- It fails. -/
  | refused (error : StoreError)

/-- What is to be done next about the queue. -/
inductive Turn (τ ω : Type) where
  /-- An operation is run on the instance. -/
  | run (operation : ω) (target : τ)
  /-- An operation fails. -/
  | refuse (operation : ω) (error : StoreError)
  /-- Nothing, at present or any more. -/
  | idle

namespace Forward

variable {τ ω : Type}

/-- A handle whose producer is running. -/
def pending : Forward τ ω :=
  ⟨.producing, [], false⟩

/-- A handle to an instance that is there. -/
def ofInstance (product : τ) : Forward τ ω :=
  ⟨.settled (.ok product), [], false⟩

/-- What a handle shows of itself. -/
def state (handle : Forward τ ω) : HandleState :=
  match handle.stage with
  | .settled (.ok _) => .resolved
  | .settled (.error _) => .failed
  | _ => .pending

/-- Submits an operation. -/
def submit (handle : Forward τ ω) (operation : ω) : Admission τ × Forward τ ω :=
  match handle.stage with
  | .settled (.ok product) => (.direct product, handle)
  | .settled (.error error) => (.refused (.producer error), handle)
  | _ => (.deferred, { handle with queue := handle.queue ++ [operation] })

/-- Takes what the producer has come to; only the first product counts. -/
def produce (handle : Forward τ ω) (product : Except StoreError τ) : Forward τ ω :=
  match handle.stage with
  | .producing => { handle with stage := .draining product }
  | _ => handle

/-- Takes the next operation from the queue, unless one is under way. The handle is settled once
the queue is empty. -/
def next (handle : Forward τ ω) : Turn τ ω × Forward τ ω :=
  match handle.stage, handle.isBusy, handle.queue with
  | .draining (.ok product), false, operation :: rest =>
    (.run operation product, { handle with queue := rest, isBusy := true })
  | .draining (.error error), false, operation :: rest =>
    (.refuse operation (.producer error), { handle with queue := rest })
  | .draining product, false, [] => (.idle, { handle with stage := .settled product })
  | _, _, _ => (.idle, handle)

/-- The operation under way has ended. -/
def finish (handle : Forward τ ω) : Forward τ ω :=
  { handle with isBusy := false }

/-- What the caller of a queued operation gets that ended without a result. -/
def interrupted : StoreError :=
  .io (.withText .interrupted "forward handle call ended without a result")

/-- What a producer that panics is taken to fail with. -/
def panicked : StoreError :=
  .invalid "forward handle producer panicked"

end Forward

end AssetCache
