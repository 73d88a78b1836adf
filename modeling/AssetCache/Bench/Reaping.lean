import AssetCache.Cache.Plain
import AssetCache.Cache.Reaper
import AssetCache.Settings.Limits

/-!
# Reaping on the bench

A reaper at work on a plain cache under a clock that is moved on by hand. Single sweeps may be
planned to take their time or to fail; all sweeps are recorded.
-/

namespace AssetCache.Bench

/-- What is planned for a sweep. -/
structure SweepPlan where
  /-- How long the sweep takes, in milliseconds. -/
  takes : Nat := 0
  /-- What the sweep fails with, in place of being made. -/
  error : Option StoreError := none

/-- A sweep: when it began, and what it came to if it has ended. -/
structure Sweep where
  start : Nat
  result : Option (Except StoreError Nat)

/-- What the reaper does. -/
inductive ReaperState where
  | unborn
  /-- It waits for the next tick. -/
  | waiting (ticker : Ticker)
  /-- It is in the middle of a sweep, which ends at an instant. -/
  | sweeping (ticker : Ticker) (number : Nat) (ends : Nat)
  | aborted
  | panicked

/-- The bench of a reaper. The clock counts nanoseconds. -/
structure Reaping where
  interval : Duration
  plan : Table Nat SweepPlan := ∅
  cache : PlainCache String := ∅
  now : Nat := 0
  /-- The reading of the clock that entries expire by. -/
  today : Instant
  sweeps : List Sweep := []
  reaper : ReaperState := .unborn
  events : List Event := []

namespace Reaping

/-- Begins a sweep; answers its number and when it ends. -/
def beginSweep (bench : Reaping) : Nat × Nat × Reaping :=
  let number := bench.sweeps.length
  let plan := (bench.plan.get? number).getD {}
  (number, bench.now + plan.takes * 1000000,
   { bench with sweeps := bench.sweeps ++ [⟨bench.now, none⟩] })

/-- Ends a sweep. -/
def endSweep (bench : Reaping) (number : Nat) : Except StoreError Nat × Reaping :=
  let (result, cache) := match ((bench.plan.get? number).getD {}).error with
    | some error => (Except.error error, bench.cache)
    | none =>
      let (removed, cache) := bench.cache.cleanUp bench.today
      (Except.ok removed, cache)
  (result,
   { bench with
     cache, sweeps := bench.sweeps.modify number fun sweep => { sweep with result := some result } })

/-- The reaper makes a sweep, and is done with it at once if it takes no time. -/
def sweepNow (bench : Reaping) (ticker : Ticker) : Reaping :=
  let (number, ends, bench) := bench.beginSweep
  { bench with reaper := .sweeping ticker number ends }

/-- When the reaper acts next. -/
def nextAt? (bench : Reaping) : Option Nat :=
  match bench.reaper with
  | .waiting ticker => some (max bench.now ticker.firesAt)
  | .sweeping _ _ ends => some ends
  | _ => none

/-- What the reaper does when its time has come. -/
def actNow (bench : Reaping) : Reaping :=
  match bench.reaper with
  | .waiting ticker => bench.sweepNow (ticker.next bench.now)
  | .sweeping ticker number _ =>
    let (result, bench) := bench.endSweep number
    { bench with
      reaper := .waiting ticker, events := bench.events ++ (Event.ofSweep? result).toList }
  | _ => bench

/-- Moves the clock on to an instant, through all that happens on the way; the fuel bounds the
number of things that happen. -/
def advanceTo (target : Nat) : Nat → Reaping → Reaping
  | 0, bench => { bench with now := target }
  | fuel + 1, bench =>
    match bench.nextAt? with
    | none => { bench with now := target }
    | some instant =>
      if instant ≤ target then advanceTo target fuel { bench with now := instant }.actNow
      else { bench with now := target }

/-- Moves the clock on by a span. -/
def advance (bench : Reaping) (nanos : Nat) : Reaping :=
  let ticks := (nanos + 6000000) / max 1 (min bench.interval.toNanos Ticker.horizon)
  bench.advanceTo (bench.now + nanos) (2 * ticks + 8)

/-- Starts the reaper. Without an interval it cannot run. -/
def spawn (bench : Reaping) : Reaping :=
  if bench.interval.isZero then { bench with reaper := .panicked }
  else
    let started : Reaping :=
      { bench with
        reaper := .waiting (.start bench.interval.toNanos bench.now)
        events := bench.events ++ [.reaperStarted bench.interval] }
    started.advance 0

/-- Cancels the reaper. -/
def abort (bench : Reaping) : Reaping :=
  match bench.reaper with
  | .waiting _ | .sweeping _ _ _ => { bench with reaper := .aborted }
  | _ => bench

/-- Makes one sweep without the reaper, however long it takes. -/
def sweepOnce (bench : Reaping) : Except StoreError Nat × Reaping :=
  let (number, ends, bench) := bench.beginSweep
  { bench with now := ends }.endSweep number

/-- Whether the reaper is running, once it was started. -/
def isRunning? (bench : Reaping) : Option Bool :=
  match bench.reaper with
  | .unborn => none
  | .waiting _ | .sweeping _ _ _ => some true
  | .aborted | .panicked => some false

/-- Whether the reaper was ever started. -/
def isSpawned (bench : Reaping) : Bool :=
  bench.isRunning?.isSome

end Reaping

/-- What is done on the bench of a reaper. -/
inductive ReapingStep where
  | spawn
  | put (key : String) (value : String) (expires : Option Instant)
  | get (key : String)
  | invalidateAll (keys : List String)
  | sweep
  | advance (millis : Nat)
  | abort

/-- What a step answers. -/
inductive ReapingAnswer where
  | nothing
  | success
  | value (value : Option String)
  | swept (result : Except StoreError Nat)
  /-- The reaper is at work already. -/
  | spawned

namespace Reaping

/-- Takes a step. -/
def take (bench : Reaping) : ReapingStep → ReapingAnswer × Reaping
  | .spawn => if bench.isSpawned then (.spawned, bench) else (.nothing, bench.spawn)
  | .put key value expires => (.success, { bench with cache := bench.cache.put key value expires })
  | .get key =>
    let (hit, cache) := bench.cache.get bench.today key
    (.value hit, { bench with cache })
  | .invalidateAll keys => (.success, { bench with cache := bench.cache.invalidateAll keys })
  | .sweep =>
    if bench.isSpawned then (.spawned, bench)
    else
      let (result, bench) := bench.sweepOnce
      (.swept result, bench)
  | .advance millis => (.nothing, bench.advance (millis * 1000000))
  | .abort => (.nothing, bench.abort)

/-- Takes steps one after the other; answers each with the state after it. The events are those
since the step before. -/
def play (bench : Reaping) : List ReapingStep → List (ReapingAnswer × Reaping) × Reaping
  | [] => ([], bench)
  | step :: rest =>
    let (answer, after) := { bench with events := [] }.take step
    let (answers, last) := after.play rest
    ((answer, after) :: answers, last)

end Reaping

end AssetCache.Bench
