import AssetCache.Event

/-!
# The reaper

A reaper sweeps a cache at regular intervals, the first time at once. A sweep that comes late does
not make the next ones come sooner: beyond a short grace they are put off.
-/

namespace AssetCache

/-- When a reaper sweeps next, in nanoseconds of a clock that only goes on. -/
structure Ticker where
  period : Nat
  due : Nat
deriving DecidableEq

namespace Ticker

/-- By how much a tick may be late without putting off the next one: five milliseconds. -/
def grace : Nat := 5000000

/-- The ticks from an instant on. -/
def start (period now : Nat) : Ticker :=
  ⟨period, now⟩

/-- When the next tick fires: timers have whole milliseconds, and fire no earlier than asked. -/
def firesAt (ticker : Ticker) : Nat :=
  (ticker.due + 999999) / 1000000 * 1000000

/-- The farthest that a tick can lie ahead: thirty years of three hundred and sixty-five days. -/
def horizon : Nat := 946080000000000000

/-- The ticks after one that has fired. -/
def next (ticker : Ticker) (now : Nat) : Ticker :=
  let due := (if ticker.due + grace < now then now else ticker.due) + ticker.period
  { ticker with due := min due (now + horizon) }

end Ticker

/-- What a reaper reports of a sweep. -/
def Event.ofSweep? : Except StoreError Nat → Option Event
  | .ok 0 => none
  | .ok count => some (.evicted count)
  | .error error => some (.sweepFailed error.message)

end AssetCache
