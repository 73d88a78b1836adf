import AssetCache.Duration
import AssetCache.Error

/-!
# Events

What the library reports on its way, besides the results of operations: that something was done,
or that something went wrong which no result tells.
-/

namespace AssetCache

/-- How much an event matters. -/
inductive Level where
  | info
  | warn
deriving DecidableEq, Repr

/-- The name of a level. -/
def Level.name : Level → String
  | .info => "INFO"
  | .warn => "WARN"

/-- Something that is reported. -/
inductive Event where
  | databaseOpened
  | sinkFailed
  | sizeMismatch
  | contentStored
  | stagingKept
  | readBackFailed
  | orphanKept
  | orphanUnknown
  | discardFailed
  | contentRemoved
  | blobGone
  | blobKept
  | releaseFailed
  | producerFailed
  | producerPanicked
  | callPanicked
  | reaperStarted (interval : Duration)
  | evicted (count : Nat)
  | sweepFailed (message : Option String)
deriving DecidableEq

namespace Event

/-- How much an event matters. -/
def level : Event → Level
  | databaseOpened | contentStored | contentRemoved | reaperStarted _ | evicted _ => .info
  | _ => .warn

/-- The text of an event. -/
def text : Event → String
  | databaseOpened => "Opened SQLite descriptor store"
  | sinkFailed => "sink failed while ingesting"
  | sizeMismatch => "sink reported a different size"
  | contentStored => "Content stored"
  | stagingKept => "Failed to drop redundant staging blob"
  | readBackFailed => "Failed to read back deduplicated descriptor"
  | orphanKept => "Failed to discard orphaned content blob"
  | orphanUnknown => "Kept content blob; descriptor state unknown"
  | discardFailed => "Failed to discard staging blob"
  | contentRemoved => "Content removed"
  | blobGone => "Content blob was already gone"
  | blobKept => "Descriptor removed but content blob delete failed"
  | releaseFailed => "Failed to release expired content"
  | producerFailed => "Forward handle producer failed"
  | producerPanicked => "Forward handle producer panicked"
  | callPanicked => "Deferred forward handle call panicked"
  | reaperStarted interval => "Starting cache reaper with interval: " ++ interval.shown
  | evicted count => "Evicted " ++ toString count ++ " expired cache entries"
  | sweepFailed message => "Error during cache sweep: " ++ message.getD ""

/-- An event as one line. -/
def shown (event : Event) : String :=
  event.level.name ++ " " ++ event.text

end Event

end AssetCache
