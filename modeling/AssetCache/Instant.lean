import AssetCache.Duration
import AssetCache.Error

/-!
# Instants

Points in time, counted in seconds from the epoch. Within a second the nanoseconds may pass a
thousand million: then they lie in the leap second that follows it.
-/

namespace AssetCache

/-- A point in time. -/
structure Instant where
  secs : Int
  nanos : Nat
deriving DecidableEq, Repr

namespace Instant

/-- Whether an instant comes no later than another. -/
def le (a b : Instant) : Bool :=
  a.secs < b.secs || (a.secs = b.secs && a.nanos ≤ b.nanos)

instance : LE Instant := ⟨fun a b => a.le b⟩

instance (a b : Instant) : Decidable (a ≤ b) :=
  inferInstanceAs (Decidable (a.le b = true))

theorem le_iff {a b : Instant} :
    a ≤ b ↔ a.secs < b.secs ∨ (a.secs = b.secs ∧ a.nanos ≤ b.nanos) := by
  show a.le b = true ↔ _
  simp [le]

/-- The last instant of the calendar, at the end of the year 262142. -/
def last : Instant :=
  ⟨8210266876799, 999999999⟩

/-- The longest span that can be added to an instant: `2 ^ 63 - 1` milliseconds. -/
def longestSpan : Nat :=
  9223372036854775807 * 1000000

/-- The instant that lies a span after another. -/
def shift (start : Instant) (span : Duration) : Instant :=
  let nanos := start.nanos + span.nanos
  ⟨start.secs + span.secs.toNat + (nanos / 1000000000 : Nat), nanos % 1000000000⟩

/-- The instant that lies a span after another, if both the span and the instant are in range. -/
def add? (start : Instant) (span : Duration) : Option Instant :=
  if span.toNanos ≤ longestSpan ∧ start.shift span ≤ last then some (start.shift span) else none

/-- When something expires that lives for a span from now on. -/
def expiry (now : Instant) (span : Duration) : Except StoreError Instant :=
  match now.add? span with
  | some instant => .ok instant
  | none => .error (.invalid ("ttl out of range: " ++ span.shown))

end Instant

end AssetCache
