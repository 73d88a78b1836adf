/-!
# Durations

A span of time in whole seconds and a part of a second in nanoseconds.
-/

namespace AssetCache

/-- A span of time, of at most `2 ^ 64 - 1` seconds and a part of one more. -/
structure Duration where
  secs : UInt64
  nanos : Nat
  nanos_lt : nanos < 1000000000 := by decide
deriving DecidableEq

namespace Duration

/-- No time at all. -/
def zero : Duration :=
  ⟨0, 0, by decide⟩

/-- A span of whole seconds. -/
def ofSecs (secs : UInt64) : Duration :=
  ⟨secs, 0, by decide⟩

/-- A span of whole milliseconds. -/
def ofMillis (millis : Nat) : Duration :=
  ⟨(millis / 1000).toUInt64, millis % 1000 * 1000000, by omega⟩

/-- The span in nanoseconds. -/
def toNanos (duration : Duration) : Nat :=
  duration.secs.toNat * 1000000000 + duration.nanos

/-- Whether no time passes. -/
def isZero (duration : Duration) : Bool :=
  duration.toNanos = 0

theorem toNanos_injective {a b : Duration} (h : a.toNanos = b.toNanos) : a = b := by
  obtain ⟨s, n, hn⟩ := a
  obtain ⟨t, m, hm⟩ := b
  simp only [toNanos] at h
  have : s.toNat = t.toNat := by omega
  have := UInt64.toNat_inj.1 this
  subst this
  simp only [mk.injEq, true_and]
  omega

/-- A fraction as decimal digits without the zeros at the end, in so many places. -/
def fractionDigits (fraction places : Nat) : List Char :=
  let digits := (Nat.toDigits 10 fraction)
  let padded := List.replicate (places - digits.length) '0' ++ digits
  (padded.reverse.dropWhile (· = '0')).reverse

/-- A number with a fraction in so many decimal places, and a unit after it. -/
def withFraction (whole fraction places : Nat) (unit : String) : String :=
  let digits := if fraction = 0 then [] else fractionDigits fraction places
  toString whole ++ (if digits.isEmpty then "" else "." ++ String.ofList digits) ++ unit

/-- The span as messages show it: in the largest unit of which it holds at least one. -/
def shown (duration : Duration) : String :=
  if 0 < duration.secs.toNat then withFraction duration.secs.toNat duration.nanos 9 "s"
  else if 1000000 ≤ duration.nanos then
    withFraction (duration.nanos / 1000000) (duration.nanos % 1000000) 6 "ms"
  else if 1000 ≤ duration.nanos then
    withFraction (duration.nanos / 1000) (duration.nanos % 1000) 3 "µs"
  else withFraction duration.nanos 0 0 "ns"

end Duration

end AssetCache
