import AssetCache.Duration
import AssetCache.Text.Blank

/-!
# Durations as text

A duration is written as a sum of spans such as `1h 30m`, from years down to nanoseconds, without
the spans that are zero. The reader accepts more spellings of the units, blanks between and inside
the numbers, and decimal fractions; it is an automaton over the characters.
-/

namespace AssetCache.Duration

/-! ### Units -/

/-- The units in which spans are measured. -/
inductive Unit where
  | nanosecond
  | microsecond
  | millisecond
  | second
  | minute
  | hour
  | day
  | week
  | month
  | year
deriving DecidableEq, Repr

namespace Unit

/-- The spellings of a unit. -/
def spellings : Unit → List String
  | nanosecond => ["nanos", "nsec", "ns"]
  | microsecond => ["usec", "us", "µs"]
  | millisecond => ["millis", "msec", "ms"]
  | second => ["seconds", "second", "secs", "sec", "s"]
  | minute => ["minutes", "minute", "min", "mins", "m"]
  | hour => ["hours", "hour", "hrs", "hr", "h"]
  | day => ["days", "day", "d"]
  | week => ["weeks", "week", "wks", "wk", "w"]
  | month => ["months", "month", "M"]
  | year => ["years", "year", "yrs", "yr", "y"]

/-- The units, the smallest first. -/
def all : List Unit :=
  [nanosecond, microsecond, millisecond, second, minute, hour, day, week, month, year]

/-- The unit that a text spells. -/
def ofText? (text : List Char) : Option Unit :=
  all.find? fun unit => unit.spellings.any fun spelling => spelling.toList = text

/-- The seconds of one unit, for units of at least a second. A month has 30.44 days and a year
365.25. -/
def secs : Unit → Nat
  | nanosecond => 0
  | microsecond => 0
  | millisecond => 0
  | second => 1
  | minute => 60
  | hour => 3600
  | day => 86400
  | week => 604800
  | month => 2630016
  | year => 31557600

/-- The nanoseconds of one unit below a second. -/
def nanos : Unit → Nat
  | nanosecond => 1
  | microsecond => 1000
  | millisecond => 1000000
  | _ => 0

end Unit

/-! ### Reading -/

/-- Why a text is no duration. -/
inductive ReadError where
  /-- The text is malformed, or a number in it is too large. -/
  | malformed
  /-- Only the carry of the nanoseconds into the seconds goes beyond the largest duration. -/
  | carry
deriving DecidableEq, Repr

/-- A number as a word of 64 bits. -/
def word (n : Nat) : Except ReadError Nat :=
  if n < UInt64.size then .ok n else .error .malformed

/-- The sum of a duration and some seconds and nanoseconds. -/
def plus (duration : Duration) (secs nanos : Nat) : Except ReadError Duration := do
  let nanos ← word (duration.nanos + nanos)
  let carried := if 1000000000 < nanos then nanos / 1000000000 else 0
  let secs ← word (secs + carried)
  let secs ← word (duration.secs.toNat + secs)
  if nanos = 1000000000 then
    if secs + 1 < UInt64.size then .ok (ofSecs (secs + 1).toUInt64) else .error .carry
  else .ok ⟨secs.toUInt64, nanos % 1000000000, Nat.mod_lt _ (by decide)⟩

/-- A quotient that leaves no remainder. -/
def exactly (n d : Nat) : Except ReadError Nat :=
  if n % d = 0 then .ok (n / d) else .error .malformed

/-- The scale on which the fraction of a unit must be whole: nanoseconds for units of up to a
minute, else seconds. A nanosecond has no fraction. -/
def fractionParts (unit : Unit) (numerator denominator : Nat) : Except ReadError (Nat × Nat) := do
  match unit with
  | .nanosecond => .error .malformed
  | .microsecond | .millisecond =>
    return (0, ← exactly (← word (numerator * unit.nanos)) denominator)
  | .second | .minute =>
    return (0, ← exactly (← word (numerator * (unit.secs * 1000000000))) denominator)
  | .hour | .day | .week | .month | .year =>
    return (← exactly (← word (numerator * unit.secs)) denominator, 0)

/-- The sum of a duration and a span: a number, perhaps with a fraction, of a unit. -/
def plusSpan (duration : Duration) (whole : Nat) (fraction : Option (Nat × Nat))
    (letters : List Char) : Except ReadError Duration := do
  match Unit.ofText? letters with
  | none => .error .malformed
  | some unit =>
    let sum ← duration.plus (← word (whole * unit.secs)) (← word (whole * unit.nanos))
    match fraction with
    | none => .ok sum
    | some (numerator, denominator) =>
      let (secs, nanos) ← fractionParts unit numerator denominator
      sum.plus secs nanos

/-- Where in a text a reader is. -/
inductive Place where
  /-- Before the first span. -/
  | start
  /-- Between two spans, or after the last one. -/
  | between
  /-- In a number. -/
  | whole (n : Nat)
  /-- In the fraction of a number, which so far is a numerator over a denominator. -/
  | fraction (n numerator denominator : Nat)
  /-- In a unit, whose letters so far are given last first. -/
  | unit (n : Nat) (fraction : Option (Nat × Nat)) (letters : List Char)
deriving DecidableEq

/-- A reader: the sum of the spans read, and where it is. -/
structure Reader where
  sum : Duration
  place : Place
deriving DecidableEq

/-- The value of a decimal digit. -/
def digit? (c : Char) : Option Nat :=
  if c.isDigit then some (c.toNat - '0'.toNat) else none

/-- Whether a character may stand in a unit. -/
def isUnitLetter (c : Char) : Bool :=
  c.isAlpha || c = 'µ'

namespace Reader

/-- The reader before a text. -/
def initial : Reader :=
  ⟨zero, .start⟩

/-- What a reader does with a character before a span, where `rest` is its place after a blank. -/
def beforeSpan (reader : Reader) (rest : Place) (c : Char) : Except ReadError Reader :=
  match digit? c with
  | some d => .ok ⟨reader.sum, .whole d⟩
  | none => if Text.isBlank c then .ok ⟨reader.sum, rest⟩ else .error .malformed

/-- Takes one character in. -/
def step (reader : Reader) (c : Char) : Except ReadError Reader := do
  match reader.place with
  | .start => reader.beforeSpan .start c
  | .between => reader.beforeSpan .between c
  | .whole n =>
    match digit? c with
    | some d => return ⟨reader.sum, .whole (← word (n * 10 + d))⟩
    | none =>
      if Text.isBlank c then return reader
      else if isUnitLetter c then return ⟨reader.sum, .unit n none [c]⟩
      else if c = '.' then return ⟨reader.sum, .fraction n 0 1⟩
      else .error .malformed
  | .fraction n numerator denominator =>
    match digit? c with
    | some d =>
      return ⟨reader.sum, .fraction n (← word (numerator * 10 + d)) (← word (denominator * 10))⟩
    | none =>
      if Text.isBlank c then return reader
      else if isUnitLetter c && denominator ≠ 1 then
        return ⟨reader.sum, .unit n (some (numerator, denominator)) [c]⟩
      else .error .malformed
  | .unit n fraction letters =>
    match digit? c with
    | some d => return ⟨← reader.sum.plusSpan n fraction letters.reverse, .whole d⟩
    | none =>
      if Text.isBlank c then return ⟨← reader.sum.plusSpan n fraction letters.reverse, .between⟩
      else if isUnitLetter c then return ⟨reader.sum, .unit n fraction (c :: letters)⟩
      else .error .malformed

/-- What has been read when the text ends. -/
def finish (reader : Reader) : Except ReadError Duration :=
  match reader.place with
  | .between => .ok reader.sum
  | .unit n fraction letters => reader.sum.plusSpan n fraction letters.reverse
  | .start | .whole _ | .fraction .. => .error .malformed

/-- Takes some characters in. -/
def read (reader : Reader) : List Char → Except ReadError Reader
  | [] => .ok reader
  | c :: rest => do (← reader.step c).read rest

end Reader

/-- The duration that a text writes. A lone zero needs no unit. -/
def ofText (text : List Char) : Except ReadError Duration := do
  if text = ['0'] then .ok zero
  else (← Reader.initial.read text).finish

/-! ### Writing -/

/-- A span that is written; its unit has a plural form or not. -/
structure Span where
  number : Nat
  unit : List Char
  plural : Bool
deriving DecidableEq

/-- The text of a span. -/
def Span.text (span : Span) : List Char :=
  Nat.toDigits 10 span.number ++ span.unit ++
    (if span.plural && 1 < span.number then ['s'] else [])

/-- The spans of a duration, zeros included. -/
def spans (duration : Duration) : List Span :=
  let secs := duration.secs.toNat
  let nanos := duration.nanos
  let inYear := secs % 31557600
  let inMonth := inYear % 2630016
  let inDay := inMonth % 86400
  [⟨secs / 31557600, "year".toList, true⟩,
   ⟨inYear / 2630016, "month".toList, true⟩,
   ⟨inMonth / 86400, "day".toList, true⟩,
   ⟨inDay / 3600, "h".toList, false⟩,
   ⟨inDay % 3600 / 60, "m".toList, false⟩,
   ⟨inDay % 60, "s".toList, false⟩,
   ⟨nanos / 1000000, "ms".toList, false⟩,
   ⟨nanos / 1000 % 1000, "us".toList, false⟩,
   ⟨nanos % 1000, "ns".toList, false⟩]

/-- Some texts with a space between each two. -/
def spaced : List (List Char) → List Char
  | [] => []
  | [text] => text
  | text :: rest => text ++ ' ' :: spaced rest

/-- The text of a duration. -/
def toText (duration : Duration) : List Char :=
  match duration.spans.filter (fun span => span.number ≠ 0) with
  | [] => ['0', 's']
  | spans => spaced (spans.map Span.text)

end AssetCache.Duration
