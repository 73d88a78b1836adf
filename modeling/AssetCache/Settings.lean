import AssetCache.Duration.Text
import AssetCache.Table
import AssetCache.Text.Lowercase

/-!
# Settings

A store of texts under keys, with getters that read a text as a number, a truth value or a
duration. Settings may be taken from environment variables.
-/

namespace AssetCache

/-- Texts under keys. -/
abbrev Settings := Table String String

namespace Settings

/-- The number that a text of decimal digits spells, in 64 bits; a plus sign may come first. -/
def number? (text : List Char) : Option Nat :=
  let digits := match text with
    | '+' :: rest => rest
    | text => text
  if digits.isEmpty || !digits.all Char.isDigit then none
  else
    let n := digits.foldl (fun n c => n * 10 + (c.toNat - '0'.toNat)) 0
    if n < UInt64.size then some n else none

/-- A setting as a number. -/
def getNumber? (settings : Settings) (key : String) : Option Nat :=
  (settings.get? key).bind fun text => number? text.toList

/-- A setting as a truth value. -/
def getBool? (settings : Settings) (key : String) : Option Bool :=
  (settings.get? key).bind fun text =>
    if text = "true" then some true else if text = "false" then some false else none

/-- A setting as a duration, blanks around it left aside; none if there is no such setting or it
cannot be read. The error is the one carry that goes beyond the largest duration. -/
def getDuration? (settings : Settings) (key : String) : Except Duration.ReadError (Option Duration) :=
  match settings.get? key with
  | none => .ok none
  | some text =>
    match Duration.ofText (Text.trim text.toList) with
    | .ok duration => .ok (some duration)
    | .error .malformed => .ok none
    | .error .carry => .error .carry

/-! ### Environment variables -/

/-- A text with two underscores in a row replaced by a dot, from left to right. -/
def dotted : List Char → List Char
  | '_' :: '_' :: rest => '.' :: dotted rest
  | c :: rest => c :: dotted rest
  | [] => []

/-- The key that the rest of a variable's name stands for. -/
def keyOf (name : List Char) : List Char :=
  dotted (Text.lowercase name)

/-- What follows a beginning of a text, if the text begins so. -/
def after? : List Char → List Char → Option (List Char)
  | [], text => some text
  | _ :: _, [] => none
  | c :: start, d :: text => if c = d then after? start text else none

/-- The settings with one variable taken in, if its name begins as given. -/
def addVariable (start : String) (settings : Settings) (entry : String × String) : Settings :=
  match after? start.toList entry.1.toList with
  | none => settings
  | some name => settings.insert (String.ofList (keyOf name)) entry.2

/-- The settings that the environment holds under names with a common beginning. -/
def ofEnvironment (start : String) (environment : List (String × String)) : Settings :=
  environment.foldl (addVariable start) ∅

/-- The settings with some pairs of key and text set, one after the other. -/
def setAll (settings : Settings) (pairs : List (String × String)) : Settings :=
  pairs.foldl (fun settings pair => settings.insert pair.1 pair.2) settings

end Settings

end AssetCache
