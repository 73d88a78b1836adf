import AssetCache.Json.Read
import AssetCache.Json.Write
import AssetCache.Settings.Limits

/-!
# Options of a cache as JSON

Durations are written as their texts. Every field may be missing when the options are read.
-/

namespace AssetCache.CacheConfig

open Json

/-- The text of a duration that may be absent. -/
def optionalDuration (duration : Option Duration) : List Char :=
  optional (fun duration => string duration.toText) duration

/-- The fields of the options and their texts. -/
def members (config : CacheConfig) : List (String × List Char) :=
  [("default_ttl", optionalDuration config.defaultTtl),
   ("cleanup_interval", optionalDuration config.cleanupInterval)]

/-- The text of the options. -/
def toJson (config : CacheConfig) : List Char :=
  object config.members

/-- Reads a duration, in which blanks at the ends count. -/
def readDuration : Reader Duration.ReadError Duration := fun tokens => do
  let (text, rest) ← readString .malformed tokens
  return (← Duration.ofText text, rest)

/-- Options that are partly read. -/
structure Partly where
  defaultTtl : Option (Option Duration) := none
  cleanupInterval : Option (Option Duration) := none

/-- How the options are read. -/
def schema : Schema Duration.ReadError Partly CacheConfig where
  malformed := .malformed
  fields :=
    [.once .malformed "default_ttl" (·.defaultTtl) (fun r v => { r with defaultTtl := some v })
      (readOptional readDuration),
     .once .malformed "cleanup_interval" (·.cleanupInterval)
      (fun r v => { r with cleanupInterval := some v }) (readOptional readDuration)]
  start := {}
  finish record := some ⟨record.defaultTtl.join, record.cleanupInterval.join⟩
  mayStopEarly := true

/-- The options that a text holds. -/
def ofJson? (text : List Char) : Except Duration.ReadError CacheConfig :=
  readText .malformed schema.read text

end AssetCache.CacheConfig
