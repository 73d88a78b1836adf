import AssetCache.Settings

/-!
# Configuration records

The options of the parts of the library, their defaults, and how they are read from settings. A
setting that is absent or cannot be read leaves the default in place.
-/

namespace AssetCache

/-- Limits on content that comes in. -/
structure IngestLimits where
  /-- The number of leading bytes kept for recognising the media type. -/
  sniffBytes : Nat := 4096
  /-- The greatest size of a single blob. -/
  maxBytes : Nat := 5 * 1024 * 1024 * 1024
deriving DecidableEq

/-- The limits that settings ask for. -/
def IngestLimits.ofSettings (settings : Settings) : IngestLimits where
  sniffBytes := (settings.getNumber? "blob.sniff_prefix_bytes").getD 4096
  maxBytes := (settings.getNumber? "blob.max_bytes").getD (5 * 1024 * 1024 * 1024)

/-- Options of the content store. -/
structure StoreConfig where
  limits : IngestLimits := {}
  /-- The name of the backend for descriptors. -/
  backend : String := "memory"
deriving DecidableEq

/-- The options of the content store that settings ask for. -/
def StoreConfig.ofSettings (settings : Settings) : StoreConfig where
  limits := .ofSettings settings
  backend := (settings.get? "descriptors.backend").getD "memory"

/-- Options of a cache. -/
structure CacheConfig where
  /-- The lifetime of an entry that is put without one; without this it never expires. -/
  defaultTtl : Option Duration := none
  /-- How often expired entries are swept. -/
  cleanupInterval : Option Duration := none
deriving DecidableEq

namespace CacheConfig

/-- The options of a cache that settings ask for. -/
def ofSettings (settings : Settings) : Except Duration.ReadError CacheConfig := do
  let defaultTtl ← settings.getDuration? "cache.ttl"
  let cleanupInterval ← settings.getDuration? "cache.cleanup_interval"
  return ⟨defaultTtl, cleanupInterval⟩

/-- The interval at which a reaper sweeps: a minute unless configured otherwise. -/
def reaperInterval (config : CacheConfig) : Duration :=
  config.cleanupInterval.getD (.ofSecs 60)

end CacheConfig

end AssetCache
