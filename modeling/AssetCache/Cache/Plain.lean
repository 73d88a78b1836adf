import AssetCache.Cache.Entry
import AssetCache.Table

/-!
# The plain cache

A cache that keeps its values itself. An expired entry is not served any more; it is dropped when
its key is looked up or when the cache is swept.
-/

namespace AssetCache

/-- The entries under the keys, expired ones among them. -/
abbrev PlainCache (α : Type) := Table String (Entry α)

namespace PlainCache

variable {α : Type}

/-- Looks a key up. -/
def get (cache : PlainCache α) (now : Instant) (key : String) : Option α × PlainCache α :=
  match cache.get? key with
  | none => (none, cache)
  | some entry =>
    if entry.isExpired now then (none, cache.erase key) else (some entry.value, cache)

/-- Puts a value under a key; what was there before is replaced. -/
def put (cache : PlainCache α) (key : String) (value : α) (expires : Option Instant) :
    PlainCache α :=
  cache.insert key ⟨value, expires⟩

/-- Puts a value under a key, for a time from an instant on. -/
def putFor (cache : PlainCache α) (now : Instant) (key : String) (value : α) (ttl : Duration) :
    Except StoreError Unit × PlainCache α :=
  match Instant.expiry now ttl with
  | .error error => (.error error, cache)
  | .ok expires => (.ok (), cache.put key value (some expires))

/-- Drops a key. -/
def invalidate (cache : PlainCache α) (key : String) : PlainCache α :=
  cache.erase key

/-- Drops some keys. -/
def invalidateAll (cache : PlainCache α) (keys : List String) : PlainCache α :=
  keys.foldl invalidate cache

/-- Drops all expired entries, and says how many there were. -/
def cleanUp (cache : PlainCache α) (now : Instant) : Nat × PlainCache α :=
  let kept : PlainCache α := cache.filter fun _ entry => !entry.isExpired now
  (cache.size - kept.size, kept)

/-- Answers a call at an instant. -/
def answer (cache : PlainCache α) (now : Instant) :
    (call : CacheCall α) → call.Answer α × PlainCache α
  | .get key =>
    let (hit, cache) := cache.get now key
    (.ok hit, cache)
  | .put key value expires => (.ok (), cache.put key value expires)
  | .invalidate key => (.ok (), cache.invalidate key)
  | .invalidateAll keys => (.ok (), cache.invalidateAll keys)
  | .cleanUp =>
    let (removed, cache) := cache.cleanUp now
    (.ok removed, cache)

end PlainCache

end AssetCache
