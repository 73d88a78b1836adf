import AssetCache.Content.Store
import AssetCache.Settings.Limits

/-!
# The content cache

A cache from keys to content in a content store. Every key that maps to content is one owner of
that content: a put registers it, and it is given back when the key is replaced, dropped or found
expired.
-/

namespace AssetCache

/-- The content store below a cache, and the options of the cache. -/
structure ContentCache where
  store : ContentStore := {}
  config : CacheConfig := {}

namespace ContentCache

open Operation

/-- Gives the reference to some content back. -/
def release (cache : ContentCache) (id : ContentId) : Operation (Except StoreError Unit) := do
  match ← cache.store.delete id with
  | .ok _ => return .ok ()
  | .error error => return .error error

/-- Gives references back, one after the other, up to the first failure. -/
def releaseAll (cache : ContentCache) : List ContentId → Operation (Except StoreError Unit)
  | [] => return .ok ()
  | id :: rest => do
    match ← cache.release id with
    | .ok () => cache.releaseAll rest
    | .error error => return .error error

/-- Gives the reference to expired content back; a failure is reported only. -/
def releaseExpired (cache : ContentCache) (id : ContentId) : Operation Unit := do
  if let .error _ ← cache.release id then report .releaseFailed

/-- Gives the references to expired contents back. -/
def releaseEach (cache : ContentCache) : List ContentId → Operation Unit
  | [] => return
  | id :: rest => do
    cache.releaseExpired id
    cache.releaseEach rest

/-- Looks a key up and opens its content. -/
def get (cache : ContentCache) (key : String) :
    Operation (Except StoreError (Option OpenedContent)) := do
  let now ← clock
  match ← slots (.lookup key now) with
  | .miss => return .ok none
  | .expired id =>
    cache.releaseExpired id
    return .ok none
  | .live id =>
    match ← cache.store.read id with
    | .ok opened => return .ok (some opened)
    | .error error => return if error.isNotFound then .ok none else .error error

/-- Puts the content of a stream under a key. -/
def put (cache : ContentCache) (key : String) (source : Source) (expires : Option Instant) :
    Operation (Except StoreError Unit) := do
  let ticket ← slots (.submit key)
  match ← cache.store.create source with
  | .error error =>
    slots (.withdraw key ticket)
    return .error error
  | .ok stored =>
    let publication ← slots (.publish key ticket ⟨stored.id, expires⟩)
    match publication.released with
    | some id => cache.release id
    | none => return .ok ()

/-- Puts the content of a stream under a key, for a time from now on. -/
def putFor (cache : ContentCache) (key : String) (source : Source) (ttl : Duration) :
    Operation (Except StoreError Unit) := do
  match Instant.expiry (← clock) ttl with
  | .error error => return .error error
  | .ok expires => cache.put key source (some expires)

/-- Puts the content of a stream under a key, for the configured time if there is one. -/
def putDefault (cache : ContentCache) (key : String) (source : Source) :
    Operation (Except StoreError Unit) :=
  match cache.config.defaultTtl with
  | none => cache.put key source none
  | some ttl => cache.putFor key source ttl

/-- Drops a key. -/
def invalidate (cache : ContentCache) (key : String) : Operation (Except StoreError Unit) := do
  match ← slots (.remove key) with
  | some id => cache.release id
  | none => return .ok ()

/-- Drops some keys. -/
def invalidateAll (cache : ContentCache) (keys : List String) :
    Operation (Except StoreError Unit) := do
  cache.releaseAll (← slots (.removeAll keys))

/-- Drops all expired entries, and says how many there were. -/
def cleanUp (cache : ContentCache) : Operation (Except StoreError Nat) := do
  let expired ← slots (.sweep (← clock))
  cache.releaseEach expired
  return .ok expired.length

/-- Answers a call. -/
def answer (cache : ContentCache) :
    (call : CacheCall Source) → Operation (call.Answer OpenedContent)
  | .get key => cache.get key
  | .put key source expires => cache.put key source expires
  | .invalidate key => cache.invalidate key
  | .invalidateAll keys => cache.invalidateAll keys
  | .cleanUp => cache.cleanUp

end ContentCache

end AssetCache
