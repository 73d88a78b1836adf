import AssetCache.Error
import AssetCache.Instant

/-!
# Cache entries

A cached value and the instant from which it is no longer served, and what can be asked of a cache
that keeps such entries.
-/

namespace AssetCache

/-- A cached value with the instant at which it expires; without one it never does. -/
structure Entry (α : Type) where
  value : α
  expires : Option Instant
deriving DecidableEq

namespace Entry

variable {α : Type}

/-- Whether the entry is no longer served at an instant. It expires at its own instant already. -/
def isExpired (entry : Entry α) (now : Instant) : Bool :=
  entry.expires.any fun expires => expires ≤ now

theorem isExpired_some (value : α) (expires now : Instant) :
    isExpired ⟨value, some expires⟩ now = true ↔ expires ≤ now := by
  simp [isExpired]

end Entry

/-- A call to a cache from text keys to values. -/
inductive CacheCall (ν : Type) where
  | get (key : String)
  | put (key : String) (value : ν) (expires : Option Instant)
  | invalidate (key : String)
  | invalidateAll (keys : List String)
  | cleanUp

namespace CacheCall

/-- What a call comes to when it succeeds, in a cache whose look-ups find hits. -/
abbrev Value {ν : Type} (hit : Type) : CacheCall ν → Type
  | get _ => Option hit
  | put _ _ _ => Unit
  | invalidate _ => Unit
  | invalidateAll _ => Unit
  | cleanUp => Nat

/-- What a call is answered with. -/
abbrev Answer {ν : Type} (hit : Type) (call : CacheCall ν) : Type :=
  Except StoreError (call.Value hit)

end CacheCall

end AssetCache
