import AssetCache.Bytes
import AssetCache.Error

/-!
# Streams of bytes

A stream is asked for one item after the other. It answers with a chunk, with an error, that it is
not ready, or that it has ended.
-/

namespace AssetCache

/-- What a stream answers when it is asked for its next item. -/
inductive Item where
  | chunk (bytes : Bytes)
  | error (error : IoError)
  | notReady
  | ended
deriving DecidableEq

/-- Where a stream comes from: the items that it will answer with, and after them the end. If it
has an inlet, more items may come in under that name, and it is not ready where it would end. -/
structure Source where
  items : List Item
  inlet : Option String := none
deriving DecidableEq

namespace Source

/-- The stream of a single chunk. -/
def ofBytes (bytes : Bytes) : Source :=
  ⟨[.chunk bytes], none⟩

/-- Asks for the next item. -/
def poll (source : Source) : Item × Source :=
  match source.items with
  | item :: rest => (item, { source with items := rest })
  | [] => (if source.inlet.isSome then .notReady else .ended, source)

/-- All bytes of some items, or the first error among them. -/
def collectItems : List Item → Except IoError Bytes
  | [] => .ok []
  | .chunk bytes :: rest => (bytes ++ ·) <$> collectItems rest
  | .error error :: _ => .error error
  | .notReady :: rest => collectItems rest
  | .ended :: _ => .ok []

/-- All bytes of a stream, or its first error. -/
def collect (source : Source) : Except IoError Bytes :=
  collectItems source.items

@[simp] theorem poll_cons (item : Item) (rest : List Item) (inlet : Option String) :
    poll ⟨item :: rest, inlet⟩ = (item, ⟨rest, inlet⟩) := rfl

@[simp] theorem poll_nil : poll ⟨[], none⟩ = (.ended, ⟨[], none⟩) := rfl

@[simp] theorem collect_ofBytes (bytes : Bytes) : (ofBytes bytes).collect = .ok bytes := by
  simp [ofBytes, collect, collectItems, Functor.map, Except.map]

end Source

end AssetCache
