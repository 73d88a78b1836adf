import AssetCache.Cache.Entry
import AssetCache.Record
import AssetCache.Table

/-!
# Slots

The content cache keeps a slot for every key that holds content or has a put under way. A put gets
a ticket when it is submitted; it publishes its content only if no later put was submitted on its
key and the slot was not dropped meanwhile. Each operation here is one step that nothing can
interrupt.
-/

namespace AssetCache

/-- What is known about a key. -/
structure Slot where
  /-- The ticket of the put that was submitted last. -/
  latest : Nat := 0
  /-- The tickets of the puts under way. -/
  inFlight : List Nat := []
  entry : Option (Entry ContentId) := none
deriving DecidableEq

namespace Slot

/-- Whether a slot holds nothing and waits for nothing. -/
def isIdle (slot : Slot) : Bool :=
  slot.entry.isNone && slot.inFlight.isEmpty

/-- The slot without a ticket among those under way. -/
def without (slot : Slot) (ticket : Nat) : Slot :=
  { slot with inFlight := slot.inFlight.filter (· ≠ ticket) }

/-- The content of the entry of a slot. -/
def content? (slot : Slot) : Option ContentId :=
  slot.entry.map Entry.value

end Slot

/-- The slots by key, and the number of tickets issued so far. -/
structure Slots where
  issued : Nat
  byKey : Table String Slot

/-- What a look-up finds. -/
inductive Lookup where
  | miss
  /-- The entry was expired, and was taken away. -/
  | expired (id : ContentId)
  | live (id : ContentId)
deriving DecidableEq

/-- What a put comes to that has stored its content. -/
structure Publication where
  /-- Whether its content is what the key maps to now. -/
  isPublished : Bool
  /-- The content that a reference must be given back for. -/
  released : Option ContentId
deriving DecidableEq

namespace Slots

/-- No slots. -/
def empty : Slots :=
  ⟨0, ∅⟩

/-- The slots with the slot of a key changed, or dropped if it is idle then. -/
def settle (slots : Slots) (key : String) (slot : Slot) : Slots :=
  { slots with
    byKey := if slot.isIdle then slots.byKey.erase key else slots.byKey.insert key slot }

/-- The content that is published under a key, expired or not. -/
def contentId? (slots : Slots) (key : String) : Option ContentId :=
  (slots.byKey.get? key).bind Slot.content?

/-- Submits a put on a key; answers its ticket. -/
def submit (slots : Slots) (key : String) : Nat × Slots :=
  let ticket := slots.issued + 1
  let slot := (slots.byKey.get? key).getD {}
  (ticket,
   ⟨ticket,
    slots.byKey.insert key { slot with latest := ticket, inFlight := slot.inFlight ++ [ticket] }⟩)

/-- Gives up a put whose content was not stored. -/
def withdraw (slots : Slots) (key : String) (ticket : Nat) : Slots :=
  match slots.byKey.get? key with
  | none => slots
  | some slot => slots.settle key (slot.without ticket)

/-- Publishes the content of a put, unless a later put was submitted on its key or the key was
dropped. -/
def publish (slots : Slots) (key : String) (ticket : Nat) (entry : Entry ContentId) :
    Publication × Slots :=
  match slots.byKey.get? key with
  | none => (⟨false, some entry.value⟩, slots)
  | some slot =>
    if ticket ∈ slot.inFlight then
      if slot.latest = ticket then
        (⟨true, slot.content?⟩,
         { slots with
           byKey := slots.byKey.insert key { slot.without ticket with entry := some entry } })
      else
        (⟨false, some entry.value⟩,
         { slots with byKey := slots.byKey.insert key (slot.without ticket) })
    else (⟨false, some entry.value⟩, slots)

/-- Looks a key up; an expired entry is taken away. -/
def lookup (slots : Slots) (key : String) (now : Instant) : Lookup × Slots :=
  match slots.byKey.get? key with
  | none => (.miss, slots)
  | some slot =>
    match slot.entry with
    | none => (.miss, slots)
    | some entry =>
      if entry.isExpired now then
        (.expired entry.value, slots.settle key { slot with entry := none })
      else (.live entry.value, slots)

/-- Drops a key; answers the content it mapped to. -/
def remove (slots : Slots) (key : String) : Option ContentId × Slots :=
  (slots.contentId? key, { slots with byKey := slots.byKey.erase key })

/-- Drops some keys; answers the contents they mapped to, in order. -/
def removeAll (slots : Slots) : List String → List ContentId × Slots
  | [] => ([], slots)
  | key :: rest =>
    let (removed, slots) := slots.remove key
    let (others, slots) := slots.removeAll rest
    (removed.toList ++ others, slots)

/-- The content of a slot's entry, if it is expired. -/
def expired? (now : Instant) (slot : Slot) : Option ContentId :=
  (slot.entry.filter (·.isExpired now)).map Entry.value

/-- A slot without its entry, if that is expired. -/
def swept (now : Instant) (slot : Slot) : Slot :=
  { slot with entry := slot.entry.filter fun entry => !entry.isExpired now }

/-- Takes all expired entries away, and drops the slots that are idle then; answers the contents
of the expired entries. -/
def sweep (slots : Slots) (now : Instant) : List ContentId × Slots :=
  (slots.byKey.entries.filterMap fun entry => expired? now entry.2,
   { slots with
     byKey := (slots.byKey.map fun _ slot => swept now slot).filter fun _ slot => !slot.isIdle })

end Slots

/-! ### Calls -/

/-- A call to the slots. -/
inductive SlotsCall where
  | submit (key : String)
  | withdraw (key : String) (ticket : Nat)
  | publish (key : String) (ticket : Nat) (entry : Entry ContentId)
  | lookup (key : String) (now : Instant)
  | remove (key : String)
  | removeAll (keys : List String)
  | sweep (now : Instant)
deriving DecidableEq

namespace SlotsCall

/-- What a call is answered with. -/
abbrev Answer : SlotsCall → Type
  | submit _ => Nat
  | withdraw _ _ => Unit
  | publish _ _ _ => Publication
  | lookup _ _ => Lookup
  | remove _ => Option ContentId
  | removeAll _ => List ContentId
  | sweep _ => List ContentId

end SlotsCall

/-- Answers a call. -/
def Slots.answer (slots : Slots) : (call : SlotsCall) → call.Answer × Slots
  | .submit key => slots.submit key
  | .withdraw key ticket => ((), slots.withdraw key ticket)
  | .publish key ticket entry => slots.publish key ticket entry
  | .lookup key now => slots.lookup key now
  | .remove key => slots.remove key
  | .removeAll keys => slots.removeAll keys
  | .sweep now => slots.sweep now

end AssetCache
