import AssetCache.Error
import AssetCache.Table

/-!
# Rules for calls

On the bench, calls to the blobs and to the descriptors can be held up, made to fail or answered
differently. A rule says so for one call, by the method and the number of the call.
-/

namespace AssetCache.Bench

/-- The methods of the two kinds of store. -/
inductive Method where
  | blobPut
  | blobGet
  | blobDelete
  | blobExists
  | blobRename
  | descCreate
  | descRead
  | descExists
  | descDuplicate
  | descDelete
deriving DecidableEq, Repr

/-- The name of a method. -/
def Method.name : Method → String
  | .blobPut => "blob.put"
  | .blobGet => "blob.get"
  | .blobDelete => "blob.delete"
  | .blobExists => "blob.exists"
  | .blobRename => "blob.rename"
  | .descCreate => "desc.create"
  | .descRead => "desc.read"
  | .descExists => "desc.exists"
  | .descDuplicate => "desc.duplicate"
  | .descDelete => "desc.delete"

/-- What is special about a call. -/
structure Rule where
  /-- The gate that the call has to pass first. -/
  gate : Option String := none
  /-- What the call fails with, without any effect. -/
  error : Option StoreError := none
  /-- What a call that asks for presence is answered with. -/
  value : Option Bool := none
  /-- How many chunks a put takes from its stream, in place of storing it. -/
  take : Option Nat := none
  /-- Whether such a put passes over the failures of its stream. -/
  swallow : Bool := false
  /-- What a put fails with after it has succeeded. -/
  after : Option StoreError := none
  /-- The size that a put reports. -/
  size : Option Nat := none

/-- Rules by the method and the number of a call, or by the method alone. -/
abbrev Rules := Table String Rule

/-- The rule for a call: that for its own number, or else that for all calls of the method. -/
def Rules.find (rules : Rules) (method : Method) (number : Nat) : Rule :=
  match rules.get? (method.name ++ "#" ++ toString number) with
  | some rule => rule
  | none => (rules.get? (method.name ++ "#*")).getD {}

end AssetCache.Bench
