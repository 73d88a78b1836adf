import AssetCache.Record
import AssetCache.Text.Quoted

/-!
# Records as they are shown

The text in which a record is shown to somebody who looks for a fault: its type, and its fields by
name.
-/

namespace AssetCache

/-- Some fields of a record in braces after the name of its type; `isWhole` says that there are no
others. -/
def shownRecord (name : String) (fields : List (String × String)) (isWhole : Bool) : String :=
  let fields := fields.map fun field => field.1 ++ ": " ++ field.2
  let fields := if isWhole then fields else fields ++ [".."]
  name ++ " \x7b " ++ ", ".intercalate fields ++ " \x7d"

/-- A text that may be absent. -/
def shownOption : Option String → String
  | none => "None"
  | some text => "Some(" ++ Text.quoted text ++ ")"

/-- A descriptor as it is shown. -/
def Descriptor.shown (descriptor : Descriptor) : String :=
  shownRecord "Descriptor"
    [("hash", shownOption descriptor.hash),
     ("size", toString descriptor.size.toNat),
     ("content_type", shownOption descriptor.contentType),
     ("chunk_size", toString descriptor.chunkSize.toNat),
     ("number_of_chunks", toString descriptor.numberOfChunks.toNat)]
    true

/-- Open content as it is shown: of a cache or of a store, by the name given. -/
def Descriptor.shownOpen (name : String) (descriptor : Descriptor) : String :=
  shownRecord name [("descriptor", descriptor.shown)] false

end AssetCache
