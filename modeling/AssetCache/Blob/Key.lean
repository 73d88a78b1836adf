import AssetCache.Record

/-!
# Blob keys

Where the blob of some content lies in a store. Stored content has an object key, which follows
from its identity; content that is still coming in has a staging key, which follows from a token
that no other stream has.
-/

namespace AssetCache

/-- How blobs are laid out under keys. -/
structure KeyLayout where
  objectKey : ContentId → String
  stagingKey : String → String

/-- Whether a character takes a single byte in UTF-8. -/
def isAscii (c : Char) : Bool :=
  c.toNat < 128

namespace KeyLayout

/-- Whether the key of an identity has its first characters as directories: those of single bytes
only, of which there are more than the two directories use. -/
def isFannedOut (id : List Char) : Bool :=
  4 < id.length && id.all isAscii

/-- The object key of an identity: below two directories named after its first four characters, or
the identity itself if it is too short for that or has characters of several bytes. -/
def fannedKey (id : List Char) : List Char :=
  if isFannedOut id then id.take 2 ++ '/' :: (id.drop 2).take 2 ++ '/' :: id else id

/-- Objects fan out over directories, and staged content lies in a directory of its own. -/
def fanned : KeyLayout where
  objectKey id := String.ofList (fannedKey id.text.toList)
  stagingKey token := "__staging/" ++ token

end KeyLayout

end AssetCache
