import AssetCache.Bytes
import AssetCache.MediaType

/-!
# Binary signatures

A signature asks for certain bytes at certain places. The table lists the signatures in the order
in which they are tried; the first that fits names the media type.
-/

namespace AssetCache

/-- Bytes that are asked for at a place. -/
structure Window where
  place : Nat
  bytes : Bytes
deriving DecidableEq

/-- Whether some content has the bytes of a window at its place. -/
def Window.fits (window : Window) (content : Bytes) : Bool :=
  (content.drop window.place).take window.bytes.length = window.bytes

/-- The bytes that content of a media type begins with. -/
structure Signature where
  /-- The least length of content that is looked at. -/
  size : Nat
  /-- What has to be found, all of it. -/
  windows : List Window
  /-- The media type of content with this signature. -/
  mediaType : Bytes → MediaType

namespace Signature

/-- Whether some content has this signature. -/
def fits (signature : Signature) (content : Bytes) : Bool :=
  signature.size ≤ content.length && signature.windows.all (·.fits content)

/-- The signature of content that starts with some bytes. -/
def start (bytes : Bytes) (mediaType : MediaType) : Signature :=
  ⟨0, [⟨0, bytes⟩], fun _ => mediaType⟩

/-- The media type of a container of the ISO base format, told from its major brand. -/
def brandType (brand : Bytes) : MediaType :=
  if brand ∈ ["avif", "avis"].map Bytes.ofText then .avif
  else if brand ∈
      ["heic", "heix", "hevc", "hevx", "heim", "heis", "mif1", "msf1"].map Bytes.ofText then .heic
  else if brand = Bytes.ofText "qt  " then .quicktime
  else .mp4

/-- The signatures in the order in which they are tried. -/
def table : List Signature :=
  [start [0xFF, 0xD8, 0xFF] .jpeg,
   start [0x89, 0x50, 0x4E, 0x47, 0x0D, 0x0A, 0x1A, 0x0A] .png,
   start (Bytes.ofText "GIF87a") .gif,
   start (Bytes.ofText "GIF89a") .gif,
   ⟨12, [⟨0, Bytes.ofText "RIFF"⟩, ⟨8, Bytes.ofText "WEBP"⟩], fun _ => .webp⟩,
   start [0x49, 0x49, 0x2A, 0x00] .tiff,
   start [0x4D, 0x4D, 0x00, 0x2A] .tiff,
   ⟨10, [⟨0, Bytes.ofText "BM"⟩, ⟨6, [0, 0, 0, 0]⟩], fun _ => .bmp⟩,
   start [0x00, 0x00, 0x01, 0x00] .icon,
   start (Bytes.ofText "%PDF-") .pdf,
   ⟨12, [⟨4, Bytes.ofText "ftyp"⟩], fun content => brandType ((content.drop 8).take 4)⟩,
   start [0x1F, 0x8B] .gzip,
   start [0x50, 0x4B, 0x03, 0x04] .zip]

end Signature

/-- The media type that the first fitting signature names. -/
def MediaType.ofSignature? (content : Bytes) : Option MediaType :=
  (Signature.table.find? (·.fits content)).map (·.mediaType content)

end AssetCache
