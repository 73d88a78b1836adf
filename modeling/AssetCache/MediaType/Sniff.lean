import AssetCache.MediaType.Markup
import AssetCache.MediaType.Signature

/-!
# Recognition of media types

The media type of content is told from its first bytes: by a binary signature, else by the
heuristic for text. The same bytes always give the same media type.
-/

namespace AssetCache

/-- The media type of content that begins with the given bytes. -/
def MediaType.sniff (start : Bytes) : MediaType :=
  if start.isEmpty then .octetStream
  else
    match MediaType.ofSignature? start with
    | some mediaType => mediaType
    | none => (Markup.ofContent? start).getD .octetStream

namespace MediaType

@[simp] theorem sniff_nil : sniff [] = .octetStream := rfl

theorem sniff_of_signature {start : Bytes} {mediaType : MediaType} (nonempty : start ≠ [])
    (h : ofSignature? start = some mediaType) : sniff start = mediaType := by
  simp [sniff, nonempty, h]

end MediaType

end AssetCache
