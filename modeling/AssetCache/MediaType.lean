/-!
# Media types

The media types that content is recognised as.
-/

namespace AssetCache

/-- A media type that content can be recognised as. -/
inductive MediaType where
  | jpeg
  | png
  | gif
  | webp
  | tiff
  | bmp
  | icon
  | pdf
  | avif
  | heic
  | quicktime
  | mp4
  | gzip
  | zip
  | svg
  | xml
  | plainText
  | octetStream
deriving DecidableEq, Repr

namespace MediaType

/-- The registered name of a media type. -/
def name : MediaType → String
  | .jpeg => "image/jpeg"
  | .png => "image/png"
  | .gif => "image/gif"
  | .webp => "image/webp"
  | .tiff => "image/tiff"
  | .bmp => "image/bmp"
  | .icon => "image/x-icon"
  | .pdf => "application/pdf"
  | .avif => "image/avif"
  | .heic => "image/heic"
  | .quicktime => "video/quicktime"
  | .mp4 => "video/mp4"
  | .gzip => "application/gzip"
  | .zip => "application/zip"
  | .svg => "image/svg+xml"
  | .xml => "application/xml"
  | .plainText => "text/plain"
  | .octetStream => "application/octet-stream"

end MediaType

end AssetCache
