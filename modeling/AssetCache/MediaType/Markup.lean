import AssetCache.MediaType
import AssetCache.Text.Blank
import AssetCache.Text.Utf8

/-!
# Text and markup

Content without a binary signature is text if it reads as UTF-8 without control characters. What
kind of text it is shows at its first tag.
-/

namespace AssetCache.Markup

/-- Whether a character may stand in a text: no control character but tab, line feed, carriage
return and form feed. -/
def isTextual (c : Char) : Bool :=
  !Text.isControl c || c = '\t' || c = '\n' || c = '\r' || c = '\x0C'

/-- A text without the byte order marks and then the white space at its start. -/
def body (text : List Char) : List Char :=
  Text.trimStart (text.dropWhile (· = '\uFEFF'))

/-- The characters at the start of a text that fill exactly the given number of bytes; none if the
last of them would be cut. -/
def takeBytes (text : List Char) (size : Nat) : Option (List Char) :=
  match text, size with
  | _, 0 => some []
  | [], _ => none
  | c :: rest, size =>
    if c.utf8Size ≤ size then (takeBytes rest (size - c.utf8Size)).map (c :: ·) else none

/-- The number of bytes of a text. -/
def byteSize : List Char → Nat
  | [] => 0
  | c :: rest => c.utf8Size + byteSize rest

/-- The lowercase form of the first five bytes of a text, or of all of it where it is shorter; it
is empty if a character is cut by that bound. -/
def head (text : List Char) : List Char :=
  ((takeBytes text (min (byteSize text) 5)).getD []).map Char.toLower

/-- Whether a text holds another one somewhere. -/
def contains (part : List Char) : List Char → Bool
  | [] => part.isEmpty
  | c :: rest => part.isPrefixOf (c :: rest) || contains part rest

/-- The tag that starts a vector graphic. -/
def graphicTag : List Char :=
  ['<', 's', 'v', 'g']

/-- What starts a document of the extensible markup language. -/
def declaration : List Char :=
  ['<', '?', 'x', 'm', 'l']

/-- The kind of a text: a vector graphic, another document, or plain. -/
def classify (text : List Char) : MediaType :=
  let text := body text
  let head := head text
  if graphicTag.isPrefixOf head || (declaration.isPrefixOf head && contains graphicTag text) then
    .svg
  else if declaration.isPrefixOf head then .xml
  else .plainText

/-- The kind of text that some content is; none if it is no text. -/
def ofContent? (content : Bytes) : Option MediaType :=
  match Text.Utf8.lenient content with
  | none => none
  | some text => if text.all isTextual then some (classify text) else none

end AssetCache.Markup
