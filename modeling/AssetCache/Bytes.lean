/-!
# Bytes

Content is a list of bytes. Its hexadecimal text is what identifiers are made of.
-/

namespace AssetCache

/-- Content, as the list of its bytes. -/
abbrev Bytes := List UInt8

namespace Bytes

/-- The bytes of a text in UTF-8. -/
def ofText (text : String) : Bytes :=
  text.toUTF8.toList

/-- The lowercase hexadecimal digit of a value below sixteen. -/
def hexDigit (value : Nat) : Char :=
  if value < 10 then Char.ofNat ('0'.toNat + value) else Char.ofNat ('a'.toNat + (value - 10))

/-- The two hexadecimal digits of a byte, the high one first. -/
def hexPair (byte : UInt8) : List Char :=
  [hexDigit (byte.toNat / 16), hexDigit (byte.toNat % 16)]

/-- The lowercase hexadecimal text of some bytes. -/
def toHex (bytes : Bytes) : String :=
  String.ofList (bytes.flatMap hexPair)

@[simp] theorem length_hexPair (byte : UInt8) : (hexPair byte).length = 2 := rfl

theorem length_flatMap_hexPair (bytes : Bytes) :
    (bytes.flatMap hexPair).length = 2 * bytes.length := by
  induction bytes with
  | nil => rfl
  | cons byte rest ih => simp [ih]; omega

end Bytes

end AssetCache
