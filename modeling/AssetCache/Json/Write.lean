/-!
# Writing JSON

Compact texts of JSON: no space between the tokens, and only those characters escaped that must
be.
-/

namespace AssetCache.Json

/-- The hexadecimal digit of a value below sixteen. -/
def hexDigit (value : Nat) : Char :=
  if value < 10 then Char.ofNat ('0'.toNat + value) else Char.ofNat ('a'.toNat + (value - 10))

/-- A character as it stands in a string. -/
def stringChar (c : Char) : List Char :=
  if c = '"' then ['\\', '"']
  else if c = '\\' then ['\\', '\\']
  else if c = '\x08' then ['\\', 'b']
  else if c = '\x0c' then ['\\', 'f']
  else if c = '\n' then ['\\', 'n']
  else if c = '\r' then ['\\', 'r']
  else if c = '\t' then ['\\', 't']
  else if c.toNat < 0x20 then
    ['\\', 'u', '0', '0', hexDigit (c.toNat / 16), hexDigit (c.toNat % 16)]
  else [c]

/-- The text of a string. -/
def string (content : List Char) : List Char :=
  '"' :: content.flatMap stringChar ++ ['"']

/-- The text of a value that may be null. -/
def optional {α : Type} (value : α → List Char) : Option α → List Char
  | none => ['n', 'u', 'l', 'l']
  | some content => value content

/-- The text of a number. -/
def natural (n : Nat) : List Char :=
  Nat.toDigits 10 n

/-- The text of a member of an object. -/
def member (name : String) (value : List Char) : List Char :=
  string name.toList ++ ':' :: value

/-- Some texts with commas between them. -/
def separated : List (List Char) → List Char
  | [] => []
  | [text] => text
  | text :: rest => text ++ ',' :: separated rest

/-- The text of an object with the given members, in their order. -/
def object (members : List (String × List Char)) : List Char :=
  '\x7b' :: separated (members.map fun (name, value) => member name value) ++ ['\x7d']

end AssetCache.Json
