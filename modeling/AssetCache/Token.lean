import AssetCache.Bytes

/-!
# Tokens

A token marks one stream on its way into a store. Tokens are numbered as they are issued, and no
two of them have the same text; the text has the shape of a random identifier.
-/

namespace AssetCache

/-- A token, by its number. -/
structure Token where
  number : Nat
deriving DecidableEq, Repr

namespace Token

/-- The hexadecimal digits of a number, at least thirty of them. -/
def digits (token : Token) : List Char :=
  let digits := Nat.toDigits 16 token.number
  List.replicate (30 - digits.length) '0' ++ digits

/-- The digits with the two marks that tell how an identifier came about. -/
def marked (digits : List Char) : List Char :=
  digits.take 12 ++ '4' :: (digits.drop 12).take 3 ++ '8' :: digits.drop 15

/-- The text of a token in five groups. -/
def text (token : Token) : String :=
  let digits := marked token.digits
  String.ofList (digits.take 8 ++ '-' :: (digits.drop 8).take 4 ++ '-' ::
    (digits.drop 12).take 4 ++ '-' :: (digits.drop 16).take 4 ++ '-' :: digits.drop 20)

/-- The text of a token in one piece. -/
def plainText (token : Token) : String :=
  String.ofList (marked token.digits)

end Token

end AssetCache
