/-!
# Tokens of JSON

A text of JSON as the list of its tokens. The list stops at the first place where no token can be
read, and says so with a token of its own.
-/

namespace AssetCache.Json

/-- A token. A string has no content if it spells half a pair of surrogates; a number keeps the
characters it was written with. -/
inductive Token where
  | openBrace
  | closeBrace
  | openBracket
  | closeBracket
  | comma
  | colon
  | null
  | bool (value : Bool)
  | number (lexeme : List Char)
  | string (content : Option (List Char))
  | bad
deriving DecidableEq, Repr

/-- The characters between which tokens may be set apart. -/
def isSpace (c : Char) : Bool :=
  c = ' ' || c = '\t' || c = '\n' || c = '\r'

/-! ### Strings -/

/-- The value of a hexadecimal digit. -/
def hexValue? (c : Char) : Option Nat :=
  if '0' ≤ c ∧ c ≤ '9' then some (c.toNat - '0'.toNat)
  else if 'a' ≤ c ∧ c ≤ 'f' then some (c.toNat - 'a'.toNat + 10)
  else if 'A' ≤ c ∧ c ≤ 'F' then some (c.toNat - 'A'.toNat + 10)
  else none

/-- The value of four hexadecimal digits. -/
def hexCode? (a b c d : Char) : Option Nat := do
  return (((← hexValue? a) * 16 + (← hexValue? b)) * 16 + (← hexValue? c)) * 16 + (← hexValue? d)

/-- The character that a backslash and a letter stand for. -/
def escaped? (c : Char) : Option Char :=
  if c = '"' then some '"'
  else if c = '\\' then some '\\'
  else if c = '/' then some '/'
  else if c = 'b' then some '\x08'
  else if c = 'f' then some '\x0c'
  else if c = 'n' then some '\n'
  else if c = 'r' then some '\r'
  else if c = 't' then some '\t'
  else none

/-- The codes in a string up to its closing quote, and what follows the quote. -/
def stringCodes : List Char → Option (List Nat × List Char)
  | [] => none
  | '"' :: rest => some ([], rest)
  | '\\' :: 'u' :: a :: b :: c :: d :: rest => do
    let code ← hexCode? a b c d
    let (codes, after) ← stringCodes rest
    return (code :: codes, after)
  | '\\' :: c :: rest => do
    let c ← escaped? c
    let (codes, after) ← stringCodes rest
    return (c.toNat :: codes, after)
  | c :: rest =>
    if c.toNat < 0x20 || c = '\\' then none
    else do
      let (codes, after) ← stringCodes rest
      return (c.toNat :: codes, after)

/-- Whether a code is the first half of a pair of surrogates. -/
def isLead (code : Nat) : Bool :=
  0xD800 ≤ code && code < 0xDC00

/-- Whether a code is the second half of a pair of surrogates. -/
def isTrail (code : Nat) : Bool :=
  0xDC00 ≤ code && code < 0xE000

/-- The characters that codes stand for, where a pair of surrogates is one character; none if half
a pair stands alone. -/
def charsOf : List Nat → Option (List Char)
  | [] => some []
  | code :: rest =>
    if isLead code then
      match rest with
      | next :: rest =>
        if isTrail next then
          (charsOf rest).map
            (Char.ofNat (0x10000 + (code - 0xD800) * 0x400 + (next - 0xDC00)) :: ·)
        else none
      | [] => none
    else if isTrail code then none
    else (charsOf rest).map (Char.ofNat code :: ·)

/-! ### Numbers -/

/-- The digits at the start of a text, at least one, and what follows them. -/
def digits? (text : List Char) : Option (List Char × List Char) :=
  match text.takeWhile Char.isDigit with
  | [] => none
  | digits => some (digits, text.dropWhile Char.isDigit)

/-- The whole part of a number: a lone zero, or digits that do not start with one. -/
def wholePart? (text : List Char) : Option (List Char × List Char) := do
  let (digits, after) ← digits? text
  if digits.head? = some '0' && digits.length ≠ 1 then none else some (digits, after)

/-- The fraction of a number, if there is one. -/
def fractionPart? : List Char → Option (List Char × List Char)
  | '.' :: rest => do
    let (digits, after) ← digits? rest
    return ('.' :: digits, after)
  | text => some ([], text)

/-- A sign, if there is one. -/
def signPart : List Char → List Char × List Char
  | '+' :: rest => (['+'], rest)
  | '-' :: rest => (['-'], rest)
  | text => ([], text)

/-- The exponent of a number, if there is one. -/
def exponentPart? : List Char → Option (List Char × List Char)
  | c :: rest =>
    if c = 'e' || c = 'E' then do
      let (sign, rest) := signPart rest
      let (digits, after) ← digits? rest
      return (c :: sign ++ digits, after)
    else some ([], c :: rest)
  | [] => some ([], [])

/-- The number at the start of a text, and what follows it. -/
def number? (text : List Char) : Option (List Char × List Char) := do
  let (sign, text) := match text with
    | '-' :: rest => (['-'], rest)
    | text => ([], text)
  let (whole, text) ← wholePart? text
  let (fraction, text) ← fractionPart? text
  let (exponent, text) ← exponentPart? text
  return (sign ++ whole ++ fraction ++ exponent, text)

/-! ### The list of tokens -/

/-- The token at the start of a text that does not start with a space, and what follows it. -/
def token? : List Char → Option (Token × List Char)
  | [] => none
  | '\x7b' :: rest => some (.openBrace, rest)
  | '\x7d' :: rest => some (.closeBrace, rest)
  | '[' :: rest => some (.openBracket, rest)
  | ']' :: rest => some (.closeBracket, rest)
  | ',' :: rest => some (.comma, rest)
  | ':' :: rest => some (.colon, rest)
  | 'n' :: 'u' :: 'l' :: 'l' :: rest => some (.null, rest)
  | 't' :: 'r' :: 'u' :: 'e' :: rest => some (.bool true, rest)
  | 'f' :: 'a' :: 'l' :: 's' :: 'e' :: rest => some (.bool false, rest)
  | '"' :: rest => do
    let (codes, after) ← stringCodes rest
    return (.string (charsOf codes), after)
  | text => do
    let (lexeme, after) ← number? text
    return (.number lexeme, after)

/-- The tokens of a text, of which at most so many are read. -/
def tokensWithin : Nat → List Char → List Token
  | 0, _ => []
  | fuel + 1, text =>
    match text.dropWhile isSpace with
    | [] => []
    | text =>
      match token? text with
      | none => [.bad]
      | some (token, rest) => token :: tokensWithin fuel rest

/-- The tokens of a text. Every token takes a character, so there are no more than characters. -/
def tokens (text : List Char) : List Token :=
  tokensWithin text.length text

end AssetCache.Json
