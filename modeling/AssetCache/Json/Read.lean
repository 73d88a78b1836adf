import AssetCache.Json.Token

/-!
# Reading records of JSON

A record is read from an object whose members come in any order, or from a list of its fields in
order. Members that are not known are passed over; a known one may come once. Reading goes from
left to right and stops at the first fault.
-/

namespace AssetCache.Json

variable {ε P α β : Type}

/-- A reader of the front of a list of tokens, with an error for every malformed text. -/
abbrev Reader (ε α : Type) := List Token → Except ε (α × List Token)

/-- What a value inside others is inside of. -/
inductive Nest where
  | array
  | object
deriving DecidableEq

/-- What may come next. -/
inductive Want where
  | value
  | valueOrClose
  | key
  | keyOrClose
  | colon
  | next
deriving DecidableEq

/-- What comes after the comma in a nest. -/
def Nest.afterComma : Nest → Want
  | .array => .value
  | .object => .key

/-- The token that closes a nest. -/
def Nest.closing : Nest → Token
  | .array => .closeBracket
  | .object => .closeBrace

/-- Passes over what remains of a value, inside of the given nests. -/
def skip (malformed : ε) (nests : List Nest) (want : Want) : List Token → Except ε (List Token)
  | [] => .error malformed
  | token :: rest =>
    let close (nests : List Nest) : Except ε (List Token) :=
      match nests with
      | [] | [_] => .ok rest
      | _ :: outer => skip malformed outer .next rest
    match want, token with
    | .value, .openBracket | .valueOrClose, .openBracket =>
      skip malformed (.array :: nests) .valueOrClose rest
    | .value, .openBrace | .valueOrClose, .openBrace =>
      skip malformed (.object :: nests) .keyOrClose rest
    | .valueOrClose, .closeBracket => close nests
    | .keyOrClose, .closeBrace => close nests
    | .value, .null | .value, .bool _ | .value, .number _ | .value, .string _
    | .valueOrClose, .null | .valueOrClose, .bool _ | .valueOrClose, .number _
    | .valueOrClose, .string _ =>
      if nests.isEmpty then .ok rest else skip malformed nests .next rest
    | .key, .string _ | .keyOrClose, .string _ => skip malformed nests .colon rest
    | .colon, .colon => skip malformed nests .value rest
    | .next, token =>
      match nests with
      | [] => .error malformed
      | nest :: _ =>
        if token = .comma then skip malformed nests nest.afterComma rest
        else if token = nest.closing then close nests
        else .error malformed
    | _, _ => .error malformed

/-- Passes over one value. -/
def skipValue (malformed : ε) (tokens : List Token) : Except ε (List Token) :=
  skip malformed [] .value tokens

/-! ### Records -/

/-- A field of a record, and how its value is taken into a record that is partly read. -/
structure Field (ε P : Type) where
  name : String
  read : P → Reader ε P

/-- A field whose value may be taken in once. -/
def Field.once (malformed : ε) (name : String) (get : P → Option β) (set : P → β → P)
    (value : Reader ε β) : Field ε P :=
  ⟨name, fun record tokens =>
    match get record with
    | some _ => .error malformed
    | none => do
      let (value, rest) ← value tokens
      return (set record value, rest)⟩

/-- How a record is read. -/
structure Schema (ε P α : Type) where
  malformed : ε
  fields : List (Field ε P)
  /-- The record of which nothing is read yet. -/
  start : P
  /-- The record, if nothing that it needs is missing. -/
  finish : P → Option α
  /-- Whether a list of the fields may leave out the last ones. -/
  mayStopEarly : Bool

namespace Schema

/-- Reads the members of an object from a key on, of which there are at most so many. -/
def members (schema : Schema ε P α) : Nat → P → Reader ε P
  | fuel + 1, record, .string (some key) :: .colon :: tokens => do
    let (record, rest) ←
      match schema.fields.find? fun field => field.name.toList = key with
      | some field => field.read record tokens
      | none => (skipValue schema.malformed tokens).map fun rest => (record, rest)
    match rest with
    | .comma :: rest => schema.members fuel record rest
    | .closeBrace :: rest => return (record, rest)
    | _ => .error schema.malformed
  | _, _, _ => .error schema.malformed

/-- Reads the values of some fields as the rest of a list, from after the bracket or a value. -/
def values (schema : Schema ε P α) (first : Bool) :
    List (Field ε P) → P → Reader ε P
  | [], record, .closeBracket :: rest => return (record, rest)
  | field :: fields, record, tokens => do
    match tokens, first with
    | .closeBracket :: rest, _ =>
      if schema.mayStopEarly then return (record, rest) else .error schema.malformed
    | tokens, true =>
      let (record, rest) ← field.read record tokens
      schema.values false fields record rest
    | .comma :: tokens, false =>
      let (record, rest) ← field.read record tokens
      schema.values false fields record rest
    | _, false => .error schema.malformed
  | [], _, _ => .error schema.malformed

/-- Reads a record. -/
def read (schema : Schema ε P α) : Reader ε α := fun tokens => do
  let (record, rest) ←
    match tokens with
    | .openBrace :: .closeBrace :: rest => .ok (schema.start, rest)
    | .openBrace :: rest => schema.members rest.length schema.start rest
    | .openBracket :: rest => schema.values true schema.fields schema.start rest
    | _ => .error schema.malformed
  match schema.finish record with
  | some record => return (record, rest)
  | none => .error schema.malformed

end Schema

/-! ### Values -/

/-- Reads a string. -/
def readString (malformed : ε) : Reader ε (List Char)
  | .string (some content) :: rest => .ok (content, rest)
  | _ => .error malformed

/-- Reads a value that may be null. -/
def readOptional (value : Reader ε β) : Reader ε (Option β)
  | .null :: rest => .ok (none, rest)
  | tokens => do
    let (value, rest) ← value tokens
    return (some value, rest)

/-- The number that decimal digits spell. -/
def natOf (digits : List Char) : Nat :=
  digits.foldl (fun n c => n * 10 + (c.toNat - '0'.toNat)) 0

/-- Reads an unsigned word of 64 bits, written with digits alone. -/
def readWord (malformed : ε) : Reader ε UInt64
  | .number lexeme :: rest =>
    if lexeme.all Char.isDigit && natOf lexeme < UInt64.size then
      .ok ((natOf lexeme).toUInt64, rest)
    else .error malformed
  | _ => .error malformed

/-- Reads a text that holds one value and nothing else. -/
def readText (malformed : ε) (value : Reader ε α) (text : List Char) : Except ε α := do
  match ← value (tokens text) with
  | (value, []) => .ok value
  | (_, _ :: _) => .error malformed

end AssetCache.Json
