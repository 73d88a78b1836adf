import AssetCache.Bytes

/-!
# UTF-8

Reading bytes as UTF-8 from the front, as far as they go. Reading ends at the end of the bytes,
inside a character that the bytes cut off, or at a byte that no continuation can repair.
-/

namespace AssetCache.Text.Utf8

/-- The bytes of a character. -/
def encodeChar (c : Char) : Bytes :=
  let n := c.toNat
  if n < 0x80 then [n.toUInt8]
  else if n < 0x800 then [(0xC0 + n / 0x40).toUInt8, (0x80 + n % 0x40).toUInt8]
  else if n < 0x10000 then
    [(0xE0 + n / 0x1000).toUInt8, (0x80 + n / 0x40 % 0x40).toUInt8, (0x80 + n % 0x40).toUInt8]
  else
    [(0xF0 + n / 0x40000).toUInt8, (0x80 + n / 0x1000 % 0x40).toUInt8,
     (0x80 + n / 0x40 % 0x40).toUInt8, (0x80 + n % 0x40).toUInt8]

/-- The bytes of a text. -/
def encode (text : List Char) : Bytes :=
  text.flatMap encodeChar

/-- What stands at the front of some bytes. -/
inductive Front where
  /-- A whole character, and what follows it. -/
  | char (c : Char) (rest : Bytes)
  /-- The start of a character whose end is missing. -/
  | cutOff
  /-- Nothing that a character could start with. -/
  | malformed
  /-- Nothing at all. -/
  | empty
deriving DecidableEq

/-- Whether a byte continues a character. -/
def isContinuation (byte : UInt8) : Bool :=
  0x80 ≤ byte && byte < 0xC0

/-- The bytes that may follow a first byte; they exclude the overlong forms, the surrogates and
what lies beyond the last character. -/
def second (first : UInt8) : UInt8 × UInt8 :=
  if first = 0xE0 then (0xA0, 0xBF)
  else if first = 0xED then (0x80, 0x9F)
  else if first = 0xF0 then (0x90, 0xBF)
  else if first = 0xF4 then (0x80, 0x8F)
  else (0x80, 0xBF)

/-- How many bytes follow a first byte; none if no character starts with it. -/
def following (first : UInt8) : Option Nat :=
  if first < 0x80 then some 0
  else if first < 0xC2 then none
  else if first < 0xE0 then some 1
  else if first < 0xF0 then some 2
  else if first < 0xF5 then some 3
  else none

/-- The number that the bytes of one character spell. -/
def number (first : UInt8) (others : Bytes) : Nat :=
  let start :=
    match others.length with
    | 0 => first.toNat
    | 1 => first.toNat % 0x20
    | 2 => first.toNat % 0x10
    | _ => first.toNat % 0x08
  others.foldl (fun n byte => n * 0x40 + byte.toNat % 0x40) start

/-- Reads the front of some bytes. -/
def front : Bytes → Front
  | [] => .empty
  | first :: rest =>
    match following first with
    | none => .malformed
    | some count =>
      let others := rest.take count
      let (low, high) := second first
      let fits := (others.take 1).all (fun byte => low ≤ byte && byte ≤ high) &&
        (others.drop 1).all isContinuation
      if !fits then .malformed
      else if others.length < count then .cutOff
      else .char (Char.ofNat (number first others)) (rest.drop count)

theorem length_lt_of_front_eq_char {bytes rest : Bytes} {c : Char}
    (h : front bytes = .char c rest) : rest.length < bytes.length := by
  cases bytes with
  | nil => simp [front] at h
  | cons first others =>
    simp only [front] at h
    split at h
    · simp at h
    · split at h
      · simp at h
      · split at h
        · simp at h
        · simp only [Front.char.injEq] at h
          rw [← h.2]
          simp only [List.length_cons, List.length_drop]
          omega

/-- How reading some bytes ended. -/
inductive End where
  | complete
  | cutOff
  | malformed
deriving DecidableEq

/-- Reads on after some characters, which are given with the last one first. -/
def decodeAfter (before : List Char) (bytes : Bytes) : List Char × End :=
  match _h : front bytes with
  | .empty => (before.reverse, .complete)
  | .cutOff => (before.reverse, .cutOff)
  | .malformed => (before.reverse, .malformed)
  | .char c rest => decodeAfter (c :: before) rest
termination_by bytes.length
decreasing_by exact length_lt_of_front_eq_char _h

/-- The characters at the front of some bytes, and how reading ended. -/
def decode (bytes : Bytes) : List Char × End :=
  decodeAfter [] bytes

/-- The text of some bytes, where a character that is cut off at the end is left out; none if the
bytes are malformed, or if nothing is left of them but the start of a character. -/
def lenient (bytes : Bytes) : Option (List Char) :=
  match decode bytes with
  | (text, .complete) => some text
  | ([], .cutOff) => none
  | (text, .cutOff) => some text
  | (_, .malformed) => none

end AssetCache.Text.Utf8
