import AssetCache.Bytes

/-!
# SHA-1

The secure hash algorithm with a digest of 160 bits, fed one byte at a time. Feeding is a left
fold, so content may arrive in pieces of any size (`feed_append`).
-/

namespace AssetCache.Sha1

/-- The five words that are chained from block to block. -/
structure Words where
  a : UInt32
  b : UInt32
  c : UInt32
  d : UInt32
  e : UInt32
deriving DecidableEq

/-- The words before the first block. -/
def Words.initial : Words :=
  ⟨0x67452301, 0xEFCDAB89, 0x98BADCFE, 0x10325476, 0xC3D2E1F0⟩

/-- Rotation of a word to the left, by less than its width. -/
def rotateLeft (word : UInt32) (distance : UInt32) : UInt32 :=
  (word <<< distance) ||| (word >>> (32 - distance))

/-- The word that four bytes spell, the first byte highest. -/
def wordOf (a b c d : UInt8) : UInt32 :=
  (a.toUInt32 <<< 24) ||| (b.toUInt32 <<< 16) ||| (c.toUInt32 <<< 8) ||| d.toUInt32

/-- The words that a block spells; bytes beyond a multiple of four are dropped. -/
def wordsOf : Bytes → List UInt32
  | a :: b :: c :: d :: rest => wordOf a b c d :: wordsOf rest
  | _ => []

/-- The message schedule: sixteen words of a block, extended to eighty. -/
def schedule (block : Bytes) : Array UInt32 :=
  (List.range 64).foldl
    (fun words t =>
      words.push (rotateLeft
        (words.getD (t + 13) 0 ^^^ words.getD (t + 8) 0 ^^^ words.getD (t + 2) 0 ^^^
          words.getD t 0) 1))
    (wordsOf block).toArray

/-- One round: the choice function and constant depend on the quarter that the round is in. -/
def round (words : Words) (t : Nat) (word : UInt32) : Words :=
  let (f, k) :=
    if t < 20 then ((words.b &&& words.c) ||| (~~~words.b &&& words.d), 0x5A827999)
    else if t < 40 then (words.b ^^^ words.c ^^^ words.d, 0x6ED9EBA1)
    else if t < 60 then
      ((words.b &&& words.c) ||| (words.b &&& words.d) ||| (words.c &&& words.d), 0x8F1BBCDC)
    else (words.b ^^^ words.c ^^^ words.d, (0xCA62C1D6 : UInt32))
  ⟨rotateLeft words.a 5 + f + words.e + k + word, words.a, rotateLeft words.b 30, words.c,
    words.d⟩

/-- The words after one more block of sixty-four bytes. -/
def compress (words : Words) (block : Bytes) : Words :=
  let plan := schedule block
  let last := (List.range 80).foldl (fun now t => round now t (plan.getD t 0)) words
  ⟨words.a + last.a, words.b + last.b, words.c + last.c, words.d + last.d, words.e + last.e⟩

/-- A hash under way: the chained words, the bytes of the block begun (last first) and the
number of bytes so far. -/
structure Hasher where
  words : Words
  begun : Bytes
  length : Nat
deriving DecidableEq

namespace Hasher

/-- The hash of nothing yet. -/
def initial : Hasher :=
  ⟨Words.initial, [], 0⟩

/-- Takes one byte in. -/
def push (hasher : Hasher) (byte : UInt8) : Hasher :=
  let begun := byte :: hasher.begun
  let length := hasher.length + 1
  if length % 64 = 0 then ⟨compress hasher.words begun.reverse, [], length⟩
  else ⟨hasher.words, begun, length⟩

/-- Takes some bytes in, in order. -/
def feed (hasher : Hasher) (bytes : Bytes) : Hasher :=
  bytes.foldl push hasher

@[simp] theorem feed_nil (hasher : Hasher) : hasher.feed [] = hasher := rfl

theorem feed_append (hasher : Hasher) (front back : Bytes) :
    hasher.feed (front ++ back) = (hasher.feed front).feed back :=
  List.foldl_append

/-- A number in as many bytes as asked for, the highest first. -/
def bigEndian (size number : Nat) : Bytes :=
  (List.range size).map fun i => (number >>> (8 * (size - 1 - i))).toUInt8

/-- What is appended to content of some length: a one bit, zeros up to the end of a block less
eight bytes, and the length in bits. -/
def padding (length : Nat) : Bytes :=
  0x80 :: List.replicate ((119 - length % 64) % 64) 0 ++ bigEndian 8 (8 * length)

/-- The digest of everything taken in. -/
def finish (hasher : Hasher) : Bytes :=
  let words := (hasher.feed (padding hasher.length)).words
  [words.a, words.b, words.c, words.d, words.e].flatMap fun word => bigEndian 4 word.toNat

end Hasher

/-- The digest of some content. -/
def digest (content : Bytes) : Bytes :=
  (Hasher.initial.feed content).finish

/-- The digest as lowercase hexadecimal text. -/
def hexDigest (content : Bytes) : String :=
  Bytes.toHex (digest content)

end AssetCache.Sha1
