/-!
# Paths

A path is kept as it is written: as the pieces between its slashes, read from some directory on.
Empty pieces and single dots lead nowhere, but they count for the length of a path, and those after
the last name say what that name has to be.
-/

namespace AssetCache

/-- A text cut wherever there is a mark. -/
def cut (mark : Char) : List Char → List (List Char)
  | [] => [[]]
  | c :: rest =>
    if c = mark then [] :: cut mark rest
    else
      match cut mark rest with
      | [] => [[c]]
      | piece :: more => (c :: piece) :: more

/-- What is written after the last name of a path. -/
inductive PathEnding where
  /-- Nothing. -/
  | plain
  /-- Slashes. -/
  | slash
  /-- The dot that stands for a directory itself. -/
  | dot
deriving DecidableEq

/-- A path, as the pieces between its slashes. -/
structure FilePath where
  pieces : List String
deriving DecidableEq

namespace FilePath

/-- The path that a text stands for. -/
def ofText (text : String) : FilePath :=
  ⟨(cut '/' text.toList).map String.ofList⟩

/-! ### Pieces -/

/-- Whether a piece leads nowhere: it is empty, or the dot that stays where it is. -/
def isIdle (piece : String) : Bool :=
  piece = "" || piece = "."

/-- The piece that leads one directory up. -/
def upward : String := ".."

/-- The greatest length of a name, in bytes. -/
def nameLimit : Nat := 255

/-- Whether a name is too long. -/
def isLong (name : String) : Bool :=
  nameLimit < name.utf8ByteSize

/-- Whether a piece holds the character that no path can hold. -/
def isBroken (piece : String) : Bool :=
  piece.toList.contains '\x00'

/-- What pieces say of the name before them, if none of them leads on. -/
def ending? (pieces : List String) : Option PathEnding :=
  if pieces.any fun piece => !isIdle piece then none
  else if pieces.contains "." then some .dot
  else if pieces.isEmpty then some .plain
  else some .slash

/-! ### Whole paths -/

/-- A path of this length, in bytes, is too long. -/
def lengthLimit : Nat := 4096

/-- The length of a path in bytes, where it is written after one of the length `depth`. -/
def length (depth : Nat) (path : FilePath) : Nat :=
  path.pieces.foldl (fun length piece => length + 1 + piece.utf8ByteSize) depth

/-- Whether a path holds the character that no path can hold. -/
def hasBroken (path : FilePath) : Bool :=
  path.pieces.any isBroken

/-- The pieces of a path up to the last one that leads somewhere, last first. -/
def backward (path : FilePath) : List String :=
  path.pieces.reverse.dropWhile isIdle

/-- The path without its last step, and without what is idle before that. -/
def parent (path : FilePath) : FilePath :=
  ⟨((path.backward.drop 1).dropWhile isIdle).reverse⟩

/-- A path written after another one; a slash that is there already is not written again. -/
def join (path further : FilePath) : FilePath :=
  if path.pieces.getLast? = some "" then ⟨path.pieces.dropLast ++ further.pieces⟩
  else ⟨path.pieces ++ further.pieces⟩

end FilePath

end AssetCache
