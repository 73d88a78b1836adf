import AssetCache.Error
import AssetCache.FilePath
import AssetCache.Text.Quoted
import AssetCache.Token

/-!
# Keys as paths

How a directory store reads a key as a path below its root. A key that would leave the root, or
that has no name at all, is refused. A blob comes in through a temporary file beside its place.
-/

namespace AssetCache.FilePath

/-- Whether a path stays below the directory it is read from: its first piece is a name, and none
goes up. -/
def staysBelow (path : FilePath) : Bool :=
  (path.pieces.head?.any fun piece => !isIdle piece) && !path.pieces.contains upward

/-- The path that a key stands for. -/
def ofKey? (key : String) : Option FilePath :=
  if (ofText key).staysBelow then some (ofText key) else none

/-- The path that a key stands for, or the refusal of the key. -/
def ofKey (key : String) : Except StoreError FilePath :=
  match ofKey? key with
  | some path => .ok path
  | none => .error (.invalid ("invalid blob key: " ++ Text.quoted key))

/-! ### Temporary files -/

/-- A name without what follows its last dot; a dot at the very start does not count. -/
def stem (name : List Char) : List Char :=
  match name.reverse.dropWhile (· ≠ '.') with
  | [] => name
  | [_] => name
  | _ :: before => before.reverse

/-- The name of the file that takes in a blob until it is complete: the stem of its own name and a
token. A name of two dots and a text without a dot has a stem that, with the dot after it, leads
back up; there is no name then, unless something follows the name that is cut off in its place. -/
def temporaryName (name : String) (isLast : Bool) (token : Token) : String :=
  let stem := stem name.toList
  if isLast && stem = ['.'] then upward
  else String.ofList stem ++ "." ++ token.plainText ++ ".tmp"

/-- The path of the temporary file for what lies at the end of a path. -/
def temporary (path : FilePath) (token : Token) : FilePath :=
  match path.backward with
  | [] => path
  | name :: above =>
    ⟨(temporaryName name (path.pieces.getLast? = some name) token :: above).reverse⟩

end AssetCache.FilePath
