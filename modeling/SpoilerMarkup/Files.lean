/-!
Files as a program sees them: paths, why a file cannot be read or written, and a view of all
files that can be read.
-/
namespace SpoilerMarkup

inductive FileError where
  | notFound
  | notADirectory
  | isADirectory
  | nameTooLong
  | invalidUtf8
  /-- Any other reason, in the words of the system. -/
  | other (message : String)
  deriving DecidableEq, Repr

namespace FileError

def message : FileError → String
  | .notFound => "No such file or directory (os error 2)"
  | .notADirectory => "Not a directory (os error 20)"
  | .isADirectory => "Is a directory (os error 21)"
  | .nameTooLong => "File name too long (os error 36)"
  | .invalidUtf8 => "stream did not contain valid UTF-8"
  | .other message => message

/-- Whether an error says that a path leads nowhere. -/
def isAbsence : FileError → Bool
  | .notFound | .notADirectory | .nameTooLong => true
  | .isADirectory | .invalidUtf8 | .other _ => false

end FileError

inductive Path where
  /-- A name as it was given, to be looked up in the working directory. -/
  | given (text : String)
  /-- The directories from the top down to a file, and its name. -/
  | absolute (parts : List String)
  deriving DecidableEq, Repr

/-- The names in a path as it was given, between the slashes. -/
def pathNames (text : String) : List String :=
  (text.toList.splitOn '/').map String.ofList

/-- A path as it is shown, where `top` is the name of the topmost directory. -/
def Path.display (top : String) : Path → String
  | .given text => text
  | .absolute parts => top ++ String.join (parts.map ("/" ++ ·))

structure FileView where
  has : Path → Bool
  read : Path → Except FileError ByteArray

def FileView.ofList (contents : List (Path × Except FileError ByteArray)) : FileView where
  has path :=
    match contents.lookup path with
    | some (.ok _) => true
    | some (.error cause) => !cause.isAbsence
    | none => false
  read path := (contents.lookup path).getD (.error .notFound)

def decodeUtf8 (bytes : ByteArray) : Except FileError String :=
  match String.fromUTF8? bytes with
  | some text => .ok text
  | none => .error .invalidUtf8

def FileView.readText (files : FileView) (path : Path) : Except FileError String :=
  (files.read path).bind decodeUtf8

end SpoilerMarkup
