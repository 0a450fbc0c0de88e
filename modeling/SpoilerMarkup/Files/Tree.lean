import SpoilerMarkup.Files

/-!
A tree of files and directories, what paths lead to in it, and how it changes when a file is
written. A file is emptied when it is opened to be written, and not all that is to be written need
fit in it. Main definitions: `FileTree.find`, `FileTree.view` and `FileTree.write`.
-/
namespace SpoilerMarkup

inductive Access where
  | read
  | write
  deriving DecidableEq, Repr

/-- Files by the directories that lead to them from the top. The directories are those on the
way to a file and those that are named. -/
structure FileTree where
  files : List (List String × ByteArray)
  directories : List (List String)
  /-- Whether there is nothing above the topmost directory, so that paths can start at it. Where
  there is something it is not in the tree. -/
  whole : Bool := false
  /-- Why the system does not open a file, if it does not. -/
  refusal : Access → List String → Option FileError := fun _ _ => none
  /-- How many bytes a file can hold, and why it can hold no more, if there is a bound. -/
  bound : List String → Option (Nat × FileError) := fun _ => none

namespace FileTree

def isDirectory (tree : FileTree) (parts : List String) : Bool :=
  parts.isEmpty || tree.directories.any (parts.isPrefixOf ·) ||
    tree.files.any fun (path, _) => parts.isPrefixOf path && parts.length < path.length

inductive Place where
  | directory (parts : List String)
  /-- A directory that the tree does not hold, above its topmost one. -/
  | above
  | file (parts : List String) (content : ByteArray)
  | free (parts : List String)

/-- The place above the topmost directory. With nothing above it, this is the directory itself. -/
def aboveTop (tree : FileTree) : Place :=
  if tree.whole then .directory [] else .above

def maxNameLength : Nat := 255

def enter (tree : FileTree) (parts : List String) (name : String) : Except FileError Place :=
  if name = "" || name = "." then .ok (.directory parts)
  else if name = ".." then
    .ok (if parts.isEmpty then tree.aboveTop else .directory parts.dropLast)
  else if maxNameLength < name.utf8ByteSize then .error .nameTooLong
  else
    let target := parts ++ [name]
    match tree.files.lookup target with
    | some content => .ok (.file target content)
    | none =>
      if tree.isDirectory target then .ok (.directory target) else .ok (.free target)

/-- The place that some names lead to, one after the other. All but the last must lead to a
directory. -/
def follow (tree : FileTree) : Place → List String → Except FileError Place
  | place, [] => .ok place
  | .directory parts, name :: names => do follow tree (← tree.enter parts name) names
  | .above, name :: names =>
    if name = "" || name = "." || name = ".." then follow tree .above names
    else .error .notFound
  | .file .., _ :: _ => .error .notADirectory
  | .free _, _ :: _ => .error .notFound

def base (tree : FileTree) (cwd : List String) (text : String) : Place :=
  if text.toList.head? = some '/' then tree.aboveTop else .directory cwd

def find (tree : FileTree) (cwd : List String) : Path → Except FileError Place
  | .absolute parts => tree.follow (.directory []) parts
  | .given text =>
    if text.isEmpty || text.toList.contains '\x00' then .error .notFound
    else tree.follow (tree.base cwd text) (pathNames text)

def view (tree : FileTree) (cwd : List String) : FileView where
  has path :=
    match tree.find cwd path with
    | .ok (.free _) | .error _ => false
    | .ok _ => true
  read path :=
    match tree.find cwd path with
    | .ok (.file parts content) =>
      match tree.refusal .read parts with
      | some cause => .error cause
      | none => .ok content
    | .ok (.free _) => .error .notFound
    | .ok _ => .error .isADirectory
    | .error e => .error e

/-- The place at which a path can make a file. A path that ends in a slash can only name a
directory, whatever there is. -/
def findToWrite (tree : FileTree) (cwd : List String) (path : Path) : Except FileError Place :=
  match path with
  | .given text =>
    if text.toList.getLast? = some '/' then
      (tree.follow (tree.base cwd text) ((pathNames text).filter (· ≠ ""))).bind fun _ =>
        .error .isADirectory
    else tree.find cwd path
  | .absolute _ => tree.find cwd path

def put (tree : FileTree) (parts : List String) (content : ByteArray) : FileTree :=
  { tree with files := (parts, content) :: tree.files.filter (·.1 ≠ parts) }

/-- Opens the file at a path to be written. It is empty then, and there is one if there was none. -/
def create (tree : FileTree) (cwd : List String) (path : Path) :
    Except FileError (List String × FileTree) :=
  match tree.findToWrite cwd path with
  | .ok (.file parts _) | .ok (.free parts) =>
    match tree.refusal .write parts with
    | some cause => .error cause
    | none => .ok (parts, tree.put parts .empty)
  | .ok _ => .error .isADirectory
  | .error cause => .error cause

/-- Writes behind what is in a file, as much as the file can hold. -/
def append (tree : FileTree) (parts : List String) (bytes : ByteArray) :
    Except FileError Unit × FileTree :=
  let content := (tree.files.lookup parts).getD .empty ++ bytes
  match tree.bound parts with
  | some (size, cause) =>
    if size < content.size then (.error cause, tree.put parts (content.extract 0 size))
    else (.ok (), tree.put parts content)
  | none => (.ok (), tree.put parts content)

/-- Writes to the file at a path in place of what is in it: whether all could be written, and the
tree afterwards. -/
def write (tree : FileTree) (cwd : List String) (path : Path) (content : ByteArray) :
    Except FileError Unit × FileTree :=
  match tree.create cwd path with
  | .error cause => (.error cause, tree)
  | .ok (parts, opened) => opened.append parts content

end FileTree

end SpoilerMarkup
