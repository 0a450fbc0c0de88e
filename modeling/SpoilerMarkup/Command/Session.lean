import SpoilerMarkup.Command.Inquiry
import SpoilerMarkup.Files.Tree

/-!
A run of the program in a tree of files. Main definition: `Session.run`.
-/
namespace SpoilerMarkup.Command

/-- Where a program runs: files, the working directory, standard input, and the parts of the
environment that it looks at. -/
structure Session where
  tree : FileTree
  directory : List String
  top : String
  input : ByteArray
  config : Option String := none
  logFilter : Option String := none
  /-- What the reader of arguments says of some that are not well formed. The words are its own. -/
  complaint : List String → String := fun _ => ""

namespace Session

def surroundings (s : Session) : Surroundings :=
  { files := s.tree.view s.directory
    directory := s.directory
    top := s.top
    input := s.input }

/-- Writes the output if it goes to a file: whether all could be written, and the files
afterwards. -/
def write (s : Session) (output : Option String) (html : Except Failure String) :
    Except FileError Unit × FileTree :=
  match output, html with
  | some path, .ok html => s.tree.write s.directory (.given path) html.toUTF8
  | _, _ => (.ok (), s.tree)

def runRender (s : Session) (a : RenderArguments) : Result × FileTree :=
  let prepared := prepare s.surroundings a
  let (written, tree) := s.write a.output prepared.html
  (conclude (Command.logFilter a s.logFilter) s.top a prepared written, tree)

def run (s : Session) (arguments : List String) : Result × FileTree :=
  match Request.ofArguments s.config arguments with
  | .render a => s.runRender a
  | .inquire inquiry => (inquiry.result s.config (s.complaint arguments), s.tree)

end Session

end SpoilerMarkup.Command
