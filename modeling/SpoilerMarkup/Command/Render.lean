import SpoilerMarkup.Command.Arguments
import SpoilerMarkup.Command.Log
import SpoilerMarkup.Config.Load
import SpoilerMarkup.Render

/-!
The command that renders files. It loads the configuration, reads and renders the inputs one
after the other, and only then writes anything. Main definitions: `Command.prepare`, which
reads and renders, and `Command.conclude`, which says what comes of it.
-/
namespace SpoilerMarkup.Command

/-- What a command can read: files, the working directory from the top down, the name of the
topmost directory, and standard input. -/
structure Surroundings where
  files : FileView
  directory : List String
  top : String
  input : ByteArray

inductive Failure where
  | config (cause : ConfigError)
  | unreadable (path : String) (cause : FileError)
  | unwritable (cause : FileError)
  deriving DecidableEq, Repr

def Failure.message (top : String) : Failure → String
  | .config cause => cause.message top
  | .unreadable path cause => "failed to read " ++ path ++ ": " ++ cause.message
  | .unwritable cause => cause.message

inductive Notice where
  | log (record : LogRecord)
  | line (text : String)
  deriving DecidableEq, Repr

def Notice.text (filter : LogFilter) : Notice → String
  | .log record => if filter.shows record then record.line else ""
  | .line text => text ++ "\n"

def loadedNotice (top : String) (path : Path) : Notice :=
  .log ⟨.info, "spoiler::commands::render", "Loaded configuration path=" ++ path.display top⟩

def appliedNotice (spoilers : Nat) (className : String) : Notice :=
  .log ⟨.debug, "spoiler::transform",
    "Applied spoiler transform spoilers=" ++ toString spoilers ++ " class=" ++ className⟩

def renderedNotice (path : String) (spoilers : Nat) : Notice :=
  .log ⟨.info, "spoiler::commands::render",
    "Rendered document path=" ++ path ++ " spoilers=" ++ toString spoilers⟩

def totalNotice (documents spoilers : Nat) : Notice :=
  .line ("Rendered " ++ toString documents ++ " documents, " ++ toString spoilers ++ " spoilers")

def writtenNotice (path : String) : Notice :=
  .line ("Wrote " ++ path)

/-- Whether a path names standard input. Slashes and dots behind the dash do not matter. -/
def isStandardInput (path : String) : Bool :=
  match pathNames path with
  | first :: rest => first = "-" && rest.all fun name => name = "" || name = "."
  | [] => false

structure Progress where
  html : String := ""
  spoilers : Nat := 0
  notices : List Notice := []
  /-- Whether standard input has been read, and so has nothing left. -/
  inputRead : Bool := false
  deriving DecidableEq, Repr

def readInput (s : Surroundings) (inputRead : Bool) (path : String) : Except FileError String :=
  if isStandardInput path then if inputRead then .ok "" else decodeUtf8 s.input
  else s.files.readText (.given path)

def Progress.add (p : Progress) (options : RenderOptions) (path markdown : String) : Progress :=
  let rendered := render options markdown
  { html := p.html ++ rendered.html
    spoilers := p.spoilers + rendered.spoilers
    notices := p.notices ++
      [appliedNotice rendered.spoilers options.className, renderedNotice path rendered.spoilers]
    inputRead := p.inputRead || isStandardInput path }

/-- Renders inputs in their order up to the first that cannot be read. -/
def renderInputs (s : Surroundings) (options : RenderOptions) (p : Progress) :
    List String → Progress × Option Failure
  | [] => (p, none)
  | path :: rest =>
    match readInput s p.inputRead path with
    | .ok markdown => renderInputs s options (p.add options path markdown) rest
    | .error cause => (p, some (.unreadable path cause))

/-- What is to be written, or why there is nothing, and what has been said so far. -/
structure Prepared where
  notices : List Notice
  html : Except Failure String

/-- The inputs of a command. Without any, standard input is read. -/
def RenderArguments.inputs (a : RenderArguments) : List String :=
  if a.files.isEmpty then ["-"] else a.files

def RenderArguments.settings (a : RenderArguments) : Settings :=
  { className := a.className, gfm := if a.noGfm then some false else none }

/-- The files that a command may read in a working directory. -/
def RenderArguments.paths (a : RenderArguments) (directory : List String) : List Path :=
  let config :=
    match a.config with
    | some path => [.given path]
    | none => (Config.candidates directory).map .absolute
  config ++ (a.inputs.filter (!isStandardInput ·)).map .given

def prepare (s : Surroundings) (a : RenderArguments) : Prepared :=
  match Config.load s.files s.directory (a.config.map .given) a.settings with
  | .error cause => ⟨[], .error (.config cause)⟩
  | .ok config =>
    let loaded := (config.path.map (loadedNotice s.top)).toList
    match renderInputs s ⟨config.className, config.gfm⟩ {} a.inputs with
    | (p, some failure) => ⟨loaded ++ p.notices, .error failure⟩
    | (p, none) =>
      let total := if 1 < a.inputs.length then [totalNotice a.inputs.length p.spoilers] else []
      ⟨loaded ++ p.notices ++ total, .ok p.html⟩

structure Result where
  exit : Nat
  stdout : String := ""
  stderr : String := ""
  deriving DecidableEq, Repr

def logFilter (a : RenderArguments) (filter : Option String) : LogFilter :=
  if a.verbose then .ofLevel .info else .ofText (filter.getD "")

def stderrOf (filter : LogFilter) (notices : List Notice) : String :=
  String.join (notices.map (·.text filter))

def failed (filter : LogFilter) (top : String) (notices : List Notice) (failure : Failure) :
    Result :=
  { exit := 1, stderr := stderrOf filter (notices ++ [.line ("Error: " ++ failure.message top)]) }

/-- The result of a command that has been prepared. `written` says how the output could be
written, if it goes to a file. -/
def conclude (filter : LogFilter) (top : String) (a : RenderArguments) (prepared : Prepared)
    (written : Except FileError Unit) : Result :=
  match prepared.html, a.output, written with
  | .error failure, _, _ => failed filter top prepared.notices failure
  | .ok _, some _, .error cause => failed filter top prepared.notices (.unwritable cause)
  | .ok _, some path, .ok _ =>
    { exit := 0, stderr := stderrOf filter (prepared.notices ++ [writtenNotice path]) }
  | .ok html, none, _ => { exit := 0, stdout := html, stderr := stderrOf filter prepared.notices }

end SpoilerMarkup.Command
