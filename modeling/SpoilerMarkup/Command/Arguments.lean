/-!
The arguments of a command line. Options may be written `--name value`, `--name=value`,
`-nvalue`, `-n=value` or `-n value`; short flags may share a dash; `--` ends the options. Main
definition: `Request.ofArguments`.
-/
namespace SpoilerMarkup.Command

structure RenderArguments where
  files : List String := []
  output : Option String := none
  className : Option String := none
  noGfm : Bool := false
  config : Option String := none
  verbose : Bool := false
  deriving DecidableEq, Repr

/-- What a command line asks for when it does not ask for rendering. -/
inductive Inquiry where
  | version
  | help
  | renderHelp
  /-- Nothing, since it is not well formed. -/
  | misuse
  deriving DecidableEq, Repr

inductive Request where
  | render (arguments : RenderArguments)
  | inquire (inquiry : Inquiry)
  deriving DecidableEq, Repr

inductive RenderOption where
  | output
  | className
  | noGfm
  | config
  | verbose
  | help
  deriving DecidableEq, Repr

namespace RenderOption

def ofName? : String → Option RenderOption
  | "output" => some .output
  | "class" => some .className
  | "no-gfm" => some .noGfm
  | "config" => some .config
  | "verbose" => some .verbose
  | "help" => some .help
  | _ => none

def ofLetter? : Char → Option RenderOption
  | 'o' => some .output
  | 'c' => some .config
  | 'v' => some .verbose
  | 'h' => some .help
  | _ => none

def takesValue : RenderOption → Bool
  | .output | .className | .config => true
  | .noGfm | .verbose | .help => false

end RenderOption

inductive Stop where
  | help
  | misuse
  deriving DecidableEq, Repr

namespace RenderArguments

/-- Sets an option to a value. No option can be set twice, and no path can be empty. -/
def setValue (a : RenderArguments) (option : RenderOption) (value : String) :
    Except Stop RenderArguments :=
  match option with
  | .output =>
    if a.output.isSome || value.isEmpty then .error .misuse else .ok { a with output := some value }
  | .className =>
    if a.className.isSome then .error .misuse else .ok { a with className := some value }
  | .config =>
    if a.config.isSome || value.isEmpty then .error .misuse else .ok { a with config := some value }
  | .noGfm | .verbose | .help => .error .misuse

def setFlag (a : RenderArguments) : RenderOption → Except Stop RenderArguments
  | .noGfm => if a.noGfm then .error .misuse else .ok { a with noGfm := true }
  | .verbose => if a.verbose then .error .misuse else .ok { a with verbose := true }
  | .help => .error .help
  | .output | .className | .config => .error .misuse

def addFile (a : RenderArguments) (file : String) : Except Stop RenderArguments :=
  if file.isEmpty then .error .misuse else .ok { a with files := a.files ++ [file] }

/-- Whether an argument is an option and no value. A single dash is a value. -/
def isOption (argument : String) : Bool :=
  match argument.toList with
  | '-' :: _ :: _ => true
  | _ => false

/-- Reads the letters behind a dash. An option that takes a value takes the rest of them; if
nothing is left, it is still to get its value. -/
def readLetters (a : RenderArguments) :
    List Char → Except Stop (RenderArguments × Option RenderOption)
  | [] => .ok (a, none)
  | c :: rest =>
    match RenderOption.ofLetter? c with
    | none => .error .misuse
    | some option =>
      if option.takesValue then
        match rest with
        | [] => .ok (a, some option)
        | '=' :: value => (a.setValue option (String.ofList value)).map (·, none)
        | value => (a.setValue option (String.ofList value)).map (·, none)
      else
        match a.setFlag option with
        | .ok a => readLetters a rest
        | .error stop => .error stop

def readName (a : RenderArguments) (cs : List Char) :
    Except Stop (RenderArguments × Option RenderOption) :=
  let name := cs.takeWhile (· ≠ '=')
  match RenderOption.ofName? (String.ofList name) with
  | none => .error .misuse
  | some option =>
    match cs.drop name.length with
    | [] => if option.takesValue then .ok (a, some option) else (a.setFlag option).map (·, none)
    | _ :: value =>
      if option.takesValue then (a.setValue option (String.ofList value)).map (·, none)
      else .error .misuse

/-- Reads arguments. `pending` is an option that is still to get its value. -/
def read (a : RenderArguments) (pending : Option RenderOption) :
    List String → Except Stop RenderArguments
  | [] => if pending.isSome then .error .misuse else .ok a
  | argument :: rest =>
    match pending with
    | some option =>
      if isOption argument then .error .misuse
      else
        match a.setValue option argument with
        | .ok a => read a none rest
        | .error stop => .error stop
    | none =>
      match argument.toList with
      | ['-', '-'] => rest.foldlM addFile a
      | '-' :: '-' :: name =>
        match a.readName name with
        | .ok (a, pending) => read a pending rest
        | .error stop => .error stop
      | '-' :: c :: letters =>
        match a.readLetters (c :: letters) with
        | .ok (a, pending) => read a pending rest
        | .error stop => .error stop
      | _ =>
        match a.addFile argument with
        | .ok a => read a none rest
        | .error stop => .error stop

def orConfig (a : RenderArguments) (config : Option String) : Except Stop RenderArguments :=
  match a.config, config with
  | none, some path => a.setValue .config path
  | _, _ => .ok a

end RenderArguments

/-- What a command line asks for. `config` is the path of a configuration that is taken if no option
gives one. -/
def Request.ofArguments (config : Option String) (arguments : List String) : Request :=
  match arguments with
  | [] => .inquire .misuse
  | "render" :: rest =>
    match (RenderArguments.read {} none rest).bind (·.orConfig config) with
    | .ok arguments => .render arguments
    | .error .help => .inquire .renderHelp
    | .error .misuse => .inquire .misuse
  | ["help"] | ["help", "help"] | "--help" :: _ => .inquire .help
  | ["help", "render"] => .inquire .renderHelp
  | "--version" :: _ => .inquire .version
  | first :: _ =>
    match first.toList with
    | '-' :: 'V' :: _ => .inquire .version
    | '-' :: 'h' :: _ => .inquire .help
    | _ => .inquire .misuse

end SpoilerMarkup.Command
