import SpoilerMarkup.Command.Inquiry

/-!
The program on the files, the streams and the environment of the system.
-/
namespace SpoilerMarkup.Command

/-- An error with its number in the system, which may come negated. -/
def systemError (code : UInt32) (details : String) : FileError :=
  let code := if 0x80000000 ≤ code then 0 - code else code
  match code with
  | 2 => .notFound
  | 20 => .notADirectory
  | 21 => .isADirectory
  | 36 => .nameTooLong
  | _ => .other (details ++ " (os error " ++ toString code ++ ")")

def fileError : IO.Error → FileError
  | .noFileOrDirectory _ code details | .inappropriateType (some _) code details
  | .permissionDenied (some _) code details | .invalidArgument (some _) code details
  | .resourceExhausted (some _) code details | .alreadyExists (some _) code details
  | .inappropriateType none code details | .permissionDenied none code details
  | .invalidArgument none code details | .resourceExhausted none code details
  | .alreadyExists none code details | .otherError code details
  | .noSuchThing _ code details | .resourceBusy code details
  | .unsupportedOperation code details | .hardwareFault code details
  | .illegalOperation code details | .unsatisfiedConstraints code details =>
    systemError code details
  | error => .other (toString error)

def attempt (action : IO α) : IO (Except FileError α) := do
  match ← action.toBaseIO with
  | .ok a => return .ok a
  | .error error => return .error (fileError error)

def readFile (path : Path) : IO (Except FileError ByteArray) :=
  attempt (IO.FS.readBinFile (path.display ""))

partial def readToEnd (stream : IO.FS.Stream) (bytes : ByteArray) : IO ByteArray := do
  let more ← stream.read 65536
  if more.isEmpty then return bytes else readToEnd stream (bytes ++ more)

def runRender (a : RenderArguments) : IO Result := do
  let directory := (pathNames (← IO.currentDir).toString).filter (!·.isEmpty)
  let contents ← (a.paths directory).mapM fun path => return (path, ← readFile path)
  let input ←
    if a.inputs.any isStandardInput then readToEnd (← IO.getStdin) .empty else pure .empty
  let prepared := prepare ⟨.ofList contents, directory, "", input⟩ a
  let written ←
    match a.output, prepared.html with
    | some path, .ok html => attempt (IO.FS.writeBinFile path html.toUTF8)
    | _, _ => pure (.ok ())
  return conclude (logFilter a (← IO.getEnv "RUST_LOG")) "" a prepared written

/-- What is said of arguments that are not well formed. -/
def complaint : List String → String
  | [] => helpText
  | _ =>
    textOfLines
      ["error: the arguments are not well formed",
        "",
        "Usage: spoiler render [OPTIONS] [FILES]...",
        "",
        "For more information, try '--help'."]

end SpoilerMarkup.Command

open SpoilerMarkup.Command

def main (args : List String) : IO UInt32 := do
  let config ← IO.getEnv "SPOILER_CONFIG"
  let result ←
    match Request.ofArguments config args with
    | .render a => runRender a
    | .inquire inquiry => pure (inquiry.result config (complaint args))
  IO.print result.stdout
  IO.eprint result.stderr
  return result.exit.toUInt32
