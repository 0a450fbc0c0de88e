import SpoilerMarkup.Files
import SpoilerMarkup.Text.Quoted

/-!
The configuration of a run, the settings that it is made of, and what can be wrong with it.
Main definitions: `Config.ofSettings`, `Config.validate` and `ConfigError.message`.
-/
namespace SpoilerMarkup

structure Config where
  className : String := "spoiler"
  /-- Whether tables, strikethrough, task lists and alerts are recognised. -/
  gfm : Bool := true
  path : Option Path := none
  deriving DecidableEq, Repr

/-- Settings, each of which may be left open. -/
structure Settings where
  className : Option String := none
  gfm : Option Bool := none
  deriving DecidableEq, Repr

inductive ClassError where
  | empty
  | invalidCharacter (c : Char)
  deriving DecidableEq, Repr

namespace ClassError

def message : ClassError → String
  | .empty => "spoiler.class cannot be empty"
  | .invalidCharacter c => "spoiler.class contains invalid character " ++ Text.quoted c

end ClassError

inductive ConfigError where
  | notFound (path : Path)
  | unreadable (cause : FileError)
  /-- A file was read, but is not a configuration. -/
  | malformed
  | invalid (cause : ClassError)
  deriving DecidableEq, Repr

namespace ConfigError

def message (top : String) : ConfigError → String
  | .notFound path => "Configuration file not found: " ++ path.display top
  | .unreadable cause => "I/O error: " ++ cause.message
  | .malformed => "TOML parse error"
  | .invalid cause => "Configuration error: " ++ cause.message

end ConfigError

namespace Config

/-- Whether a class must not have a character, since it could then not stand as one class
between double quotes. -/
def isForbidden (c : Char) : Bool :=
  Text.isBlank c || c = '"' || c = '\'' || c = '<' || c = '>' || c = '&'

def classError? (className : String) : Option ClassError :=
  if className.isEmpty then some .empty
  else (className.toList.find? isForbidden).map .invalidCharacter

def validate (config : Config) : Except ConfigError Unit :=
  match classError? config.className with
  | some cause => .error (.invalid cause)
  | none => .ok ()

/-- The configuration that two sources give: what the first leaves open is taken from the
second, and what both leave open from the default. -/
def ofSettings (first second : Settings) (path : Option Path) : Config :=
  let default : Config := {}
  { className := (first.className.or second.className).getD default.className
    gfm := (first.gfm.or second.gfm).getD default.gfm
    path }

end Config

end SpoilerMarkup
