import SpoilerMarkup.Config
import SpoilerMarkup.Toml.Document

/-!
Finds and reads a configuration. A file that is asked for by name is taken, or else the
nearest one in the working directory and those above it. Main definitions:
`Config.discover?`, `Settings.ofToml?` and `Config.load`.
-/
namespace SpoilerMarkup

namespace Settings

/-- A setting in a section of a document. A section may be an array, whose first element is then
the setting, or a date, which has no settings. There is no answer if the section is of another
kind. -/
def field? (document : Toml.Table) (sectionName name : String) : Option (Option Toml.Value) :=
  match document.lookup sectionName with
  | none => some none
  | some (.table entries) => some (entries.lookup name)
  | some (.array values) => some values.head?
  | some (.datetime _) => some none
  | some _ => none

def string? : Option Toml.Value → Option (Option String)
  | none => some none
  | some (.string value) => some (some value)
  | some _ => none

def boolean? : Option Toml.Value → Option (Option Bool)
  | none => some none
  | some (.boolean value) => some (some value)
  | some _ => none

def ofDocument? (document : Toml.Table) : Option Settings := do
  let className ← string? (← field? document "spoiler" "class")
  let gfm ← boolean? (← field? document "markdown" "gfm")
  return { className, gfm }

def ofToml? (text : String) : Option Settings :=
  (Toml.parse? text).bind ofDocument?

end Settings

namespace Config

def fileName : String := "spoiler.toml"

/-- The nearest configuration file, looked for in a directory whose names are given from the last to
the first, and then in the one above it. -/
def discoverFrom? (has : List String → Bool) (names : List String) : Option (List String) :=
  if has (names.reverse ++ [fileName]) then some (names.reverse ++ [fileName])
  else
    match names with
    | [] => none
    | _ :: above => discoverFrom? has above

def discover? (has : List String → Bool) (directory : List String) : Option (List String) :=
  discoverFrom? has directory.reverse

/-- The files that a search from a directory may look at. -/
def candidates (directory : List String) : List (List String) :=
  (List.range (directory.length + 1)).map fun n => directory.take n ++ [fileName]

def readSettings (files : FileView) (path : Path) : Except ConfigError Settings :=
  match files.readText path with
  | .error cause => .error (.unreadable cause)
  | .ok text =>
    match Settings.ofToml? text with
    | some settings => .ok settings
    | none => .error .malformed

/-- The file to read: the one that is asked for, which must exist, or else the nearest one. -/
def locate (files : FileView) (directory : List String) (asked : Option Path) :
    Except ConfigError (Option Path) :=
  match asked with
  | some path => if files.has path then .ok (some path) else .error (.notFound path)
  | none => .ok ((discover? (fun parts => files.has (.absolute parts)) directory).map .absolute)

/-- Loads the configuration for a working directory. What `overrides` leaves open is taken from
the file. -/
def load (files : FileView) (directory : List String) (asked : Option Path)
    (overrides : Settings) : Except ConfigError Config := do
  let path ← locate files directory asked
  let settings ←
    match path with
    | some path => readSettings files path
    | none => pure {}
  let config := ofSettings overrides settings path
  config.validate
  return config

end Config

end SpoilerMarkup
