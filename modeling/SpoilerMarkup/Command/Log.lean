/-!
Log records and the filter that says which of them are shown. A filter is a list of
directives; the one with the longest target that covers a record decides. Main definitions:
`LogFilter.ofText` and `LogFilter.shows`.
-/
namespace SpoilerMarkup.Command

inductive LogLevel where
  | error | warn | info | debug | trace
  deriving DecidableEq, Repr

namespace LogLevel

/-- How much a level lets through: itself and what is more severe. -/
def verbosity : LogLevel → Nat
  | .error => 1
  | .warn => 2
  | .info => 3
  | .debug => 4
  | .trace => 5

def name : LogLevel → String
  | .error => "ERROR"
  | .warn => "WARN"
  | .info => "INFO"
  | .debug => "DEBUG"
  | .trace => "TRACE"

def verbosityOfName? (word : String) : Option Nat :=
  match String.ofList (word.toList.map Char.toLower) with
  | "off" | "0" => some 0
  | "error" | "1" => some 1
  | "warn" | "2" => some 2
  | "info" | "3" => some 3
  | "debug" | "4" => some 4
  | "trace" | "5" => some 5
  | _ => none

end LogLevel

structure LogRecord where
  level : LogLevel
  target : String
  message : String
  deriving DecidableEq, Repr

def LogRecord.line (record : LogRecord) : String :=
  record.level.name ++ " " ++ record.target ++ ": " ++ record.message ++ "\n"

/-- Lets records of a verbosity through whose target begins with a given text. -/
structure LogDirective where
  target : String
  verbosity : Nat
  deriving DecidableEq, Repr

namespace LogDirective

def covers (directive : LogDirective) (record : LogRecord) : Bool :=
  directive.target.toList.isPrefixOf record.target.toList

/-- A level for all targets, a target for all levels, or a target and its level. A target whose
level is left out has all levels. -/
def ofText? (text : String) : Option LogDirective :=
  match LogLevel.verbosityOfName? text with
  | some verbosity => some ⟨"", verbosity⟩
  | none =>
    match text.splitOn "=" with
    | [target] | [target, ""] =>
      if target.isEmpty then none else some ⟨target, LogLevel.trace.verbosity⟩
    | [target, level] => (LogLevel.verbosityOfName? level).map (⟨target, ·⟩)
    | _ => none

end LogDirective

abbrev LogFilter := List LogDirective

namespace LogFilter

def ofLevel (level : LogLevel) : LogFilter :=
  [⟨"", level.verbosity⟩]

/-- The directives of a text, which commas separate. Without any, errors alone are shown. -/
def ofText (text : String) : LogFilter :=
  match (text.splitOn ",").filterMap LogDirective.ofText? with
  | [] => ofLevel .error
  | directives => directives

/-- The directive that decides about a record: the one with the longest target that covers it. -/
def decisive? (filter : LogFilter) (record : LogRecord) : Option LogDirective :=
  (filter.filter (·.covers record)).foldl
    (fun best directive =>
      match best with
      | some other => if other.target.length ≤ directive.target.length then some directive else best
      | none => some directive)
    none

def shows (filter : LogFilter) (record : LogRecord) : Bool :=
  match filter.decisive? record with
  | some directive => record.level.verbosity ≤ directive.verbosity
  | none => false

end LogFilter

end SpoilerMarkup.Command
