import SpoilerMarkup.Toml.Value

/-!
A TOML document while it is being read. What may still be added to a table depends on how the
table came about. Main definitions: `Draft.openTable?`, `Draft.openElement?` and
`Draft.assign?`, which fail where a key is taken.
-/
namespace SpoilerMarkup.Toml

/-- How a table came about: by a header of a table inside it, by a dotted key, or by a header of its
own. -/
inductive Origin where
  | implied
  | dotted
  | header
  deriving DecidableEq, Repr

inductive Draft where
  | value (value : Value)
  | table (origin : Origin) (entries : List (String × Draft))
  /-- The tables of an array that headers build, newest first. -/
  | elements (tables : List (List (String × Draft)))

namespace Draft

abbrev Entries := List (String × Draft)

def put (key : String) (draft : Draft) : Entries → Entries
  | [] => [(key, draft)]
  | (k, d) :: rest => if k = key then (key, draft) :: rest else (k, d) :: put key draft rest

/-- Follows the path of a header, making tables where there are none, and opens what is to be there
under the last key. An array stands for its last table. -/
def openAt? (openKey? : String → Entries → Option Entries) :
    List String → Entries → Option Entries
  | [], _ => none
  | [key], entries => openKey? key entries
  | key :: path, entries =>
    match entries.lookup key with
    | none => (openAt? openKey? path []).map fun inner => put key (.table .implied inner) entries
    | some (.table origin inner) =>
      (openAt? openKey? path inner).map fun inner => put key (.table origin inner) entries
    | some (.elements (last :: earlier)) =>
      (openAt? openKey? path last).map fun last => put key (.elements (last :: earlier)) entries
    | some _ => none

/-- Opens the table with a path for its own header. -/
def openTable? : List String → Entries → Option Entries :=
  openAt? fun key entries =>
    match entries.lookup key with
    | none => some (put key (.table .header []) entries)
    | some (.table .implied inner) => some (put key (.table .header inner) entries)
    | some _ => none

/-- Opens another element of the array with a path. -/
def openElement? : List String → Entries → Option Entries :=
  openAt? fun key entries =>
    match entries.lookup key with
    | none => some (put key (.elements [[]]) entries)
    | some (.elements tables) => some (put key (.elements ([] :: tables)) entries)
    | some _ => none

/-- Gives a value to a dotted key, which must be new. A dotted key leads through no table that has
a header of its own. Its last part stands in a table that a dotted key has made, and not in one that
headers have made on their way or as an element of an array. -/
def assign? (value : Value) : List String → Entries → Option Entries
  | [], _ => none
  | [key], entries =>
    match entries.lookup key with
    | none => some (put key (.value value) entries)
    | some _ => none
  | key :: path, entries =>
    match entries.lookup key with
    | none => (assign? value path []).map fun inner => put key (.table .dotted inner) entries
    | some (.table .header _) => none
    | some (.table .dotted inner) =>
      (assign? value path inner).map fun inner => put key (.table .dotted inner) entries
    | some (.table .implied inner) =>
      if path.length = 1 then none
      else (assign? value path inner).map fun inner => put key (.table .implied inner) entries
    | some (.elements (last :: earlier)) =>
      if path.length = 1 then none
      else (assign? value path last).map fun last => put key (.elements (last :: earlier)) entries
    | some _ => none

def assignUnder? (key : List String) (value : Value) : List String → Entries → Option Entries
  | [], entries => assign? value key entries
  | header :: path, entries =>
    match entries.lookup header with
    | some (.table origin inner) =>
      (assignUnder? key value path inner).map fun inner => put header (.table origin inner) entries
    | some (.elements (last :: earlier)) =>
      (assignUnder? key value path last).map fun last =>
        put header (.elements (last :: earlier)) entries
    | _ => none

mutual

def toValue : Draft → Value
  | .value v => v
  | .table _ entries => .table (toTable entries)
  | .elements tables => .array (toElements tables [])

def toTable : Entries → Table
  | [] => []
  | (key, draft) :: rest => (key, toValue draft) :: toTable rest

/-- The tables of an array in their order, before `later` ones. -/
def toElements : List Entries → List Value → List Value
  | [], later => later
  | last :: earlier, later => toElements earlier (.table (toTable last) :: later)

end

end Draft

end SpoilerMarkup.Toml
