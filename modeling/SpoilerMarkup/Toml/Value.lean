/-!
TOML values.
-/
namespace SpoilerMarkup.Toml

inductive Value where
  | string (value : String)
  | integer (value : Int)
  /-- A float, as it is written. -/
  | float (text : String)
  | boolean (value : Bool)
  /-- A date, a time or both, as they are written. -/
  | datetime (text : String)
  | array (elements : List Value)
  | table (entries : List (String × Value))
  deriving Repr

/-- The entries of a table in the order in which their keys came up. -/
abbrev Table := List (String × Value)

end SpoilerMarkup.Toml
