import SpoilerMarkup.Text.Entity.Names

/-!
Character references: `&name;`, `&#65;` and `&#x41;`. Main definition: `Entity.read?`.
-/
namespace SpoilerMarkup.Text.Entity

def hexValue (c : Char) : Nat :=
  if c.isDigit then c.toNat - '0'.toNat
  else if 'a' ≤ c then c.toNat - 'a'.toNat + 10
  else c.toNat - 'A'.toNat + 10

def isHexDigit (c : Char) : Bool :=
  c.isDigit || 'a' ≤ c && c ≤ 'f' || 'A' ≤ c && c ≤ 'F'

def number (base : Nat) (digits : List Char) : Nat :=
  digits.foldl (fun n c => base * n + hexValue c) 0

/-- The character with a code point. Zero, surrogates and what is no code point give the
replacement character. -/
def character (n : Nat) : Char :=
  if n = 0 || !n.isValidChar then '\ufffd' else Char.ofNat n

/-- A number of at least one and at most `limit` digits that a semicolon follows. -/
def readNumber? (isDigit : Char → Bool) (base limit : Nat) (cs : List Char) :
    Option (String × List Char) :=
  let digits := (cs.takeWhile isDigit).take limit
  match cs.drop digits.length with
  | ';' :: rest =>
    if digits.isEmpty then none else some ((character (number base digits)).toString, rest)
  | _ => none

def text? (name : String) : Option String :=
  match name.toList with
  | [] => none
  | c :: _ => ((beginningWith c).lookup name).map fun ns => String.ofList (ns.map Char.ofNat)

def read? : List Char → Option (String × List Char)
  | '&' :: '#' :: x :: rest =>
    if x = 'x' || x = 'X' then readNumber? isHexDigit 16 6 rest
    else readNumber? Char.isDigit 10 7 (x :: rest)
  | '&' :: rest =>
    let name := rest.takeWhile Char.isAlphanum
    match rest.drop name.length with
    | ';' :: after => (text? (String.ofList name)).map (·, after)
    | _ => none
  | _ => none

end SpoilerMarkup.Text.Entity
