import SpoilerMarkup.Text.Entity

/-!
Strings in TOML: basic ones with escapes, literal ones without, and both over several lines.
Each reader returns what follows the string.
-/
namespace SpoilerMarkup.Toml

/-- Characters that may stand in strings and comments: all but control characters, of which
the tab is allowed. -/
def isTextChar (c : Char) : Bool :=
  c = '\t' || 0x20 ≤ c.toNat && c.toNat ≠ 0x7f

def afterNewline? : List Char → Option (List Char)
  | '\n' :: rest => some rest
  | '\r' :: '\n' :: rest => some rest
  | _ => none

/-- The character whose code point is written with exactly `n` hexadecimal digits. -/
def readCodePoint? (n : Nat) (cs : List Char) : Option (Char × List Char) :=
  let digits := cs.take n
  let code := Text.Entity.number 16 digits
  if digits.length = n && digits.all Text.Entity.isHexDigit && code.isValidChar then
    some (Char.ofNat code, cs.drop n)
  else none

def readEscape? : List Char → Option (Char × List Char)
  | 'b' :: rest => some ('\x08', rest)
  | 't' :: rest => some ('\t', rest)
  | 'n' :: rest => some ('\n', rest)
  | 'f' :: rest => some ('\x0c', rest)
  | 'r' :: rest => some ('\r', rest)
  | 'e' :: rest => some ('\x1b', rest)
  | '"' :: rest => some ('"', rest)
  | '\\' :: rest => some ('\\', rest)
  | 'x' :: rest => readCodePoint? 2 rest
  | 'u' :: rest => readCodePoint? 4 rest
  | 'U' :: rest => readCodePoint? 8 rest
  | _ => none

def readBasic? : Nat → List Char → Option (List Char × List Char)
  | 0, _ | _, [] => none
  | fuel + 1, c :: rest =>
    if c = '"' then some ([], rest)
    else if c = '\\' then
      (readEscape? rest).bind fun (c, rest) =>
        (readBasic? fuel rest).map fun (value, rest) => (c :: value, rest)
    else if isTextChar c then (readBasic? fuel rest).map fun (value, rest) => (c :: value, rest)
    else none

def readLiteral? : List Char → Option (List Char × List Char)
  | [] => none
  | c :: rest =>
    if c = '\'' then some ([], rest)
    else if isTextChar c then (readLiteral? rest).map fun (value, rest) => (c :: value, rest)
    else none

/-- What follows a backslash at the end of a line: the next character that is no white space. -/
def afterContinuation? (cs : List Char) : Option (List Char) :=
  (afterNewline? (cs.dropWhile fun c => c = ' ' || c = '\t')).map fun rest =>
    rest.dropWhile fun c => c = ' ' || c = '\t' || c = '\n' || c = '\r'

/-- The rest of a string over several lines. At most two quotes may stand before the three that
close it. Line ends become line feeds. -/
def readLines? (quote : Char) (escapes : Bool) : Nat → List Char → Option (List Char × List Char)
  | 0, _ | _, [] => none
  | fuel + 1, c :: rest =>
    let quotes := (((c :: rest).takeWhile (· = quote)).take 5).length
    if 3 ≤ quotes then some (List.replicate (quotes - 3) quote, (c :: rest).drop quotes)
    else if escapes && c = '\\' then
      match afterContinuation? rest with
      | some rest => readLines? quote escapes fuel rest
      | none =>
        (readEscape? rest).bind fun (c, rest) =>
          (readLines? quote escapes fuel rest).map fun (value, rest) => (c :: value, rest)
    else
      match afterNewline? (c :: rest) with
      | some rest =>
        (readLines? quote escapes fuel rest).map fun (value, rest) => ('\n' :: value, rest)
      | none =>
        if isTextChar c then
          (readLines? quote escapes fuel rest).map fun (value, rest) => (c :: value, rest)
        else none

def readShortString? : List Char → Option (String × List Char)
  | '"' :: rest =>
    (readBasic? rest.length rest).map fun (value, rest) => (String.ofList value, rest)
  | '\'' :: rest => (readLiteral? rest).map fun (value, rest) => (String.ofList value, rest)
  | _ => none

/-- A string of any kind. A line end right behind three opening quotes is left out. -/
def readString? (cs : List Char) : Option (String × List Char) :=
  let lines (quote : Char) (escapes : Bool) : Option (String × List Char) :=
    let rest := (afterNewline? (cs.drop 3)).getD (cs.drop 3)
    (readLines? quote escapes rest.length rest).map fun (value, rest) =>
      (String.ofList value, rest)
  if "\"\"\"".toList.isPrefixOf cs then lines '"' true
  else if "'''".toList.isPrefixOf cs then lines '\'' false
  else readShortString? cs

end SpoilerMarkup.Toml
