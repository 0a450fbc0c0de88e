import SpoilerMarkup.Toml.Draft
import SpoilerMarkup.Toml.Quoted
import SpoilerMarkup.Toml.Scalar

/-!
Reads a TOML document. Main definition: `Toml.parse?`.
-/
namespace SpoilerMarkup.Toml

def skipBlanks (cs : List Char) : List Char :=
  cs.dropWhile fun c => c = ' ' || c = '\t'

def skipComment : List Char → List Char
  | '#' :: rest => rest.dropWhile isTextChar
  | cs => cs

/-- What follows the end of a line. Before it only a comment may stand. The end of the document
ends a line too. -/
def afterLine? (cs : List Char) : Option (List Char) :=
  match skipComment (skipBlanks cs) with
  | [] => some []
  | rest => afterNewline? rest

/-- Goes over white space, comments and line ends between the values of an array or a table. -/
def skipLines : Nat → List Char → List Char
  | 0, cs => cs
  | fuel + 1, cs =>
    let rest := skipComment (skipBlanks cs)
    match afterNewline? rest with
    | some rest => skipLines fuel rest
    | none => rest

def skipFiller (cs : List Char) : List Char :=
  skipLines cs.length cs

def isBareKeyPart (c : Char) : Bool :=
  c.isAlphanum || c = '_' || c = '-'

def readSimpleKey? (cs : List Char) : Option (String × List Char) :=
  match readShortString? cs with
  | some key => some key
  | none =>
    let key := cs.takeWhile isBareKeyPart
    if key.isEmpty then none else some (String.ofList key, cs.drop key.length)

def readKey? : Nat → List Char → Option (List String × List Char)
  | 0, _ => none
  | fuel + 1, cs =>
    (readSimpleKey? (skipBlanks cs)).bind fun (key, rest) =>
      match skipBlanks rest with
      | '.' :: rest => (readKey? fuel rest).map fun (keys, rest) => (key :: keys, rest)
      | rest => some ([key], rest)

mutual

/-- A value, and what follows it. `nesting` arrays and tables may still be opened inside each
other. -/
def readValue? : Nat → Nat → List Char → Option (Value × List Char)
  | 0, _, _ => none
  | fuel + 1, nesting, cs =>
    match cs with
    | '[' :: rest =>
      if nesting = 0 then none
      else (readElements? fuel (nesting - 1) rest).map fun (values, rest) => (.array values, rest)
    | '\x7b' :: rest =>
      if nesting = 0 then none
      else
        (readEntries? fuel (nesting - 1) [] rest).map fun (entries, rest) =>
          (.table (Draft.toTable entries), rest)
    | '"' :: _ | '\'' :: _ => (readString? cs).map fun (value, rest) => (.string value, rest)
    | _ =>
      let (word, rest) := Scalar.readWord cs
      (Scalar.ofWord? word).map (·, rest)

/-- The rest of an array. A comma may stand behind its last value. -/
def readElements? : Nat → Nat → List Char → Option (List Value × List Char)
  | 0, _, _ => none
  | fuel + 1, nesting, cs =>
    match skipFiller cs with
    | ']' :: rest => some ([], rest)
    | cs =>
      (readValue? fuel nesting cs).bind fun (value, rest) =>
        match skipFiller rest with
        | ',' :: rest =>
          (readElements? fuel nesting rest).map fun (values, rest) => (value :: values, rest)
        | ']' :: rest => some ([value], rest)
        | _ => none

/-- The rest of an inline table that has some entries. A comma may stand behind its last one. -/
def readEntries? : Nat → Nat → Draft.Entries → List Char → Option (Draft.Entries × List Char)
  | 0, _, _, _ => none
  | fuel + 1, nesting, entries, cs =>
    match skipFiller cs with
    | '\x7d' :: rest => some (entries, rest)
    | cs =>
      (readAssignment? fuel nesting cs).bind fun (key, value, rest) =>
        (Draft.assign? value key entries).bind fun entries =>
          match skipFiller rest with
          | ',' :: rest => readEntries? fuel nesting entries rest
          | '\x7d' :: rest => some (entries, rest)
          | _ => none

def readAssignment? : Nat → Nat → List Char → Option (List String × Value × List Char)
  | 0, _, _ => none
  | fuel + 1, nesting, cs =>
    match readKey? cs.length cs with
    | some (key, '=' :: rest) =>
      (readValue? fuel nesting (skipBlanks rest)).map fun (value, rest) => (key, value, rest)
    | _ => none

end

def readHeader? (closing : List Char) (cs : List Char) : Option (List String × List Char) :=
  match readKey? cs.length cs with
  | some (path, rest) =>
    if closing.isPrefixOf rest then some (path, rest.drop closing.length) else none
  | none => none

/-- How many arrays and tables may be open inside each other in a value. -/
def maxNesting : Nat := 80

/-- Reads the lines of a document, where `path` is that of the last header. -/
def readDocument? : Nat → List String → Draft.Entries → List Char → Option Draft.Entries
  | 0, _, _, _ => none
  | fuel + 1, path, entries, cs =>
    match skipFiller cs with
    | [] => some entries
    | '[' :: '[' :: rest =>
      (readHeader? [']', ']'] rest).bind fun (path, rest) =>
        (Draft.openElement? path entries).bind fun entries =>
          (afterLine? rest).bind (readDocument? fuel path entries)
    | '[' :: rest =>
      (readHeader? [']'] rest).bind fun (path, rest) =>
        (Draft.openTable? path entries).bind fun entries =>
          (afterLine? rest).bind (readDocument? fuel path entries)
    | cs =>
      (readAssignment? (2 * cs.length) maxNesting cs).bind fun (key, value, rest) =>
        (Draft.assignUnder? key value path entries).bind fun entries =>
          (afterLine? rest).bind (readDocument? fuel path entries)

/-- The root table of a document. A byte order mark may stand before it. -/
def parse? (source : String) : Option Table :=
  let cs := source.toList
  let cs := if cs.head? = some '\ufeff' then cs.tail else cs
  (readDocument? (cs.length + 1) [] [] cs).map Draft.toTable

end SpoilerMarkup.Toml
