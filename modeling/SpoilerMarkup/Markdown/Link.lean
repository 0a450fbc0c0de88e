import SpoilerMarkup.Markdown.Line
import SpoilerMarkup.Text.Entity
import SpoilerMarkup.Text.Folding

/-!
The parts of a link: its destination, its title and the label of a reference. Main
definitions: `Link.readInline?` for what may follow the text of a link in parentheses,
`Link.readLabel?` for a label in brackets, and `Link.readDefinition?`.
-/
namespace SpoilerMarkup.Markdown

/-- Resolves backslashes before punctuation and character references. Carriage returns are
left out. -/
def unescape : Nat → List Char → List Char
  | 0, cs => cs
  | _, [] => []
  | fuel + 1, '\\' :: c :: rest =>
    if isAsciiPunctuation c then c :: unescape fuel rest else '\\' :: unescape fuel (c :: rest)
  | fuel + 1, '\r' :: rest => unescape fuel rest
  | fuel + 1, c :: rest =>
    match Text.Entity.read? (c :: rest) with
    | some (value, after) => value.toList ++ unescape fuel after
    | none => c :: unescape fuel rest

def unescaped (cs : List Char) : String :=
  String.ofList (unescape cs.length cs)

namespace Link

def readPointed? : List Char → Option (List Char × List Char)
  | [] => none
  | '\\' :: c :: rest =>
    if isAsciiPunctuation c then (readPointed? rest).map fun (d, r) => ('\\' :: c :: d, r)
    else (readPointed? (c :: rest)).map fun (d, r) => ('\\' :: d, r)
  | '>' :: rest => some ([], rest)
  | c :: rest =>
    if c = '<' || isNewline c then none else (readPointed? rest).map fun (d, r) => (c :: d, r)

def maxNesting : Nat := 32

/-- A destination without angle brackets, which ends at white space, a control character or
an unmatched closing parenthesis. `nesting` parentheses are open. -/
def readPlain? : Nat → List Char → Option (List Char × List Char)
  | nesting, [] => if nesting = 0 then some ([], []) else none
  | nesting, '\\' :: c :: rest =>
    if isAsciiPunctuation c then
      (readPlain? nesting rest).map fun (d, r) => ('\\' :: c :: d, r)
    else (readPlain? nesting (c :: rest)).map fun (d, r) => ('\\' :: d, r)
  | nesting, '(' :: rest =>
    if nesting > maxNesting then none
    else (readPlain? (nesting + 1) rest).map fun (d, r) => ('(' :: d, r)
  | 0, ')' :: rest => some ([], ')' :: rest)
  | nesting + 1, ')' :: rest => (readPlain? nesting rest).map fun (d, r) => (')' :: d, r)
  | nesting, c :: rest =>
    if c.toNat ≤ 0x20 then if nesting = 0 then some ([], c :: rest) else none
    else (readPlain? nesting rest).map fun (d, r) => (c :: d, r)

def readDestination? : List Char → Option (List Char × List Char)
  | '<' :: rest => readPointed? rest
  | cs => readPlain? 0 cs

def titleEnd? (c : Char) : Option Char :=
  if c = '"' || c = '\'' then some c else if c = '(' then some ')' else none

/-- The rest of a title up to its closing mark. White space at the beginning of a line is left
out. `opening` must not come up again unless it also closes the title. -/
def readTitleRest? (opening closing : Char) : Nat → List Char → Option (List Char × List Char)
  | 0, _ => none
  | _, [] => none
  | fuel + 1, '\\' :: c :: rest =>
    if isAsciiPunctuation c then
      (readTitleRest? opening closing fuel rest).map fun (t, r) => (c :: t, r)
    else (readTitleRest? opening closing fuel (c :: rest)).map fun (t, r) => ('\\' :: t, r)
  | fuel + 1, c :: rest =>
    if c = closing then some ([], rest)
    else if c = opening then none
    else if isNewline c then
      let line := ((afterLineEnd? (c :: rest)).getD rest).dropWhile fun c => c = ' ' || c = '\t'
      (readTitleRest? opening closing fuel line).map fun (t, r) => ('\n' :: t, r)
    else
      match Text.Entity.read? (c :: rest) with
      | some (value, after) =>
        (readTitleRest? opening closing fuel after).map fun (t, r) => (value.toList ++ t, r)
      | none => (readTitleRest? opening closing fuel rest).map fun (t, r) => (c :: t, r)

def readTitle? : List Char → Option (List Char × List Char)
  | [] => none
  | c :: rest =>
    match titleEnd? c with
    | some closing => readTitleRest? c closing (rest.length + 1) rest
    | none => none

/-- Goes over white space with at most one end of line in it. -/
def skipSeparator (cs : List Char) : List Char :=
  let cs := cs.dropWhile isGap
  match cs with
  | [] => []
  | _ => ((afterLineEnd? cs).getD cs).dropWhile isGap

/-- The destination and the title that stand in parentheses behind the text of a link, and
what follows them. -/
def readInline? : List Char → Option (String × String × List Char)
  | '(' :: rest =>
    match readDestination? (skipSeparator rest) with
    | none => none
    | some (destination, rest) =>
      let rest := skipSeparator rest
      let (title, rest) :=
        match readTitle? rest with
        | some (title, rest) => (title, skipSeparator rest)
        | none => ([], rest)
      match rest with
      | ')' :: rest => some (unescaped destination, String.ofList title, rest)
      | _ => none
  | _ => none

def maxLabelLength : Nat := 999

def readLabelRest? : List Char → Option (List Char × List Char)
  | [] => none
  | '\\' :: c :: rest => (readLabelRest? rest).map fun (l, r) => ('\\' :: c :: l, r)
  | ']' :: rest => some ([], rest)
  | '[' :: _ => none
  | c :: rest => (readLabelRest? rest).map fun (l, r) => (c :: l, r)

/-- A label with every run of white space as one space, and none at the ends. -/
def collapse (cs : List Char) : String :=
  let words := (cs.map fun c => if isGapOrNewline c then ' ' else c).splitOn ' '
  String.ofList ([' '].intercalate (words.filter (!·.isEmpty)))

def readLabel? : List Char → Option (String × List Char)
  | '[' :: rest =>
    match readLabelRest? rest with
    | some (label, rest) =>
      if label.all isGapOrNewline || maxLabelLength < label.length then none
      else some (collapse label, rest)
    | none => none
  | _ => none

def labelKey (label : String) : String :=
  Text.foldCase label

structure Definition where
  key : String
  url : String
  title : String
  deriving DecidableEq, Repr

/-- A title behind a destination, if nothing else follows it on its line, and otherwise no
title. There is no definition if the line goes on with anything else. -/
def readDefinitionTitle? (cs : List Char) : Option (String × List Char) :=
  let titled :=
    match readTitle? (skipSeparator cs) with
    | some (title, rest) =>
      if (skipSeparator cs).length < cs.length && isBlankLine rest then
        some (String.ofList title, rest.dropWhile isGap)
      else none
    | none => none
  match titled with
  | some titled => some titled
  | none => if isBlankLine cs then some ("", cs.dropWhile isGap) else none

def readDefinition? (cs : List Char) : Option (Definition × List Char) :=
  match readLabel? cs with
  | some (label, ':' :: rest) =>
    let rest := skipSeparator rest
    match readDestination? rest with
    | some (destination, after) =>
      if rest.length = after.length then none
      else
        (readDefinitionTitle? after).map fun (title, rest) =>
          (⟨labelKey label, unescaped destination, title⟩, rest)
    | none => none
  | _ => none

/-- The definition that references with a label lead to: the first one in the document. -/
def find? (definitions : List Definition) (label : String) : Option Definition :=
  definitions.find? (·.key = labelKey label)

end Link

end SpoilerMarkup.Markdown
