/-!
Lines of a document and positions in them. A tab reaches to the next column that is a
multiple of four; if only part of it is used up, the rest remains as pending spaces. Main
definitions: `Line.ofText` and `Cursor`.
-/
namespace SpoilerMarkup.Markdown

/-- Space, tab, vertical tab and form feed: white space that does not end a line. -/
def isGap (c : Char) : Bool :=
  c = ' ' || c = '\t' || c = '\x0b' || c = '\x0c'

def isNewline (c : Char) : Bool :=
  c = '\n' || c = '\r'

def isGapOrNewline (c : Char) : Bool :=
  isGap c || isNewline c

def isAsciiPunctuation (c : Char) : Bool :=
  33 ≤ c.toNat && c.toNat ≤ 126 && !c.isAlphanum

/-- What follows the end of a line that stands at the front. The end of the text counts as
the end of a line. -/
def afterLineEnd? : List Char → Option (List Char)
  | [] => some []
  | '\r' :: '\n' :: rest => some rest
  | c :: rest => if isNewline c then some rest else none

def atLineEnd (cs : List Char) : Bool :=
  (afterLineEnd? cs).isSome

def isBlankLine (cs : List Char) : Bool :=
  atLineEnd (cs.dropWhile isGap)

def withoutLineEnd (cs : List Char) : List Char :=
  cs.takeWhile (!isNewline ·)

def trimEnd (p : Char → Bool) (cs : List Char) : List Char :=
  (cs.reverse.dropWhile p).reverse

def consumed (cs rest : List Char) : List Char :=
  cs.take (cs.length - rest.length)

/-- A line, with the characters that end it. -/
abbrev Line := List Char

/-- The lines of a text. A carriage return that no line feed follows ends a line too. -/
def Line.ofText : List Char → List Line
  | [] => []
  | '\r' :: '\n' :: rest => ['\r', '\n'] :: ofText rest
  | c :: rest =>
    if isNewline c then [c] :: ofText rest
    else
      match ofText rest with
      | [] => [[c]]
      | line :: lines => (c :: line) :: lines

structure Cursor where
  rest : List Char
  /-- The number of characters since the last tab. -/
  column : Nat := 0
  /-- The columns that are left of a tab that has been used up in part. -/
  pending : Nat := 0
  moved : Bool := false

namespace Cursor

/-- Goes over the spaces and tabs that fill at most `n` columns, and returns how many of these
are left to fill. -/
def skipFresh : Nat → Nat → List Char → Nat × Cursor
  | 0, column, rest => (0, { rest, column })
  | n + 1, column, ' ' :: rest => skipFresh n (column + 1) rest
  | n + 1, column, '\t' :: rest =>
    let width := 4 - column % 4
    if width ≤ n + 1 then skipFresh (n + 1 - width) 0 rest
    else (0, { rest, column := 0, pending := width - (n + 1) })
  | n + 1, column, rest => (n + 1, { rest, column })
termination_by _ _ rest => rest.length

def skipColumns (n : Nat) (cursor : Cursor) : Nat × Cursor :=
  if n ≤ cursor.pending then (n, { cursor with pending := cursor.pending - n })
  else
    let (left, after) := skipFresh (n - cursor.pending) cursor.column cursor.rest
    let moved := cursor.moved || decide (after.rest.length < cursor.rest.length)
    (n - left, { after with moved })

def skipSpaces (cursor : Cursor) : Cursor :=
  let rest := cursor.rest.dropWhile fun c => c = ' ' || c = '\t'
  let moved := cursor.moved || decide (rest.length < cursor.rest.length)
  { cursor with rest, pending := 0, moved }

def advance (n : Nat) (cursor : Cursor) : Cursor :=
  { cursor with
    rest := cursor.rest.drop n
    column := cursor.column + n
    moved := cursor.moved || decide (0 < n) }

def atLineEnd (cursor : Cursor) : Bool :=
  match cursor.rest with
  | [] => true
  | c :: _ => isNewline c

end Cursor

end SpoilerMarkup.Markdown
