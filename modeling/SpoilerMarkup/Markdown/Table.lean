import SpoilerMarkup.Tag
import SpoilerMarkup.Markdown.Line

/-!
Rows of tables. A bar separates cells unless a backslash stands before it, whatever else
the row holds. Main definitions: `Table.cells` and `Table.delimiterRow?`.
-/
namespace SpoilerMarkup.Markdown.Table

def consFirst (c : Char) : List (List Char) → List (List Char)
  | [] => [[c]]
  | cs :: rest => (c :: cs) :: rest

/-- What stands before, between and behind the bars of a row. `pairs` says whether two backslashes
protect a bar as one does. -/
def splitAtBars (pairs : Bool) : List Char → List (List Char)
  | [] => [[]]
  | '\\' :: '\\' :: '|' :: rest =>
    let after :=
      if pairs then consFirst '|' (splitAtBars pairs rest) else [] :: splitAtBars pairs rest
    consFirst '\\' (consFirst '\\' after)
  | '\\' :: c :: rest =>
    if isAsciiPunctuation c then consFirst '\\' (consFirst c (splitAtBars pairs rest))
    else consFirst '\\' (splitAtBars pairs (c :: rest))
  | '|' :: rest => [] :: splitAtBars pairs rest
  | c :: rest => consFirst c (splitAtBars pairs rest)

def trimCell (cell : List Char) : List Char :=
  trimEnd isGap (cell.dropWhile isGap)

/-- What a row holds. Nothing need stand before the first bar or behind the last. -/
def pieces (pairs : Bool) (row : List Char) : List (List Char) :=
  let parts := splitAtBars pairs (withoutLineEnd row)
  let parts := if row.head? = some '|' then parts.tail else parts
  match parts.getLast? with
  | some last => if last.all isGap then parts.dropLast else parts
  | none => []

def cells (row : List Char) : List (List Char) :=
  (pieces true row).map trimCell

def fit (width : Nat) (row : List (List Char)) : List (List Char) :=
  (row ++ List.replicate (width - row.length) []).take width

/-- The number of columns that a line has if it is the head of a table. Two backslashes count as
one that is literal here, and protect no bar. -/
def columns? (row : List Char) : Option Nat :=
  if 1 < (splitAtBars false (withoutLineEnd row)).length then some (pieces false row).length
  else none

/-- The alignment that the colons of a delimiter give: one at the front aligns to the left,
one behind a hyphen to the right, and both together to the center. -/
def alignment (marks : List Char) : Alignment :=
  let colon : Alignment → Alignment
    | .none => .right
    | .left => .center
    | alignment => alignment
  let front := if marks.head? = some ':' then Alignment.left else .none
  marks.tail.foldl (fun alignment c => if c = ':' then colon alignment else alignment) front

def delimiterAlignment? (delimiter : List Char) : Option Alignment :=
  let marks := delimiter.filter (· ≠ ' ')
  if marks.all (fun c => c = '-' || c = ':') && marks.contains '-' then some (alignment marks)
  else none

def delimiterRow? (cursor : Cursor) : Option (List Alignment) :=
  let (indent, cursor) := cursor.skipColumns 4
  if 3 < indent then none
  else
    let row := withoutLineEnd cursor.rest
    if !row.contains '|' then none
    else
      let parts := row.splitOn '|'
      let parts := if row.head? = some '|' then parts.tail else parts
      let parts := if (parts.getLast?.getD []).all (· = ' ') then parts.dropLast else parts
      if parts.isEmpty then none else parts.mapM delimiterAlignment?

/-- The alignments and the head of a table whose first line is given, if the line below it is
a delimiter row with the same number of cells. -/
def head? (row : List Char) (below : Cursor) : Option (List Alignment × List (List Char)) :=
  match columns? row, delimiterRow? below with
  | some width, some alignments =>
    if width = alignments.length then some (alignments, fit width (cells row)) else none
  | _, _ => none

end SpoilerMarkup.Markdown.Table
