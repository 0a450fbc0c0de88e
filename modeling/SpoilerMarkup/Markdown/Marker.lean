import SpoilerMarkup.Tag
import SpoilerMarkup.Markdown.Line

/-!
The marks at the beginning of a line that say what block it belongs to. Positions are
behind any indentation.
-/
namespace SpoilerMarkup.Markdown.Marker

/-- At least three of one mark, and nothing else but spaces and tabs. -/
def isRule (cs : List Char) : Bool :=
  match cs with
  | [] => false
  | c :: _ =>
    let line := withoutLineEnd cs
    (c = '*' || c = '-' || c = '_') && 3 ≤ line.count c &&
      line.all fun d => d = c || d = ' ' || d = '\t'

def heading? (cs : List Char) : Option (HeadingLevel × List Char) :=
  let marks := cs.takeWhile (· = '#')
  let rest := cs.drop marks.length
  match rest with
  | [] => (HeadingLevel.ofNat? marks.length).map (·, rest)
  | c :: _ =>
    if isGapOrNewline c then (HeadingLevel.ofNat? marks.length).map (·, rest) else none

def underline? (cs : List Char) : Option HeadingLevel :=
  match cs with
  | c :: _ =>
    if isBlankLine (cs.dropWhile (· = c)) then
      if c = '=' then some .h1 else if c = '-' then some .h2 else none
    else none
  | [] => none

structure Fence where
  mark : Char
  length : Nat
  deriving DecidableEq, Repr

def fence? (cs : List Char) : Option (Fence × List Char) :=
  match cs with
  | [] => none
  | c :: _ =>
    if c = '`' || c = '~' then
      let length := (cs.takeWhile (· = c)).length
      let rest := cs.drop length
      if 3 ≤ length && !(c = '`' && rest.contains '`') then some (⟨c, length⟩, rest) else none
    else none

/-- Whether a line closes a fence: with at least as many marks, and then only spaces. The end
of the text closes it too. -/
def Fence.isClosedBy (fence : Fence) (cs : List Char) : Bool :=
  cs.isEmpty || fence.length ≤ (cs.takeWhile (· = fence.mark)).length &&
    Markdown.atLineEnd ((cs.dropWhile (· = fence.mark)).dropWhile (· = ' '))

/-- The marker of a list item: its last character, and the number before it. -/
structure ListMarker where
  mark : Char
  number : Nat
  deriving DecidableEq, Repr

namespace ListMarker

def isOrdered (marker : ListMarker) : Bool :=
  marker.mark = '.' || marker.mark = ')'

def decimal (digits : List Char) : Nat :=
  digits.foldl (fun n c => 10 * n + (c.toNat - '0'.toNat)) 0

/-- A marker and what follows it, whatever that is. A number has at most nine digits. -/
def read? (cs : List Char) : Option (ListMarker × List Char) :=
  match cs with
  | [] => none
  | c :: rest =>
    if c = '-' || c = '+' || c = '*' then some (⟨c, 0⟩, rest)
    else
      let digits := cs.takeWhile Char.isDigit
      match cs.drop digits.length with
      | d :: rest =>
        if (d = '.' || d = ')') && 1 ≤ digits.length && digits.length ≤ 9 then
          some (⟨d, decimal digits⟩, rest)
        else none
      | [] => none

end ListMarker

/-- The marker of a list item, the indentation that lines of the item need, and the position
of its content. `indent` is the indentation of the marker itself. -/
def listItem? (indent : Nat) (cursor : Cursor) : Option (ListMarker × Nat × Cursor) :=
  match ListMarker.read? cursor.rest with
  | none => none
  | some (marker, rest) =>
    if !marker.isOrdered && isRule cursor.rest then none
    else
      let width := cursor.rest.length - rest.length
      let (taken, after) := (cursor.advance width).skipColumns 1
      if taken = 0 && !after.atLineEnd then none
      else if isBlankLine after.rest then some (marker, indent + width + 1, after)
      else
        let (more, content) := after.skipColumns 4
        if more < 4 then some (marker, indent + width + 1 + more, content)
        else some (marker, indent + width + 1, after)

/-- The number and the mark of a list item that begins here, and what follows the marker, where
a line is looked at only to see whether it interrupts a paragraph. -/
def listItemStart? (cs : List Char) : Option (ListMarker × List Char) :=
  match ListMarker.read? cs with
  | some (marker, rest) =>
    match rest with
    | [] => some (marker, rest)
    | c :: _ => if c = ' ' || c = '\t' || isNewline c then some (marker, rest) else none
  | none => none

/-- The position behind the mark of a block quote. One column of white space belongs to it. -/
def quote? (cursor : Cursor) : Option Cursor :=
  match cursor.rest with
  | '>' :: _ => some ((cursor.advance 1).skipColumns 1).2
  | _ => none

def alerts : List (String × Alert) :=
  [("note", .note), ("tip", .tip), ("important", .important), ("warning", .warning),
    ("caution", .caution)]

def alert? : List Char → Option Alert
  | '[' :: '!' :: rest =>
    let name := rest.takeWhile Char.isAlpha
    match rest.drop name.length with
    | ']' :: after =>
      if isBlankLine after then alerts.lookup (String.ofList (name.map Char.toLower)) else none
    | _ => none
  | _ => none

def task? (cursor : Cursor) : Option (Bool × Cursor) :=
  let cursor := (cursor.skipColumns 3).2
  match cursor.rest with
  | '[' :: c :: ']' :: d :: _ =>
    if (c = 'x' || c = 'X' || isGap c) && isGap d then some (!isGap c, cursor.advance 3) else none
  | _ => none

end SpoilerMarkup.Markdown.Marker
