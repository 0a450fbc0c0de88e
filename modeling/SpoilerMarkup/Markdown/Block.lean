import SpoilerMarkup.Markdown.Inline.Reader

/-!
The blocks of a document as a tree, with the text in them not yet read. The texts are read in their
order, and all references in them share one allowance. Main definition: `Block.toEvents`.
-/
namespace SpoilerMarkup.Markdown

inductive Block where
  | paragraph (task : Option Bool) (content : List Char)
  /-- A heading. `closed` says whether marks behind its text have been taken off. -/
  | heading (level : HeadingLevel) (task : Option Bool) (content : List Char) (closed : Bool)
  | rule
  | code (info : Option String) (texts : List String)
  | html (content : List Event)
  | quote (alert : Option Alert) (blocks : List Block)
  /-- A list. Paragraphs right below the items of a tight list are not marked as such. -/
  | list (start : Option Nat) (tight : Bool) (items : List Block)
  | item (blocks : List Block)
  | box (checked : Bool)
  | table (alignments : List Alignment) (head : List (List Char)) (rows : List (List (List Char)))
  deriving Repr

namespace Block

open Inline (enclose)

def inlineEvents (d : Dialect) (content : List Char) : StateM Nat (List Event) := fun allowance =>
  let (inlines, allowance) := Inline.ofText d allowance content
  (Inline.toEventsList inlines, allowance)

def taskEvents : Option Bool → List Event
  | none => []
  | some checked => [.taskMarker checked]

/-- Marks that closed a heading leave an empty text behind if they followed anything but text. -/
def closingEvents (closed : Bool) (events : List Event) : List Event :=
  match closed, events.getLast? with
  | false, _ | true, none | true, some (.text _) => []
  | true, some _ => [.text ""]

def cellEvents (d : Dialect) (cell : List Char) : StateM Nat (List Event) := do
  return enclose .tableCell (← inlineEvents { d with inTable := true } cell)

def rowEvents (d : Dialect) (tag : Tag) (row : List (List Char)) : StateM Nat (List Event) := do
  return enclose tag (← row.mapM (cellEvents d)).flatten

mutual

/-- The events of a block, where `tight` says whether it is in an item of a tight list. -/
def toEvents (d : Dialect) (tight : Bool) : Block → StateM Nat (List Event)
  | .paragraph task content => do
    let events := taskEvents task ++ (← inlineEvents d content)
    return if tight then events else enclose .paragraph events
  | .heading level task content closed => do
    let events ← inlineEvents d content
    return enclose (.heading level none [] [])
      (taskEvents task ++ events ++ closingEvents closed events)
  | .rule => return [.rule]
  | .code info texts => return enclose (.codeBlock info) (texts.map .text)
  | .html content => return enclose .htmlBlock content
  | .quote alert blocks => return enclose (.blockQuote alert) (← toEventsList d false blocks)
  | .list start tight items => return enclose (.list start) (← toEventsList d tight items)
  | .item blocks => return enclose .item (← toEventsList d tight blocks)
  | .box checked => return [.taskMarker checked]
  | .table alignments head rows => do
    let head ← rowEvents d .tableHead head
    let rows ← rows.mapM (rowEvents d .tableRow)
    return enclose (.table alignments) (head ++ rows.flatten)

def toEventsList (d : Dialect) (tight : Bool) : List Block → StateM Nat (List Event)
  | [] => return []
  | block :: blocks => return (← toEvents d tight block) ++ (← toEventsList d tight blocks)

end

end Block

end SpoilerMarkup.Markdown
