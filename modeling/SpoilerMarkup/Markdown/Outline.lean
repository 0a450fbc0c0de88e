import SpoilerMarkup.Markdown.Block
import SpoilerMarkup.Markdown.Marker
import SpoilerMarkup.Markdown.Table

/-!
Finds the blocks of a document line by line. A line first has to continue the containers
that are open (block quotes, lists and their items); where it does not, they are closed,
unless the line only goes on with a paragraph. Then it may open new containers, and what is
left of it begins or continues a block of text. Main definitions: `Outline.step` for a line
and `Outline.ofLines`.
-/
namespace SpoilerMarkup.Markdown

inductive Container where
  | quote (alert : Option Alert)
  | list (marker : Marker.ListMarker) (tight : Bool)
  /-- An item, with the indentation that its lines need. -/
  | item (indent : Nat)
  deriving DecidableEq, Repr

namespace Container

def enter? (container : Container) (cursor : Cursor) : Option Cursor :=
  match container with
  | .quote _ => Marker.quote? (cursor.skipColumns 3).2
  | .list .. => some cursor
  | .item indent =>
    let (taken, after) := cursor.skipColumns indent
    if taken = indent || after.atLineEnd then some after else none

def enterAll : List Container → Cursor → Nat × Cursor
  | [], cursor => (0, cursor)
  | container :: inner, cursor =>
    match container.enter? cursor with
    | some cursor =>
      let (entered, cursor) := enterAll inner cursor
      (entered + 1, cursor)
    | none => (0, cursor)

end Container

/-- A container whose end has not come yet. Its blocks are kept newest first. -/
structure OpenContainer where
  container : Container
  blocks : List Block := []

namespace OpenContainer

def isList (c : OpenContainer) : Bool :=
  match c.container with
  | .list .. => true
  | _ => false

def toBlock (c : OpenContainer) : Block :=
  match c.container with
  | .quote alert => .quote alert c.blocks.reverse
  | .list marker tight =>
    .list (if marker.isOrdered then some marker.number else none) tight c.blocks.reverse
  | .item _ => .item c.blocks.reverse

/-- A list is loose if a blank line stands between any of its blocks. -/
def loosen (c : OpenContainer) : OpenContainer :=
  match c.container with
  | .list marker _ => { c with container := .list marker false }
  | _ => c

end OpenContainer

/-- A block of text whose end has not come yet. All lists are kept newest first. -/
inductive Leaf where
  | none
  | paragraph (task : Option Bool) (lines : List Line)
  /-- An indented code block. `kept` are its texts up to the last line that is not blank. -/
  | indented (texts kept : List (List Char))
  | fenced (fence : Marker.Fence) (indent : Nat) (info : String) (texts : List (List Char))
  | html (ending : Html.BlockEnd) (content : List Event)
  | table (alignments : List Alignment) (head : List (List Char)) (rows : List (List (List Char)))
  /-- The line below that of an alert, which goes on with the alert if it can be part of a
  paragraph. -/
  | alert
  /-- The line below a definition, which goes on with the same containers if it can be part of
  a paragraph. -/
  | definition

/-- What has been found: the blocks at the top, newest first, the open containers, innermost
first, and the block of text that is open in the innermost of them. -/
structure Outline where
  blocks : List Block := []
  opened : List OpenContainer := []
  leaf : Leaf := .none
  afterBlank : Bool := false
  /-- Whether an item has been opened in which nothing has come up. -/
  freshItem : Bool := false
  task : Option Bool := none
  /-- The number of lines that have already been read with an earlier one. -/
  ahead : Nat := 0
  definitions : List Link.Definition := []

namespace Outline

def containers (o : Outline) : List Container :=
  (o.opened.map (·.container)).reverse

def add (o : Outline) (block : Block) : Outline :=
  match o.opened with
  | [] => { o with blocks := block :: o.blocks }
  | c :: outer => { o with opened := { c with blocks := block :: c.blocks } :: outer }

def openContainer (o : Outline) (container : Container) : Outline :=
  { o with opened := { container } :: o.opened }

def closeContainer (o : Outline) : Outline :=
  match o.opened with
  | [] => o
  | c :: outer =>
    let o := { o with opened := outer }.add c.toBlock
    match c.container with
    | .list _ true => { o with freshItem := false }
    | _ => o

def closeTo (n : Nat) (o : Outline) : Outline :=
  (List.range (o.opened.length - n)).foldl (fun o _ => o.closeContainer) o

/-- An item that begins with a blank line is closed if another one follows. -/
def closeEmptyItem (o : Outline) : Outline :=
  let o' :=
    match o.opened with
    | { container := .item _, .. } :: _ =>
      if o.freshItem && o.afterBlank then o.closeContainer else o
    | _ => o
  { o' with freshItem := false }

/-- Closes a list whose last item has ended, before a block that is no item of it. A blank line
before a block in an item makes the list loose. -/
def closeList (o : Outline) : Outline :=
  let o := o.closeEmptyItem
  let o :=
    match o.opened with
    | c :: _ => if c.isList then o.closeContainer else o
    | [] => o
  if o.afterBlank then
    match o.opened with
    | item :: list :: outer =>
      { o with afterBlank := false, opened := item :: list.loosen :: outer }
    | _ => { o with afterBlank := false }
  else o

def continueList (o : Outline) (marker : Marker.ListMarker) : Outline :=
  let o := o.closeEmptyItem
  let fresh (o : Outline) : Outline :=
    { o.openContainer (.list marker true) with afterBlank := false }
  match o.opened with
  | [] => fresh o
  | c :: outer =>
    match c.container with
    | .list other _ =>
      if other.mark = marker.mark then
        if o.afterBlank then { o with afterBlank := false, opened := c.loosen :: outer } else o
      else fresh o.closeList
    | _ => fresh o.closeList

def addText (joined : Bool) (text : List Char) (texts : List (List Char)) : List (List Char) :=
  if text.isEmpty then texts
  else
    match joined, texts with
    | true, last :: texts => (last ++ text) :: texts
    | _, texts => text :: texts

/-- Adds a line of code. Texts are joined as long as they stand together in the document. -/
def addCode (cursor : Cursor) (texts : List (List Char)) : List (List Char) :=
  let texts :=
    if 0 < cursor.pending then List.replicate cursor.pending ' ' :: texts else texts
  let body := withoutLineEnd cursor.rest
  if cursor.rest.drop body.length = ['\r', '\n'] then
    ['\n'] :: addText (!cursor.moved) body texts
  else addText (!cursor.moved) cursor.rest texts

def addHtml (indent : Nat) (line : List Char) (content : List Event) : List Event :=
  let content :=
    if 0 < indent then .text (String.ofList (List.replicate indent ' ')) :: content else content
  let body := withoutLineEnd line
  if line.drop body.length = ['\r', '\n'] then
    .html "\n" :: .html (String.ofList body) :: content
  else .html (String.ofList line) :: content

def paragraphContent (lines : List Line) : List Char :=
  match lines with
  | [] => []
  | last :: earlier => earlier.reverse.flatten ++ trimEnd isGap (withoutLineEnd last)

/-- The text of a heading behind its marks, and whether marks have been taken off its end. -/
def headingContent (rest : List Char) : List Char × Bool :=
  let text := trimEnd (fun c => c = ' ' || isNewline c) (rest.dropWhile isGap)
  let core := trimEnd (· = '#') text
  if core.isEmpty then ([], false)
  else if core.getLast? = some ' ' then (trimEnd (· = ' ') core, true)
  else (text, false)

def closeLeaf (o : Outline) : Outline :=
  let texts (reversed : List (List Char)) : List String := reversed.reverse.map String.ofList
  let closed := { o with leaf := .none }
  match o.leaf with
  | .none | .alert | .definition => closed
  | .paragraph task lines => closed.add (.paragraph task (paragraphContent lines))
  | .indented _ kept => closed.add (.code none (texts kept))
  | .fenced _ _ info reversed => closed.add (.code (some info) (texts reversed))
  | .html _ content => closed.add (.html content.reverse)
  | .table alignments head rows => closed.add (.table alignments head rows.reverse)

def enterLine? (containers : List Container) (line : Line) : Option Cursor :=
  let (entered, cursor) := Container.enterAll containers { rest := line }
  if entered = containers.length then some cursor else none

def tableHead? (containers : List Container) (row : List Char) (next : List Line) :
    Option (List Alignment × List (List Char)) :=
  next.head?.bind fun line => (enterLine? containers line).bind (Table.head? row)

/-- Whether an item begins here that ends a paragraph or a table. An item that a paragraph must
not be cut by is an empty one, and one whose number is not one. -/
def interruptsAsItem (entered inTable : Bool) (cs : List Char) (next : List Line) : Bool :=
  match Marker.listItemStart? cs with
  | none => false
  | some (marker, rest) =>
    !entered || inTable ||
      (!marker.isOrdered || marker.number = 1) &&
        !(isBlankLine rest && isBlankLine (next.head?.getD []))

/-- Whether a line cannot be part of a paragraph or a table above it. `entered` says whether it
continues all containers; `cs` is the line behind its indentation, and `next` what follows. -/
def interrupts (entered inTable : Bool) (cs : List Char) (next : List Line) : Bool :=
  atLineEnd cs || Marker.isRule cs || (Marker.heading? cs).isSome || (Marker.fence? cs).isSome ||
    cs.head? = some '>' || interruptsAsItem entered inTable cs next || Html.interruptsParagraph cs

/-- Whether a line ends a paragraph above it. Unless it is indented like code, it may do so as
any block but a table, or as the head of a table that begins with a bar. -/
def endsParagraph (gfm : Bool) (containers : List Container) (entered : Bool) (cursor : Cursor)
    (next : List Line) : Bool :=
  let (indent, inner) := cursor.skipColumns 4
  indent < 4 &&
      (interrupts entered false inner.rest next ||
        gfm && inner.rest.head? = some '|' && (tableHead? containers inner.rest next).isSome) ||
    cursor.skipSpaces.atLineEnd

def paragraphLines (gfm : Bool) (containers : List Container) : List Line → List Line
  | [] => []
  | line :: next =>
    let (entered, cursor) := Container.enterAll containers { rest := line }
    let (indent, inner) := cursor.skipColumns 4
    if endsParagraph gfm containers (entered = containers.length) cursor next ||
        indent < 4 && (Marker.underline? inner.rest).isSome then []
    else cursor.rest :: paragraphLines gfm containers next

def define (o : Outline) (definition : Link.Definition) : Outline :=
  if o.definitions.any (·.key = definition.key) then o
  else { o with definitions := o.definitions ++ [definition] }

/-- The definition at the front of a line, which may go on over the next lines, and the number
of these. -/
def definition? (gfm : Bool) (o : Outline) (cs : List Char) (next : List Line) :
    Option (Link.Definition × Nat) :=
  if cs.head? = some '[' then
    let lines := paragraphLines gfm o.containers next
    let text := cs ++ lines.flatten
    (Link.readDefinition? text).map fun (definition, rest) =>
      (definition, (Line.ofText (consumed text rest)).length - 1)
  else none

/-- Begins a paragraph, or a table if the next line makes it one. Definitions are no part of a
paragraph. -/
def startParagraph (gfm : Bool) (o : Outline) (cs : List Char) (next : List Line) : Outline :=
  match definition? gfm o cs next with
  | some (definition, ahead) => { o.closeList.define definition with leaf := .definition, ahead }
  | none =>
    let o := o.closeList
    let task := o.task
    let o := { o with task := none }
    match if gfm then tableHead? o.containers cs next else none with
    | some (alignments, head) => { o with leaf := .table alignments head [], ahead := 1 }
    | none => { o with leaf := .paragraph task [cs] }

def blankLine (o : Outline) : Outline :=
  match o.opened with
  | [] => { o with afterBlank := true }
  | c :: outer =>
    match c.container with
    | .quote _ => o
    | .item _ =>
      if o.freshItem then
        { o with afterBlank := true, opened := { c with container := .item 0 } :: outer }
      else { o with afterBlank := true }
    | .list .. => { o with afterBlank := true }

def startHtml (o : Outline) (ending : Html.BlockEnd) (indent : Nat) (line : List Char) : Outline :=
  let o := { o.closeList with leaf := .html ending (addHtml indent line []) }
  match ending with
  | .mark text => if (Html.afterMark? text.toList line).isSome then o.closeLeaf else o
  | .blank => o

def startLeaf (gfm : Bool) (o : Outline) (cursor : Cursor) (next : List Line) : Outline :=
  if isBlankLine cursor.rest then o.blankLine
  else
    let (indent, inner) := cursor.skipColumns 4
    let cs := inner.rest
    if indent = 4 then
      let texts := addCode inner []
      { o.closeList with leaf := .indented texts texts, afterBlank := false }
    else
      match Html.blockEnd? cs with
      | some ending => o.startHtml ending (max cursor.pending indent) cs
      | none =>
        if Marker.isRule cs then o.closeList.add .rule
        else
          match Marker.heading? cs with
          | some (level, rest) =>
            let (content, closed) := headingContent rest
            o.closeList.add (.heading level none content closed)
          | none =>
            match Marker.fence? cs with
            | some (fence, rest) =>
              let info := unescaped (trimEnd isGapOrNewline (rest.dropWhile isGap))
              { o.closeList with leaf := .fenced fence indent info [] }
            | none => startParagraph gfm o cs next

/-- Opens the containers that begin in a line. If the line has anything behind them, this is
where it stands. -/
def openContainers (gfm : Bool) : Nat → Outline → Cursor → Outline × Option Cursor
  | 0, o, cursor => (o, some cursor)
  | fuel + 1, o, cursor =>
    let (indent, inner) := cursor.skipColumns 4
    if indent = 4 then (o, some cursor)
    else
      match Marker.listItem? indent inner with
      | some (marker, width, after) =>
        let o := (o.continueList marker).openContainer (.item width)
        if isBlankLine after.rest then ({ o with freshItem := true }, none)
        else
          match if gfm then Marker.task? after else none with
          | some (checked, after) =>
            if isBlankLine after.rest then
              ({ o.add (.box checked) with freshItem := true }, none)
            else openContainers gfm fuel { o with task := some checked } after
          | none => openContainers gfm fuel o after
      | none =>
        match Marker.quote? inner with
        | some after =>
          let alert := if gfm then Marker.alert? after.rest else none
          let o := o.closeList.openContainer (.quote alert)
          if alert.isSome then ({ o with leaf := .alert }, none)
          else openContainers gfm fuel o after
        | none => (o, some cursor)

/-- Takes a line that continues no block of text. `entered` is the number of containers that it
continues. -/
def startBlocks (gfm : Bool) (o : Outline) (entered : Nat) (cursor : Cursor) (next : List Line) :
    Outline :=
  match openContainers gfm (cursor.rest.length + 1) (o.closeTo entered) cursor with
  | (o, some cursor) => startLeaf gfm o cursor next
  | (o, none) => o

def step (gfm : Bool) (o : Outline) (line : Line) (next : List Line) : Outline :=
  if 0 < o.ahead then { o with ahead := o.ahead - 1 }
  else
    let (entered, cursor) := Container.enterAll o.containers { rest := line }
    let all := entered = o.opened.length
    let restart := startBlocks gfm o.closeLeaf entered cursor next
    let ends := endsParagraph gfm o.containers all cursor next
    match o.leaf with
    | .none => restart
    | .alert =>
      if ends then restart
      else startLeaf gfm { o with leaf := .none } cursor.skipSpaces next
    | .definition =>
      if ends then restart
      else startParagraph gfm { o with leaf := .none } cursor.skipSpaces.rest next
    | .paragraph task lines =>
      let (indent, inner) := cursor.skipColumns 4
      match if all && indent < 4 then Marker.underline? inner.rest else none with
      | some level =>
        { o with leaf := .none }.add (.heading level task (paragraphContent lines) false)
      | none => if ends then restart else { o with leaf := .paragraph task (cursor.rest :: lines) }
    | .indented texts kept =>
      let (indent, inner) := cursor.skipColumns 4
      if all && (indent = 4 || inner.atLineEnd) then
        let texts := addCode inner texts
        let blank := isBlankLine inner.rest
        { o with leaf := .indented texts (if blank then kept else texts), afterBlank := blank }
      else restart
    | .fenced fence indent info texts =>
      if all then
        let (_, inner) := cursor.skipColumns indent
        let (more, behind) := inner.skipColumns (4 - indent)
        if more < 4 - indent && fence.isClosedBy behind.rest then o.closeLeaf
        else { o with leaf := .fenced fence indent info (addCode inner texts) }
      else restart
    | .html (.mark text) content =>
      if all then
        let o :=
          { o with leaf := .html (.mark text) (addHtml cursor.pending cursor.rest content) }
        if (Html.afterMark? text.toList cursor.rest).isSome then o.closeLeaf else o
      else restart
    | .html .blank content =>
      if all && !isBlankLine cursor.rest then
        { o with leaf := .html .blank (addHtml cursor.pending cursor.rest content) }
      else restart
    | .table alignments head rows =>
      let row := cursor.skipSpaces.rest
      let cells := Table.cells row
      if all && !interrupts all true row next && !cells.isEmpty then
        { o with leaf := .table alignments head (Table.fit alignments.length cells :: rows) }
      else restart

def steps (gfm : Bool) (o : Outline) : List Line → Outline
  | [] => o
  | line :: next => steps gfm (o.step gfm line next) next

/-- The outline of a document, with all that is open closed at its end. -/
def ofLines (gfm : Bool) (lines : List Line) : Outline :=
  (steps gfm {} lines).closeLeaf.closeTo 0

end Outline

end SpoilerMarkup.Markdown
