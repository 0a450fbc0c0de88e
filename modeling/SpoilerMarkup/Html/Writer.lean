import SpoilerMarkup.Event
import SpoilerMarkup.Text.Escape
import SpoilerMarkup.Text.Line

/-!
Writes a stream of events as HTML. What one event adds depends on little of what came
before: whether a line has just been ended, the table and the cell that are being
written, the footnotes seen so far, and whether an image is open, whose content becomes
a plain description. Main definitions: `Writer.write` for one event and `Html.ofEvents`.
-/
namespace SpoilerMarkup.Html

/-- An image whose end has not come yet. `depth` counts the elements open inside it. -/
structure OpenImage where
  title : String
  depth : Nat
  deriving DecidableEq, Repr

structure Writer where
  /-- Whether the last thing written ended a line. -/
  atLineStart : Bool := true
  alignments : List Alignment := []
  /-- The number of the next cell of the current row. -/
  cell : Nat := 0
  inTableBody : Bool := false
  inMetadata : Bool := false
  /-- The labels of footnotes in the order in which they first came up. -/
  footnotes : List String := []
  image : Option OpenImage := none
  deriving DecidableEq, Repr

namespace Writer

/-- Writes markup. Nothing changes if there is none. -/
def put (w : Writer) (markup : String) : String × Writer :=
  (markup, if markup.isEmpty then w else { w with atLineStart := Text.endsWithNewline markup })

def putOnNewLine (w : Writer) (markup : String) : String × Writer :=
  w.put (if w.atLineStart then markup else "\n" ++ markup)

/-- Writes text, which ends a line exactly if its last character is a line feed. -/
def putText (w : Writer) (escape : String → String) (value : String) : String × Writer :=
  (escape value, { w with atLineStart := Text.endsWithNewline value })

/-- The number of a footnote, from one. A label that has not come up gets the next one. -/
def footnoteNumber (w : Writer) (label : String) : Nat × Writer :=
  match w.footnotes.findIdx? (· = label) with
  | some index => (index + 1, w)
  | none => (w.footnotes.length + 1, { w with footnotes := w.footnotes ++ [label] })

end Writer

def alertClass : Alert → String
  | .note => "markdown-alert-note"
  | .tip => "markdown-alert-tip"
  | .important => "markdown-alert-important"
  | .warning => "markdown-alert-warning"
  | .caution => "markdown-alert-caution"

def headingName (level : HeadingLevel) : String :=
  "h" ++ toString level.number

/-- ` name="value"`, where the name is written as it is. -/
def setting (name value : String) : String :=
  " " ++ name ++ "=\"" ++ Text.escapeAttribute value ++ "\""

def headingAttributes (id : Option String) (classes : List String)
    (attributes : List (String × Option String)) : String :=
  let ids := match id with
    | some id => setting "id" id
    | none => ""
  let classes := if classes.isEmpty then "" else setting "class" (" ".intercalate classes)
  let others := attributes.map fun (name, value) =>
    setting (Text.escapeAttribute name) (value.getD "")
  ids ++ classes ++ String.join others

def alignmentStyle : Alignment → String
  | .none => ""
  | .left => " style=\"text-align: left\""
  | .center => " style=\"text-align: center\""
  | .right => " style=\"text-align: right\""

/-- The language of a code block is the first word of its information text. -/
def language (info : String) : String :=
  String.ofList (info.toList.takeWhile (· ≠ ' '))

def codeBlockStart (info : Option String) : String :=
  let language := language (info.getD "")
  if language.isEmpty then "<pre><code>"
  else "<pre><code class=\"language-" ++ Text.escapeAttribute language ++ "\">"

def listStart : Option Nat → String
  | none => "<ul>\n"
  | some 1 => "<ol>\n"
  | some start => "<ol start=\"" ++ toString start ++ "\">\n"

def titleAttribute (title : String) : String :=
  if title.isEmpty then "" else "\" title=\"" ++ Text.escapeAttribute title

def linkStart (target : Target) : String :=
  let scheme := if target.kind = .email then "mailto:" else ""
  "<a href=\"" ++ scheme ++ Text.escapeUrl target.url ++ titleAttribute target.title ++ "\">"

def imageStart (target : Target) : String :=
  "<img src=\"" ++ Text.escapeUrl target.url ++ "\" alt=\""

def imageEnd (title : String) : String :=
  titleAttribute title ++ "\" />"

namespace Writer

def cellName (w : Writer) : String :=
  if w.inTableBody then "td" else "th"

def writeStart (w : Writer) : Tag → String × Writer
  | .paragraph => w.putOnNewLine "<p>"
  | .heading level id classes attributes =>
    w.putOnNewLine ("<" ++ headingName level ++ headingAttributes id classes attributes ++ ">")
  | .blockQuote none => w.putOnNewLine "<blockquote>\n"
  | .blockQuote (some alert) =>
    w.putOnNewLine ("<blockquote class=\"" ++ alertClass alert ++ "\">\n")
  | .codeBlock info => w.putOnNewLine (codeBlockStart info)
  | .htmlBlock => w.put ""
  | .list start => w.putOnNewLine (listStart start)
  | .item => w.putOnNewLine "<li>"
  | .footnoteDefinition label =>
    let (number, w) := w.footnoteNumber label
    w.putOnNewLine ("<div class=\"footnote-definition\"" ++ setting "id" label ++
      "><sup class=\"footnote-definition-label\">" ++ toString number ++ "</sup>")
  | .definitionList => w.putOnNewLine "<dl>\n"
  | .definitionTitle => w.putOnNewLine "<dt>"
  | .definition => w.putOnNewLine "<dd>"
  | .table alignments => { w with alignments }.put "<table>"
  | .tableHead => { w with inTableBody := false, cell := 0 }.put "<thead><tr>"
  | .tableRow => { w with cell := 0 }.put "<tr>"
  | .tableCell =>
    let alignment := w.alignments[w.cell]?.getD .none
    w.put ("<" ++ w.cellName ++ alignmentStyle alignment ++ ">")
  | .emphasis => w.put "<em>"
  | .strong => w.put "<strong>"
  | .strikethrough => w.put "<del>"
  | .superscript => w.put "<sup>"
  | .subscript => w.put "<sub>"
  | .link target => w.put (linkStart target)
  | .image target => { w with image := some ⟨target.title, 0⟩ }.put (imageStart target)
  | .metadataBlock _ => { w with inMetadata := true }.put ""

def writeFinish (w : Writer) : EndTag → String × Writer
  | .paragraph => w.put "</p>\n"
  | .heading level => w.put ("</" ++ headingName level ++ ">\n")
  | .blockQuote _ => w.put "</blockquote>\n"
  | .codeBlock => w.put "</code></pre>\n"
  | .htmlBlock => w.put ""
  | .list true => w.put "</ol>\n"
  | .list false => w.put "</ul>\n"
  | .item => w.put "</li>\n"
  | .footnoteDefinition => w.put "</div>\n"
  | .definitionList => w.put "</dl>\n"
  | .definitionTitle => w.put "</dt>\n"
  | .definition => w.put "</dd>\n"
  | .table => w.put "</tbody></table>\n"
  | .tableHead => { w with inTableBody := true }.put "</tr></thead><tbody>\n"
  | .tableRow => w.put "</tr>\n"
  | .tableCell => { w with cell := w.cell + 1 }.put ("</" ++ w.cellName ++ ">")
  | .emphasis => w.put "</em>"
  | .strong => w.put "</strong>"
  | .strikethrough => w.put "</del>"
  | .superscript => w.put "</sup>"
  | .subscript => w.put "</sub>"
  | .link => w.put "</a>"
  | .image => w.put ""
  | .metadataBlock _ => { w with inMetadata := false }.put ""

def writeContent (w : Writer) : Event → String × Writer
  | .start tag => w.writeStart tag
  | .finish tag => w.writeFinish tag
  | .text value => if w.inMetadata then w.put "" else w.putText Text.escapeBody value
  | .code value => w.put ("<code>" ++ Text.escapeBody value ++ "</code>")
  | .inlineMath value =>
    w.put ("<span class=\"math math-inline\">" ++ Text.escapeAttribute value ++ "</span>")
  | .displayMath value =>
    w.put ("<span class=\"math math-display\">" ++ Text.escapeAttribute value ++ "</span>")
  | .html value | .inlineHtml value => w.put value
  | .footnoteReference label =>
    let (number, w) := w.footnoteNumber label
    w.put ("<sup class=\"footnote-reference\"><a href=\"#" ++ Text.escapeAttribute label ++
      "\">" ++ toString number ++ "</a></sup>")
  | .softBreak => w.put "\n"
  | .hardBreak => w.put "<br />\n"
  | .rule => w.putOnNewLine "<hr />\n"
  | .taskMarker true => w.put "<input disabled=\"\" type=\"checkbox\" checked=\"\"/>\n"
  | .taskMarker false => w.put "<input disabled=\"\" type=\"checkbox\"/>\n"

def writeDescription (w : Writer) (image : OpenImage) : Event → String × Writer
  | .start _ => ("", { w with image := some { image with depth := image.depth + 1 } })
  | .finish _ =>
    match image.depth with
    | 0 => { w with image := none }.put (imageEnd image.title)
    | depth + 1 => ("", { w with image := some { image with depth } })
  | .text value | .code value | .inlineHtml value => w.putText Text.escapeAttribute value
  | .html _ => w.put ""
  | .inlineMath value => w.put ("$" ++ Text.escapeAttribute value ++ "$")
  | .displayMath value => w.put ("$$" ++ Text.escapeAttribute value ++ "$$")
  | .footnoteReference label =>
    let (number, w) := w.footnoteNumber label
    w.put ("[" ++ toString number ++ "]")
  | .softBreak | .hardBreak | .rule => w.put " "
  | .taskMarker true => w.put "[x]"
  | .taskMarker false => w.put "[ ]"

/-- What an event adds to the HTML, and what is to be remembered of it. -/
def write (w : Writer) (event : Event) : String × Writer :=
  match w.image with
  | none => w.writeContent event
  | some image => w.writeDescription image event

/-- What the end of the stream adds: an image that is still open is closed. -/
def finish (w : Writer) : String :=
  match w.image with
  | none => ""
  | some image => imageEnd image.title

/-- What each event of a stream adds, and last what its end adds. -/
def pieces (w : Writer) : List Event → List String
  | [] => [w.finish]
  | event :: events =>
    let (piece, w) := w.write event
    piece :: w.pieces events

end Writer

def ofEvents (events : List Event) : String :=
  String.join (Writer.pieces {} events)

end SpoilerMarkup.Html
