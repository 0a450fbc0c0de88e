import SpoilerMarkup.Tag

/-!
A document as a stream of events: elements are opened and closed, and content
stands between. Main definition: `Event.mergeTexts`, which joins neighbouring
texts of a stream.
-/
namespace SpoilerMarkup

inductive Event where
  | start (tag : Tag)
  | finish (tag : EndTag)
  | text (value : String)
  | code (value : String)
  | inlineMath (value : String)
  | displayMath (value : String)
  /-- Raw markup that is a block of its own. -/
  | html (value : String)
  /-- Raw markup inside a line of text. -/
  | inlineHtml (value : String)
  | footnoteReference (label : String)
  | softBreak
  | hardBreak
  | rule
  | taskMarker (checked : Bool)
  deriving DecidableEq, Repr

namespace Event

/-- What a run of neighbouring texts becomes: two or more are joined, and are left
out if nothing is in them; a text with no neighbour stays, even if it is empty. -/
def joinedTexts : List String → List Event
  | [] => []
  | [value] => [.text value]
  | values =>
    let joined := String.join values
    if joined.isEmpty then [] else [.text joined]

def mergeTextsAfter : List String → List Event → List Event
  | values, [] => joinedTexts values
  | values, .text value :: rest => mergeTextsAfter (values ++ [value]) rest
  | values, event :: rest => joinedTexts values ++ event :: mergeTextsAfter [] rest

def mergeTexts (events : List Event) : List Event :=
  mergeTextsAfter [] events

end Event

end SpoilerMarkup
