import SpoilerMarkup.Event

/-!
The content of a line of text as a tree. Main definition: `Inline.toEvents`.
-/
namespace SpoilerMarkup.Markdown

inductive Inline where
  | text (value : String)
  | code (value : String)
  | html (value : String)
  | softBreak
  | hardBreak
  | emphasis (content : List Inline)
  | strong (content : List Inline)
  | strikethrough (content : List Inline)
  | link (target : Target) (content : List Inline)
  | image (target : Target) (content : List Inline)
  deriving Repr

namespace Inline

/-- The events of an element around those of its content. -/
def enclose (tag : Tag) (events : List Event) : List Event :=
  .start tag :: (events ++ [.finish tag.close])

mutual

def toEvents : Inline → List Event
  | .text value => [.text value]
  | .code value => [.code value]
  | .html value => [.inlineHtml value]
  | .softBreak => [.softBreak]
  | .hardBreak => [.hardBreak]
  | .emphasis content => enclose .emphasis (toEventsList content)
  | .strong content => enclose .strong (toEventsList content)
  | .strikethrough content => enclose .strikethrough (toEventsList content)
  | .link target content => enclose (.link target) (toEventsList content)
  | .image target content => enclose (.image target) (toEventsList content)

def toEventsList : List Inline → List Event
  | [] => []
  | inline :: rest => toEvents inline ++ toEventsList rest

end

end Inline

end SpoilerMarkup.Markdown
