import SpoilerMarkup.Node

/-!
The stream of events of a tree. Raw markup becomes a block event directly inside an
HTML block and an inline event everywhere else.
-/
namespace SpoilerMarkup.Node

mutual

/-- The events of a node, where `inHtmlBlock` says whether its parent is an HTML block. -/
def flatten (inHtmlBlock : Bool) : Node → List Event
  | .root children => flattenList false children
  | .element tag children =>
    .start tag :: (flattenList (tag = .htmlBlock) children ++ [.finish tag.close])
  | .verbatim tag events => .start tag :: (events ++ [.finish tag.close])
  | .text value => [.text value]
  | .html value => [if inHtmlBlock then .html value else .inlineHtml value]
  | .inlineCode value => [.code value]
  | .leaf event => [event]

def flattenList (inHtmlBlock : Bool) : List Node → List Event
  | [] => []
  | node :: nodes => flatten inHtmlBlock node ++ flattenList inHtmlBlock nodes

end

def toEvents (node : Node) : List Event :=
  node.flatten false

end SpoilerMarkup.Node
