import SpoilerMarkup.Html.Writer
import SpoilerMarkup.Markdown.Document
import SpoilerMarkup.Node.Build
import SpoilerMarkup.Node.Flatten
import SpoilerMarkup.SpanStyle.Stream

/-!
Renders Markdown with spoilers as HTML. There are two ways: through the tree of the
document, which also counts the spoilers, and along its stream of events. Main definitions:
`render` and `renderStream`.
-/
namespace SpoilerMarkup

namespace Node

def ofMarkdown (gfm : Bool) (markdown : String) : Node :=
  ofEvents (Markdown.parse gfm markdown)

def toHtml (node : Node) : String :=
  Html.ofEvents node.toEvents

end Node

structure RenderOptions where
  className : String := "spoiler"
  gfm : Bool := true
  deriving DecidableEq, Repr

structure Rendered where
  html : String
  spoilers : Nat
  deriving DecidableEq, Repr

/-- Renders a document through its tree. -/
def render (options : RenderOptions) (markdown : String) : Rendered :=
  let (tree, spoilers) :=
    SpanStyle.apply ⟨options.className⟩ (Node.ofMarkdown options.gfm markdown)
  ⟨tree.toHtml, spoilers⟩

/-- Renders a document along its stream of events. -/
def renderStream (options : RenderOptions) (markdown : String) : String :=
  let events := Event.mergeTexts (Markdown.parse options.gfm markdown)
  Html.ofEvents (SpanStyle.stream ⟨options.className⟩ events)

end SpoilerMarkup
