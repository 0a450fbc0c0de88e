import SpoilerMarkup.Segment
import SpoilerMarkup.Node.Visit

/-!
Turns the spoilers of a tree into raw markup: each text that has a spoiler is replaced
by texts and spans. Main definitions: `SpanStyle.replacements` for one text,
`SpanStyle.replaceAt` for one child of a node, and `SpanStyle.apply` for a tree.
-/
namespace SpoilerMarkup

structure SpanStyle where
  className : String := "spoiler"
  deriving DecidableEq, Repr

namespace SpanStyle

/-- The span of a spoiler. Its inner text is not escaped. -/
def span (style : SpanStyle) (inner : String) : String :=
  "<span class=\"" ++ style.className ++ "\">" ++ inner ++ "</span>"

def nodeOfSegment (style : SpanStyle) : Segment → Node
  | .text value => .text value
  | .spoiler inner => .html (style.span inner)

/-- What replaces a text. Nothing does if the text has no spoiler. -/
def replacements (style : SpanStyle) (value : String) : List Node :=
  match Segment.split value with
  | none => []
  | some segments => segments.map style.nodeOfSegment

/-- Replaces the child at `index` if it is a text that has a spoiler. A visit then goes
on behind the nodes that replace it. -/
def replaceAt (style : SpanStyle) (index : Nat) (parent : Node) : Move × Node :=
  match parent.children[index]? with
  | some (.text value) =>
    match style.replacements value with
    | [] => (.descend, parent)
    | nodes =>
      match parent.splice index nodes with
      | (parent, some inserted) => (.skipTo (index + inserted), parent)
      | (parent, none) => (.descend, parent)
  | _ => (.descend, parent)

def visitor (style : SpanStyle) : Visitor Nat := fun index parent spoilers =>
  match style.replaceAt index parent with
  | (.skipTo next, parent) =>
    let inserted := (parent.children.take next).drop index
    (.skipTo next, parent, spoilers + inserted.countP (·.kind = .html))
  | (move, parent) => (move, parent, spoilers)

/-- Replaces every text of a tree that has spoilers, and counts these. No text is visited twice, so
as many calls are enough as there are texts. -/
def apply (style : SpanStyle) (tree : Node) : Node × Nat :=
  let visited := tree.visit .text style.visitor (tree.countBelow .text) 0
  (visited.node, visited.state)

end SpanStyle

end SpoilerMarkup
