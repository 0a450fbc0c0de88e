import SpoilerMarkup.Node

/-!
Builds a tree from a stream of events, one event at a time. Streams need not be
balanced: a closing event with nothing to close is ignored, any closing event
closes the innermost element, and what is still open at the end is closed there.
Main definitions: `Builder.push` and `Node.ofEvents`.
-/
namespace SpoilerMarkup

/-- An element whose end has not come yet. Its nodes are kept newest first. -/
structure OpenElement where
  tag : Tag
  nodes : List Node
  deriving DecidableEq, Repr

/-- An element whose content is kept as events, newest first. `depth` counts the
elements opened inside it and not yet closed. -/
structure OpenVerbatim where
  tag : Tag
  events : List Event
  depth : Nat
  deriving DecidableEq, Repr

/-- A partly built tree: the nodes at the top, newest first, the open elements,
innermost first, and the verbatim element that is being collected, if any. -/
structure Builder where
  top : List Node
  opened : List OpenElement
  verbatim : Option OpenVerbatim
  deriving DecidableEq, Repr

namespace Builder

def empty : Builder := ⟨[], [], none⟩

def modifyNodes (b : Builder) (change : List Node → List Node) : Builder :=
  match b.opened with
  | [] => { b with top := change b.top }
  | element :: outer => { b with opened := { element with nodes := change element.nodes } :: outer }

def add (b : Builder) (node : Node) : Builder :=
  b.modifyNodes (node :: ·)

/-- Adds text after a node list that is kept newest first. A text before it grows. -/
def appendText (value : String) : List Node → List Node
  | .text last :: nodes => .text (last ++ value) :: nodes
  | nodes => .text value :: nodes

def closeElement (b : Builder) : Builder :=
  match b.opened with
  | [] => b
  | element :: outer =>
    { b with opened := outer }.add (.element element.tag element.nodes.reverse)

def closeVerbatim (b : Builder) : Builder :=
  match b.verbatim with
  | none => b
  | some element =>
    { b with verbatim := none }.add (.verbatim element.tag element.events.reverse)

def pushVerbatim (b : Builder) (element : OpenVerbatim) (event : Event) : Builder :=
  let keep (depth : Nat) : Builder :=
    { b with verbatim := some { element with events := event :: element.events, depth } }
  match event, element.depth with
  | .start _, depth => keep (depth + 1)
  | .finish _, 0 => b.closeVerbatim
  | .finish _, depth + 1 => keep depth
  | _, depth => keep depth

def pushContent (b : Builder) : Event → Builder
  | .start tag =>
    if tag.isVerbatim then { b with verbatim := some ⟨tag, [], 0⟩ }
    else { b with opened := ⟨tag, []⟩ :: b.opened }
  | .finish _ => b.closeElement
  | .text value => b.modifyNodes (appendText value)
  | .html value | .inlineHtml value => b.add (.html value)
  | .code value => b.add (.inlineCode value)
  | event => b.add (.leaf event)

def push (b : Builder) (event : Event) : Builder :=
  match b.verbatim with
  | some element => b.pushVerbatim element event
  | none => b.pushContent event

/-- Closes every open element, innermost first. -/
def closeAll (top : List Node) : List OpenElement → List Node
  | [] => top
  | [element] => .element element.tag element.nodes.reverse :: top
  | element :: outer :: rest =>
    let node := .element element.tag element.nodes.reverse
    closeAll top ({ outer with nodes := node :: outer.nodes } :: rest)
termination_by opened => opened.length

def finish (b : Builder) : Node :=
  let b := b.closeVerbatim
  .root (closeAll b.top b.opened).reverse

end Builder

def Node.ofEvents (events : List Event) : Node :=
  (events.foldl Builder.push Builder.empty).finish

end SpoilerMarkup
