import SpoilerMarkup.Proofs.Node.Build

/-!
Streams one after the other. Behind a stream in which every element is closed a builder is where
it began, but for the nodes that it has made; and it looks at none of these again but the last
one, which may be a text that grows. So the tree of both streams has the nodes of the one and
behind them those of the other. Main statement: `ofEvents_append`.
-/
namespace SpoilerMarkup

namespace Node

/-- Two lists of nodes, one behind the other. A text at the end of the first and a text at the front
of the second become one. -/
def joinAppend (nodes nodes' : List Node) : List Node :=
  match nodes.getLast?, nodes' with
  | some (.text last), .text next :: rest => nodes.dropLast ++ .text (last ++ next) :: rest
  | _, _ => nodes ++ nodes'

@[simp] theorem joinAppend_nil (nodes : List Node) : joinAppend nodes [] = nodes := by
  simp [joinAppend]

theorem joinAppend_concat (nodes : List Node) {nodes' : List Node} (h : nodes' ≠ []) (node : Node) :
    joinAppend nodes (nodes' ++ [node]) = joinAppend nodes nodes' ++ [node] := by
  cases nodes' with
  | nil => exact absurd rfl h
  | cons next rest =>
    simp only [joinAppend, List.cons_append]
    split <;> simp_all

end Node

namespace Builder

/-- Puts nodes on top of others, both newest first. A text that is the oldest of them is added to
a text below it. -/
def stack (base : List Node) : List Node → List Node
  | [] => base
  | [.text value] => appendText value base
  | node :: nodes => node :: stack base nodes

theorem stack_cons {node : Node} (h : node.kind ≠ .text) (base nodes : List Node) :
    stack base (node :: nodes) = node :: stack base nodes := by
  cases node with
  | text value => exact absurd rfl h
  | _ => simp [stack]

theorem stack_cons_cons (base : List Node) (node next : Node) (nodes : List Node) :
    stack base (node :: next :: nodes) = node :: stack base (next :: nodes) := by
  cases node <;> rfl

/-- A text that is added grows the same text, whatever is below. -/
theorem stack_appendText (base : List Node) (value : String) (nodes : List Node) :
    stack base (appendText value nodes) = appendText value (stack base nodes) := by
  cases nodes with
  | nil => rfl
  | cons last rest =>
    cases last with
    | text last =>
      cases rest with
      | nil => exact (appendText_appendText last value base).symm
      | cons node rest => rfl
    | _ => rfl

theorem reverse_appendText (base : List Node) (value : String) :
    (appendText value base).reverse = Node.joinAppend base.reverse [.text value] := by
  cases base with
  | nil => rfl
  | cons last base => cases last <;> simp [appendText, Node.joinAppend]

theorem reverse_stack (base nodes : List Node) :
    (stack base nodes).reverse = Node.joinAppend base.reverse nodes.reverse := by
  induction nodes with
  | nil => simp [stack]
  | cons node nodes ih =>
    cases nodes with
    | nil =>
      cases node with
      | text value => exact reverse_appendText base value
      | _ => simp [stack, Node.joinAppend]
    | cons next nodes =>
      have hne : (next :: nodes).reverse ≠ [] := by simp
      rw [stack_cons_cons, List.reverse_cons, ih, ← Node.joinAppend_concat _ hne,
        ← List.reverse_cons]

/-- A builder with other nodes below those at its top. -/
def onTopOf (b : Builder) (base : List Node) : Builder :=
  { b with top := stack base b.top }

variable (b : Builder) (base : List Node)

theorem modifyNodes_onTopOf {change : List Node → List Node}
    (h : ∀ nodes, stack base (change nodes) = change (stack base nodes)) :
    (b.onTopOf base).modifyNodes change = (b.modifyNodes change).onTopOf base := by
  obtain ⟨top, opened, verbatim⟩ := b
  cases opened with
  | nil => simp only [modifyNodes, onTopOf, h]
  | cons element outer => rfl

theorem add_onTopOf {node : Node} (h : node.kind ≠ .text) :
    (b.onTopOf base).add node = (b.add node).onTopOf base :=
  modifyNodes_onTopOf b base (stack_cons h base)

theorem closeElement_onTopOf : (b.onTopOf base).closeElement = b.closeElement.onTopOf base := by
  obtain ⟨top, opened, verbatim⟩ := b
  cases opened with
  | nil => rfl
  | cons element outer => exact add_onTopOf ⟨top, outer, verbatim⟩ base (by simp [Node.kind])

theorem closeVerbatim_onTopOf : (b.onTopOf base).closeVerbatim = b.closeVerbatim.onTopOf base := by
  obtain ⟨top, opened, verbatim⟩ := b
  cases verbatim with
  | none => rfl
  | some element => exact add_onTopOf ⟨top, opened, none⟩ base (by simp [Node.kind])

theorem pushVerbatim_onTopOf (element : OpenVerbatim) (event : Event) :
    (b.onTopOf base).pushVerbatim element event =
      (b.pushVerbatim element event).onTopOf base := by
  cases event with
  | finish tag =>
    obtain ⟨tag', events, depth⟩ := element
    cases depth with
    | zero => exact closeVerbatim_onTopOf b base
    | succ depth => rfl
  | _ => rfl

theorem pushContent_onTopOf (event : Event) :
    (b.onTopOf base).pushContent event = (b.pushContent event).onTopOf base := by
  cases event with
  | start tag =>
    rw [pushContent, pushContent]
    split <;> rfl
  | finish tag => exact closeElement_onTopOf b base
  | text value => exact modifyNodes_onTopOf b base (stack_appendText base value)
  | _ => exact add_onTopOf b base (by simp [Node.kind])

/-- What a builder does with an event does not depend on the nodes below. -/
theorem push_onTopOf (event : Event) :
    (b.onTopOf base).push event = (b.push event).onTopOf base := by
  cases hverbatim : b.verbatim with
  | none => rw [push_of_none hverbatim, push_of_none (by exact hverbatim), pushContent_onTopOf]
  | some element =>
    rw [push_of_some hverbatim, push_of_some (by exact hverbatim), pushVerbatim_onTopOf]

theorem foldl_push_onTopOf (events : List Event) :
    events.foldl push (b.onTopOf base) = (events.foldl push b).onTopOf base := by
  induction events generalizing b with
  | nil => rfl
  | cons event events ih => rw [List.foldl_cons, push_onTopOf, ih, List.foldl_cons]

theorem closeAll_stack (top : List Node) (opened : List OpenElement) :
    closeAll (stack base top) opened = stack base (closeAll top opened) := by
  cases opened with
  | nil => simp only [closeAll]
  | cons element outer =>
    induction outer generalizing element with
    | nil =>
      have hkind : (Node.element element.tag element.nodes.reverse).kind ≠ .text := by
        simp [Node.kind]
      rw [closeAll, closeAll, stack_cons hkind]
    | cons outer rest ih => rw [closeAll, closeAll, ih]

theorem finish_onTopOf :
    (b.onTopOf base).finish = .root (Node.joinAppend base.reverse b.finish.children) := by
  rw [finish, closeVerbatim_onTopOf, finish, Node.children_root, ← reverse_stack, ← closeAll_stack]
  rfl

end Builder

namespace Node

open Event

/-- The tree of a stream in which every element is closed, followed by any other stream, has the
nodes of the first one's tree and behind them those of the second one's, where two texts that meet
become one. -/
theorem ofEvents_append {events : List Event} (h : IsNested events) (events' : List Event) :
    ofEvents (events ++ events') =
      .root (joinAppend (ofEvents events).children (ofEvents events').children) := by
  have hstate := Builder.eq_of_isNested h
  generalize (events.foldl Builder.push Builder.empty).top = base at hstate
  have hfirst : (ofEvents events).children = base.reverse := by
    rw [ofEvents, hstate, Builder.finish_of_top, children_root]
  have hbase : (⟨base, [], none⟩ : Builder) = Builder.empty.onTopOf base := rfl
  rw [ofEvents, List.foldl_append, hstate, hbase, Builder.foldl_push_onTopOf,
    Builder.finish_onTopOf, hfirst, ofEvents]

/-- An image whose description opens elements of its own stands between two texts. The second of
them is joined with two texts behind it, between which a closing tag closes nothing. -/
theorem ofEvents_append_strayTag :
    let image : Tag := .image ⟨.inline, "u", "", ""⟩
    let events : List Event := [.text "a", .start image, .start .strong, .text "b",
      .finish .strong, .finish .image, .text "c"]
    let events' : List Event :=
      [.text "d", .finish .item, .text "e", .start (.codeBlock none), .start .strong]
    IsNested events ∧
      ofEvents (events ++ events') =
        .root (joinAppend (ofEvents events).children (ofEvents events').children) ∧
      ofEvents (events ++ events') = .root [.text "a",
        .verbatim image [.start .strong, .text "b", .finish .strong], .text "cde",
        .verbatim (.codeBlock none) [.start .strong]] := by
  intro image events events'
  have hnested : IsNested events := by decide
  exact ⟨hnested, ofEvents_append hnested events', by decide +kernel⟩

end Node

end SpoilerMarkup
