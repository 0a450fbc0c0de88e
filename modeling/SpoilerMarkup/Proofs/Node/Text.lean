import SpoilerMarkup.Proofs.Node.Build

/-!
The text of a partly built tree: that of the nodes at its top, and behind it that of each open
element from the outermost to the innermost. An event that a builder takes outside verbatim
elements adds its own text at the end, and no other event adds any; text only moves with its
element when that is closed. So the text of a finished tree is what the builder had taken. Main
statements: `textContent_push` and `textContent_finish`.
-/
namespace SpoilerMarkup

namespace Event

/-- The string of a text, of raw markup or of inline code. No other event has text. -/
def literal? : Event → Option String
  | .text value | .html value | .inlineHtml value | .code value => some value
  | _ => none

/-- The text that an event has at a depth: none inside verbatim elements. -/
def textAt (depth : Nat) (event : Event) : String :=
  if depth = 0 then event.literal?.getD "" else ""

@[simp] theorem textAt_zero (event : Event) : event.textAt 0 = event.literal?.getD "" := rfl

@[simp] theorem textAt_succ (depth : Nat) (event : Event) : event.textAt (depth + 1) = "" := rfl

end Event

open Event

namespace Node

@[simp] theorem textContentList_append (nodes nodes' : List Node) :
    textContentList (nodes ++ nodes') = textContentList nodes ++ textContentList nodes' := by
  induction nodes with
  | nil => simp [textContentList]
  | cons node nodes ih => simp [textContentList, ih, String.append_assoc]

theorem textContentList_concat (nodes : List Node) (node : Node) :
    textContentList (nodes ++ [node]) = textContentList nodes ++ node.textContent := by
  simp [textContentList]

end Node

namespace Builder

/-- The text of the nodes at the top and of the open elements, given innermost first. -/
def openedText (top : List Node) : List OpenElement → String
  | [] => Node.textContentList top.reverse
  | element :: outer => openedText top outer ++ Node.textContentList element.nodes.reverse

/-- The text of all that is built. What is collected of a verbatim element has none. -/
def textContent (b : Builder) : String :=
  openedText b.top b.opened

variable (b : Builder)

/-- What is added to the text of the innermost list of nodes, at its end, is added to the text of
all that is built. -/
theorem textContent_modifyNodes {change : List Node → List Node} {value : String}
    (h : Node.textContentList (change b.nodes).reverse =
      Node.textContentList b.nodes.reverse ++ value) :
    (b.modifyNodes change).textContent = b.textContent ++ value := by
  obtain ⟨top, opened, verbatim⟩ := b
  cases opened with
  | nil => exact h
  | cons element outer =>
    have hnodes : Node.textContentList (change element.nodes).reverse =
        Node.textContentList element.nodes.reverse ++ value := h
    simp only [textContent, modifyNodes, openedText, hnodes, String.append_assoc]

theorem textContent_add (node : Node) :
    (b.add node).textContent = b.textContent ++ node.textContent := by
  apply textContent_modifyNodes
  rw [List.reverse_cons, Node.textContentList_concat]

theorem textContent_appendText (value : String) :
    (b.modifyNodes (appendText value)).textContent = b.textContent ++ value := by
  apply textContent_modifyNodes
  rcases appendText_cases value b.nodes with ⟨last, rest, hnodes, happend⟩ | happend
  · rw [happend, hnodes, List.reverse_cons, List.reverse_cons, Node.textContentList_concat,
      Node.textContentList_concat, Node.textContent, Node.textContent, String.append_assoc]
  · rw [happend, List.reverse_cons, Node.textContentList_concat, Node.textContent]

/-- The text of an element that is closed is at the end already, and stays there. -/
theorem textContent_closeElement : b.closeElement.textContent = b.textContent := by
  obtain ⟨top, opened, verbatim⟩ := b
  cases opened with
  | nil => rfl
  | cons element outer =>
    rw [closeElement, textContent_add]
    rfl

theorem textContent_closeVerbatim : b.closeVerbatim.textContent = b.textContent := by
  obtain ⟨top, opened, verbatim⟩ := b
  cases verbatim with
  | none => rfl
  | some element =>
    rw [closeVerbatim, textContent_add, Node.textContent, String.append_empty]
    rfl

theorem textContent_pushVerbatim (element : OpenVerbatim) (event : Event) :
    (b.pushVerbatim element event).textContent = b.textContent := by
  cases event with
  | finish tag =>
    obtain ⟨tag', events, depth⟩ := element
    cases depth with
    | zero => exact textContent_closeVerbatim b
    | succ depth => rfl
  | _ => rfl

theorem textContent_pushContent (event : Event) :
    (b.pushContent event).textContent = b.textContent ++ event.textAt 0 := by
  rw [textAt_zero]
  cases event with
  | start tag =>
    rw [pushContent]
    split
    · simp [textContent, literal?]
    · simp [textContent, openedText, Node.textContentList, literal?]
  | finish tag =>
    rw [pushContent, textContent_closeElement]
    simp [literal?]
  | text value => exact textContent_appendText b value
  | _ => exact textContent_add b _

/-- Only what is taken outside verbatim elements adds text, and each event its own. -/
theorem textContent_push (event : Event) :
    (b.push event).textContent = b.textContent ++ event.textAt b.depth := by
  cases hverbatim : b.verbatim with
  | none => rw [push_of_none hverbatim, depth_of_none hverbatim, textContent_pushContent]
  | some element =>
    rw [push_of_some hverbatim, depth_of_some hverbatim, textContent_pushVerbatim, textAt_succ,
      String.append_empty]

theorem textContentList_closeAll (top : List Node) (opened : List OpenElement) :
    Node.textContentList (closeAll top opened).reverse = openedText top opened := by
  cases opened with
  | nil => rw [closeAll, openedText]
  | cons element outer =>
    induction outer generalizing element with
    | nil =>
      rw [closeAll, List.reverse_cons, Node.textContentList_concat]
      rfl
    | cons outer rest ih =>
      rw [closeAll, ih, openedText, List.reverse_cons, Node.textContentList_concat,
        ← String.append_assoc]
      rfl

/-- What is still open keeps its text when it is closed. -/
theorem textContent_finish : b.finish.textContent = b.textContent := by
  rw [finish, Node.textContent, textContentList_closeAll]
  exact textContent_closeVerbatim b

end Builder

end SpoilerMarkup
