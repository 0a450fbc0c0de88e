import SpoilerMarkup.Event

/-!
A document as a tree. Elements whose text is not prose keep their content as the
events it was read from. Main definitions: `Node`, the children of a node and how
one of them is replaced (`Node.splice`), and the text of a node (`Node.textContent`).
-/
namespace SpoilerMarkup

inductive Node where
  | root (children : List Node)
  | element (tag : Tag) (children : List Node)
  /-- An element whose content is never looked into. -/
  | verbatim (tag : Tag) (events : List Event)
  | text (value : String)
  | html (value : String)
  | inlineCode (value : String)
  /-- Any other event that stands alone. -/
  | leaf (event : Event)
  deriving Repr

inductive NodeKind where
  | root | element | verbatim | text | html | inlineCode | leaf
  deriving DecidableEq, Repr

namespace Node

mutual

def decEq : (a b : Node) → Decidable (a = b)
  | .root as, .root bs =>
    have := decEqList as bs
    decidable_of_iff (as = bs) (by simp)
  | .element s as, .element t bs =>
    have := decEqList as bs
    decidable_of_iff (s = t ∧ as = bs) (by simp)
  | .verbatim s as, .verbatim t bs => decidable_of_iff (s = t ∧ as = bs) (by simp)
  | .text a, .text b => decidable_of_iff (a = b) (by simp)
  | .html a, .html b => decidable_of_iff (a = b) (by simp)
  | .inlineCode a, .inlineCode b => decidable_of_iff (a = b) (by simp)
  | .leaf a, .leaf b => decidable_of_iff (a = b) (by simp)
  | .root _, .element .. | .root _, .verbatim .. | .root _, .text _ | .root _, .html _
  | .root _, .inlineCode _ | .root _, .leaf _ => isFalse nofun
  | .element .., .root _ | .element .., .verbatim .. | .element .., .text _
  | .element .., .html _ | .element .., .inlineCode _ | .element .., .leaf _ => isFalse nofun
  | .verbatim .., .root _ | .verbatim .., .element .. | .verbatim .., .text _
  | .verbatim .., .html _ | .verbatim .., .inlineCode _ | .verbatim .., .leaf _ => isFalse nofun
  | .text _, .root _ | .text _, .element .. | .text _, .verbatim .. | .text _, .html _
  | .text _, .inlineCode _ | .text _, .leaf _ => isFalse nofun
  | .html _, .root _ | .html _, .element .. | .html _, .verbatim .. | .html _, .text _
  | .html _, .inlineCode _ | .html _, .leaf _ => isFalse nofun
  | .inlineCode _, .root _ | .inlineCode _, .element .. | .inlineCode _, .verbatim ..
  | .inlineCode _, .text _ | .inlineCode _, .html _ | .inlineCode _, .leaf _ => isFalse nofun
  | .leaf _, .root _ | .leaf _, .element .. | .leaf _, .verbatim .. | .leaf _, .text _
  | .leaf _, .html _ | .leaf _, .inlineCode _ => isFalse nofun

def decEqList : (as bs : List Node) → Decidable (as = bs)
  | [], [] => isTrue rfl
  | [], _ :: _ | _ :: _, [] => isFalse nofun
  | a :: as, b :: bs =>
    have := decEq a b
    have := decEqList as bs
    decidable_of_iff (a = b ∧ as = bs) (by simp)

end

instance : DecidableEq Node := decEq

def kind : Node → NodeKind
  | .root _ => .root
  | .element .. => .element
  | .verbatim .. => .verbatim
  | .text _ => .text
  | .html _ => .html
  | .inlineCode _ => .inlineCode
  | .leaf _ => .leaf

/-- The string of a node that holds one: text, raw markup or inline code. -/
def value? : Node → Option String
  | .text value | .html value | .inlineCode value => some value
  | _ => none

/-- The children of a root or an element. No other node has any. -/
def children : Node → List Node
  | .root children | .element _ children => children
  | _ => []

def isParent : Node → Bool
  | .root _ | .element .. => true
  | _ => false

/-- A root or an element with other children. Any other node stays as it is. -/
def withChildren : Node → List Node → Node
  | .root _, children => .root children
  | .element tag _, children => .element tag children
  | node, _ => node

@[simp] theorem children_withChildren (node : Node) (children : List Node) :
    (node.withChildren children).children = if node.isParent then children else [] := by
  cases node <;> rfl

@[simp] theorem withChildren_children (node : Node) : node.withChildren node.children = node := by
  cases node <;> rfl

@[simp] theorem kind_withChildren (node : Node) (children : List Node) :
    (node.withChildren children).kind = node.kind := by
  cases node <;> rfl

/-- Replaces the child at `index` by any number of nodes and counts them, or does
nothing if there is no such child. -/
def splice (node : Node) (index : Nat) (nodes : List Node) : Node × Option Nat :=
  if index < node.children.length then
    (node.withChildren (node.children.take index ++ nodes ++ node.children.drop (index + 1)),
      some nodes.length)
  else (node, none)

mutual

/-- The text, raw markup and inline code below a node, in order. Elements that are
not looked into have none. -/
def textContent : Node → String
  | .text value | .html value | .inlineCode value => value
  | .root children | .element _ children => textContentList children
  | .verbatim .. | .leaf _ => ""

def textContentList : List Node → String
  | [] => ""
  | node :: nodes => textContent node ++ textContentList nodes

end

mutual

/-- The number of nodes of one kind below a node. -/
def countBelow (kind : NodeKind) : Node → Nat
  | .root children | .element _ children => countList kind children
  | _ => 0

def countList (kind : NodeKind) : List Node → Nat
  | [] => 0
  | node :: nodes =>
    (if node.kind = kind then 1 else 0) + countBelow kind node + countList kind nodes

end

mutual

def size : Node → Nat
  | .root children | .element _ children => 1 + sizeList children
  | _ => 1

def sizeList : List Node → Nat
  | [] => 0
  | node :: nodes => size node + sizeList nodes

end

end Node

end SpoilerMarkup
