import SpoilerMarkup.Node

/-!
Visits the nodes of one kind below a node, in the order in which they stand, and
lets a callback change the parent of each. A callback may send the visit back to
children it has seen, so a visit need not come to an end by itself: it is given the
number of calls that it may make. Main definition: `Node.visit`.
-/
namespace SpoilerMarkup

/-- Where a visit goes on after a callback. -/
inductive Move where
  /-- To the children of the node, then to its next sibling. -/
  | descend
  /-- To the next sibling of the node. -/
  | skip
  /-- To the sibling with the given index. -/
  | skipTo (index : Nat)
  /-- Nowhere: the visit ends. -/
  | exit
  deriving DecidableEq, Repr

inductive Ending where
  | finished
  | exited
  /-- A callback was due and no call was left. -/
  | exhausted
  deriving DecidableEq, Repr

/-- What a visit leaves: the changed node, the state of the callback, and the number
of calls it did not make. -/
structure Visit (σ : Type) where
  node : Node
  state : σ
  callsLeft : Nat
  ending : Ending

/-- A callback is given the index of a node, the parent of the node and its own state. -/
abbrev Visitor (σ : Type) := Nat → Node → σ → Move × Node × σ

namespace Node

theorem sizeList_drop_lt {nodes : List Node} {index : Nat} {node : Node}
    (h : nodes[index]? = some node) :
    sizeList node.children + sizeList (nodes.drop (index + 1)) < sizeList (nodes.drop index) := by
  obtain ⟨hlt, rfl⟩ := List.getElem?_eq_some_iff.1 h
  rw [List.drop_eq_getElem_cons hlt, sizeList]
  have : sizeList (nodes[index]).children < size (nodes[index]) := by
    cases nodes[index] <;> simp [children, size, sizeList]
  omega

private theorem prodLex_of_le {a b c d : Nat} (h : a ≤ b) (h' : c < d) :
    Prod.Lex (· < ·) (· < ·) (a, c) (b, d) := by
  rcases Nat.lt_or_eq_of_le h with h | rfl
  · exact Prod.Lex.left _ _ h
  · exact Prod.Lex.right _ h'

/-- What happens at a child: the answer of the callback if the child is of the right
kind, and otherwise a descent that costs no call. There is no answer if a call is due
and none is left. -/
def offer {σ : Type} (kind : NodeKind) (callback : Visitor σ) (calls : Nat) (parent : Node)
    (index : Nat) (state : σ) (child : Node) : Option (Move × Node × σ × Nat) :=
  if child.kind = kind then
    match calls with
    | 0 => none
    | calls + 1 =>
      let (move, parent, state) := callback index parent state
      some (move, parent, state, calls)
  else some (.descend, parent, state, calls)

theorem offer_eq_some {σ : Type} {kind : NodeKind} {callback : Visitor σ} {calls : Nat}
    {parent : Node} {index : Nat} {state : σ} {child : Node} {move : Move} {parent' : Node}
    {state' : σ} {calls' : Nat}
    (h : offer kind callback calls parent index state child =
      some (move, parent', state', calls')) :
    calls' < calls ∨ move = .descend ∧ parent' = parent ∧ calls' = calls := by
  unfold offer at h
  split at h
  · split at h
    · simp at h
    · left
      simp only [Option.some.injEq, Prod.mk.injEq] at h
      omega
  · right
    simp only [Option.some.injEq, Prod.mk.injEq] at h
    exact ⟨h.1.symm, h.2.1.symm, h.2.2.2.symm⟩

/-- Visits the children of `parent` from `index` on, and all that is below them. With
each step either a call is spent or less remains to be seen. -/
def visitFrom {σ : Type} (kind : NodeKind) (callback : Visitor σ) (calls : Nat)
    (parent : Node) (index : Nat) (state : σ) : Visit σ :=
  match parent.children[index]? with
  | none => ⟨parent, state, calls, .finished⟩
  | some child =>
    match hoffer : offer kind callback calls parent index state child with
    | none => ⟨parent, state, calls, .exhausted⟩
    | some (.exit, parent, state, calls) => ⟨parent, state, calls, .exited⟩
    | some (.skip, parent, state, calls) =>
      visitFrom kind callback calls parent (index + 1) state
    | some (.skipTo next, parent, state, calls) =>
      visitFrom kind callback calls parent next state
    | some (.descend, parent, state, calls) =>
      match _hinner : parent.children[index]? with
      | none => ⟨parent, state, calls, .finished⟩
      | some child =>
        let below := visitFrom kind callback calls child 0 state
        let parent := parent.withChildren (parent.children.set index below.node)
        match below.ending with
        | .finished =>
          visitFrom kind callback (min calls below.callsLeft) parent (index + 1) below.state
        | ending => ⟨parent, below.state, below.callsLeft, ending⟩
termination_by (calls, sizeList (parent.children.drop index))
decreasing_by
  · rcases offer_eq_some hoffer with h | ⟨h, -, -⟩
    · exact Prod.Lex.left _ _ h
    · cases h
  · rcases offer_eq_some hoffer with h | ⟨h, -, -⟩
    · exact Prod.Lex.left _ _ h
    · cases h
  · rcases offer_eq_some hoffer with h | ⟨-, rfl, rfl⟩
    · exact Prod.Lex.left _ _ h
    · refine Prod.Lex.right _ ?_
      have := sizeList_drop_lt _hinner
      simp only [List.drop_zero]
      omega
  · rcases offer_eq_some hoffer with h | ⟨-, rfl, rfl⟩
    · exact Prod.Lex.left _ _ (Nat.lt_of_le_of_lt (Nat.min_le_left _ _) h)
    · refine prodLex_of_le (Nat.min_le_left _ _) ?_
      have := sizeList_drop_lt _hinner
      simp only [children_withChildren]
      split
      · rw [List.drop_set_of_lt (show index < index + 1 by omega)]
        omega
      · simp only [List.drop_nil, sizeList]
        omega

/-- Visits every node of one kind below `root`, making at most `calls` calls. -/
def visit {σ : Type} (root : Node) (kind : NodeKind) (callback : Visitor σ) (calls : Nat)
    (state : σ) : Visit σ :=
  visitFrom kind callback calls root 0 state

end Node

end SpoilerMarkup
