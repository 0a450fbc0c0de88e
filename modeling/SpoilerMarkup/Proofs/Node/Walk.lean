import SpoilerMarkup.Node.Visit
import SpoilerMarkup.Proofs.Node.Below

/-!
What a visit does at one child, by the answer of its callback. Each lemma takes a visit one
step on; longer visits are put together from them, with the children split into those that are
behind the index and those that are not.
-/
namespace SpoilerMarkup.Node

variable {σ : Type} {kind : NodeKind} {callback : Visitor σ} {calls calls' : Nat}
  {parent parent' child child' : Node} {index : Nat} {state state' : σ}

/-- As many calls are enough for a child and all below it as there are nodes of the kind. -/
theorem offer_of_calls (hcalls : countList kind [child] ≤ calls) :
    ∃ left, left ≤ calls ∧ calls + countList kind child.children ≤ left + countList kind [child] ∧
      offer kind callback calls parent index state child =
        if child.kind = kind then
          let (move, parent, state) := callback index parent state
          some (move, parent, state, left)
        else some (.descend, parent, state, left) := by
  simp only [countList_cons, countList_nil] at hcalls ⊢
  unfold offer
  by_cases hkind : child.kind = kind
  · simp only [hkind, ↓reduceIte] at hcalls ⊢
    obtain ⟨left, rfl⟩ : ∃ left, calls = left + 1 := ⟨calls - 1, by omega⟩
    exact ⟨left, by omega, by omega, rfl⟩
  · simp only [hkind, ↓reduceIte]
    exact ⟨calls, by omega, by omega, rfl⟩

theorem visitFrom_end (h : parent.children[index]? = none) :
    visitFrom kind callback calls parent index state = ⟨parent, state, calls, .finished⟩ := by
  rw [visitFrom]
  simp [h]

theorem visitFrom_exit (h : parent.children[index]? = some child)
    (hoffer : offer kind callback calls parent index state child =
      some (.exit, parent', state', calls')) :
    visitFrom kind callback calls parent index state = ⟨parent', state', calls', .exited⟩ := by
  rw [visitFrom]
  simp only [h]
  split <;> simp_all

theorem visitFrom_skip (h : parent.children[index]? = some child)
    (hoffer : offer kind callback calls parent index state child =
      some (.skip, parent', state', calls')) :
    visitFrom kind callback calls parent index state =
      visitFrom kind callback calls' parent' (index + 1) state' := by
  rw [visitFrom]
  simp only [h]
  split <;> simp_all

theorem visitFrom_skipTo {next : Nat} (h : parent.children[index]? = some child)
    (hoffer : offer kind callback calls parent index state child =
      some (.skipTo next, parent', state', calls')) :
    visitFrom kind callback calls parent index state =
      visitFrom kind callback calls' parent' next state' := by
  rw [visitFrom]
  simp only [h]
  split <;> simp_all

/-- A descent goes below the child that the callback has left at the index. -/
theorem visitFrom_descend (h : parent.children[index]? = some child)
    (hoffer : offer kind callback calls parent index state child =
      some (.descend, parent', state', calls'))
    (hchild : parent'.children[index]? = some child') :
    visitFrom kind callback calls parent index state =
      let below := visitFrom kind callback calls' child' 0 state'
      let parent' := parent'.withChildren (parent'.children.set index below.node)
      match below.ending with
      | .finished =>
        visitFrom kind callback (min calls' below.callsLeft) parent' (index + 1) below.state
      | ending => ⟨parent', below.state, below.callsLeft, ending⟩ := by
  rw [visitFrom]
  simp only [h]
  split
  case h_5 heq =>
    rw [hoffer] at heq
    simp only [Option.some.injEq, Prod.mk.injEq, true_and] at heq
    obtain ⟨rfl, rfl, rfl⟩ := heq
    split
    · next hnone => simp [hchild] at hnone
    · next hsome =>
      obtain rfl := Option.some.inj (hchild.symm.trans hsome)
      rfl
  all_goals simp_all

/-- A descent that is finished leads to the next sibling. -/
theorem visitFrom_descend_finished {node : Node} {state'' : σ} {left : Nat}
    (h : parent.children[index]? = some child)
    (hoffer : offer kind callback calls parent index state child =
      some (.descend, parent', state', calls'))
    (hchild : parent'.children[index]? = some child')
    (hbelow : visitFrom kind callback calls' child' 0 state' = ⟨node, state'', left, .finished⟩) :
    visitFrom kind callback calls parent index state =
      visitFrom kind callback (min calls' left)
        (parent'.withChildren (parent'.children.set index node)) (index + 1) state'' := by
  rw [visitFrom_descend h hoffer hchild, hbelow]

/-- A descent that is cut short ends the whole visit. -/
theorem visitFrom_descend_exited {node : Node} {state'' : σ} {left : Nat}
    (h : parent.children[index]? = some child)
    (hoffer : offer kind callback calls parent index state child =
      some (.descend, parent', state', calls'))
    (hchild : parent'.children[index]? = some child')
    (hbelow : visitFrom kind callback calls' child' 0 state' = ⟨node, state'', left, .exited⟩) :
    visitFrom kind callback calls parent index state =
      ⟨parent'.withChildren (parent'.children.set index node), state'', left, .exited⟩ := by
  rw [visitFrom_descend h hoffer hchild, hbelow]

end SpoilerMarkup.Node
