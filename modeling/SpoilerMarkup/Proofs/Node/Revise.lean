import SpoilerMarkup.Proofs.Node.Walk

/-!
Visits that change a tree by what is decided at each node. The decision on a node is taken once,
when the visit comes to it, and nodes put in its place are passed over; so such a visit is a
recursion over the tree it starts from. Main statement: `visitFrom_visitor`.
-/
namespace SpoilerMarkup.Node

/-- What is to be done at a node. -/
inductive Decision where
  /-- To leave the node and to go below it. -/
  | descend
  /-- To leave the node and all that is below it. -/
  | skip
  /-- To leave the node and to end the visit. -/
  | exit
  /-- To put other nodes in its place. -/
  | replace (nodes : List Node)

variable {σ : Type}

/-- The callback that does what is decided. -/
def Decision.visitor (decision : σ → Node → Decision × σ) : Visitor σ := fun index parent state =>
  match parent.children[index]? with
  | none => (.descend, parent, state)
  | some node =>
    match decision state node with
    | (.descend, state) => (.descend, parent, state)
    | (.skip, state) => (.skip, parent, state)
    | (.exit, state) => (.exit, parent, state)
    | (.replace nodes, state) =>
      (.skipTo (index + nodes.length), (parent.splice index nodes).1, state)

/-- A child list after all decisions on it, the state of the decisions, and whether a visit goes
on behind it. -/
structure Revision (σ : Type) where
  nodes : List Node
  state : σ
  goesOn : Bool

namespace Revision

/-- A revision with more nodes in front. -/
def after (nodes : List Node) (revision : Revision σ) : Revision σ :=
  { revision with nodes := nodes ++ revision.nodes }

def ending (revision : Revision σ) : Ending :=
  if revision.goesOn then .finished else .exited

@[simp] theorem nodes_after (nodes : List Node) (revision : Revision σ) :
    (revision.after nodes).nodes = nodes ++ revision.nodes := rfl
@[simp] theorem state_after (nodes : List Node) (revision : Revision σ) :
    (revision.after nodes).state = revision.state := rfl
@[simp] theorem ending_after (nodes : List Node) (revision : Revision σ) :
    (revision.after nodes).ending = revision.ending := rfl

end Revision

mutual

/-- The children of a node, revised. -/
def reviseBelow (kind : NodeKind) (decision : σ → Node → Decision × σ) (state : σ) :
    Node → Revision σ
  | .root children | .element _ children => reviseList kind decision state children
  | _ => ⟨[], state, true⟩

/-- Decides on each node of one kind in a list and below it, in order. -/
def reviseList (kind : NodeKind) (decision : σ → Node → Decision × σ) (state : σ) :
    List Node → Revision σ
  | [] => ⟨[], state, true⟩
  | node :: nodes =>
    match if node.kind = kind then decision state node else (.descend, state) with
    | (.exit, state) => ⟨node :: nodes, state, false⟩
    | (.skip, state) => (reviseList kind decision state nodes).after [node]
    | (.replace replacement, state) => (reviseList kind decision state nodes).after replacement
    | (.descend, state) =>
      let below := reviseBelow kind decision state node
      let node := node.withChildren below.nodes
      if below.goesOn then (reviseList kind decision below.state nodes).after [node]
      else ⟨node :: nodes, below.state, false⟩

end

theorem reviseBelow_eq (kind : NodeKind) (decision : σ → Node → Decision × σ) (state : σ)
    (node : Node) :
    reviseBelow kind decision state node = reviseList kind decision state node.children := by
  cases node <;> simp [reviseBelow, children, reviseList]

theorem reviseList_replace {kind : NodeKind} {decision : σ → Node → Decision × σ} {state state' : σ}
    {node : Node} {replacement : List Node} (hkind : node.kind = kind)
    (hdecision : decision state node = (.replace replacement, state')) (nodes : List Node) :
    reviseList kind decision state (node :: nodes) =
      (reviseList kind decision state' nodes).after replacement := by
  rw [reviseList, if_pos hkind, hdecision]

theorem reviseList_descend {kind : NodeKind} {decision : σ → Node → Decision × σ} {state state' : σ}
    {node : Node}
    (hdecision : (if node.kind = kind then decision state node else (.descend, state)) =
      (.descend, state')) (nodes : List Node)
    (hgoesOn : (reviseList kind decision state' node.children).goesOn = true) :
    reviseList kind decision state (node :: nodes) =
      let below := reviseList kind decision state' node.children
      (reviseList kind decision below.state nodes).after [node.withChildren below.nodes] := by
  rw [reviseList, hdecision]
  simp [reviseBelow_eq, hgoesOn]

/-- What the callback answers at a child, once its call is paid. -/
theorem offer_visitor (kind : NodeKind) (decision : σ → Node → Decision × σ) (state : σ)
    {parent node : Node} {index calls : Nat} (hchild : parent.children[index]? = some node)
    (hcalls : countList kind [node] ≤ calls) :
    ∃ left, left ≤ calls ∧ calls + countList kind node.children ≤ left + countList kind [node] ∧
      offer kind (Decision.visitor decision) calls parent index state node =
        match if node.kind = kind then decision state node else (.descend, state) with
        | (.exit, state) => some (.exit, parent, state, left)
        | (.skip, state) => some (.skip, parent, state, left)
        | (.replace nodes, state) =>
          some (.skipTo (index + nodes.length), (parent.splice index nodes).1, state, left)
        | (.descend, state) => some (.descend, parent, state, left) := by
  obtain ⟨left, hleft, hpaid, hoffer⟩ := offer_of_calls hcalls
  refine ⟨left, hleft, hpaid, ?_⟩
  rw [hoffer]
  by_cases hkind : node.kind = kind
  · simp only [hkind, ↓reduceIte, Decision.visitor, hchild]
    obtain ⟨decided, state⟩ := decision state node
    cases decided <;> rfl
  · simp only [hkind, ↓reduceIte]

/-- The visit of the children of `parent` behind `before` is their revision. As many calls are
enough as there are nodes of the kind, and no more are made. -/
theorem visitFrom_visitor (kind : NodeKind) (decision : σ → Node → Decision × σ) (nodes : List Node)
    (before : List Node) (parent : Node) (calls : Nat) (state : σ)
    (hparent : parent.children = before ++ nodes) (hcalls : countList kind nodes ≤ calls) :
    ∃ left, left ≤ calls ∧ calls ≤ left + countList kind nodes ∧
      visitFrom kind (Decision.visitor decision) calls parent before.length state =
        let revision := reviseList kind decision state nodes
        ⟨parent.withChildren (before ++ revision.nodes), revision.state, left,
          revision.ending⟩ := by
  induction nodes using list_induction generalizing before parent calls state with
  | nil =>
    obtain rfl : parent.children = before := by rw [hparent, List.append_nil]
    refine ⟨calls, Nat.le_refl _, Nat.le_add_right _ _, ?_⟩
    rw [visitFrom_end (by simp), reviseList]
    simp [Revision.ending]
  | cons node nodes below rest =>
    have hchild : parent.children[before.length]? = some node := by simp [hparent]
    have hisParent := isParent_of_children hparent
    have hcount : countList kind (node :: nodes) =
        countList kind [node] + countList kind nodes := by simp
    obtain ⟨left, hleft, hpaid, hoffer⟩ :=
      offer_visitor kind decision state hchild (show countList kind [node] ≤ calls by omega)
    rw [reviseList]
    generalize (if node.kind = kind then decision state node else (.descend, state)) = decided
      at hoffer ⊢
    obtain ⟨decided, state⟩ := decided
    cases decided with
    | exit =>
      refine ⟨left, hleft, by omega, ?_⟩
      rw [visitFrom_exit hchild hoffer]
      simp [← hparent, Revision.ending]
    | skip =>
      obtain ⟨left', hleft', hused, hvisit⟩ :=
        rest (before ++ [node]) parent left state (by simp [hparent]) (by omega)
      refine ⟨left', by omega, by omega, ?_⟩
      rw [visitFrom_skip hchild hoffer]
      simpa using hvisit
    | replace replacement =>
      have hsplice := splice_of_children hparent replacement
      obtain ⟨left', hleft', hused, hvisit⟩ := rest (before ++ replacement)
        (parent.withChildren (before ++ replacement ++ nodes)) left state (by simp [hisParent])
        (by omega)
      refine ⟨left', by omega, by omega, ?_⟩
      rw [visitFrom_skipTo hchild hoffer, hsplice]
      simpa using hvisit
    | descend =>
      obtain ⟨left', hleft', hused, hbelow⟩ := below [] node left state rfl (by omega)
      simp only [List.nil_append, List.length_nil, ← reviseBelow_eq] at hbelow
      cases hgoesOn : (reviseBelow kind decision state node).goesOn with
      | true =>
        simp only [Revision.ending, hgoesOn, ↓reduceIte] at hbelow
        obtain ⟨left'', hleft'', hused', hvisit⟩ := rest
          (before ++ [node.withChildren (reviseBelow kind decision state node).nodes])
          (parent.withChildren (before ++
            [node.withChildren (reviseBelow kind decision state node).nodes] ++ nodes))
          (min left left') (reviseBelow kind decision state node).state (by simp [hisParent])
          (by omega)
        refine ⟨left'', by omega, by omega, ?_⟩
        rw [visitFrom_descend_finished hchild hoffer hchild hbelow]
        simpa [hparent, hgoesOn] using hvisit
      | false =>
        simp only [Revision.ending, hgoesOn, Bool.false_eq_true, ↓reduceIte] at hbelow
        refine ⟨left', by omega, by omega, ?_⟩
        rw [visitFrom_descend_exited hchild hoffer hchild hbelow]
        simp [hparent, hgoesOn, Revision.ending]

end SpoilerMarkup.Node
