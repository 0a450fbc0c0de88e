import SpoilerMarkup.Node

/-!
What is below a node. Trees and the child lists in them are taken apart together, child by
child, with `list_induction`; a measure of single nodes is summed over all that is below a node.
-/
namespace SpoilerMarkup.Node

theorem size_eq (node : Node) : node.size = 1 + sizeList node.children := by
  cases node <;> simp [size, children, sizeList]

/-- A property of child lists holds if it passes from the children of the first node and from
the other nodes to the whole list. -/
@[elab_as_elim]
theorem list_induction {motive : List Node → Prop} (nil : motive [])
    (cons : ∀ node nodes, motive node.children → motive nodes → motive (node :: nodes))
    (nodes : List Node) : motive nodes := by
  generalize hsize : sizeList nodes = bound
  induction bound using Nat.strongRecOn generalizing nodes with
  | _ bound ih =>
    cases nodes with
    | nil => exact nil
    | cons node nodes =>
      rw [sizeList, size_eq] at hsize
      exact cons node nodes (ih _ (by omega) _ rfl) (ih _ (by omega) _ rfl)

@[simp] theorem children_root (nodes : List Node) : (root nodes).children = nodes := rfl
@[simp] theorem children_element (tag : Tag) (nodes : List Node) :
    (element tag nodes).children = nodes := rfl
@[simp] theorem children_verbatim (tag : Tag) (events : List Event) :
    (verbatim tag events).children = [] := rfl
@[simp] theorem children_text (value : String) : (text value).children = [] := rfl
@[simp] theorem children_html (value : String) : (html value).children = [] := rfl
@[simp] theorem children_inlineCode (value : String) : (inlineCode value).children = [] := rfl
@[simp] theorem children_leaf (event : Event) : (leaf event).children = [] := rfl

theorem isParent_of_children {parent node : Node} {before after : List Node}
    (h : parent.children = before ++ node :: after) : parent.isParent := by
  cases parent <;> simp_all [children, isParent]

theorem eq_text_of_kind {node : Node} (h : node.kind = .text) : ∃ value, node = .text value := by
  cases node <;> simp_all [kind]

theorem isParent_iff_kind {node : Node} :
    node.isParent ↔ node.kind = .root ∨ node.kind = .element := by
  cases node <;> simp [isParent, kind]

@[simp] theorem isParent_withChildren (node : Node) (children : List Node) :
    (node.withChildren children).isParent = node.isParent := by
  cases node <;> rfl

@[simp] theorem withChildren_withChildren (node : Node) (children children' : List Node) :
    (node.withChildren children).withChildren children' = node.withChildren children' := by
  cases node <;> rfl

theorem exists_append_of_getElem? {nodes : List Node} {index : Nat} {node : Node}
    (h : nodes[index]? = some node) :
    ∃ before after, nodes = before ++ node :: after ∧ before.length = index := by
  obtain ⟨hlt, rfl⟩ := List.getElem?_eq_some_iff.1 h
  refine ⟨nodes.take index, nodes.drop (index + 1), ?_, by simp; omega⟩
  rw [← List.drop_eq_getElem_cons hlt, List.take_append_drop]

/-- A child that is replaced leaves those before and behind it in place. -/
theorem splice_of_children {parent node : Node} {before nodes : List Node}
    (h : parent.children = before ++ node :: nodes) (replacement : List Node) :
    parent.splice before.length replacement =
      (parent.withChildren (before ++ replacement ++ nodes), some replacement.length) := by
  rw [splice, if_pos (by simp [h]), h]
  simp

mutual

/-- The sum of a measure over all nodes below a node. -/
def sumBelow (measure : Node → Nat) : Node → Nat
  | .root children | .element _ children => sumList measure children
  | _ => 0

/-- The sum of a measure over some nodes and all nodes below them. -/
def sumList (measure : Node → Nat) : List Node → Nat
  | [] => 0
  | node :: nodes => measure node + sumBelow measure node + sumList measure nodes

end

theorem sumBelow_eq (measure : Node → Nat) (node : Node) :
    node.sumBelow measure = sumList measure node.children := by
  cases node <;> simp [sumBelow, children, sumList]

@[simp] theorem sumList_nil (measure : Node → Nat) : sumList measure [] = 0 := by
  rw [sumList]

@[simp] theorem sumList_cons (measure : Node → Nat) (node : Node) (nodes : List Node) :
    sumList measure (node :: nodes) =
      measure node + sumList measure node.children + sumList measure nodes := by
  rw [sumList, sumBelow_eq]

@[simp] theorem sumList_append (measure : Node → Nat) (nodes nodes' : List Node) :
    sumList measure (nodes ++ nodes') = sumList measure nodes + sumList measure nodes' := by
  induction nodes with
  | nil => simp
  | cons node nodes ih =>
    rw [List.cons_append, sumList_cons, sumList_cons, ih]
    omega

theorem countBelow_eq (kind : NodeKind) (node : Node) :
    countBelow kind node = countList kind node.children := by
  cases node <;> simp [countBelow, children, countList]

@[simp] theorem countList_nil (kind : NodeKind) : countList kind [] = 0 := by
  rw [countList]

@[simp] theorem countList_cons (kind : NodeKind) (node : Node) (nodes : List Node) :
    countList kind (node :: nodes) =
      (if node.kind = kind then 1 else 0) + countList kind node.children +
        countList kind nodes := by
  rw [countList, countBelow_eq]

@[simp] theorem countList_append (kind : NodeKind) (nodes nodes' : List Node) :
    countList kind (nodes ++ nodes') = countList kind nodes + countList kind nodes' := by
  induction nodes with
  | nil => simp
  | cons node nodes ih =>
    rw [List.cons_append, countList_cons, countList_cons, ih]
    omega

/-- Among nodes without children only the nodes themselves count. -/
theorem countList_of_leaves {kind : NodeKind} {nodes : List Node}
    (h : ∀ node ∈ nodes, node.children = []) :
    countList kind nodes = nodes.countP (·.kind = kind) := by
  induction nodes with
  | nil => simp
  | cons node nodes ih =>
    rw [countList_cons, h node (by simp), ih fun node hnode => h node (by simp [hnode]),
      List.countP_cons]
    by_cases hkind : node.kind = kind <;> simp [hkind, Nat.add_comm]

end SpoilerMarkup.Node
