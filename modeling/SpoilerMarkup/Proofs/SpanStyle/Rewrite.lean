import SpoilerMarkup.Proofs.Node.Revise
import SpoilerMarkup.Proofs.Segment.Scan
import SpoilerMarkup.SpanStyle

/-!
The tree in which every text of a child list is split at its spoilers, by recursion over the
tree. A style is applied by a visit that changes child lists while it goes through them, and
what it leaves is this tree. Main statement: `apply_spec`.
-/
namespace SpoilerMarkup.SpanStyle

/-- A text split at its spoilers, or the text alone if it has none. -/
def rewriteText (style : SpanStyle) (value : String) : List Node :=
  match Segment.split value with
  | none => [.text value]
  | some pieces => pieces.map style.nodeOfSegment

mutual

/-- A tree in which every text of a child list is split at its spoilers. -/
def rewrite (style : SpanStyle) : Node → Node
  | .root children => .root (rewriteList style children)
  | .element tag children => .element tag (rewriteList style children)
  | node => node

def rewriteList (style : SpanStyle) : List Node → List Node
  | [] => []
  | .text value :: nodes => style.rewriteText value ++ rewriteList style nodes
  | node :: nodes => rewrite style node :: rewriteList style nodes

end

/-- The number of spoilers in a node that is a text. -/
def spoilersIn : Node → Nat
  | .text value => Segment.spoilerCount value
  | _ => 0

theorem spoilersIn_of_isParent {node : Node} (h : node.isParent) : spoilersIn node = 0 := by
  cases node <;> simp_all [Node.isParent, spoilersIn]

theorem spoilersIn_of_kind {node : Node} (h : node.kind ≠ .text) : spoilersIn node = 0 := by
  cases node with
  | text value => exact absurd rfl h
  | _ => rfl

theorem rewrite_eq (style : SpanStyle) (node : Node) :
    style.rewrite node = node.withChildren (style.rewriteList node.children) := by
  cases node <;> simp [rewrite, Node.withChildren, Node.children]

@[simp] theorem kind_rewrite (style : SpanStyle) (node : Node) :
    (style.rewrite node).kind = node.kind := by
  rw [rewrite_eq, Node.kind_withChildren]

@[simp] theorem children_rewrite (style : SpanStyle) (node : Node) :
    (style.rewrite node).children = style.rewriteList node.children := by
  cases node <;> rfl

theorem rewriteList_text (style : SpanStyle) (value : String) (nodes : List Node) :
    style.rewriteList (.text value :: nodes) =
      style.rewriteText value ++ style.rewriteList nodes := by
  rw [rewriteList]

@[simp] theorem rewriteList_append (style : SpanStyle) (nodes nodes' : List Node) :
    style.rewriteList (nodes ++ nodes') = style.rewriteList nodes ++ style.rewriteList nodes' := by
  induction nodes with
  | nil => simp [rewriteList]
  | cons node nodes ih =>
    cases node <;> simp [rewriteList, ih]

theorem rewriteText_of_none {style : SpanStyle} {value : String}
    (h : Segment.split value = none) : style.rewriteText value = [.text value] := by
  simp [rewriteText, h]

theorem rewriteText_of_some {style : SpanStyle} {value : String} {pieces : List Segment}
    (h : Segment.split value = some pieces) :
    style.rewriteText value = pieces.map style.nodeOfSegment := by
  simp [rewriteText, h]

theorem exists_split_of_spoilersIn {node : Node} (h : spoilersIn node ≠ 0) :
    ∃ value pieces, node = .text value ∧ Segment.split value = some pieces := by
  cases node with
  | text value =>
    obtain ⟨pieces, hsplit⟩ := Option.ne_none_iff_exists'.1 (mt Segment.spoilerCount_eq_zero_iff.2 h)
    exact ⟨value, pieces, rfl, hsplit⟩
  | _ => exact absurd rfl h

/-- A node that has no spoiler itself is kept, and what is below it is rewritten. -/
theorem rewriteList_cons (style : SpanStyle) {node : Node} (h : spoilersIn node = 0)
    (nodes : List Node) :
    style.rewriteList (node :: nodes) = style.rewrite node :: style.rewriteList nodes := by
  cases node with
  | text value =>
    have hnone : Segment.split value = none := Segment.spoilerCount_eq_zero_iff.1 h
    simp [rewriteList_text, rewriteText_of_none hnone, rewrite]
  | _ => simp [rewriteList]

/-- The spans among the nodes of a split text are its spoilers. -/
theorem countP_nodeOfSegment (style : SpanStyle) (pieces : List Segment) :
    (pieces.map style.nodeOfSegment).countP (·.kind = .html) = pieces.countP (!·.isText) := by
  rw [List.countP_map]
  refine List.countP_congr fun piece _ => ?_
  cases piece <;> simp [nodeOfSegment, Node.kind, Segment.isText]

/-- All that replacing a child can do: nothing unless the child is a text with a spoiler, and
otherwise to put the pieces of that text in its place. -/
theorem replaceAt_cases (style : SpanStyle) (index : Nat) (parent : Node) :
    style.replaceAt index parent = (.descend, parent) ∧
        (∀ value, parent.children[index]? = some (.text value) → Segment.split value = none) ∨
      ∃ before value after pieces, parent.children = before ++ .text value :: after ∧
        before.length = index ∧ Segment.split value = some pieces ∧
        style.replaceAt index parent = (.skipTo (index + pieces.length),
          parent.withChildren (before ++ pieces.map style.nodeOfSegment ++ after)) := by
  unfold replaceAt
  split
  · next value hchild =>
    cases hsplit : Segment.split value with
    | none => simp_all [replacements]
    | some pieces =>
      obtain ⟨before, after, hchildren, rfl⟩ := Node.exists_append_of_getElem? hchild
      right
      refine ⟨before, value, after, pieces, hchildren, rfl, hsplit, ?_⟩
      have hne : pieces.map style.nodeOfSegment ≠ [] := by simpa using Segment.ne_nil_of_split hsplit
      simp only [replacements, hsplit, Node.splice_of_children hchildren]
      rw [List.length_map]
  · next hother =>
    left
    exact ⟨rfl, fun value hchild => absurd hchild (hother value)⟩

/-- What is decided at each node when a style is applied. The state counts spoilers. -/
def decision (style : SpanStyle) (spoilers : Nat) : Node → Node.Decision × Nat
  | .text value =>
    match Segment.split value with
    | none => (.descend, spoilers)
    | some pieces =>
      (.replace (pieces.map style.nodeOfSegment), spoilers + Segment.spoilerCount value)
  | _ => (.descend, spoilers)

theorem decision_of_zero (style : SpanStyle) (spoilers : Nat) {node : Node}
    (h : spoilersIn node = 0) : style.decision spoilers node = (.descend, spoilers) := by
  cases node with
  | text value => simp [decision, Segment.spoilerCount_eq_zero_iff.1 h]
  | _ => rfl

theorem visitor_eq (style : SpanStyle) : style.visitor = Node.Decision.visitor style.decision := by
  funext index parent spoilers
  rcases replaceAt_cases style index parent with
    ⟨hreplace, hnone⟩ | ⟨before, value, after, pieces, hchildren, rfl, hsplit, hreplace⟩
  · cases hchild : parent.children[index]? with
    | none => simp [visitor, hreplace, Node.Decision.visitor, hchild]
    | some child =>
      have hzero : spoilersIn child = 0 := by
        cases child with
        | text value => exact Segment.spoilerCount_eq_zero_iff.2 (hnone value hchild)
        | _ => rfl
      have hdecision := decision_of_zero style spoilers hzero
      simp [visitor, hreplace, Node.Decision.visitor, hchild, hdecision]
  · have hisParent := Node.isParent_of_children hchildren
    have hcount : (pieces.map style.nodeOfSegment).countP (·.kind = .html) =
        Segment.spoilerCount value := by
      rw [countP_nodeOfSegment, Segment.spoilerCount, hsplit, Option.getD_some]
    have hinserted : ((before ++ pieces.map style.nodeOfSegment ++ after).take
        (before.length + pieces.length)).drop before.length = pieces.map style.nodeOfSegment := by
      rw [List.append_assoc, List.take_length_add_append, List.drop_left]
      exact List.take_left' (List.length_map _)
    have hchild : parent.children[before.length]? = some (.text value) := by simp [hchildren]
    simp only [visitor, hreplace, Node.Decision.visitor, hchild, decision, hsplit,
      Node.splice_of_children hchildren, Node.children_withChildren, hisParent, ↓reduceIte,
      hinserted, hcount, List.length_map]

/-- The decisions make the rewritten tree and count its spoilers. -/
theorem reviseList_decision (style : SpanStyle) (nodes : List Node) (spoilers : Nat) :
    Node.reviseList .text style.decision spoilers nodes =
      ⟨style.rewriteList nodes, spoilers + Node.sumList spoilersIn nodes, true⟩ := by
  induction nodes using Node.list_induction generalizing spoilers with
  | nil => simp [Node.reviseList, rewriteList]
  | cons node nodes below rest =>
    by_cases hnode : spoilersIn node = 0
    · have hdecision : (if node.kind = .text then style.decision spoilers node
          else (.descend, spoilers)) = (.descend, spoilers) := by
        rw [decision_of_zero style spoilers hnode, ite_self]
      rw [Node.reviseList_descend hdecision nodes (by rw [below]), below,
        rewriteList_cons style hnode, rewrite_eq]
      simp [rest, Node.Revision.after, hnode, Nat.add_assoc]
    · obtain ⟨value, pieces, rfl, hsplit⟩ := exists_split_of_spoilersIn hnode
      have hdecision : style.decision spoilers (.text value) =
          (.replace (pieces.map style.nodeOfSegment),
            spoilers + Segment.spoilerCount value) := by simp [decision, hsplit]
      have hkind : (Node.text value).kind = .text := rfl
      rw [Node.reviseList_replace hkind hdecision, rest, rewriteList_text,
        rewriteText_of_some hsplit]
      simp [Node.Revision.after, spoilersIn, Nat.add_assoc]

/-- A visit that may make as many calls as there are texts comes to its end by itself, and
what it leaves is the rewritten tree. -/
theorem visit_visitor (style : SpanStyle) (tree : Node) (calls : Nat)
    (h : tree.countBelow .text ≤ calls) :
    (tree.visit .text style.visitor calls 0).node = style.rewrite tree ∧
      (tree.visit .text style.visitor calls 0).state = tree.sumBelow spoilersIn ∧
      (tree.visit .text style.visitor calls 0).ending = .finished := by
  obtain ⟨left, -, -, hvisit⟩ := Node.visitFrom_visitor .text style.decision tree.children [] tree
    calls 0 rfl (by rwa [← Node.countBelow_eq])
  simp only [List.length_nil, List.nil_append, reviseList_decision, Nat.zero_add] at hvisit
  rw [Node.visit, visitor_eq, hvisit, rewrite_eq, Node.sumBelow_eq]
  exact ⟨rfl, rfl, rfl⟩

theorem apply_eq (style : SpanStyle) (tree : Node) :
    style.apply tree = (style.rewrite tree, tree.sumBelow spoilersIn) := by
  obtain ⟨hnode, hstate, -⟩ := visit_visitor style tree _ (Nat.le_refl _)
  rw [apply, hnode, hstate]

theorem children_nodeOfSegment (style : SpanStyle) (piece : Segment) :
    (style.nodeOfSegment piece).children = [] := by
  cases piece <;> rfl

/-- The raw markup of a split text is its spoilers. -/
theorem countList_rewriteText (style : SpanStyle) (value : String) :
    Node.countList .html (style.rewriteText value) = Segment.spoilerCount value := by
  unfold rewriteText Segment.spoilerCount
  cases Segment.split value with
  | none => rfl
  | some pieces =>
    rw [Node.countList_of_leaves, countP_nodeOfSegment, Option.getD_some]
    intro node hnode
    obtain ⟨piece, -, rfl⟩ := List.mem_map.1 hnode
    exact children_nodeOfSegment style piece

theorem countList_rewriteList (style : SpanStyle) (nodes : List Node) :
    Node.countList .html (style.rewriteList nodes) =
      Node.countList .html nodes + Node.sumList spoilersIn nodes := by
  induction nodes using Node.list_induction with
  | nil => rfl
  | cons node nodes below rest =>
    by_cases hnode : spoilersIn node = 0
    · rw [rewriteList_cons style hnode, Node.countList_cons, kind_rewrite, children_rewrite, below,
        rest, Node.countList_cons, Node.sumList_cons, hnode]
      omega
    · obtain ⟨value, pieces, rfl, -⟩ := exists_split_of_spoilersIn hnode
      rw [rewriteList_text, Node.countList_append, rest, countList_rewriteText]
      simp [Node.kind, spoilersIn]
      omega

/-- Applying a style rewrites the tree, however many calls beyond its texts the visit may make.
The number that comes with the tree is that of the spoilers in all texts of child lists, and it
is the number of nodes of raw markup that were added. -/
theorem apply_spec (style : SpanStyle) (tree : Node) :
    (style.apply tree).1 = style.rewrite tree ∧
      (style.apply tree).2 = tree.sumBelow spoilersIn ∧
      Node.countList .html [(style.apply tree).1] =
        Node.countList .html [tree] + (style.apply tree).2 ∧
      ∀ calls, tree.countBelow .text ≤ calls →
        (tree.visit .text style.visitor calls 0).node = (style.apply tree).1 ∧
          (tree.visit .text style.visitor calls 0).state = (style.apply tree).2 ∧
          (tree.visit .text style.visitor calls 0).ending = .finished := by
  rw [apply_eq]
  refine ⟨rfl, rfl, ?_, visit_visitor style tree⟩
  simp only [Node.countList_cons, Node.countList_nil, kind_rewrite, children_rewrite,
    countList_rewriteList, Node.sumBelow_eq]
  omega

end SpoilerMarkup.SpanStyle
