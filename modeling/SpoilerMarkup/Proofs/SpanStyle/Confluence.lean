import SpoilerMarkup.Proofs.SpanStyle.Rewrite

/-!
Spoilers replaced by hand, one text at a time and in any order. Each replacement leaves the
rewritten tree as it is and takes one text with a spoiler away, so every order of them ends in
that tree. Main statement: `replacements_confluent`.
-/
namespace SpoilerMarkup.SpanStyle

/-- Replaces the child at `index` of the root or element that the indices of `path` lead to. -/
def replaceWithin (style : SpanStyle) : List Nat → Nat → Node → Option (Move × Node)
  | [], index, tree => if tree.isParent then some (style.replaceAt index tree) else none
  | i :: path, index, tree =>
    match tree.children[i]? with
    | none => none
    | some child =>
      (replaceWithin style path index child).map fun (move, child) =>
        (move, tree.withChildren (tree.children.set i child))

/-- Trees that replacements one after another lead to from `tree`, with the number of those
that changed it. -/
inductive Run (style : SpanStyle) (tree : Node) : Nat → Node → Prop where
  | start : Run style tree 0 tree
  | step {changes : Nat} {reached next : Node} (run : Run style tree changes reached)
      (path : List Nat) (index : Nat) (move : Move)
      (replaced : style.replaceWithin path index reached = some (move, next)) :
      Run style tree (if next = reached then changes else changes + 1) next

/-- One for a text with a spoiler. -/
def hasSpoiler (node : Node) : Nat :=
  if spoilersIn node = 0 then 0 else 1

theorem hasSpoiler_eq_zero_iff {node : Node} : hasSpoiler node = 0 ↔ spoilersIn node = 0 := by
  unfold hasSpoiler
  split <;> simp_all

theorem spoilersIn_rewrite (style : SpanStyle) (node : Node) :
    spoilersIn (style.rewrite node) = spoilersIn node := by
  cases node <;> rfl

/-- A tree without spoilers in its texts is rewritten to itself. -/
theorem rewriteList_of_settled (style : SpanStyle) {nodes : List Node}
    (h : Node.sumList hasSpoiler nodes = 0) : style.rewriteList nodes = nodes := by
  induction nodes using Node.list_induction with
  | nil => rw [rewriteList]
  | cons node nodes below rest =>
    rw [Node.sumList_cons] at h
    have hnode : spoilersIn node = 0 := hasSpoiler_eq_zero_iff.1 (by omega)
    rw [rewriteList_cons style hnode, rewrite_eq, below (by omega), rest (by omega),
      Node.withChildren_children]

theorem rewrite_of_settled (style : SpanStyle) {tree : Node}
    (h : tree.sumBelow hasSpoiler = 0) : style.rewrite tree = tree := by
  rw [Node.sumBelow_eq] at h
  rw [rewrite_eq, rewriteList_of_settled style h, Node.withChildren_children]

/-- The pieces of a text are settled: a text among them has no spoiler of its own. -/
theorem spoilersIn_nodeOfSegment (style : SpanStyle) {value : String} {pieces : List Segment}
    (hsplit : Segment.split value = some pieces) {piece : Segment} (h : piece ∈ pieces) :
    spoilersIn (style.nodeOfSegment piece) = 0 := by
  obtain rfl := Segment.eq_segments_of_split hsplit
  cases piece with
  | text text => exact Segment.spoilerCount_eq_zero_iff.2 (Segment.text_of_mem_segments h).2
  | spoiler inner => rfl

theorem sumList_rewriteText (style : SpanStyle) (value : String) :
    Node.sumList hasSpoiler (style.rewriteText value) = 0 := by
  cases hsplit : Segment.split value with
  | none =>
    have hzero : hasSpoiler (.text value) = 0 :=
      hasSpoiler_eq_zero_iff.2 (Segment.spoilerCount_eq_zero_iff.2 hsplit)
    simp [rewriteText_of_none hsplit, hzero]
  | some pieces =>
    have hpieces : ∀ piece ∈ pieces, spoilersIn (style.nodeOfSegment piece) = 0 :=
      fun piece => spoilersIn_nodeOfSegment style hsplit
    rw [rewriteText_of_some hsplit]
    clear hsplit
    induction pieces with
    | nil => rfl
    | cons piece pieces ih =>
      have hzero := hasSpoiler_eq_zero_iff.2 (hpieces piece (by simp))
      simp [children_nodeOfSegment, hzero, ih fun piece h => hpieces piece (by simp [h])]

/-- Nothing is left to be replaced in a rewritten tree. -/
theorem sumList_rewriteList (style : SpanStyle) (nodes : List Node) :
    Node.sumList hasSpoiler (style.rewriteList nodes) = 0 := by
  induction nodes using Node.list_induction with
  | nil => rfl
  | cons node nodes below rest =>
    by_cases hnode : spoilersIn node = 0
    · have hzero : hasSpoiler (style.rewrite node) = 0 :=
        hasSpoiler_eq_zero_iff.2 (by rwa [spoilersIn_rewrite])
      rw [rewriteList_cons style hnode, Node.sumList_cons, children_rewrite, hzero, below, rest]
    · obtain ⟨value, pieces, rfl, -⟩ := exists_split_of_spoilersIn hnode
      rw [rewriteList_text, Node.sumList_append, sumList_rewriteText, rest]

/-- All that a replacement further down can do, seen from one node above it. -/
theorem replaceWithin_cons {style : SpanStyle} {i index : Nat} {path : List Nat} {tree next : Node}
    {move : Move} (h : style.replaceWithin (i :: path) index tree = some (move, next)) :
    ∃ before child after child', tree.children = before ++ child :: after ∧ before.length = i ∧
      style.replaceWithin path index child = some (move, child') ∧
      next = tree.withChildren (before ++ child' :: after) := by
  rw [replaceWithin] at h
  split at h
  · simp at h
  · next child hchild =>
    obtain ⟨⟨move', child'⟩, hreplaced, he⟩ := Option.map_eq_some_iff.1 h
    simp only [Prod.mk.injEq] at he
    obtain ⟨rfl, rfl⟩ := he
    obtain ⟨before, after, hchildren, rfl⟩ := Node.exists_append_of_getElem? hchild
    exact ⟨before, child, after, child', hchildren, rfl, hreplaced, by simp [hchildren]⟩

theorem isParent_of_replaceWithin {style : SpanStyle} {index : Nat} {path : List Nat}
    {tree next : Node} {move : Move}
    (h : style.replaceWithin path index tree = some (move, next)) : tree.isParent := by
  cases path with
  | nil =>
    rw [replaceWithin] at h
    split at h
    · assumption
    · simp at h
  | cons i path =>
    obtain ⟨before, child, after, child', hchildren, -⟩ := replaceWithin_cons h
    exact Node.isParent_of_children hchildren

/-- What one replacement does to a whole tree: nothing, or it takes one text with a spoiler
away and keeps the tree that all texts rewritten make. -/
structure Replaced (style : SpanStyle) (tree next : Node) : Prop where
  kind : next.kind = tree.kind
  rewrite : style.rewrite next = style.rewrite tree
  fewer : next.sumBelow hasSpoiler + 1 = tree.sumBelow hasSpoiler

theorem replaced_of_replaceAt {style : SpanStyle} {index : Nat} {tree next : Node} {move : Move}
    (h : style.replaceAt index tree = (move, next)) :
    move = .descend ∧ next = tree ∨ move ≠ .descend ∧ Replaced style tree next := by
  rcases replaceAt_cases style index tree with
    ⟨hreplace, -⟩ | ⟨before, value, after, pieces, hchildren, -, hsplit, hreplace⟩
  · left
    rw [hreplace, Prod.mk.injEq] at h
    exact ⟨h.1.symm, h.2.symm⟩
  · right
    rw [hreplace, Prod.mk.injEq] at h
    obtain ⟨rfl, rfl⟩ := h
    have hisParent := Node.isParent_of_children hchildren
    have hpieces := sumList_rewriteText style value
    have hagain := rewriteList_of_settled style hpieces
    rw [rewriteText_of_some hsplit] at hpieces hagain
    refine ⟨by simp, ⟨by simp, ?_, ?_⟩⟩
    · rw [rewrite_eq, rewrite_eq, hchildren]
      simp [hisParent, hagain, rewriteList_text, rewriteText_of_some hsplit]
    · have hone : hasSpoiler (.text value) = 1 := by
        rw [hasSpoiler, if_neg]
        simp [spoilersIn, Segment.spoilerCount_eq_zero_iff, hsplit]
      simp only [Node.sumBelow_eq, Node.children_withChildren, hisParent, ↓reduceIte, hchildren,
        Node.sumList_append, Node.sumList_cons, hpieces, hone, Node.children_text, Node.sumList_nil]
      omega

theorem replaced_of_replaceWithin {style : SpanStyle} {index : Nat} {path : List Nat}
    {tree next : Node} {move : Move}
    (h : style.replaceWithin path index tree = some (move, next)) :
    move = .descend ∧ next = tree ∨ move ≠ .descend ∧ Replaced style tree next := by
  have hisParent := isParent_of_replaceWithin h
  induction path generalizing tree next with
  | nil =>
    rw [replaceWithin, if_pos hisParent] at h
    exact replaced_of_replaceAt (Option.some.inj h)
  | cons i path ih =>
    obtain ⟨before, child, after, child', hchildren, -, hreplaced, rfl⟩ := replaceWithin_cons h
    have hchild := isParent_of_replaceWithin hreplaced
    rcases ih hreplaced hchild with ⟨rfl, rfl⟩ | ⟨hmove, hkind, hrewrite, hfewer⟩
    · left
      rw [← hchildren, Node.withChildren_children]
      exact ⟨rfl, rfl⟩
    · right
      have hchild' : child'.isParent := by
        rw [Node.isParent_iff_kind, hkind]
        exact Node.isParent_iff_kind.1 hchild
      have hzero := spoilersIn_of_isParent hchild
      have hzero' := spoilersIn_of_isParent hchild'
      refine ⟨hmove, by simp, ?_, ?_⟩
      · simp [rewrite_eq style tree, rewrite_eq style (tree.withChildren _), hisParent, hchildren,
          rewriteList_cons style hzero, rewriteList_cons style hzero', hrewrite]
      · simp only [Node.sumBelow_eq, Node.children_withChildren, hisParent, ↓reduceIte, hchildren,
          Node.sumList_append, Node.sumList_cons, hasSpoiler_eq_zero_iff.2 hzero,
          hasSpoiler_eq_zero_iff.2 hzero'] at hfewer ⊢
        omega

/-- Along a run the rewritten tree stays as it is, and each change uses up one text with a
spoiler. -/
theorem Run.invariant {style : SpanStyle} {tree reached : Node} {changes : Nat}
    (h : Run style tree changes reached) :
    style.rewrite reached = style.rewrite tree ∧
      changes + reached.sumBelow hasSpoiler = tree.sumBelow hasSpoiler := by
  induction h with
  | start => exact ⟨rfl, Nat.zero_add _⟩
  | step _ path index move replaced ih =>
    rcases replaced_of_replaceWithin replaced with ⟨-, rfl⟩ | ⟨-, hreplaced⟩
    · rwa [if_pos rfl]
    · have hne := hreplaced.fewer
      rw [if_neg (by rintro rfl; omega)]
      exact ⟨hreplaced.rewrite.trans ih.1, by omega⟩

/-- Where a text with a spoiler is left, some replacement changes the tree. -/
theorem exists_replaceWithin (style : SpanStyle) (nodes : List Node) (before : List Node)
    (parent : Node) (hparent : parent.children = before ++ nodes)
    (hleft : Node.sumList hasSpoiler nodes ≠ 0) :
    ∃ path index move next, style.replaceWithin path index parent = some (move, next) ∧
      next ≠ parent := by
  induction nodes using Node.list_induction generalizing before parent with
  | nil => simp at hleft
  | cons node nodes below rest =>
    have hisParent := Node.isParent_of_children hparent
    have hchild : parent.children[before.length]? = some node := by simp [hparent]
    rw [Node.sumList_cons] at hleft
    by_cases hnode : spoilersIn node = 0
    · by_cases hbelow : Node.sumList hasSpoiler node.children = 0
      · have hzero := hasSpoiler_eq_zero_iff.2 hnode
        exact rest (before ++ [node]) parent (by simp [hparent]) (by omega)
      · obtain ⟨path, index, move, next, hreplaced, hne⟩ := below [] node rfl hbelow
        refine ⟨before.length :: path, index, move, parent.withChildren (before ++ next :: nodes),
          ?_, fun he => hne ?_⟩
        · rw [replaceWithin, hchild]
          simp [hreplaced, hparent]
        · have := congrArg Node.children he
          simpa [hisParent, hparent] using this
    · obtain ⟨value, pieces, rfl, hsplit⟩ := exists_split_of_spoilersIn hnode
      rcases hreplace : style.replaceAt before.length parent with ⟨move, next⟩
      refine ⟨[], before.length, move, next, by rw [replaceWithin, if_pos hisParent, hreplace], ?_⟩
      rintro rfl
      rcases replaced_of_replaceAt hreplace with ⟨rfl, -⟩ | ⟨-, hreplaced⟩
      · rcases replaceAt_cases style before.length next with ⟨-, hnone⟩ | ⟨_, _, _, _, -, -, -, h⟩
        · simp [hnone value hchild] at hsplit
        · simp [hreplace] at h
      · have := hreplaced.fewer
        omega

/-- A tree that no replacement changes is rewritten to itself. -/
theorem rewrite_of_unchanged {style : SpanStyle} {tree : Node}
    (h : ∀ path index move next, style.replaceWithin path index tree = some (move, next) →
      next = tree) : style.rewrite tree = tree := by
  apply rewrite_of_settled
  rw [Node.sumBelow_eq]
  by_cases hleft : Node.sumList hasSpoiler tree.children = 0
  · exact hleft
  · obtain ⟨path, index, move, next, hreplaced, hne⟩ :=
      exists_replaceWithin style tree.children [] tree rfl hleft
    exact absurd (h path index move next hreplaced) hne

/-- The callback that replaces a text and pays no heed to where the visit is to go on. -/
def descending (style : SpanStyle) : Visitor Unit := fun index parent _ =>
  (.descend, (style.replaceAt index parent).2, ())

/-- The answer to a node that has no spoiler itself, once its call is paid. -/
theorem offer_descending (style : SpanStyle) {parent node : Node} {before after : List Node}
    {calls : Nat} (hparent : parent.children = before ++ node :: after)
    (hnode : spoilersIn node = 0) (hcalls : Node.countList .text [node] ≤ calls) :
    ∃ left, left + Node.countList .text [node] = calls + Node.countList .text node.children ∧
      Node.offer .text style.descending calls parent before.length () node =
        some (.descend, parent, (), left) := by
  simp only [Node.countList_cons, Node.countList_nil] at hcalls ⊢
  have hchild : parent.children[before.length]? = some node := by simp [hparent]
  unfold Node.offer
  by_cases hkind : node.kind = .text
  · simp only [hkind, ↓reduceIte] at hcalls ⊢
    obtain ⟨left, rfl⟩ : ∃ left, calls = left + 1 := ⟨calls - 1, by omega⟩
    refine ⟨left, by omega, ?_⟩
    rcases replaceAt_cases style before.length parent with
      ⟨hreplace, -⟩ | ⟨before', value, after', pieces, hparent', hlength, hsplit, -⟩
    · simp [descending, hreplace]
    · have hvalue : parent.children[before.length]? = some (.text value) := by
        simp [hparent', ← hlength]
      obtain rfl := Option.some.inj (hchild.symm.trans hvalue)
      simp [Segment.spoilerCount_eq_zero_iff.1 hnode] at hsplit
  · simp only [hkind, ↓reduceIte]
    exact ⟨calls, by omega, rfl⟩

theorem offer_descending_of_split (style : SpanStyle) {parent : Node} {before after : List Node}
    {value : String} {pieces : List Segment}
    (hparent : parent.children = before ++ .text value :: after)
    (hsplit : Segment.split value = some pieces) (left : Nat) :
    Node.offer .text style.descending (left + 1) parent before.length () (.text value) =
      some (.descend, parent.withChildren (before ++ pieces.map style.nodeOfSegment ++ after), (),
        left) := by
  have hchild : parent.children[before.length]? = some (.text value) := by simp [hparent]
  have hne : pieces.map style.nodeOfSegment ≠ [] := by simpa using Segment.ne_nil_of_split hsplit
  simp [Node.offer, Node.kind, descending, replaceAt, hchild, replacements, hsplit,
    Node.splice_of_children hparent]

/-- Leaves without spoilers are passed, and a call is made at each text among them. -/
theorem visitFrom_leaves (style : SpanStyle) (leaves : List Node)
    (hleaves : ∀ leaf ∈ leaves, leaf.children = [] ∧ spoilersIn leaf = 0)
    (before after : List Node) (parent : Node) (calls : Nat)
    (hparent : parent.children = before ++ leaves ++ after)
    (hcalls : Node.countList .text leaves ≤ calls) :
    Node.visitFrom .text style.descending calls parent before.length () =
      Node.visitFrom .text style.descending (calls - Node.countList .text leaves) parent
        (before ++ leaves).length () := by
  induction leaves generalizing before calls with
  | nil => simp
  | cons leaf leaves ih =>
    have hparent' : parent.children = before ++ leaf :: (leaves ++ after) := by simp [hparent]
    have hchild : parent.children[before.length]? = some leaf := by simp [hparent']
    obtain ⟨hnochildren, hnospoiler⟩ := hleaves leaf (by simp)
    have hcount : Node.countList .text (leaf :: leaves) =
        Node.countList .text [leaf] + Node.countList .text leaves := by simp
    obtain ⟨left, hleft, hoffer⟩ := offer_descending style hparent' hnospoiler
      (show Node.countList .text [leaf] ≤ calls by omega)
    rw [hnochildren, Node.countList_nil] at hleft
    have hbelow : Node.visitFrom .text style.descending left leaf 0 () =
        ⟨leaf, (), left, .finished⟩ := Node.visitFrom_end (by simp [hnochildren])
    have hset : parent.children.set before.length leaf = parent.children := by simp [hparent']
    rw [Node.visitFrom_descend_finished hchild hoffer hchild hbelow, hset,
      Node.withChildren_children, Nat.min_self]
    have := ih (fun leaf h => hleaves leaf (by simp [h])) (before ++ [leaf]) left (by simp [hparent])
      (by omega)
    rw [List.length_append, List.length_singleton] at this
    rw [this]
    congr 1
    · omega
    · simp

/-- A text that has a spoiler is replaced, and the pieces that stand in its place are passed. -/
theorem visitFrom_of_split (style : SpanStyle) {parent : Node} {before after : List Node}
    {value : String} {pieces : List Segment} {calls : Nat}
    (hparent : parent.children = before ++ .text value :: after)
    (hsplit : Segment.split value = some pieces)
    (hcalls : 1 + Node.countList .text (style.rewriteText value) ≤ calls) :
    ∃ left, left ≤ calls ∧ calls ≤ left + 1 + Node.countList .text (style.rewriteText value) ∧
      Node.visitFrom .text style.descending calls parent before.length () =
        Node.visitFrom .text style.descending left
          (parent.withChildren (before ++ style.rewriteText value ++ after))
          (before ++ style.rewriteText value).length () := by
  have hchild : parent.children[before.length]? = some (.text value) := by simp [hparent]
  have hisParent := Node.isParent_of_children hparent
  have hleaves : ∀ leaf ∈ style.rewriteText value, leaf.children = [] ∧ spoilersIn leaf = 0 := by
    rw [rewriteText_of_some hsplit]
    intro leaf hleaf
    obtain ⟨piece, hpiece, rfl⟩ := List.mem_map.1 hleaf
    exact ⟨children_nodeOfSegment style piece, spoilersIn_nodeOfSegment style hsplit hpiece⟩
  have hne : style.rewriteText value ≠ [] := by
    rw [rewriteText_of_some hsplit]
    simpa using Segment.ne_nil_of_split hsplit
  have hoffer := offer_descending_of_split style hparent hsplit
  rw [← rewriteText_of_some hsplit] at hoffer
  generalize style.rewriteText value = leaves at hleaves hne hoffer hcalls ⊢
  generalize hparent' : parent.withChildren (before ++ leaves ++ after) = parent' at hoffer ⊢
  have hchildren : parent'.children = before ++ leaves ++ after := by simp [← hparent', hisParent]
  obtain ⟨first, more, rfl⟩ := List.exists_cons_of_ne_nil hne
  have hfirst := hleaves first (by simp)
  rw [Node.countList_cons, hfirst.1, Node.countList_nil] at hcalls ⊢
  obtain ⟨left, rfl⟩ : ∃ left, calls = left + 1 := ⟨calls - 1, by omega⟩
  have hbelow : Node.visitFrom .text style.descending left first 0 () =
      ⟨first, (), left, .finished⟩ := Node.visitFrom_end (by simp [hfirst.1])
  have hset : parent'.children.set before.length first = parent'.children := by simp [hchildren]
  have hmore := visitFrom_leaves style more (fun leaf h => hleaves leaf (by simp [h]))
    (before ++ [first]) after parent' left (by simp [hchildren]) (by omega)
  refine ⟨left - Node.countList .text more, by omega, by omega, ?_⟩
  rw [Node.visitFrom_descend_finished hchild (hoffer left) (by simp [hchildren]) hbelow, hset,
    Node.withChildren_children, Nat.min_self]
  rw [List.length_append, List.length_singleton] at hmore
  rw [hmore, List.append_assoc, List.singleton_append]

/-- The visit that always descends rewrites the children behind `before`. It calls back at each
text of the tree it starts from and of the one it leaves, and at no other node. -/
theorem visitFrom_descending (style : SpanStyle) (nodes : List Node) (before : List Node)
    (parent : Node) (calls : Nat) (hparent : parent.children = before ++ nodes)
    (hcalls : Node.countList .text nodes + Node.countList .text (style.rewriteList nodes) ≤ calls) :
    ∃ left, left ≤ calls ∧
      calls ≤ left + Node.countList .text nodes + Node.countList .text (style.rewriteList nodes) ∧
      Node.visitFrom .text style.descending calls parent before.length () =
        ⟨parent.withChildren (before ++ style.rewriteList nodes), (), left, .finished⟩ := by
  induction nodes using Node.list_induction generalizing before parent calls with
  | nil =>
    obtain rfl : parent.children = before := by rw [hparent, List.append_nil]
    refine ⟨calls, Nat.le_refl _, by omega, ?_⟩
    rw [Node.visitFrom_end (by simp), rewriteList, List.append_nil, Node.withChildren_children]
  | cons node nodes below rest =>
    have hchild : parent.children[before.length]? = some node := by simp [hparent]
    have hisParent := Node.isParent_of_children hparent
    by_cases hnode : spoilersIn node = 0
    · rw [rewriteList_cons style hnode, Node.countList_cons, Node.countList_cons, kind_rewrite,
        children_rewrite] at hcalls ⊢
      have hnodes : Node.countList .text [node] ≤ calls := by
        simp only [Node.countList_cons, Node.countList_nil]
        omega
      obtain ⟨left, hleft, hoffer⟩ := offer_descending style hparent hnode hnodes
      simp only [Node.countList_cons, Node.countList_nil] at hleft
      obtain ⟨left', hleft', hused, hbelow⟩ := below [] node left rfl (by omega)
      obtain ⟨left'', hleft'', hused', hvisit⟩ := rest (before ++ [style.rewrite node])
        (parent.withChildren (before ++ [style.rewrite node] ++ nodes)) (min left left')
        (by simp [hisParent]) (by omega)
      refine ⟨left'', by omega, by omega, ?_⟩
      rw [List.nil_append, List.length_nil, ← rewrite_eq] at hbelow
      have hset : parent.children.set before.length (style.rewrite node) =
          before ++ [style.rewrite node] ++ nodes := by simp [hparent]
      rw [Node.visitFrom_descend_finished hchild hoffer hchild hbelow, hset]
      simpa using hvisit
    · obtain ⟨value, pieces, rfl, hsplit⟩ := exists_split_of_spoilersIn hnode
      rw [rewriteList_text, Node.countList_cons, Node.countList_append] at hcalls ⊢
      simp only [Node.kind, ↓reduceIte, Node.children_text, Node.countList_nil] at hcalls ⊢
      obtain ⟨left, hleft, hpieces, hreplaced⟩ :=
        visitFrom_of_split style hparent hsplit (show _ ≤ calls by omega)
      obtain ⟨left', hleft', hused, hvisit⟩ := rest (before ++ style.rewriteText value)
        (parent.withChildren (before ++ style.rewriteText value ++ nodes)) left
        (by simp [hisParent]) (by omega)
      refine ⟨left', by omega, by omega, ?_⟩
      rw [hreplaced, hvisit]
      simp

theorem sumList_spoilersIn_of_settled {nodes : List Node} (h : Node.sumList hasSpoiler nodes = 0) :
    Node.sumList spoilersIn nodes = 0 := by
  induction nodes using Node.list_induction with
  | nil => rfl
  | cons node nodes below rest =>
    rw [Node.sumList_cons] at h ⊢
    rw [hasSpoiler_eq_zero_iff.1 (show hasSpoiler node = 0 by omega), below (by omega),
      rest (by omega)]

/-- A style leaves what another style has been applied to as it is. -/
theorem apply_rewrite (style style' : SpanStyle) (tree : Node) :
    style'.apply (style.rewrite tree) = (style.rewrite tree, 0) := by
  have hsettled : (style.rewrite tree).sumBelow hasSpoiler = 0 := by
    rw [Node.sumBelow_eq, children_rewrite, sumList_rewriteList]
  rw [apply_eq, rewrite_of_settled style' hsettled, Node.sumBelow_eq, sumList_spoilersIn_of_settled]
  rw [← Node.sumBelow_eq, hsettled]

/-- Texts replaced in any order, at any nodes and indices: a replacement that says to descend has
changed nothing, no more of them change the tree than it has texts with a spoiler, and where none
can change it any more it is the tree that a style applied to the first one makes. So a visit
that replaces and always descends makes that tree too, and no style changes it again. -/
theorem replacements_confluent (style : SpanStyle) (tree : Node) :
    (∀ path index reached next,
        style.replaceWithin path index reached = some (.descend, next) → next = reached) ∧
      (∀ changes reached, Run style tree changes reached →
        changes ≤ tree.sumBelow hasSpoiler ∧
          ((∀ path index move next,
              style.replaceWithin path index reached = some (move, next) → next = reached) →
            reached = (style.apply tree).1)) ∧
      (∀ calls, tree.countBelow .text + (style.apply tree).1.countBelow .text ≤ calls →
        (tree.visit .text style.descending calls ()).node = (style.apply tree).1 ∧
          (tree.visit .text style.descending calls ()).ending = .finished) ∧
      ∀ style' : SpanStyle, style'.apply (style.apply tree).1 = ((style.apply tree).1, 0) := by
  rw [apply_eq]
  refine ⟨fun path index reached next h => ?_,
    fun changes reached hrun => ⟨?_, fun hunchanged => ?_⟩, fun calls hcalls => ?_,
    fun style' => apply_rewrite style style' tree⟩
  · rcases replaced_of_replaceWithin h with ⟨-, hnext⟩ | ⟨hmove, -⟩
    · exact hnext
    · exact absurd rfl hmove
  · have := hrun.invariant.2
    omega
  · rw [← rewrite_of_unchanged hunchanged]
    exact hrun.invariant.1
  · simp only [Node.countBelow_eq, children_rewrite] at hcalls
    obtain ⟨left, -, -, hvisit⟩ := visitFrom_descending style tree.children [] tree calls rfl hcalls
    rw [List.nil_append, List.length_nil, ← rewrite_eq] at hvisit
    rw [Node.visit, hvisit]
    exact ⟨rfl, rfl⟩

end SpoilerMarkup.SpanStyle
