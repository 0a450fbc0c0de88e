import SpoilerMarkup.Proofs.Node.Tour

/-!
Visits that change a tree go on as a tour through the tree does that does not change it: what they
put in the place of a node lies behind them. A callback may keep any record of the tour. Main
statement: `visit_tour`.
-/
namespace SpoilerMarkup.Node

variable {σ τ : Type}

/-- Where a visit goes on after a decision on the child at `index`, and what becomes of the
parent. -/
def Decision.outcome (index : Nat) (parent : Node) : Decision → Move × Node
  | .descend => (.descend, parent)
  | .skip => (.skip, parent)
  | .exit => (.exit, parent)
  | .replace nodes => (.skipTo (index + nodes.length), (parent.splice index nodes).1)

/-- A callback with a record of what it is shown: at each call the node and the siblings behind it,
as they stand in the parent then. -/
def watched (callback : Visitor σ) : Visitor (σ × List (List Node)) :=
  fun index parent (state, shown) =>
    let (move, parent', state) := callback index parent state
    (move, parent', state, shown ++ [parent.children.drop index])

/-- A callback does what is decided, and `record` is what it keeps of a tour in its state. -/
def Follows (callback : Visitor τ) (decision : σ → Node → Decision × σ) (record : Tour σ → τ) :
    Prop :=
  ∀ (tour : Tour σ) (place : Place) (parent : Node) (before : List Node),
    parent.children = before ++ place.node :: place.behind →
    callback before.length parent (record tour) =
      let outcome := (decision tour.state place.node).1.outcome before.length parent
      (outcome.1, outcome.2, record (tour.add decision place))

section

variable {kind : NodeKind} {decision : σ → Node → Decision × σ} {callback : Visitor τ}
  {record : Tour σ → τ}

theorem Follows.offer (h : Follows callback decision record) {tour : Tour σ} {address : List Nat}
    (hreaches : tour.Reaches address) {parent node : Node} {before behind : List Node}
    (hparent : parent.children = before ++ node :: behind) {calls : Nat}
    (hcalls : countList kind [node] ≤ calls) :
    ∃ left, left ≤ calls ∧ calls + countList kind node.children ≤ left + countList kind [node] ∧
      offer kind callback calls parent before.length (record tour) node =
        let outcome := (tour.answer kind decision node).outcome before.length parent
        some (outcome.1, outcome.2, record (tour.step kind decision ⟨address, node, behind⟩),
          left) := by
  obtain ⟨left, hleft, hpaid, hoffer⟩ := offer_of_calls hcalls
  refine ⟨left, hleft, hpaid, ?_⟩
  rw [hoffer, h tour ⟨address, node, behind⟩ parent before hparent]
  by_cases hkind : node.kind = kind
  · simp [hkind, Tour.answer, Tour.step, hreaches]
  · simp [hkind, Tour.answer, Tour.step, Decision.outcome]

/-- Wherever `nodes` are the children of a parent from one of them on, the visit of these goes on as
the tour does and leaves them as the tour tells, if there is a call for each node of the kind. -/
def VisitedAlong (kind : NodeKind) (callback : Visitor τ) (decision : σ → Node → Decision × σ)
    (record : Tour σ → τ) (nodes : List Node) : Prop :=
  ∀ (address : List Nat) (index : Nat) (before : List Node) (parent : Node) (calls : Nat)
    (tour : Tour σ), parent.children = before ++ nodes → countList kind nodes ≤ calls →
    tour.OpenFrom address index → tour.ending = .finished →
    ∃ left, left ≤ calls ∧ calls ≤ left + countList kind nodes ∧
      visitFrom kind callback calls parent before.length (record tour) =
        let reached := (placesList address index nodes).foldl (Tour.step kind decision) tour
        ⟨parent.withChildren (before ++ replaceList reached.replacement? address index nodes),
          record reached, left, reached.ending⟩

/-- At one child a visit leaves what becomes of it, and goes on behind that if the tour has not
ended. -/
theorem Follows.visitFrom_child (h : Follows callback decision record) {address : List Nat}
    {index calls : Nat} {before nodes : List Node} {parent node : Node} {tour done : Tour σ}
    (hparent : parent.children = before ++ node :: nodes) (hcalls : countList kind [node] ≤ calls)
    (hopen : tour.OpenFrom address index) (hending : tour.ending = .finished)
    (below : VisitedAlong kind callback decision record node.children)
    (hdone : (placesList (address ++ [index]) 0 node.children).foldl (Tour.step kind decision)
      (tour.step kind decision ⟨address ++ [index], node, nodes⟩) = done) :
    done.OpenFrom address (index + 1) ∧
      ∃ left, left ≤ calls ∧ calls ≤ left + countList kind [node] ∧
        visitFrom kind callback calls parent before.length (record tour) =
          let put := before ++ done.becomes address index node
          match done.ending with
          | .finished =>
            visitFrom kind callback left (parent.withChildren (put ++ nodes)) put.length
              (record done)
          | ending => ⟨parent.withChildren (put ++ nodes), record done, left, ending⟩ := by
  have hchild : parent.children[before.length]? = some node := by simp [hparent]
  have hreaches := hopen.reaches hending
  obtain ⟨left, hleft, hpaid, hoffer⟩ := h.offer hreaches hparent hcalls
  obtain ⟨added, htaken, hadded⟩ := Tour.step_decided kind decision hreaches node nodes
  generalize tour.step kind decision ⟨address ++ [index], node, nodes⟩ = taken
    at hoffer htaken hdone
  generalize tour.answer kind decision node = answer at hoffer hadded
  have hopen' : taken.OpenFrom address (index + 1) :=
    (hopen.mono (Nat.le_succ _)).append htaken fun entry hentry _ => by
      rcases hadded with rfl | ⟨rfl, -⟩
      · rw [List.mem_singleton.1 hentry]
        exact ⟨index, [], by omega, rfl⟩
      · simp at hentry
  refine ⟨hdone ▸ hopen'.foldl_step kind decision node.children, ?_⟩
  cases answer with
  | exit =>
    obtain rfl := hadded.resolve_right (by simp)
    obtain ⟨hexited, hkept⟩ := Tour.becomes_of_exit hopen htaken
    obtain rfl : taken = done := by rw [← hdone, Tour.foldl_step_of_exited hexited]
    refine ⟨left, hleft, by omega, ?_⟩
    rw [visitFrom_exit hchild hoffer]
    simp [hexited, hkept, Decision.outcome, ← hparent]
  | skip =>
    obtain rfl := hadded.resolve_right (by simp)
    obtain ⟨hfinished, hbelow, hkept⟩ := Tour.becomes_of_skip kind decision hopen htaken
    obtain rfl : taken = done := by rw [← hdone, hbelow]
    refine ⟨left, hleft, by omega, ?_⟩
    rw [visitFrom_skip hchild hoffer]
    simp [hfinished, hending, hkept, Decision.outcome, ← hparent]
  | replace replacement =>
    obtain rfl := hadded.resolve_right (by simp)
    obtain ⟨hfinished, hbelow, hput⟩ := Tour.becomes_of_replace kind decision hopen htaken
    obtain rfl : taken = done := by rw [← hdone, hbelow]
    refine ⟨left, hleft, by omega, ?_⟩
    rw [visitFrom_skipTo hchild hoffer]
    simp [hfinished, hending, hput, Decision.outcome, splice_of_children hparent]
  | descend =>
    have hdescend : ∀ entry ∈ added, entry.2 = .descend := by
      rcases hadded with rfl | ⟨rfl, -⟩ <;> simp
    obtain ⟨hfinished, hopenBelow, hput⟩ :=
      Tour.becomes_of_descend kind decision hopen node htaken hdescend
    obtain ⟨left', hleft', hused, hbelow⟩ := below (address ++ [index]) 0 [] node left taken rfl
      (by omega) hopenBelow (by rw [hfinished, hending])
    simp only [hdone, List.length_nil, List.nil_append] at hbelow hput
    refine ⟨left', by omega, by omega, ?_⟩
    rw [visitFrom_descend hchild hoffer hchild, hbelow, hput]
    cases done.ending <;> simp [Decision.outcome, hparent, Nat.min_eq_right hleft']

/-- A callback that does what is decided takes each visit along the tour. -/
theorem Follows.visitedAlong (h : Follows callback decision record) (kind : NodeKind)
    (nodes : List Node) : VisitedAlong kind callback decision record nodes := by
  induction nodes using list_induction with
  | nil =>
    intro address index before parent calls tour hparent hcalls hopen hending
    obtain rfl : parent.children = before := by rw [hparent, List.append_nil]
    refine ⟨calls, Nat.le_refl _, Nat.le_add_right _ _, ?_⟩
    rw [visitFrom_end (by simp)]
    simp [placesList, replaceList, hending]
  | cons node nodes below rest =>
    intro address index before parent calls tour hparent hcalls hopen hending
    have hcount : countList kind (node :: nodes) =
        countList kind [node] + countList kind nodes := by simp
    have hnode : countList kind [node] ≤ calls := by omega
    have hisParent := isParent_of_children hparent
    simp only [placesList_cons, List.foldl_cons, List.foldl_append, Tour.replaceList_foldl_step]
    generalize hdone : (placesList (address ++ [index]) 0 node.children).foldl
      (Tour.step kind decision) _ = done
    obtain ⟨hopen', left, hleft, hpaid, hvisit⟩ :=
      h.visitFrom_child hparent hnode hopen hending below hdone
    rw [hvisit]
    cases hgoesOn : done.ending with
    | finished =>
      obtain ⟨left', hleft', hused, hrest⟩ := rest address (index + 1)
        (before ++ done.becomes address index node)
        (parent.withChildren (before ++ done.becomes address index node ++ nodes)) left done
        (by simp [hisParent]) (by omega) hopen' hgoesOn
      exact ⟨left', by omega, by omega, by simpa using hrest⟩
    | exited =>
      refine ⟨left, hleft, by omega, ?_⟩
      simp [Tour.foldl_step_of_exited hgoesOn, hopen'.replaceList (Nat.le_refl _), hgoesOn]
    | exhausted => exact absurd hgoesOn done.ending_ne_exhausted

/-- A visit of a whole tree, however many calls it could make beyond those that are due. -/
theorem Follows.visit (h : Follows callback decision record) (tree : Node) (kind : NodeKind)
    (state : σ) (spare : Nat) :
    ∃ left, spare ≤ left ∧
      tree.visit kind callback (tree.countBelow kind + spare) (record ⟨[], state⟩) =
        let tour := tree.tour kind decision state
        ⟨tree.replaceBelow tour.replacement? [], record tour, left, tour.ending⟩ := by
  have hcount := countBelow_eq kind tree
  have hcalls : countList kind tree.children ≤ tree.countBelow kind + spare := by omega
  obtain ⟨left, -, hused, hvisit⟩ := h.visitedAlong kind tree.children [] 0 [] tree _
    ⟨[], state⟩ rfl hcalls (fun entry hentry => by simp at hentry) rfl
  refine ⟨left, by omega, ?_⟩
  rw [Node.visit]
  simpa [Node.tour, places, placesBelow_eq, replaceBelow_eq] using hvisit

end

theorem follows_visitor (decision : σ → Node → Decision × σ) :
    Follows (Decision.visitor decision) decision Tour.state := by
  intro tour place parent before hparent
  have hchild : parent.children[before.length]? = some place.node := by simp [hparent]
  rw [Decision.visitor]
  simp only [hchild, Tour.add]
  obtain ⟨decided, state⟩ := decision tour.state place.node
  cases decided <;> rfl

theorem Follows.watched {callback : Visitor τ} {decision : σ → Node → Decision × σ}
    {record : Tour σ → τ} (h : Follows callback decision record) :
    Follows (watched callback) decision fun tour =>
      (record tour, tour.offered.map fun place => place.node :: place.behind) := by
  intro tour place parent before hparent
  rw [Node.watched, h tour place parent before hparent]
  simp [hparent, Tour.offered, Tour.add]

/-- A visit that does what is decided at each node of one kind comes to its end with as many calls
as there are such nodes, and is a tour through the tree as it was at first: each call is shown a
node of that tree with the siblings behind it, and never a node put in by a call before. In the tree
that the visit leaves each node that is replaced has become the nodes put in its place, and
everything else is as it was. -/
theorem visit_tour (tree : Node) (kind : NodeKind) (decision : σ → Node → Decision × σ) (state : σ)
    (spare : Nat) :
    let tour := tree.tour kind decision state
    let calls := tree.countBelow kind + spare
    let visited := tree.visit kind (Decision.visitor decision) calls state
    let seen := tree.visit kind (watched (Decision.visitor decision)) calls (state, [])
    tour.IsThrough tree kind decision state ∧
      seen.state = (visited.state, tour.offered.map fun place => place.node :: place.behind) ∧
      seen.node = visited.node ∧ seen.ending = visited.ending ∧
      visited.node = tree.replaceBelow tour.replacement? [] ∧ visited.state = tour.state ∧
      visited.ending = tour.ending ∧ visited.ending ≠ .exhausted ∧ spare ≤ visited.callsLeft := by
  intro tour calls visited seen
  obtain ⟨left, hleft, (hvisited : visited = _)⟩ :=
    (follows_visitor decision).visit tree kind state spare
  obtain ⟨left', -, (hseen : seen = _)⟩ :=
    (follows_visitor decision).watched.visit tree kind state spare
  rw [hseen, hvisited]
  exact ⟨tour_isThrough tree kind decision state, rfl, rfl, rfl, rfl, rfl, rfl,
    tour.ending_ne_exhausted, hleft⟩

end SpoilerMarkup.Node
