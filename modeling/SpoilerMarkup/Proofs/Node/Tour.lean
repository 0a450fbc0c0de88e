import SpoilerMarkup.Proofs.Node.Place
import SpoilerMarkup.Proofs.Node.Revise

/-!
Tours through the nodes of one kind in a tree that does not change. At each node it comes to a tour
takes a decision; it does not go below nodes that are skipped or replaced, and ends where it is told
to. What it decides is gathered, and tells what becomes of each node. Main statement:
`tour_isThrough`.
-/
namespace SpoilerMarkup.Node

variable {σ : Type}

namespace Decision

def isExit : Decision → Bool
  | .exit => true
  | _ => false

/-- Whether what is below the node is left alone. -/
def closes : Decision → Bool
  | .skip | .replace _ => true
  | _ => false

end Decision

/-- What has been decided so far, in order, and the state in which the next decision is taken. -/
structure Tour (σ : Type) where
  decided : List (Place × Decision)
  state : σ

namespace Tour

/-- A tour still comes to an address if it has not ended and nothing above was skipped or
replaced. -/
def Reaches (tour : Tour σ) (address : List Nat) : Prop :=
  ∀ entry ∈ tour.decided,
    ¬ entry.2.isExit ∧ (IsAbove entry.1.address address → ¬ entry.2.closes)

instance (tour : Tour σ) (address : List Nat) : Decidable (tour.Reaches address) :=
  inferInstanceAs (Decidable (∀ entry ∈ tour.decided,
    ¬ entry.2.isExit ∧
      (entry.1.address <+: address ∧ entry.1.address ≠ address → ¬ entry.2.closes)))

/-- A decision on the node at one more place. -/
def add (decision : σ → Node → Decision × σ) (tour : Tour σ) (place : Place) : Tour σ :=
  let (decided, state) := decision tour.state place.node
  ⟨tour.decided ++ [(place, decided)], state⟩

/-- Goes on to the next place of a tree, where only nodes of one kind are decided on. -/
def step (kind : NodeKind) (decision : σ → Node → Decision × σ) (tour : Tour σ) (place : Place) :
    Tour σ :=
  if place.node.kind = kind ∧ tour.Reaches place.address then tour.add decision place else tour

def ending (tour : Tour σ) : Ending :=
  if tour.decided.any (·.2.isExit) then .exited else .finished

/-- The places of the nodes that were decided on. -/
def offered (tour : Tour σ) : List Place :=
  tour.decided.map (·.1)

/-- What is to be put in the place of the node at an address, if it is to be replaced. -/
def replacement? (tour : Tour σ) (address : List Nat) : Option (List Node) :=
  tour.decided.findSome? fun (place, decision) =>
    match decision with
    | .replace nodes => if place.address = address then some nodes else none
    | _ => none

end Tour

/-- The tour through all places below a node. -/
def tour (kind : NodeKind) (decision : σ → Node → Decision × σ) (state : σ) (tree : Node) :
    Tour σ :=
  tree.places.foldl (Tour.step kind decision) ⟨[], state⟩

/-- The decisions on some nodes, one after the other, and the state behind them. -/
def decideAll (decision : σ → Node → Decision × σ) : σ → List Node → List Decision × σ
  | state, [] => ([], state)
  | state, node :: nodes =>
    let (decided, state) := decision state node
    let (rest, state) := decideAll decision state nodes
    (decided :: rest, state)

namespace Tour

variable {kind : NodeKind} {decision : σ → Node → Decision × σ} {tour : Tour σ}

/-- What is decided at a node, or to go below it if it is of another kind. -/
def answer (kind : NodeKind) (decision : σ → Node → Decision × σ) (tour : Tour σ) (node : Node) :
    Decision :=
  if node.kind = kind then (decision tour.state node).1 else .descend

theorem step_of_not_reaches {place : Place} (h : ¬ tour.Reaches place.address) :
    tour.step kind decision place = tour := by
  rw [step, if_neg (fun hboth => h hboth.2)]

theorem foldl_step_of_not_reaches {places : List Place}
    (h : ∀ place ∈ places, ¬ tour.Reaches place.address) :
    places.foldl (step kind decision) tour = tour := by
  induction places with
  | nil => rfl
  | cons place places ih =>
    rw [List.foldl_cons, step_of_not_reaches (h place (by simp)),
      ih fun place hplace => h place (by simp [hplace])]

/-- A step adds the answer at a place, or nothing if a node of another kind stands there. -/
theorem step_decided (kind : NodeKind) (decision : σ → Node → Decision × σ) {address : List Nat}
    (h : tour.Reaches address) (node : Node) (behind : List Node) :
    ∃ added, (tour.step kind decision ⟨address, node, behind⟩).decided = tour.decided ++ added ∧
      (added = [(⟨address, node, behind⟩, tour.answer kind decision node)] ∨
        added = [] ∧ tour.answer kind decision node = .descend) := by
  by_cases hkind : node.kind = kind
  · refine ⟨[(⟨address, node, behind⟩, tour.answer kind decision node)], ?_, .inl rfl⟩
    simp [step, answer, add, hkind, h]
  · exact ⟨[], by simp [step, hkind], .inr ⟨rfl, if_neg hkind⟩⟩

/-- What a tour through some places adds: decisions on nodes at these places, each taken in the
state that the one before it has left. -/
theorem foldl_step_decided (kind : NodeKind) (decision : σ → Node → Decision × σ) (tour : Tour σ)
    (places : List Place) :
    ∃ added, (places.foldl (step kind decision) tour).decided = tour.decided ++ added ∧
      (added.map (·.1)).Sublist places ∧
      decideAll decision tour.state (added.map (·.1.node)) =
        (added.map (·.2), (places.foldl (step kind decision) tour).state) := by
  induction places generalizing tour with
  | nil => exact ⟨[], by simp, by simp, rfl⟩
  | cons place places ih =>
    obtain ⟨added, hdecided, hplaces, hstate⟩ := ih (tour.step kind decision place)
    rw [List.foldl_cons, hdecided]
    by_cases hstep : place.node.kind = kind ∧ tour.Reaches place.address
    · refine ⟨(place, (decision tour.state place.node).1) :: added, ?_, ?_, ?_⟩
      · simp [step, hstep, add]
      · simpa using hplaces
      · rw [step, if_pos hstep, add] at hstate
        rw [step, if_pos hstep, add]
        simp [decideAll, hstate]
    · have hsame : tour.step kind decision place = tour := if_neg hstep
      rw [hsame] at hstate ⊢
      exact ⟨added, rfl, hplaces.cons place, hstate⟩

theorem replacement?_eq_none {address : List Nat}
    (h : ∀ place nodes, (place, .replace nodes) ∈ tour.decided → place.address ≠ address) :
    tour.replacement? address = none := by
  rw [replacement?, List.findSome?_eq_none_iff]
  rintro ⟨place, decided⟩ hentry
  cases decided with
  | replace nodes => exact if_neg (h place nodes hentry)
  | _ => rfl

section

variable {tour' : Tour σ} {added : List (Place × Decision)} {address : List Nat} {index : Nat}

/-- Decisions that put nothing in the place at an address do not matter there. -/
theorem replacement?_of_append (hdecided : tour'.decided = tour.decided ++ added)
    (h : ∀ place nodes, (place, .replace nodes) ∈ added → place.address ≠ address) :
    tour'.replacement? address = tour.replacement? address := by
  have hadded : Tour.replacement? ⟨added, tour.state⟩ address = none := replacement?_eq_none h
  rw [replacement?] at hadded
  rw [replacement?, hdecided, List.findSome?_append, hadded, Option.or_none, replacement?]

theorem ending_of_append (hdecided : tour'.decided = tour.decided ++ added) :
    tour'.ending = if added.any (·.2.isExit) then .exited else tour.ending := by
  rw [ending, hdecided, List.any_append]
  cases added.any (·.2.isExit) with
  | true => rw [Bool.or_true]; rfl
  | false => rw [Bool.or_false]; rfl

theorem ending_ne_exhausted (tour : Tour σ) : tour.ending ≠ .exhausted := by
  rw [ending]
  split <;> simp

theorem not_reaches_of_exited (h : tour.ending = .exited) : ¬ tour.Reaches address := by
  intro hreaches
  have hany : tour.decided.any (·.2.isExit) := by
    by_cases hany : tour.decided.any (·.2.isExit)
    · exact hany
    · simp [ending, hany] at h
  obtain ⟨entry, hentry, hexit⟩ := List.any_eq_true.1 hany
  exact (hreaches entry hentry).1 hexit

theorem not_reaches_of_closes {entry : Place × Decision} (hentry : entry ∈ tour.decided)
    (hcloses : entry.2.closes) (habove : IsAbove entry.1.address address) :
    ¬ tour.Reaches address :=
  fun hreaches => (hreaches entry hentry).2 habove hcloses

/-- Nothing is skipped or replaced at the addresses from the child at `index` on, nor above them. -/
def OpenFrom (tour : Tour σ) (address : List Nat) (index : Nat) : Prop :=
  ∀ entry ∈ tour.decided, entry.2.closes →
    ∀ i rest, index ≤ i → ¬ entry.1.address <+: address ++ i :: rest

theorem OpenFrom.replacement? (h : tour.OpenFrom address index) {i : Nat} (rest : List Nat)
    (hi : index ≤ i) : tour.replacement? (address ++ i :: rest) = none := by
  apply replacement?_eq_none
  intro place nodes hentry haddress
  exact h _ hentry rfl i rest hi (haddress ▸ List.prefix_rfl)

theorem OpenFrom.replaceList (h : tour.OpenFrom address index) {i : Nat} (hi : index ≤ i)
    (nodes : List Node) : Node.replaceList tour.replacement? address i nodes = nodes :=
  replaceList_of_none (fun _ rest hle => h.replacement? rest (Nat.le_trans hi hle)) nodes

theorem OpenFrom.reaches (h : tour.OpenFrom address index) (hending : tour.ending = .finished) :
    tour.Reaches (address ++ [index]) := by
  intro entry hentry
  refine ⟨?_, fun habove hcloses => h entry hentry hcloses index [] (Nat.le_refl _) habove.1⟩
  intro hexit
  have : tour.decided.any (·.2.isExit) := List.any_eq_true.2 ⟨entry, hentry, hexit⟩
  simp [ending, this] at hending

theorem OpenFrom.mono {index' : Nat} (h : tour.OpenFrom address index) (hindex : index ≤ index') :
    tour.OpenFrom address index' :=
  fun entry hentry hcloses i rest hi => h entry hentry hcloses i rest (by omega)

theorem OpenFrom.below (h : tour.OpenFrom address index) :
    tour.OpenFrom (address ++ [index]) 0 := by
  intro entry hentry hcloses i rest _
  simpa using h entry hentry hcloses index (i :: rest) (Nat.le_refl _)

theorem OpenFrom.append (h : tour.OpenFrom address index)
    (hdecided : tour'.decided = tour.decided ++ added)
    (hadded : ∀ entry ∈ added, entry.2.closes →
      ∃ i rest, i < index ∧ entry.1.address = address ++ i :: rest) :
    tour'.OpenFrom address index := by
  intro entry hentry hcloses i rest hi
  rw [hdecided, List.mem_append] at hentry
  rcases hentry with hentry | hentry
  · exact h entry hentry hcloses i rest hi
  · obtain ⟨i', rest', hi', haddress⟩ := hadded entry hentry hcloses
    simp [haddress]
    omega

/-- Behind a child the way is open again, whatever was decided at the child and below it. -/
theorem OpenFrom.foldl_step (h : tour.OpenFrom address (index + 1)) (kind : NodeKind)
    (decision : σ → Node → Decision × σ) (nodes : List Node) :
    ((placesList (address ++ [index]) 0 nodes).foldl (step kind decision) tour).OpenFrom address
      (index + 1) := by
  obtain ⟨added, hdecided, hplaces, -⟩ :=
    foldl_step_decided kind decision tour (placesList (address ++ [index]) 0 nodes)
  refine h.append hdecided fun entry hentry _ => ?_
  obtain ⟨i, rest, haddress⟩ :=
    address_of_mem_below (hplaces.subset (List.mem_map_of_mem hentry))
  exact ⟨index, i :: rest, by omega, haddress⟩

/-- What stands in the place of a child after a tour. -/
def becomes (tour : Tour σ) (address : List Nat) (index : Nat) (node : Node) : List Node :=
  (tour.replacement? (address ++ [index])).getD
    [node.withChildren (replaceList tour.replacement? (address ++ [index]) 0 node.children)]

theorem becomes_of_none (h : ∀ rest, tour.replacement? (address ++ index :: rest) = none)
    (node : Node) : tour.becomes address index node = [node] := by
  have hchildren : replaceList tour.replacement? (address ++ [index]) 0 node.children =
      node.children := replaceList_of_none (fun i rest _ => by simpa using h (i :: rest)) _
  rw [becomes, h [], hchildren, withChildren_children]
  rfl

/-- What the tour through later siblings decides does not change what becomes of a child. -/
theorem replaceList_foldl_step (kind : NodeKind) (decision : σ → Node → Decision × σ)
    (tour : Tour σ) (address : List Nat) (index : Nat) (node : Node) (nodes : List Node) :
    replaceList
        ((placesList address (index + 1) nodes).foldl (step kind decision) tour).replacement?
        address index (node :: nodes) =
      tour.becomes address index node ++
        replaceList
          ((placesList address (index + 1) nodes).foldl (step kind decision) tour).replacement?
          address (index + 1) nodes := by
  obtain ⟨added, hdecided, hplaces, -⟩ :=
    foldl_step_decided kind decision tour (placesList address (index + 1) nodes)
  generalize (placesList address (index + 1) nodes).foldl (step kind decision) tour = reached
    at hdecided ⊢
  have hsame : ∀ rest, reached.replacement? (address ++ index :: rest) =
      tour.replacement? (address ++ index :: rest) := by
    intro rest
    refine replacement?_of_append hdecided fun place nodes hentry => ?_
    obtain ⟨i, inner, hi, haddress⟩ := address_of_mem (hplaces.subset (List.mem_map_of_mem hentry))
    simp only at haddress
    simp [haddress]
    omega
  have hbelow : replaceList reached.replacement? (address ++ [index]) 0 node.children =
      replaceList tour.replacement? (address ++ [index]) 0 node.children :=
    replaceList_congr (fun i rest _ => by simpa using hsame (i :: rest)) _
  rw [replaceList_cons, hbelow, hsame [], becomes]

/-- A tour that has ended goes on nowhere. -/
theorem foldl_step_of_exited (h : tour.ending = .exited) (places : List Place) :
    places.foldl (step kind decision) tour = tour :=
  foldl_step_of_not_reaches fun _ _ => not_reaches_of_exited h

/-- A tour does not go below a node that was skipped or replaced. -/
theorem foldl_step_of_closes {entry : Place × Decision} (hentry : entry ∈ tour.decided)
    (hcloses : entry.2.closes) (nodes : List Node) :
    (placesList entry.1.address 0 nodes).foldl (step kind decision) tour = tour := by
  refine foldl_step_of_not_reaches fun place hplace => ?_
  obtain ⟨i, rest, -, haddress⟩ := address_of_mem hplace
  refine not_reaches_of_closes hentry hcloses ⟨?_, ?_⟩
  · simp [haddress]
  · simp [haddress]

section

variable (kind : NodeKind) (decision : σ → Node → Decision × σ) {taken : Tour σ} {node : Node}
  {behind : List Node} (hopen : tour.OpenFrom address index)

include hopen

theorem becomes_of_exit (htaken : taken.decided =
      tour.decided ++ [(⟨address ++ [index], node, behind⟩, .exit)]) :
    taken.ending = .exited ∧ taken.becomes address index node = [node] := by
  refine ⟨ending_of_append htaken, becomes_of_none (fun rest => ?_) node⟩
  rw [replacement?_of_append htaken (by simp), hopen.replacement? rest (Nat.le_refl _)]

theorem becomes_of_skip (htaken : taken.decided =
      tour.decided ++ [(⟨address ++ [index], node, behind⟩, .skip)]) :
    taken.ending = tour.ending ∧
      (placesList (address ++ [index]) 0 node.children).foldl (step kind decision) taken = taken ∧
      taken.becomes address index node = [node] := by
  have hmem : ((⟨address ++ [index], node, behind⟩ : Place), Decision.skip) ∈ taken.decided := by
    simp [htaken]
  refine ⟨ending_of_append htaken, foldl_step_of_closes hmem rfl _,
    becomes_of_none (fun rest => ?_) node⟩
  rw [replacement?_of_append htaken (by simp), hopen.replacement? rest (Nat.le_refl _)]

theorem becomes_of_replace {nodes : List Node} (htaken : taken.decided =
      tour.decided ++ [(⟨address ++ [index], node, behind⟩, .replace nodes)]) :
    taken.ending = tour.ending ∧
      (placesList (address ++ [index]) 0 node.children).foldl (step kind decision) taken = taken ∧
      taken.becomes address index node = nodes := by
  have hmem : ((⟨address ++ [index], node, behind⟩ : Place), Decision.replace nodes) ∈
      taken.decided := by simp [htaken]
  refine ⟨ending_of_append htaken, foldl_step_of_closes hmem rfl _, ?_⟩
  have hbefore := hopen.replacement? [] (Nat.le_refl _)
  rw [Tour.replacement?] at hbefore
  rw [becomes, Tour.replacement?, htaken, List.findSome?_append, hbefore]
  simp

/-- A node that is left and gone below stays with what becomes of its children. -/
theorem becomes_of_descend (node : Node) {added : List (Place × Decision)}
    (htaken : taken.decided = tour.decided ++ added)
    (hadded : ∀ entry ∈ added, entry.2 = .descend) :
    taken.ending = tour.ending ∧ taken.OpenFrom (address ++ [index]) 0 ∧
      let done := (placesList (address ++ [index]) 0 node.children).foldl (step kind decision) taken
      let children := replaceList done.replacement? (address ++ [index]) 0 node.children
      done.becomes address index node = [node.withChildren children] := by
  refine ⟨?_, hopen.below.append htaken fun entry hentry hcloses => ?_, ?_⟩
  · have hexit : added.any (·.2.isExit) = false := by
      rw [List.any_eq_false]
      intro entry hentry
      simp [hadded entry hentry, Decision.isExit]
    rw [ending_of_append htaken, hexit]
    rfl
  · simp [hadded entry hentry, Decision.closes] at hcloses
  · intro done children
    obtain ⟨more, hdone, hplaces, -⟩ :=
      foldl_step_decided kind decision taken (placesList (address ++ [index]) 0 node.children)
    have hown : done.replacement? (address ++ [index]) = none := by
      rw [replacement?_of_append hdone, replacement?_of_append htaken,
        hopen.replacement? [] (Nat.le_refl _)]
      · intro place nodes hentry
        simpa using hadded _ hentry
      · intro place nodes hentry
        obtain ⟨i, rest, haddress⟩ :=
          address_of_mem_below (hplaces.subset (List.mem_map_of_mem hentry))
        simp only at haddress
        simp [haddress]
    rw [becomes, hown]
    rfl

end

end

end Tour

section

variable {tree : Node} {kind : NodeKind} {decision : σ → Node → Decision × σ} {state : σ}

theorem Tour.mem_step_decided {tour : Tour σ} {place : Place} {entry : Place × Decision} :
    entry ∈ (tour.step kind decision place).decided ↔
      entry ∈ tour.decided ∨ (place.node.kind = kind ∧ tour.Reaches place.address) ∧
        entry = (place, (decision tour.state place.node).1) := by
  rw [Tour.step]
  split <;> simp_all [Tour.add]

/-- What a tour has decided is what it decided before it came to a place, at that place, if it was
still open, and behind it. -/
theorem mem_decided_tour (kind : NodeKind) (decision : σ → Node → Decision × σ) (state : σ)
    {before after : List Place} {place : Place} (h : tree.places = before ++ place :: after) :
    ∃ (reached : Tour σ) (later : List (Place × Decision)),
      (∀ entry ∈ reached.decided, entry.1 ∈ before) ∧ (∀ entry ∈ later, entry.1 ∈ after) ∧
        ∀ entry, entry ∈ (tree.tour kind decision state).decided ↔
          (entry ∈ reached.decided ∨
            (place.node.kind = kind ∧ reached.Reaches place.address) ∧
              entry = (place, (decision reached.state place.node).1)) ∨ entry ∈ later := by
  obtain ⟨added, hadded, hplaces, -⟩ := Tour.foldl_step_decided kind decision ⟨[], state⟩ before
  rw [tour, h, List.foldl_append, List.foldl_cons]
  generalize before.foldl (Tour.step kind decision) ⟨[], state⟩ = reached at hadded ⊢
  obtain ⟨later, hlater, hlaterPlaces, -⟩ :=
    Tour.foldl_step_decided kind decision (reached.step kind decision place) after
  refine ⟨reached, later, fun entry hentry => ?_, fun entry hentry => ?_, fun entry => ?_⟩
  · exact hplaces.subset (List.mem_map_of_mem (by simpa [hadded] using hentry))
  · exact hlaterPlaces.subset (List.mem_map_of_mem hentry)
  · rw [hlater, List.mem_append, Tour.mem_step_decided]

/-- Whether a tour comes to a place is settled by what it has decided above it and before it. -/
theorem mem_offered_tour {before after : List Place} {place : Place}
    (h : tree.places = before ++ place :: after) :
    let tour := tree.tour kind decision state
    place ∈ tour.offered ↔
      place.node.kind = kind ∧
        (∀ entry ∈ tour.decided, IsAbove entry.1.address place.address → ¬ entry.2.closes) ∧
        ∀ entry ∈ tour.decided, entry.1 ∈ before → ¬ entry.2.isExit := by
  intro tour
  have hpairwise := pairwise_placesList [] 0 tree.children
  rw [← placesBelow_eq, ← places, h, List.pairwise_append, List.pairwise_cons] at hpairwise
  obtain ⟨-, ⟨hafter, -⟩, hbefore⟩ := hpairwise
  obtain ⟨reached, later, hinBefore, hinAfter, hmem⟩ := mem_decided_tour kind decision state h
  constructor
  · intro hoffered
    obtain ⟨entry, hentry, rfl⟩ := List.mem_map.1 hoffered
    obtain ⟨hkind, hreaches⟩ : entry.1.node.kind = kind ∧ reached.Reaches entry.1.address := by
      rcases (hmem entry).1 hentry with (hentry | ⟨hstep, -⟩) | hentry
      · exact absurd List.prefix_rfl (hbefore _ (hinBefore entry hentry) entry.1 (by simp))
      · exact hstep
      · exact absurd List.prefix_rfl (hafter _ (hinAfter entry hentry))
    refine ⟨hkind, fun other hother habove => ?_, fun other hother hotherBefore => ?_⟩
    · rcases (hmem other).1 hother with (hother | ⟨-, rfl⟩) | hother
      · exact (hreaches other hother).2 habove
      · exact absurd rfl habove.2
      · exact absurd habove.1 (hafter _ (hinAfter other hother))
    · rcases (hmem other).1 hother with (hother | ⟨-, rfl⟩) | hother
      · exact (hreaches other hother).1
      · exact absurd List.prefix_rfl (hbefore _ hotherBefore entry.1 (by simp))
      · exact absurd List.prefix_rfl
          (hbefore _ hotherBefore other.1 (by simp [hinAfter other hother]))
  · rintro ⟨hkind, hopen, hgoesOn⟩
    have hreaches : reached.Reaches place.address := fun entry hentry =>
      have hentry' : entry ∈ tour.decided := (hmem entry).2 (.inl (.inl hentry))
      ⟨hgoesOn entry hentry' (hinBefore entry hentry), hopen entry hentry'⟩
    exact List.mem_map.2 ⟨_, (hmem _).2 (.inl (.inr ⟨⟨hkind, hreaches⟩, rfl⟩)), rfl⟩

/-- A tour through a tree comes, in order, to each node of the kind below the root that is neither
below a node skipped or replaced before nor behind a node at which it ended, and decides on it once,
in the state left by the decision before. -/
structure Tour.IsThrough (tour : Tour σ) (tree : Node) (kind : NodeKind)
    (decision : σ → Node → Decision × σ) (state : σ) : Prop where
  inOrder : tour.offered.Sublist tree.places
  comesTo : ∀ before place after, tree.places = before ++ place :: after →
    (place ∈ tour.offered ↔
      place.node.kind = kind ∧
        (∀ entry ∈ tour.decided, IsAbove entry.1.address place.address → ¬ entry.2.closes) ∧
        ∀ entry ∈ tour.decided, entry.1 ∈ before → ¬ entry.2.isExit)
  decides : decideAll decision state (tour.offered.map (·.node)) =
    (tour.decided.map (·.2), tour.state)

theorem tour_isThrough (tree : Node) (kind : NodeKind) (decision : σ → Node → Decision × σ)
    (state : σ) : (tree.tour kind decision state).IsThrough tree kind decision state := by
  obtain ⟨added, hadded, hplaces, hdecided⟩ :=
    Tour.foldl_step_decided kind decision ⟨[], state⟩ tree.places
  obtain rfl : (tree.tour kind decision state).decided = added := hadded
  refine ⟨hplaces, fun before place after h => mem_offered_tour h, ?_⟩
  rw [Tour.offered, List.map_map]
  exact hdecided

end

end SpoilerMarkup.Node
