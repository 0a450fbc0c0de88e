import SpoilerMarkup.Proofs.Node.Below

/-!
Where the nodes of a tree stand. Every node below another one has an address, the indices that lead
to it; the nodes are listed with their addresses in the order in which they stand, and no node is
listed behind one that is below it. Some of them may be replaced by what is given for their
addresses.
-/
namespace SpoilerMarkup.Node

/-- A node with its address and with the siblings behind it. -/
structure Place where
  address : List Nat
  node : Node
  behind : List Node

mutual

/-- The places below a node: each child, what is below it, and then its next sibling. -/
def placesBelow (address : List Nat) : Node → List Place
  | .root children | .element _ children => placesList address 0 children
  | _ => []

/-- The places of the children from `index` on of the node at `address`, and of all below them. -/
def placesList (address : List Nat) (index : Nat) : List Node → List Place
  | [] => []
  | node :: nodes =>
    ⟨address ++ [index], node, nodes⟩ ::
      (placesBelow (address ++ [index]) node ++ placesList address (index + 1) nodes)

end

/-- All places below a node. -/
def places (tree : Node) : List Place :=
  placesBelow [] tree

/-- One address is that of a node above the node of the other. -/
def IsAbove (above address : List Nat) : Prop :=
  above <+: address ∧ above ≠ address

theorem placesBelow_eq (address : List Nat) (node : Node) :
    placesBelow address node = placesList address 0 node.children := by
  cases node <;> simp [placesBelow, children, placesList]

theorem placesList_cons (address : List Nat) (index : Nat) (node : Node) (nodes : List Node) :
    placesList address index (node :: nodes) =
      ⟨address ++ [index], node, nodes⟩ ::
        (placesList (address ++ [index]) 0 node.children ++
          placesList address (index + 1) nodes) := by
  rw [placesList, placesBelow_eq]

theorem address_of_mem {address : List Nat} {index : Nat} {nodes : List Node} {place : Place}
    (h : place ∈ placesList address index nodes) :
    ∃ i rest, index ≤ i ∧ place.address = address ++ i :: rest := by
  induction nodes using list_induction generalizing address index with
  | nil => simp [placesList] at h
  | cons node nodes below rest =>
    rw [placesList_cons, List.mem_cons, List.mem_append] at h
    rcases h with rfl | h | h
    · exact ⟨index, [], Nat.le_refl _, rfl⟩
    · obtain ⟨i, inner, -, haddress⟩ := below h
      exact ⟨index, i :: inner, Nat.le_refl _, by simp [haddress]⟩
    · obtain ⟨i, inner, hi, haddress⟩ := rest h
      exact ⟨i, inner, by omega, haddress⟩

/-- The address of a place below a child begins with that of the child. -/
theorem address_of_mem_below {address : List Nat} {index : Nat} {nodes : List Node} {place : Place}
    (h : place ∈ placesList (address ++ [index]) 0 nodes) :
    ∃ i rest, place.address = address ++ index :: i :: rest := by
  obtain ⟨i, rest, -, haddress⟩ := address_of_mem h
  exact ⟨i, rest, by simp [haddress]⟩

/-- No place is listed twice, and none behind a place below it. -/
theorem pairwise_placesList (address : List Nat) (index : Nat) (nodes : List Node) :
    (placesList address index nodes).Pairwise fun place later =>
      ¬ later.address <+: place.address := by
  induction nodes using list_induction generalizing address index with
  | nil => simp [placesList]
  | cons node nodes below rest =>
    rw [placesList_cons, List.pairwise_cons, List.pairwise_append]
    refine ⟨?_, below _ _, rest _ _, ?_⟩
    · intro later hlater
      rcases List.mem_append.1 hlater with hlater | hlater
      · obtain ⟨i, inner, haddress⟩ := address_of_mem_below hlater
        simp [haddress]
      · obtain ⟨i, inner, hi, haddress⟩ := address_of_mem hlater
        simp [haddress]
        omega
    · intro place hplace later hlater
      obtain ⟨i, inner, haddress⟩ := address_of_mem_below hplace
      obtain ⟨i', inner', hi', haddress'⟩ := address_of_mem hlater
      simp [haddress, haddress']
      omega

mutual

/-- A node with nodes below it replaced by what is given for their addresses. -/
def replaceBelow (replaced : List Nat → Option (List Node)) (address : List Nat) : Node → Node
  | .root children => .root (replaceList replaced address 0 children)
  | .element tag children => .element tag (replaceList replaced address 0 children)
  | node => node

/-- The same for the children from `index` on of the node at `address`. What is below a child that
is replaced is gone with it. -/
def replaceList (replaced : List Nat → Option (List Node)) (address : List Nat) (index : Nat) :
    List Node → List Node
  | [] => []
  | node :: nodes =>
    (replaced (address ++ [index])).getD [replaceBelow replaced (address ++ [index]) node] ++
      replaceList replaced address (index + 1) nodes

end

section

variable {replaced replaced' : List Nat → Option (List Node)}

theorem replaceBelow_eq (address : List Nat) (node : Node) :
    replaceBelow replaced address node =
      node.withChildren (replaceList replaced address 0 node.children) := by
  cases node <;> rfl

theorem replaceList_cons (address : List Nat) (index : Nat) (node : Node) (nodes : List Node) :
    replaceList replaced address index (node :: nodes) =
      (replaced (address ++ [index])).getD
          [node.withChildren (replaceList replaced (address ++ [index]) 0 node.children)] ++
        replaceList replaced address (index + 1) nodes := by
  rw [replaceList, replaceBelow_eq]

/-- Only the addresses of the nodes of a list and of those below them matter. -/
theorem replaceList_congr {address : List Nat} {index : Nat}
    (h : ∀ i rest, index ≤ i → replaced (address ++ i :: rest) = replaced' (address ++ i :: rest))
    (nodes : List Node) :
    replaceList replaced address index nodes = replaceList replaced' address index nodes := by
  induction nodes using list_induction generalizing address index with
  | nil => rfl
  | cons node nodes below rest =>
    have hbelow : replaceList replaced (address ++ [index]) 0 node.children =
        replaceList replaced' (address ++ [index]) 0 node.children :=
      below fun i inner _ => by simpa using h index (i :: inner) (Nat.le_refl _)
    have hrest : replaceList replaced address (index + 1) nodes =
        replaceList replaced' address (index + 1) nodes :=
      rest fun i inner hi => h i inner (by omega)
    rw [replaceList_cons, replaceList_cons, hbelow, hrest, h index [] (Nat.le_refl _)]

theorem replaceList_none (address : List Nat) (index : Nat) (nodes : List Node) :
    replaceList (fun _ => none) address index nodes = nodes := by
  induction nodes using list_induction generalizing address index with
  | nil => rfl
  | cons node nodes below rest =>
    rw [replaceList_cons, below, rest, withChildren_children]
    rfl

theorem replaceList_of_none {address : List Nat} {index : Nat}
    (h : ∀ i rest, index ≤ i → replaced (address ++ i :: rest) = none) (nodes : List Node) :
    replaceList replaced address index nodes = nodes := by
  calc replaceList replaced address index nodes
      = replaceList (fun _ => none) address index nodes := replaceList_congr h nodes
    _ = nodes := replaceList_none address index nodes

end

end SpoilerMarkup.Node
