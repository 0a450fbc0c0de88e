import SpoilerMarkup.Proofs.Node.Close
import SpoilerMarkup.Proofs.Node.Rebuild

/-!
Trees of streams that need not be balanced. Such a tree is canonical, and comes back when it is
flattened and built again, unless its stream broke off inside a verbatim element in which further
elements were open. Then that element is closed by one tag, which it takes for the end of something
inside it when the tree is built again. Main statement: `ofEvents_toEvents_ofEvents_iff`.
-/
namespace SpoilerMarkup

open Event
open SpanStyle (depthAfter)

namespace Event

/-- Tags that close something lead out of as many elements as there are tags. -/
theorem depthAfterAll_close (tags : List Tag) (depth : Nat) :
    depthAfterAll depth (tags.map fun tag => .finish tag.close) = depth - tags.length := by
  induction tags generalizing depth with
  | nil => rfl
  | cons tag tags ih =>
    rw [List.map_cons, depthAfterAll_cons, ih, List.length_cons]
    simp only [depthAfter]
    omega

end Event

namespace Builder

variable {b : Builder}

/-- Closing elements neither makes nor mends anything that is not canonical. -/
theorem canonical_closeAll_iff (top : List Node) (opened : List OpenElement) :
    Node.Canonical (closeAll top opened).reverse ↔ Node.Canonical top.reverse ∧
      ∀ element ∈ opened, ¬ element.tag.isVerbatim ∧ Node.Canonical element.nodes.reverse := by
  cases opened with
  | nil => simp [closeAll]
  | cons element outer =>
    induction outer generalizing element with
    | nil =>
      rw [closeAll, List.reverse_cons, Node.canonical_concat, Node.isCanonical_element]
      simp [Node.kind]
    | cons outer rest ih =>
      rw [closeAll, ih]
      simp only [List.forall_mem_cons, List.reverse_cons, Node.canonical_concat,
        Node.isCanonical_element, Node.children_element, Node.kind, reduceCtorEq, false_implies,
        and_true]
      constructor
      · rintro ⟨htop, ⟨houter, houterNodes, helement, hnodes⟩, hrest⟩
        exact ⟨htop, ⟨helement, hnodes⟩, ⟨houter, houterNodes⟩, hrest⟩
      · rintro ⟨htop, ⟨helement, hnodes⟩, ⟨houter, houterNodes⟩, hrest⟩
        exact ⟨htop, ⟨houter, houterNodes, helement, hnodes⟩, hrest⟩

theorem verbatim_closeVerbatim (b : Builder) : b.closeVerbatim.verbatim = none := by
  cases hverbatim : b.verbatim with
  | none => rw [closeVerbatim, hverbatim, hverbatim]
  | some element => simp [closeVerbatim, hverbatim, add]

/-- A verbatim element that is closed is canonical unless elements are still open inside it. -/
theorem canonical_closeVerbatim_iff (h : b.Canonical) :
    b.closeVerbatim.Canonical ↔ b.depth ≤ 1 := by
  cases hverbatim : b.verbatim with
  | none =>
    have hdepth : b.depth ≤ 1 := by simp [depth_of_none hverbatim]
    have hsame : b.closeVerbatim = b := by rw [closeVerbatim, hverbatim]
    simp only [hsame, h, hdepth]
  | some element =>
    obtain ⟨htag, hlevel⟩ := h.verbatim element hverbatim
    have hclosed : b.closeVerbatim =
        { b with verbatim := none }.add (.verbatim element.tag element.events.reverse) := by
      rw [closeVerbatim, hverbatim]
    have hbalanced : IsBalanced element.events.reverse ↔ b.depth ≤ 1 := by
      rw [IsBalanced, hlevel, Option.some.injEq, depth_of_some hverbatim]
      omega
    rw [hclosed, ← hbalanced]
    constructor
    · intro hcanonical
      have hnodes := hcanonical.nodes
      rw [add, nodes_modifyNodes, List.reverse_cons, Node.canonical_concat] at hnodes
      exact hnodes.2.1.1.2
    · intro hbalanced
      have hwithout : Builder.Canonical { b with verbatim := none } :=
        ⟨h.top, h.opened, by simp⟩
      have hnode : (Node.verbatim element.tag element.events.reverse).IsCanonical [] :=
        Node.isCanonical_of_kind ⟨htag, hbalanced⟩ (by simp [Node.kind])
      exact hwithout.add hnode .nil (by simp [Node.kind])

/-- What a builder leaves is canonical unless a verbatim element had to be closed together with
elements that were open inside it. -/
theorem canonical_finish_iff (h : b.Canonical) :
    Node.Canonical b.finish.children ↔ b.depth ≤ 1 := by
  rw [← canonical_closeVerbatim_iff h, finish, Node.children_root, canonical_closeAll_iff]
  constructor
  · rintro ⟨htop, hopened⟩
    exact ⟨htop, hopened, by simp [verbatim_closeVerbatim]⟩
  · intro hclosed
    exact ⟨hclosed.top, hclosed.opened⟩

/-- The events of a partly built tree end as deep inside verbatim elements as the tree itself. -/
theorem depthAfterAll_toEvents_eq (h : b.Canonical) : depthAfterAll 0 b.toEvents = b.depth := by
  cases hverbatim : b.verbatim with
  | none => rw [depthAfterAll_toEvents h hverbatim, depth_of_none hverbatim]
  | some element =>
    obtain ⟨htag, hlevel⟩ := h.verbatim element hverbatim
    rw [toEvents, hverbatim, verbatimEvents, depthAfterAll_append,
      depthAfterAll_openedEvents h.top h.opened, depthAfterAll_cons, depthAfter_start_verbatim htag,
      depthAfterAll_of_level hlevel, depth_of_some hverbatim]

/-- Finishing a tree leads out of one verbatim element at least, if the builder is inside any. -/
theorem depthAfterAll_finish_le (h : b.Canonical) :
    depthAfterAll 0 b.finish.toEvents ≤ b.depth - 1 := by
  rw [toEvents_finish, depthAfterAll_append, depthAfterAll_toEvents_eq h, depthAfterAll_close]
  cases hverbatim : b.verbatim with
  | none => simp [depth_of_none hverbatim]
  | some element =>
    have hunclosed : 1 ≤ b.unclosed.length := by simp [unclosed, hverbatim]
    omega

end Builder

namespace Node

theorem canonical_ofEvents_iff (events : List Event) :
    Canonical (ofEvents events).children ↔ depthAfterAll 0 events ≤ 1 := by
  rw [ofEvents, Builder.canonical_finish_iff (Builder.canonical_empty.foldl_push events),
    Builder.depth_foldl_push]
  rfl

theorem depthAfterAll_toEvents_ofEvents_le (events : List Event) :
    depthAfterAll 0 (ofEvents events).toEvents ≤ depthAfterAll 0 events - 1 := by
  have hfinish := Builder.depthAfterAll_finish_le (Builder.canonical_empty.foldl_push events)
  rwa [Builder.depth_foldl_push] at hfinish

/-- The tree of a stream, balanced or not, comes back from its own stream exactly if the first
stream did not end inside a verbatim element with further elements open in it. -/
theorem ofEvents_toEvents_ofEvents_iff (events : List Event) :
    ofEvents (ofEvents events).toEvents = ofEvents events ↔ depthAfterAll 0 events ≤ 1 := by
  constructor
  · intro hsame
    have hdepth : depthAfterAll 0 (ofEvents events).toEvents = 0 := by
      have hle := depthAfterAll_toEvents_ofEvents_le (ofEvents events).toEvents
      rw [hsame] at hle
      omega
    have hcanonical : Canonical (ofEvents (ofEvents events).toEvents).children := by
      rw [canonical_ofEvents_iff, hdepth]
      omega
    rwa [hsame, canonical_ofEvents_iff] at hcanonical
  · intro hdepth
    exact ofEvents_toEvents_of_canonical ((canonical_ofEvents_iff events).2 hdepth)

/-- The end of the code block is taken for that of the strong text in it, and the end of the quote
for that of the code block; so the quote goes on to the end. -/
example :
    let events := [.start (.blockQuote none), .start (.codeBlock none), .start .strong]
    ofEvents events =
        .root [.element (.blockQuote none) [.verbatim (.codeBlock none) [.start .strong]]] ∧
      ofEvents (ofEvents events).toEvents =
        .root [.element (.blockQuote none)
          [.verbatim (.codeBlock none) [.start .strong, .finish .codeBlock]]] := by
  decide +kernel

end Node

end SpoilerMarkup
