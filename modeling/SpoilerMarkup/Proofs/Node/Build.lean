import SpoilerMarkup.Node.Build
import SpoilerMarkup.Proofs.Event.Settle
import SpoilerMarkup.Proofs.Node.Flatten

/-!
What a partly built tree stands for. Each event that a builder takes is added to the events of
its tree, and a text may grow by it instead; so the tree of a stream in which every element is
closed has the events of that stream. What is built is canonical, whether all elements are closed
or not.
-/
namespace SpoilerMarkup

open Event
open SpanStyle (depthAfter)

namespace Node

theorem isCanonical_text (value : String) : (text value).IsCanonical [] :=
  ⟨trivial, ⟨by simp [kind], by simp⟩, by simp⟩

theorem isCanonical_leaf {event : Event} (h : event.isLeaf) : (leaf event).IsCanonical [] := by
  have hcontent : event.isContent ∧ ¬ event.isText := by
    cases event <;> simp_all [isLeaf, isContent, isText]
  refine ⟨hcontent, ⟨by simp [kind], by simp [kind]⟩, ?_⟩
  rintro _ ⟨⟩
  exact h

/-- A sound node of any other kind needs no more, whatever stands behind it. -/
theorem isCanonical_of_kind {node : Node} (hsound : node.IsSound)
    (hkind : node.kind ≠ .root ∧ node.kind ≠ .text ∧ node.kind ≠ .leaf) : node.IsCanonical [] := by
  refine ⟨hsound, ⟨hkind.1, fun htext => absurd htext hkind.2.1⟩, ?_⟩
  rintro event rfl
  exact absurd rfl hkind.2.2

theorem isCanonical_element {tag : Tag} {nodes : List Node} :
    (element tag nodes).IsCanonical [] ↔ ¬ tag.isVerbatim := by
  constructor
  · intro h
    exact h.1
  · intro htag
    exact isCanonical_of_kind htag (by simp [kind])

theorem isCanonical_concat {first node : Node} {nodes : List Node} :
    IsCanonical first (nodes ++ [node]) ↔ IsCanonical first nodes ∧
      (nodes = [] → node.kind = .text → first.kind ≠ .text) := by
  cases nodes with
  | nil =>
    simp only [IsCanonical, IsApart, List.nil_append, List.head?_cons, Option.mem_some_iff,
      forall_eq', List.head?_nil]
    constructor
    · rintro ⟨hsound, ⟨hroot, happart⟩, hleaf⟩
      exact ⟨⟨hsound, ⟨hroot, nofun⟩, hleaf⟩, fun _ hnode hfirst => happart hfirst hnode⟩
    · rintro ⟨⟨hsound, ⟨hroot, -⟩, hleaf⟩, happart⟩
      exact ⟨hsound, ⟨hroot, fun hfirst hnode => happart trivial hnode hfirst⟩, hleaf⟩
  | cons next nodes => simp [IsCanonical, IsApart]

/-- A node behind a canonical list must be canonical itself, and no text behind a text. -/
theorem canonical_concat {nodes : List Node} {node : Node} :
    Canonical (nodes ++ [node]) ↔ Canonical nodes ∧ IsCanonical node [] ∧ Canonical node.children ∧
      (node.kind = .text → ∀ last ∈ nodes.getLast?, last.kind ≠ .text) := by
  induction nodes with
  | nil =>
    rw [List.nil_append, canonical_cons]
    simp
  | cons first nodes ih =>
    rw [List.cons_append, canonical_cons, canonical_cons, isCanonical_concat, ih]
    cases nodes with
    | nil => grind
    | cons next nodes => simp [and_assoc]

end Node

namespace Builder

/-- The innermost list of nodes, newest first. -/
def nodes (b : Builder) : List Node :=
  match b.opened with
  | [] => b.top
  | element :: _ => element.nodes

/-- Whether the innermost open element is an HTML block. -/
def inHtmlBlock (b : Builder) : Bool :=
  match b.opened with
  | [] => false
  | element :: _ => element.tag = .htmlBlock

@[simp] theorem verbatim_modifyNodes (b : Builder) (change : List Node → List Node) :
    (b.modifyNodes change).verbatim = b.verbatim := by
  obtain ⟨top, opened, verbatim⟩ := b
  cases opened <;> rfl

@[simp] theorem nodes_modifyNodes (b : Builder) (change : List Node → List Node) :
    (b.modifyNodes change).nodes = change b.nodes := by
  obtain ⟨top, opened, verbatim⟩ := b
  cases opened <;> rfl

@[simp] theorem tags_modifyNodes (b : Builder) (change : List Node → List Node) :
    (b.modifyNodes change).opened.map (·.tag) = b.opened.map (·.tag) := by
  obtain ⟨top, opened, verbatim⟩ := b
  cases opened <;> rfl

/-- Everything that is built is canonical, and what is collected of a verbatim element opens as
many elements as its depth says. -/
structure Canonical (b : Builder) : Prop where
  top : Node.Canonical b.top.reverse
  opened : ∀ element ∈ b.opened, ¬ element.tag.isVerbatim ∧ Node.Canonical element.nodes.reverse
  verbatim : ∀ element ∈ b.verbatim, element.tag.isVerbatim ∧
    element.events.reverse.foldlM levelAfter? 0 = some element.depth

theorem canonical_empty : empty.Canonical where
  top := .nil
  opened := nofun
  verbatim := nofun

variable {b : Builder}

theorem Canonical.nodes (h : b.Canonical) : Node.Canonical b.nodes.reverse := by
  unfold Builder.nodes
  split
  · exact h.top
  · next element _ hopened => exact (h.opened element (by simp [hopened])).2

theorem Canonical.modifyNodes (h : b.Canonical) {change : List Node → List Node}
    (hchange : Node.Canonical (change b.nodes).reverse) : (b.modifyNodes change).Canonical := by
  obtain ⟨top, opened, verbatim⟩ := b
  cases opened with
  | nil => exact ⟨hchange, h.opened, h.verbatim⟩
  | cons element outer =>
    refine ⟨h.top, ?_, h.verbatim⟩
    intro element' helement'
    rcases List.mem_cons.1 helement' with rfl | helement'
    · exact ⟨(h.opened element (by simp)).1, hchange⟩
    · exact h.opened element' (by simp [helement'])

theorem Canonical.add (h : b.Canonical) {node : Node} (hnode : node.IsCanonical [])
    (hbelow : Node.Canonical node.children) (hkind : node.kind ≠ .text) :
    (b.add node).Canonical := by
  apply h.modifyNodes
  rw [List.reverse_cons, Node.canonical_concat]
  exact ⟨h.nodes, hnode, hbelow, fun htext => absurd htext hkind⟩

theorem appendText_cases (value : String) (nodes : List Node) :
    (∃ last rest, nodes = .text last :: rest ∧
      appendText value nodes = .text (last ++ value) :: rest) ∨
    appendText value nodes = .text value :: nodes := by
  unfold appendText
  split
  · next last rest => exact .inl ⟨last, rest, rfl, rfl⟩
  · exact .inr rfl

/-- Text that comes in two parts is added as a whole. -/
theorem appendText_appendText (value value' : String) (nodes : List Node) :
    appendText value' (appendText value nodes) = appendText (value ++ value') nodes := by
  cases nodes with
  | nil => rfl
  | cons last nodes => cases last <;> simp [appendText, String.append_assoc]

theorem canonical_appendText (value : String) {nodes : List Node}
    (h : Node.Canonical nodes.reverse) : Node.Canonical (appendText value nodes).reverse := by
  unfold appendText
  split
  · next last nodes =>
    rw [List.reverse_cons, Node.canonical_concat] at h ⊢
    exact ⟨h.1, Node.isCanonical_text _, .nil, h.2.2.2⟩
  · next hlast =>
    rw [List.reverse_cons, Node.canonical_concat, List.getLast?_reverse]
    refine ⟨h, Node.isCanonical_text value, .nil, fun _ last hmem hkind => ?_⟩
    obtain ⟨last, rfl⟩ := Node.eq_text_of_kind hkind
    obtain ⟨rest, rfl⟩ := List.head?_eq_some_iff.1 hmem
    exact hlast last rest rfl

theorem Canonical.closeElement (h : b.Canonical) : b.closeElement.Canonical := by
  obtain ⟨top, opened, verbatim⟩ := b
  cases opened with
  | nil => exact h
  | cons element outer =>
    obtain ⟨htag, hnodes⟩ := h.opened element (by simp)
    have houter : Builder.Canonical ⟨top, outer, verbatim⟩ :=
      ⟨h.top, fun element' helement' => h.opened element' (by simp [helement']), h.verbatim⟩
    have hnode : (Node.element element.tag element.nodes.reverse).IsCanonical [] :=
      Node.isCanonical_of_kind htag (by simp [Node.kind])
    exact houter.add hnode hnodes (by simp [Node.kind])

theorem pushVerbatim_finish {element : OpenVerbatim} (h : b.verbatim = some element)
    (hdepth : element.depth = 0) (tag : EndTag) :
    b.pushVerbatim element (.finish tag) =
      { b with verbatim := none }.add (.verbatim element.tag element.events.reverse) := by
  simp only [pushVerbatim, hdepth, closeVerbatim, h]

theorem Canonical.pushVerbatim (h : b.Canonical) {element : OpenVerbatim}
    (hverbatim : b.verbatim = some element) (event : Event) :
    (b.pushVerbatim element event).Canonical := by
  obtain ⟨htag, hlevel⟩ := h.verbatim element hverbatim
  have hkeep : ∀ depth, levelAfter? element.depth event = some depth → Builder.Canonical
      { b with verbatim := some ⟨element.tag, event :: element.events, depth⟩ } := by
    intro depth hdepth
    refine ⟨h.top, h.opened, ?_⟩
    rintro _ ⟨⟩
    refine ⟨htag, ?_⟩
    simp [hlevel, hdepth]
  cases event with
  | start tag => exact hkeep _ rfl
  | finish tag =>
    obtain ⟨tag, events, depth⟩ := element
    cases depth with
    | zero =>
      have hclosed : Builder.Canonical { b with verbatim := none } := ⟨h.top, h.opened, nofun⟩
      have hnode : (Node.verbatim tag events.reverse).IsCanonical [] :=
        Node.isCanonical_of_kind ⟨htag, hlevel⟩ (by simp [Node.kind])
      rw [pushVerbatim_finish hverbatim rfl]
      exact hclosed.add hnode .nil (by simp [Node.kind])
    | succ depth => exact hkeep depth rfl
  | _ => exact hkeep _ rfl

theorem Canonical.pushContent (h : b.Canonical) (event : Event) :
    (b.pushContent event).Canonical := by
  cases event with
  | start tag =>
    rw [Builder.pushContent]
    split
    · next htag =>
      refine ⟨h.top, h.opened, ?_⟩
      rintro _ ⟨⟩
      exact ⟨htag, rfl⟩
    · next htag =>
      refine ⟨h.top, ?_, h.verbatim⟩
      intro element helement
      rcases List.mem_cons.1 helement with rfl | helement
      · exact ⟨htag, .nil⟩
      · exact h.opened element helement
  | finish tag => exact h.closeElement
  | text value => exact h.modifyNodes (canonical_appendText value h.nodes)
  | code value | html value | inlineHtml value =>
    exact h.add (Node.isCanonical_of_kind trivial (by simp [Node.kind])) .nil (by simp [Node.kind])
  | _ => exact h.add (Node.isCanonical_leaf rfl) .nil (by simp [Node.kind])

/-- Whatever events come, all that is built is canonical. -/
theorem Canonical.push (h : b.Canonical) (event : Event) : (b.push event).Canonical := by
  rw [Builder.push]
  split
  · next element hverbatim => exact h.pushVerbatim hverbatim event
  · exact h.pushContent event

theorem Canonical.foldl_push (h : b.Canonical) (events : List Event) :
    (events.foldl Builder.push b).Canonical := by
  induction events generalizing b with
  | nil => exact h
  | cons event events ih => exact ih (h.push event)

/-- The events of the nodes at the top and of the open elements, given innermost first. -/
def openedEvents (top : List Node) : List OpenElement → List Event
  | [] => Node.flattenList false top.reverse
  | element :: outer =>
    openedEvents top outer ++ .start element.tag ::
      Node.flattenList (element.tag = .htmlBlock) element.nodes.reverse

/-- The events of a verbatim element that is being collected. -/
def verbatimEvents : Option OpenVerbatim → List Event
  | none => []
  | some element => .start element.tag :: element.events.reverse

/-- The events that a partly built tree stands for. -/
def toEvents (b : Builder) : List Event :=
  openedEvents b.top b.opened ++ verbatimEvents b.verbatim

/-- The events that come before those of the innermost list of nodes. -/
def outerEvents (b : Builder) : List Event :=
  match b.opened with
  | [] => []
  | element :: outer => openedEvents b.top outer ++ [.start element.tag]

theorem openedEvents_eq (b : Builder) :
    openedEvents b.top b.opened =
      b.outerEvents ++ Node.flattenList b.inHtmlBlock b.nodes.reverse := by
  obtain ⟨top, opened, verbatim⟩ := b
  cases opened with
  | nil => rfl
  | cons element outer => simp [openedEvents, outerEvents, inHtmlBlock, Builder.nodes]

theorem toEvents_of_none (h : b.verbatim = none) :
    b.toEvents = b.outerEvents ++ Node.flattenList b.inHtmlBlock b.nodes.reverse := by
  rw [toEvents, openedEvents_eq, h, verbatimEvents, List.append_nil]

theorem toEvents_modifyNodes (h : b.verbatim = none) (change : List Node → List Node) :
    (b.modifyNodes change).toEvents =
      b.outerEvents ++ Node.flattenList b.inHtmlBlock (change b.nodes).reverse := by
  have houter : (b.modifyNodes change).outerEvents = b.outerEvents ∧
      (b.modifyNodes change).inHtmlBlock = b.inHtmlBlock := by
    obtain ⟨top, opened, verbatim⟩ := b
    cases opened <;> exact ⟨rfl, rfl⟩
  rw [toEvents_of_none (by rwa [verbatim_modifyNodes]), houter.1, houter.2, nodes_modifyNodes]

theorem toEvents_add (h : b.verbatim = none) (node : Node) :
    (b.add node).toEvents = b.toEvents ++ node.flatten b.inHtmlBlock := by
  rw [add, toEvents_modifyNodes h, toEvents_of_none h]
  simp

theorem toEvents_closeElement (h : b.verbatim = none) {element : OpenElement}
    {outer : List OpenElement} (hopened : b.opened = element :: outer) :
    b.closeElement.toEvents = b.toEvents ++ [.finish element.tag.close] := by
  obtain ⟨top, opened, verbatim⟩ := b
  cases h
  cases hopened
  rw [closeElement, toEvents_add rfl]
  simp [toEvents, openedEvents, verbatimEvents, Node.flatten]

theorem toEvents_closeVerbatim {element : OpenVerbatim} (h : b.verbatim = some element) :
    ({ b with verbatim := none }.add (.verbatim element.tag element.events.reverse)).toEvents =
      b.toEvents ++ [.finish element.tag.close] := by
  rw [toEvents_add rfl]
  simp [toEvents, verbatimEvents, Node.flatten, h]

/-- The tags of all elements that are open, innermost first: those opened inside a verbatim element,
that element itself, and those outside it. -/
def HasOpen (b : Builder) (opened : List Tag) : Prop :=
  match b.verbatim with
  | none => opened = b.opened.map (·.tag)
  | some element => ∃ inner : List Tag, inner.length = element.depth ∧
      opened = inner ++ element.tag :: b.opened.map (·.tag)

/-- An event as the tree will have it: outside verbatim elements raw markup is of the kind that
belongs where it stands. -/
def kept (b : Builder) (event : Event) : Event :=
  match b.verbatim, event with
  | none, .html value | none, .inlineHtml value =>
    if b.inHtmlBlock then .html value else .inlineHtml value
  | _, event => event

theorem push_of_none (h : b.verbatim = none) (event : Event) :
    b.push event = b.pushContent event := by
  rw [push, h]

theorem push_of_some {element : OpenVerbatim} (h : b.verbatim = some element) (event : Event) :
    b.push event = b.pushVerbatim element event := by
  rw [push, h]

theorem hasOpen_of_none (h : b.verbatim = none) {opened : List Tag} :
    b.HasOpen opened ↔ opened = b.opened.map (·.tag) := by
  rw [HasOpen, h]

theorem hasOpen_of_some {element : OpenVerbatim} (h : b.verbatim = some element)
    {opened : List Tag} :
    b.HasOpen opened ↔ ∃ inner : List Tag, inner.length = element.depth ∧
      opened = inner ++ element.tag :: b.opened.map (·.tag) := by
  rw [HasOpen, h]

/-- Inside a verbatim element every event is kept as it is. -/
theorem pushVerbatim_spec {element : OpenVerbatim} (h : b.verbatim = some element)
    {opened opened' : List Tag} (hopen : b.HasOpen opened) {event : Event}
    (hstep : openAfter? opened event = some opened') :
    (b.pushVerbatim element event).HasOpen opened' ∧
      (b.pushVerbatim element event).toEvents = b.toEvents ++ [event] := by
  obtain ⟨inner, hdepth, rfl⟩ := (hasOpen_of_some h).1 hopen
  have hkeep : ∀ depth, Builder.toEvents
      { b with verbatim := some ⟨element.tag, event :: element.events, depth⟩ } =
      b.toEvents ++ [event] := by
    simp [toEvents, verbatimEvents, h]
  cases event with
  | start tag =>
    cases hstep
    exact ⟨⟨tag :: inner, by simp [hdepth], rfl⟩, hkeep _⟩
  | finish tag =>
    cases inner with
    | nil =>
      simp only [openAfter?, List.nil_append, Option.ite_none_right_eq_some, Option.some.injEq]
        at hstep
      obtain ⟨rfl, rfl⟩ := hstep
      rw [pushVerbatim_finish h hdepth.symm, toEvents_closeVerbatim h, hasOpen_of_none]
      · simp [add]
      · simp [add]
    | cons innermost inner =>
      obtain ⟨tag', events, depth⟩ := element
      cases hdepth
      simp only [openAfter?, List.cons_append, Option.ite_none_right_eq_some, Option.some.injEq]
        at hstep
      obtain ⟨-, rfl⟩ := hstep
      exact ⟨⟨inner, rfl, rfl⟩, hkeep _⟩
  | _ =>
    cases hstep
    exact ⟨⟨inner, hdepth, rfl⟩, hkeep _⟩

theorem hasOpen_modifyNodes (h : b.verbatim = none) {opened : List Tag} (hopen : b.HasOpen opened)
    (change : List Node → List Node) : (b.modifyNodes change).HasOpen opened := by
  rw [hasOpen_of_none h] at hopen
  rw [hasOpen_of_none (by rwa [verbatim_modifyNodes]), tags_modifyNodes, hopen]

/-- Outside verbatim elements an event is added as it is kept, or it is a text by which the last
one grows. -/
theorem pushContent_spec (h : b.verbatim = none) {opened opened' : List Tag}
    (hopen : b.HasOpen opened) {event : Event} (hstep : openAfter? opened event = some opened') :
    (b.pushContent event).HasOpen opened' ∧
      ((b.pushContent event).toEvents = b.toEvents ++ [b.kept event] ∨
        ∃ before last value, event = .text value ∧ b.toEvents = before ++ [.text last] ∧
          (b.pushContent event).toEvents = before ++ [.text (last ++ value)]) := by
  have hopened := (hasOpen_of_none h).1 hopen
  cases event with
  | start tag =>
    cases hstep
    rw [pushContent]
    split
    · exact ⟨⟨[], rfl, by simp [hopened]⟩, .inl (by simp [toEvents, verbatimEvents, kept, h])⟩
    · exact ⟨by simp [HasOpen, h, hopened],
        .inl (by simp [toEvents, openedEvents, verbatimEvents, kept, h])⟩
  | finish tag =>
    cases helements : b.opened with
    | nil => simp [openAfter?, hopened, helements] at hstep
    | cons element outer =>
      simp only [openAfter?, hopened, helements, List.map_cons, Option.ite_none_right_eq_some,
        Option.some.injEq] at hstep
      obtain ⟨rfl, rfl⟩ := hstep
      refine ⟨?_, .inl ?_⟩
      · have houter : Builder.HasOpen ⟨b.top, outer, none⟩ (outer.map (·.tag)) := rfl
        rw [pushContent, closeElement, helements, h]
        exact hasOpen_modifyNodes rfl houter _
      · rw [pushContent, toEvents_closeElement h helements]
        simp [kept, h]
  | text value =>
    cases hstep
    refine ⟨hasOpen_modifyNodes h hopen _, ?_⟩
    rw [pushContent, toEvents_modifyNodes h, toEvents_of_none h]
    rcases appendText_cases value b.nodes with ⟨last, rest, hnodes, happend⟩ | happend
    · right
      rw [hnodes] at happend ⊢
      refine ⟨b.outerEvents ++ Node.flattenList b.inHtmlBlock rest.reverse, last, value, rfl, ?_,
        ?_⟩
      · simp [Node.flatten]
      · simp [happend, Node.flatten]
    · left
      simp [happend, Node.flatten, kept, h]
  | _ =>
    cases hstep
    refine ⟨hasOpen_modifyNodes h hopen _, .inl ?_⟩
    simp [pushContent, toEvents_add h, Node.flatten, kept, h]

theorem depthAfterAll_openedEvents {top : List Node} {elements : List OpenElement}
    (htop : Node.Canonical top.reverse)
    (helements : ∀ element ∈ elements,
      ¬ element.tag.isVerbatim ∧ Node.Canonical element.nodes.reverse) :
    depthAfterAll 0 (openedEvents top elements) = 0 := by
  induction elements with
  | nil => exact Node.depthAfterAll_flattenList htop.sound false
  | cons element outer ih =>
    obtain ⟨htag, hnodes⟩ := helements element (by simp)
    rw [openedEvents, depthAfterAll_append, ih fun element h => helements element (by simp [h]),
      depthAfterAll_cons, depthAfter_start htag, Node.depthAfterAll_flattenList hnodes.sound]

theorem depthAfterAll_toEvents (h : b.Canonical) (hverbatim : b.verbatim = none) :
    depthAfterAll 0 b.toEvents = 0 := by
  rw [toEvents, hverbatim, verbatimEvents, List.append_nil,
    depthAfterAll_openedEvents h.top h.opened]

/-- The number of elements open since a verbatim one was opened. -/
def depth (b : Builder) : Nat :=
  match b.verbatim with
  | none => 0
  | some element => element.depth + 1

theorem depth_of_none (h : b.verbatim = none) : b.depth = 0 := by
  rw [depth, h]

theorem depth_of_some {element : OpenVerbatim} (h : b.verbatim = some element) :
    b.depth = element.depth + 1 := by
  rw [depth, h]

theorem depth_add (h : b.verbatim = none) (node : Node) : (b.add node).depth = 0 :=
  depth_of_none (by rwa [add, verbatim_modifyNodes])

/-- A builder and a stream count the elements that are open in the same way. -/
theorem depth_push (b : Builder) (event : Event) :
    (b.push event).depth = depthAfter b.depth event := by
  cases hverbatim : b.verbatim with
  | some element =>
    rw [push_of_some hverbatim, depth_of_some hverbatim]
    cases event with
    | finish tag =>
      cases hlevel : element.depth with
      | zero =>
        rw [pushVerbatim_finish hverbatim hlevel, depth_add rfl]
        rfl
      | succ level => simp [pushVerbatim, hlevel, depth, depthAfter]
    | _ => simp [pushVerbatim, depth, depthAfter]
  | none =>
    rw [push_of_none hverbatim, depth_of_none hverbatim]
    cases event with
    | start tag =>
      cases htag : tag.isVerbatim <;> simp [pushContent, htag, depth, depthAfter, hverbatim]
    | finish tag =>
      cases hopened : b.opened with
      | nil => simp [pushContent, closeElement, hopened, depth, hverbatim, depthAfter]
      | cons element outer =>
        have houter : ({ b with opened := outer } : Builder).verbatim = none := hverbatim
        simp only [pushContent, closeElement, hopened]
        rw [depth_add houter]
        rfl
    | text value => exact depth_of_none (by rwa [pushContent, verbatim_modifyNodes])
    | _ => exact depth_add hverbatim _

/-- An event is kept as the tags that are open say. -/
theorem kept_eq {opened : List Tag} (hopen : b.HasOpen opened) (event : Event) :
    b.kept event =
      if b.depth = 0 then event.settled (opened.head? = some .htmlBlock) else event := by
  cases hverbatim : b.verbatim with
  | some element => simp [kept, hverbatim, depth_of_some hverbatim]
  | none =>
    obtain rfl := (hasOpen_of_none hverbatim).1 hopen
    have hblock : b.inHtmlBlock = decide ((b.opened.map (·.tag)).head? = some .htmlBlock) := by
      cases hopened : b.opened <;> simp [inHtmlBlock, hopened]
    rw [depth_of_none hverbatim, if_pos rfl, ← hblock]
    cases event <;> simp [kept, hverbatim, settled]

/-- The tree that has been built with one event more stands for the same texts, where texts
outside verbatim elements are joined. -/
theorem joinTexts_push {joins : Nat → Bool} (hjoins : joins 0 = true) (h : b.Canonical)
    {opened opened' : List Tag} (hopen : b.HasOpen opened) {event : Event}
    (hstep : openAfter? opened event = some opened') (events : List Event) :
    (b.push event).HasOpen opened' ∧
      joinTexts joins 0 ((b.push event).toEvents ++ events) =
        joinTexts joins 0 (b.toEvents ++ b.kept event :: events) := by
  cases hverbatim : b.verbatim with
  | some element =>
    obtain ⟨hopen', hevents⟩ := pushVerbatim_spec hverbatim hopen hstep
    have hkept : b.kept event = event := by simp [kept, hverbatim]
    rw [push_of_some hverbatim, hevents, List.append_assoc, List.singleton_append, hkept]
    exact ⟨hopen', rfl⟩
  | none =>
    obtain ⟨hopen', hevents⟩ := pushContent_spec hverbatim hopen hstep
    rw [push_of_none hverbatim]
    refine ⟨hopen', ?_⟩
    rcases hevents with hevents | ⟨before, last, value, rfl, hbefore, hevents⟩
    · rw [hevents, List.append_assoc, List.singleton_append]
    · have hdepth : joins (depthAfterAll 0 before) = true := by
        have := depthAfterAll_toEvents h hverbatim
        rw [hbefore, depthAfterAll_append] at this
        rwa [show depthAfterAll 0 before = 0 from this]
      have hkept : b.kept (.text value) = .text value := by simp [kept, hverbatim]
      rw [hevents, hbefore, hkept, List.append_assoc, List.append_assoc, List.singleton_append,
        List.singleton_append, joinTexts_append_texts 0 before events last value hdepth]

theorem joinTexts_foldl_push {joins : Nat → Bool} (hjoins : joins 0 = true) (h : b.Canonical)
    {opened opened' : List Tag} (hopen : b.HasOpen opened) {events : List Event}
    (hsteps : events.foldlM openAfter? opened = some opened') :
    (events.foldl push b).HasOpen opened' ∧
      joinTexts joins 0 (events.foldl push b).toEvents =
        joinTexts joins 0 (b.toEvents ++ settleMarkup b.depth opened events) := by
  induction events generalizing b opened with
  | nil =>
    cases hsteps
    rw [settleMarkup, List.append_nil]
    exact ⟨hopen, rfl⟩
  | cons event events ih =>
    obtain ⟨next, hnext, hsteps⟩ := foldlM_cons_eq_some.1 hsteps
    obtain ⟨hopen', hevents⟩ := joinTexts_push hjoins h hopen hnext
      (settleMarkup (b.push event).depth next events)
    rw [settleMarkup, ← kept_eq hopen, openAfter_of_some hnext, ← depth_push, ← hevents]
    exact ih (h.push event) hopen' hsteps

/-- A tree with nothing left open is made of the nodes at the top. -/
theorem eq_of_hasOpen_nil (h : b.HasOpen []) : b = ⟨b.top, [], none⟩ := by
  obtain ⟨top, elements, verbatim⟩ := b
  cases verbatim with
  | some element =>
    obtain ⟨inner, -, hinner⟩ := h
    simp at hinner
  | none =>
    obtain rfl : elements = [] := by simpa [HasOpen] using h
    rfl

theorem eq_of_isNested {events : List Event} (h : IsNested events) :
    events.foldl push empty = ⟨(events.foldl push empty).top, [], none⟩ := by
  have hopen : empty.HasOpen [] := rfl
  have hrun := fun (joins : Nat → Bool) (hjoins : joins 0 = true) =>
    (joinTexts_foldl_push hjoins canonical_empty hopen h).1
  exact eq_of_hasOpen_nil (hrun (fun _ => true) rfl)

theorem finish_of_top (top : List Node) : finish ⟨top, [], none⟩ = .root top.reverse := by
  simp only [finish, closeVerbatim, closeAll]

end Builder

namespace Node

/-- The tree of a stream in which every element is closed is a root with canonical children. It
has the events of the stream, where texts outside verbatim elements are joined and raw markup
there is of the kind that belongs where it stands. -/
theorem ofEvents_settled {events : List Event} (h : IsNested events) :
    ∃ nodes, ofEvents events = .root nodes ∧ Canonical nodes ∧
      ∀ joins : Nat → Bool, joins 0 = true →
        joinTexts joins 0 (flattenList false nodes) =
          joinTexts joins 0 (settleMarkup 0 [] events) := by
  have hbuilt := Builder.canonical_empty.foldl_push events
  have hstate := Builder.eq_of_isNested h
  refine ⟨(events.foldl Builder.push Builder.empty).top.reverse, ?_, hbuilt.top,
    fun joins hjoins => ?_⟩
  · rw [ofEvents, hstate, Builder.finish_of_top]
  · have hopen : Builder.empty.HasOpen [] := rfl
    have hevents := (Builder.joinTexts_foldl_push hjoins Builder.canonical_empty hopen h).2
    rw [hstate] at hevents
    simpa [Builder.toEvents, Builder.openedEvents, Builder.verbatimEvents, Builder.empty,
      Builder.depth] using hevents

/-- The same where the kind of raw markup outside verbatim elements does not count. -/
theorem ofEvents_spec {events : List Event} (h : IsNested events) :
    ∃ nodes, ofEvents events = .root nodes ∧ Canonical nodes ∧
      ∀ joins : Nat → Bool, joins 0 = true →
        joinTexts joins 0 (plainMarkup 0 (flattenList false nodes)) =
          joinTexts joins 0 (plainMarkup 0 events) := by
  obtain ⟨nodes, htree, hcanonical, hevents⟩ := ofEvents_settled h
  refine ⟨nodes, htree, hcanonical, fun joins hjoins => ?_⟩
  rw [joinTexts_plainMarkup, hevents joins hjoins, ← joinTexts_plainMarkup,
    plainMarkup_settleMarkup]

end Node

end SpoilerMarkup
