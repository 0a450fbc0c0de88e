import SpoilerMarkup.Proofs.Node.Build

/-!
What is still open at the end of a stream is closed in its tree: elements one by one, and a
verbatim element together with all that is open inside it, by one tag. So the stream of the tree
closes whatever it opens, unless the stream broke off with elements open inside a verbatim one.
Main statement: `isClosed_toEvents_iff`.
-/
namespace SpoilerMarkup

open SpanStyle (depthAfter)

namespace Event

/-- The open elements after an event, innermost first, or none if it closes one that is not open.
An element is closed by its own tag, and by any tag if it stands inside a verbatim element. -/
def closeAfter? (opened : List Tag) : Event → Option (List Tag)
  | .start tag => some (tag :: opened)
  | .finish tag =>
    match opened with
    | [] => none
    | innermost :: outer =>
      if tag = innermost.close ∨ outer.any Tag.isVerbatim then some outer else none
  | _ => some opened

/-- No prefix closes more elements than it opens, all that are opened are closed, and outside
verbatim elements each is closed by its own tag. -/
def IsClosed (events : List Event) : Prop :=
  events.foldlM closeAfter? [] = some []

instance : DecidablePred IsClosed := fun _ => inferInstanceAs (Decidable (_ = _))

theorem closeAfter?_of_isContent {event : Event} (h : event.isContent) (opened : List Tag) :
    closeAfter? opened event = some opened := by
  cases event <;> simp_all [isContent, closeAfter?]

theorem levelAfter?_of_closeAfter? {opened opened' : List Tag} {event : Event}
    (h : closeAfter? opened event = some opened') :
    levelAfter? opened.length event = some opened'.length := by
  cases event with
  | finish tag =>
    cases opened with
    | nil => simp [closeAfter?] at h
    | cons innermost outer =>
      simp only [closeAfter?, Option.ite_none_right_eq_some, Option.some.injEq] at h
      simp [levelAfter?, h.2]
  | _ =>
    cases h
    rfl

theorem foldlM_levelAfter? {opened opened' : List Tag} {events : List Event}
    (h : events.foldlM closeAfter? opened = some opened') :
    events.foldlM levelAfter? opened.length = some opened'.length := by
  induction events generalizing opened with
  | nil =>
    cases h
    rfl
  | cons event events ih =>
    obtain ⟨next, hnext, h⟩ := foldlM_cons_eq_some.1 h
    exact foldlM_cons_eq_some.2 ⟨next.length, levelAfter?_of_closeAfter? hnext, ih h⟩

/-- Inside a verbatim element only the number of open elements counts. -/
theorem foldlM_closeAfter?_of_level {tag : Tag} (htag : tag.isVerbatim) (outer : List Tag)
    {level level' : Nat} {events : List Event} (h : events.foldlM levelAfter? level = some level')
    {inner : List Tag} (hinner : inner.length = level) :
    ∃ inner' : List Tag, inner'.length = level' ∧
      events.foldlM closeAfter? (inner ++ tag :: outer) = some (inner' ++ tag :: outer) := by
  induction events generalizing level inner with
  | nil =>
    cases h
    exact ⟨inner, hinner, rfl⟩
  | cons event events ih =>
    obtain ⟨next, hnext, h⟩ := foldlM_cons_eq_some.1 h
    obtain ⟨between, hlength, hstep⟩ : ∃ between : List Tag, between.length = next ∧
        closeAfter? (inner ++ tag :: outer) event = some (between ++ tag :: outer) := by
      cases event with
      | start tag' =>
        cases hnext
        exact ⟨tag' :: inner, by simp [hinner], rfl⟩
      | finish tag' =>
        cases inner with
        | nil =>
          subst hinner
          simp [levelAfter?] at hnext
        | cons innermost inner =>
          subst hinner
          cases hnext
          exact ⟨inner, rfl, by simp [closeAfter?, htag]⟩
      | _ =>
        cases hnext
        exact ⟨inner, hinner, rfl⟩
    obtain ⟨inner', hinner', hrest⟩ := ih h hlength
    exact ⟨inner', hinner', foldlM_cons_eq_some.2 ⟨_, hstep, hrest⟩⟩

/-- Tags that close what is open, innermost first. -/
theorem foldlM_closeAfter?_close (opened : List Tag) :
    (opened.map fun tag => .finish tag.close).foldlM closeAfter? opened = some [] := by
  induction opened with
  | nil => rfl
  | cons innermost outer ih =>
    rw [List.map_cons]
    exact foldlM_cons_eq_some.2 ⟨outer, by simp [closeAfter?], ih⟩

theorem foldlM_levelAfter?_close (tags : List Tag) (level : Nat) :
    (tags.map fun tag => .finish tag.close).foldlM levelAfter? (level + tags.length) =
      some level := by
  induction tags with
  | nil => rfl
  | cons tag tags ih =>
    rw [List.map_cons]
    exact foldlM_cons_eq_some.2 ⟨level + tags.length, by simp [levelAfter?], ih⟩

end Event

open Event

namespace Node

theorem foldlM_closeAfter?_flatten {node : Node} (h : node.IsSound)
    (hbelow : ∀ (opened : List Tag) (inHtmlBlock : Bool),
      (flattenList inHtmlBlock node.children).foldlM closeAfter? opened = some opened)
    (opened : List Tag) (inHtmlBlock : Bool) :
    (node.flatten inHtmlBlock).foldlM closeAfter? opened = some opened := by
  have hfinish : ∀ tag : Tag, [Event.finish tag.close].foldlM closeAfter? (tag :: opened) =
      some opened := fun tag => foldlM_cons_eq_some.2 ⟨opened, by simp [closeAfter?], rfl⟩
  cases node with
  | root children => exact hbelow opened false
  | element tag children =>
    rw [flatten]
    exact foldlM_cons_eq_some.2 ⟨tag :: opened, rfl,
      foldlM_append_eq_some (hbelow (tag :: opened) _) (hfinish tag)⟩
  | verbatim tag events =>
    obtain ⟨inner, hinner, hevents⟩ :=
      foldlM_closeAfter?_of_level h.1 opened h.2 List.length_nil
    obtain rfl := List.length_eq_zero_iff.1 hinner
    rw [flatten]
    exact foldlM_cons_eq_some.2 ⟨tag :: opened, rfl, foldlM_append_eq_some hevents (hfinish tag)⟩
  | leaf event =>
    rw [flatten]
    exact foldlM_cons_eq_some.2 ⟨opened, closeAfter?_of_isContent h.1 opened, rfl⟩
  | html value => cases inHtmlBlock <;> rfl
  | text value | inlineCode value => rfl

/-- A sound tree closes all that it opens. -/
theorem foldlM_closeAfter?_flattenList {nodes : List Node} (h : Sound nodes) (opened : List Tag)
    (inHtmlBlock : Bool) :
    (flattenList inHtmlBlock nodes).foldlM closeAfter? opened = some opened := by
  induction h generalizing opened inHtmlBlock with
  | nil => rfl
  | cons first _ _ ihbelow ihrest =>
    rw [flattenList_cons]
    exact foldlM_append_eq_some
      (foldlM_closeAfter?_flatten first (fun opened inHtmlBlock => ihbelow opened inHtmlBlock)
        opened inHtmlBlock)
      (ihrest opened inHtmlBlock)

end Node

namespace Builder

variable {b : Builder}

/-- The elements that are still open, innermost first, without those inside a verbatim element. -/
def unclosed (b : Builder) : List Tag :=
  (b.verbatim.map (·.tag)).toList ++ b.opened.map (·.tag)

theorem flattenList_closeAll (top : List Node) (opened : List OpenElement) :
    Node.flattenList false (closeAll top opened).reverse =
      openedEvents top opened ++ (opened.map (·.tag)).map fun tag => .finish tag.close := by
  cases opened with
  | nil => simp [closeAll, openedEvents]
  | cons element outer =>
    induction outer generalizing element with
    | nil => simp [closeAll, openedEvents, Node.flatten]
    | cons outer rest ih =>
      rw [closeAll, ih]
      simp [openedEvents, Node.flatten]

/-- Finishing a tree closes every element that is still open, and a verbatim one without regard to
what is open inside it. -/
theorem toEvents_finish (b : Builder) :
    b.finish.toEvents = b.toEvents ++ b.unclosed.map fun tag => .finish tag.close := by
  rw [finish, Node.toEvents, Node.flatten, flattenList_closeAll]
  cases hverbatim : b.verbatim with
  | none => simp [closeVerbatim, hverbatim, toEvents, verbatimEvents, unclosed]
  | some element =>
    have hevents := toEvents_closeVerbatim hverbatim
    rw [toEvents, add, verbatim_modifyNodes, verbatimEvents, List.append_nil] at hevents
    simp only [closeVerbatim, hverbatim, add, hevents, tags_modifyNodes]
    simp [unclosed, hverbatim]

/-- The events of a partly built tree open what is open in it. -/
theorem foldlM_closeAfter?_openedEvents {top : List Node} {elements : List OpenElement}
    (htop : Node.Canonical top.reverse)
    (helements : ∀ element ∈ elements,
      ¬ element.tag.isVerbatim ∧ Node.Canonical element.nodes.reverse) :
    (openedEvents top elements).foldlM closeAfter? [] = some (elements.map (·.tag)) := by
  induction elements with
  | nil => exact Node.foldlM_closeAfter?_flattenList htop.sound [] false
  | cons element outer ih =>
    have hnodes := (helements element (by simp)).2
    have houter := ih fun element h => helements element (by simp [h])
    exact foldlM_append_eq_some houter (foldlM_cons_eq_some.2
      ⟨_, rfl, Node.foldlM_closeAfter?_flattenList hnodes.sound _ _⟩)

theorem foldlM_closeAfter?_toEvents (h : b.Canonical) :
    ∃ opened, b.HasOpen opened ∧ b.toEvents.foldlM closeAfter? [] = some opened := by
  have helements := foldlM_closeAfter?_openedEvents h.top h.opened
  cases hverbatim : b.verbatim with
  | none =>
    refine ⟨_, (hasOpen_of_none hverbatim).2 rfl, ?_⟩
    rwa [toEvents, hverbatim, verbatimEvents, List.append_nil]
  | some element =>
    obtain ⟨htag, hlevel⟩ := h.verbatim element hverbatim
    obtain ⟨inner, hinner, hevents⟩ :=
      foldlM_closeAfter?_of_level htag (b.opened.map (·.tag)) hlevel List.length_nil
    refine ⟨_, (hasOpen_of_some hverbatim).2 ⟨inner, hinner, rfl⟩, ?_⟩
    rw [toEvents, hverbatim, verbatimEvents]
    exact foldlM_append_eq_some helements (foldlM_cons_eq_some.2 ⟨_, rfl, hevents⟩)

/-- Each element that is open is closed once, or it stands inside a verbatim one. -/
theorem length_of_hasOpen {opened : List Tag} (h : b.HasOpen opened) :
    opened.length = b.depth - 1 + b.unclosed.length := by
  cases hverbatim : b.verbatim with
  | none =>
    obtain rfl := (hasOpen_of_none hverbatim).1 h
    simp [depth_of_none hverbatim, unclosed, hverbatim]
  | some element =>
    obtain ⟨inner, hinner, rfl⟩ := (hasOpen_of_some hverbatim).1 h
    simp only [depth_of_some hverbatim, unclosed, hverbatim, hinner, List.length_append,
      List.length_cons, List.length_map, Option.map_some, Option.toList_some, List.length_nil]
    omega

theorem eq_unclosed_of_hasOpen {opened : List Tag} (h : b.HasOpen opened) (hdepth : b.depth ≤ 1) :
    opened = b.unclosed := by
  cases hverbatim : b.verbatim with
  | none =>
    obtain rfl := (hasOpen_of_none hverbatim).1 h
    simp [unclosed, hverbatim]
  | some element =>
    obtain ⟨inner, hinner, rfl⟩ := (hasOpen_of_some hverbatim).1 h
    rw [depth_of_some hverbatim] at hdepth
    obtain rfl := List.length_eq_zero_iff.1 (show inner.length = 0 by omega)
    simp [unclosed, hverbatim]

theorem depth_foldl_push (b : Builder) (events : List Event) :
    (events.foldl push b).depth = depthAfterAll b.depth events := by
  induction events generalizing b with
  | nil => rfl
  | cons event events ih => rw [List.foldl_cons, ih, depth_push, depthAfterAll_cons]

end Builder

namespace Node

/-- The stream of a tree never closes what it has not opened, and at its end it has left open just
those elements that were open inside a verbatim one when the tree was finished. If there were none,
every element outside verbatim ones is also closed by its own tag. -/
theorem isClosed_toEvents_iff (events : List Event) :
    (ofEvents events).toEvents.foldlM levelAfter? 0 = some (depthAfterAll 0 events - 1) ∧
      (IsClosed (ofEvents events).toEvents ↔ depthAfterAll 0 events ≤ 1) := by
  have hcanonical := Builder.canonical_empty.foldl_push events
  have hdepth := Builder.depth_foldl_push Builder.empty events
  rw [ofEvents, Builder.toEvents_finish]
  generalize events.foldl Builder.push Builder.empty = b at hcanonical hdepth
  obtain ⟨opened, hopen, hevents⟩ := Builder.foldlM_closeAfter?_toEvents hcanonical
  rw [show depthAfterAll 0 events = b.depth from hdepth.symm]
  have hlevel : (b.toEvents ++ b.unclosed.map fun tag => Event.finish tag.close).foldlM
      levelAfter? 0 = some (b.depth - 1) := by
    have hlevels := foldlM_levelAfter? hevents
    rw [Builder.length_of_hasOpen hopen] at hlevels
    exact foldlM_append_eq_some hlevels (foldlM_levelAfter?_close b.unclosed (b.depth - 1))
  refine ⟨hlevel, fun hclosed => ?_, fun hdepth => ?_⟩
  · have hzero := foldlM_levelAfter? hclosed
    rw [List.length_nil, hlevel, Option.some.injEq] at hzero
    omega
  · rw [Builder.eq_unclosed_of_hasOpen hopen hdepth] at hevents
    exact foldlM_append_eq_some hevents (foldlM_closeAfter?_close b.unclosed)

/-- A stream that breaks off in the description of an image. -/
def brokenDescription : List Event :=
  [.start (.image ⟨.inline, "u", "", ""⟩), .start .strong]

/-- The image is closed at the end, and the strong text inside it is not. -/
theorem not_isClosed_brokenDescription :
    (ofEvents brokenDescription).toEvents =
        [.start (.image ⟨.inline, "u", "", ""⟩), .start .strong, .finish .image] ∧
      ¬ IsBalanced (ofEvents brokenDescription).toEvents ∧
      ¬ IsClosed (ofEvents brokenDescription).toEvents := by
  decide +kernel

end Node

end SpoilerMarkup
