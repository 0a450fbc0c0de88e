import SpoilerMarkup.Proofs.SpanStyle.Stream

/-!
Streams in which nothing is left to be replaced: no text outside verbatim elements has a spoiler.
A stream whose spoilers have been replaced is one of these, and they are the streams that stay as
they are. So it does not matter how often spoilers are replaced, and of which class the spans of a
second time would be. Main statement: `stream_stream`.
-/
namespace SpoilerMarkup.SpanStyle

open Event

/-- No text that stands outside verbatim elements has a spoiler, in events read from a depth on. -/
def Settled (depth : Nat) (events : List Event) : Prop :=
  ∀ before value after, events = before ++ .text value :: after →
    depthAfterAll depth before = 0 → Segment.split value = none

theorem settled_nil (depth : Nat) : Settled depth [] := by
  intro before value after h
  simp at h

theorem settled_cons {depth : Nat} {event : Event} {events : List Event} :
    Settled depth (event :: events) ↔
      (∀ value, event = .text value → depth = 0 → Segment.split value = none) ∧
        Settled (depthAfter depth event) events := by
  constructor
  · intro h
    constructor
    · rintro value rfl hdepth
      exact h [] value events rfl hdepth
    · rintro before value after rfl hdepth
      exact h (event :: before) value after rfl hdepth
  · rintro ⟨hfirst, hrest⟩ before value after h hdepth
    cases before with
    | nil =>
      obtain ⟨rfl, rfl⟩ := List.cons.inj h
      exact hfirst value rfl hdepth
    | cons first before =>
      obtain ⟨rfl, rfl⟩ := List.cons.inj h
      exact hrest before value after rfl hdepth

theorem Settled.append {depth : Nat} {events events' : List Event} (h : Settled depth events)
    (h' : Settled (depthAfterAll depth events) events') : Settled depth (events ++ events') := by
  induction events generalizing depth with
  | nil => exact h'
  | cons event events ih =>
    obtain ⟨hfirst, hrest⟩ := settled_cons.1 h
    exact settled_cons.2 ⟨hfirst, ih hrest h'⟩

/-- No text among the pieces of a text has a spoiler of its own. -/
theorem settled_pieces (style : SpanStyle) {value : String} {pieces : List Segment}
    (h : Segment.split value = some pieces) : Settled 0 (pieces.map style.eventOfSegment) := by
  obtain rfl := Segment.eq_segments_of_split h
  intro before text after hevents _
  have hmem : .text text ∈ (Segment.segments value.toList).map style.eventOfSegment := by
    rw [hevents]
    simp
  obtain ⟨piece, hpiece, hevent⟩ := List.mem_map.1 hmem
  cases piece with
  | text text' =>
    obtain rfl := Event.text.inj hevent
    exact (Segment.text_of_mem_segments hpiece).2
  | spoiler inner => cases hevent

theorem settled_outputs (style : SpanStyle) (depth : Nat) (event : Event) :
    Settled depth (style.outputs depth event) := by
  by_cases h : ∀ value, event = .text value → depth = 0 → Segment.split value = none
  · rw [outputs_of_unsplit style h]
    exact settled_cons.2 ⟨h, settled_nil _⟩
  · simp only [Classical.not_forall, exists_prop] at h
    obtain ⟨value, rfl, rfl, hsplit⟩ := h
    obtain ⟨pieces, hpieces⟩ := Option.ne_none_iff_exists'.1 hsplit
    rw [outputs_of_some style hpieces]
    exact settled_pieces style hpieces

/-- Nothing is left to be replaced where spoilers have been replaced. -/
theorem settled_changeAtDepth (style : SpanStyle) (depth : Nat) (events : List Event) :
    Settled depth (changeAtDepth style.outputs depth events) := by
  induction events generalizing depth with
  | nil => exact settled_nil depth
  | cons event events ih =>
    rw [changeAtDepth_cons]
    apply (settled_outputs style depth event).append
    rw [style.keepsDepth_outputs]
    exact ih (depthAfter depth event)

/-- Where nothing is left to be replaced every event is kept. -/
theorem changeAtDepth_of_settled (style : SpanStyle) {depth : Nat} {events : List Event}
    (h : Settled depth events) : changeAtDepth style.outputs depth events = events := by
  induction events generalizing depth with
  | nil => rfl
  | cons event events ih =>
    obtain ⟨hfirst, hrest⟩ := settled_cons.1 h
    rw [changeAtDepth_cons, outputs_of_unsplit style hfirst, ih hrest, List.singleton_append]

/-- A stream whose spoilers have been replaced is not changed again, by the same style or by
another one: no text outside its verbatim elements has a spoiler. Streams of that kind, and no
others, are not changed the first time either. -/
theorem stream_stream (style style' : SpanStyle) (events : List Event) :
    style'.stream (style.stream events) = style.stream events ∧
      Settled 0 (style.stream events) ∧ (style.stream events = events ↔ Settled 0 events) := by
  have hsettled : ∀ events, Settled 0 (style.stream events) := by
    intro events
    rw [stream_eq]
    exact settled_changeAtDepth style 0 events
  have hsame : ∀ (style : SpanStyle) {events : List Event}, Settled 0 events →
      style.stream events = events := by
    intro style events h
    rw [stream_eq, changeAtDepth_of_settled style h]
  refine ⟨hsame style' (hsettled events), hsettled events, fun h => ?_, hsame style⟩
  rw [← h]
  exact hsettled events

end SpoilerMarkup.SpanStyle
