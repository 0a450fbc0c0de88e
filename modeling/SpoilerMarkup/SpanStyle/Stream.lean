import SpoilerMarkup.SpanStyle

/-!
Turns the spoilers of a stream of events into raw markup. Events are drawn one at a
time from a stream that is read as far as needed: a text that has a spoiler gives
several events, of which all but the first wait their turn. Main definitions:
`SpoilerStream.next?` and `SpanStyle.stream`.
-/
namespace SpoilerMarkup

/-- A stream whose spoilers are being replaced: the events still to be read, those that wait to
be drawn, and the number of open elements since a verbatim one was opened. -/
structure SpoilerStream where
  source : List Event
  pending : List Event
  depth : Nat
  deriving DecidableEq, Repr

namespace SpanStyle

def eventOfSegment (style : SpanStyle) : Segment → Event
  | .text value => .text value
  | .spoiler inner => .inlineHtml (style.span inner)

/-- The number of open elements, counted from the outermost verbatim one, after an event
that is read at depth `depth`. -/
def depthAfter (depth : Nat) : Event → Nat
  | .start tag => if depth > 0 || tag.isVerbatim then depth + 1 else depth
  | .finish _ => depth - 1
  | _ => depth

/-- What an event becomes that is read at depth `depth`. -/
def outputs (style : SpanStyle) (depth : Nat) (event : Event) : List Event :=
  match event with
  | .text value =>
    if depth = 0 then
      match Segment.split value with
      | some segments => segments.map style.eventOfSegment
      | none => [event]
    else [event]
  | _ => [event]

end SpanStyle

namespace SpoilerStream

def ofEvents (events : List Event) : SpoilerStream := ⟨events, [], 0⟩

/-- Draws the next event, unless the stream is at its end. -/
def next? (style : SpanStyle) (s : SpoilerStream) : Option (Event × SpoilerStream) :=
  match s.pending, s.source with
  | event :: pending, _ => some (event, { s with pending })
  | [], [] => none
  | [], event :: source =>
    let depth := SpanStyle.depthAfter s.depth event
    match style.outputs s.depth event with
    | [] => none
    | first :: pending => some (first, ⟨source, pending, depth⟩)

theorem lt_of_next? {style : SpanStyle} {s t : SpoilerStream} {event : Event}
    (h : s.next? style = some (event, t)) :
    t.source.length < s.source.length ∨
      t.source.length = s.source.length ∧ t.pending.length < s.pending.length := by
  unfold next? at h
  split at h
  · next hp =>
    simp only [Option.some.injEq, Prod.mk.injEq] at h
    simp [← h.2, hp]
  · simp at h
  · next hp hs =>
    split at h
    · simp at h
    · simp only [Option.some.injEq, Prod.mk.injEq] at h
      simp [← h.2, hs]

def drain (style : SpanStyle) (s : SpoilerStream) : List Event :=
  match _h : s.next? style with
  | none => []
  | some (event, s) => event :: drain style s
termination_by (s.source.length, s.pending.length)
decreasing_by
  rcases lt_of_next? _h with h | ⟨h, h'⟩
  · exact Prod.Lex.left _ _ h
  · rw [h]
    exact Prod.Lex.right _ h'

end SpoilerStream

def SpanStyle.stream (style : SpanStyle) (events : List Event) : List Event :=
  (SpoilerStream.ofEvents events).drain style

end SpoilerMarkup
