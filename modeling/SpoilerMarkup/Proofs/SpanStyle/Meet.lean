import SpoilerMarkup.Proofs.Node.Text
import SpoilerMarkup.Proofs.SpanStyle.Draw

/-!
A tree being built and a stream being drawn, over the same events. Each keeps its own account of
the verbatim elements: a builder has one or none, with the number of elements opened inside it, and
a stream has a single number. Behind any first part of the events, balanced or not, the two accounts
are the same. So the text of the tree is that of the events that the stream meets at depth zero.
Main statement: `meets_ofEvents`.
-/
namespace SpoilerMarkup

open Event
open SpanStyle (depthAfter)

namespace SpoilerStream

/-- The events that a stream reads while others are drawn from it, each with the depth it is met
at, and the stream that is left behind them. -/
inductive Meets (style : SpanStyle) :
    SpoilerStream → List (Nat × Event) → SpoilerStream → Prop where
  | refl (s : SpoilerStream) : Meets style s [] s
  /-- What is drawn has waited, so nothing is read for it. -/
  | waits {s t u : SpoilerStream} {event : Event} {met : List (Nat × Event)}
      (pending : s.pending ≠ []) (drawn : s.next? style = some (event, t))
      (rest : Meets style t met u) : Meets style s met u
  | reads {s t u : SpoilerStream} {event read : Event} {met : List (Nat × Event)}
      (pending : s.pending = []) (source : s.source = read :: t.source)
      (drawn : s.next? style = some (event, t)) (rest : Meets style t met u) :
      Meets style s ((s.depth, read) :: met) u

/-- The texts, the raw markup and the inline code among the events that are met at depth zero. -/
def prose (met : List (Nat × Event)) : List String :=
  (met.filter (·.1 = 0)).filterMap (·.2.literal?)

theorem join_prose_concat (met : List (Nat × Event)) (depth : Nat) (event : Event) :
    String.join (prose (met ++ [(depth, event)])) =
      String.join (prose met) ++ event.textAt depth := by
  cases depth with
  | succ depth => simp [prose]
  | zero => cases hvalue : event.literal? <;> simp [prose, hvalue, String.join_append]

/-- The partly built tree of the events that have been met. -/
def built (met : List (Nat × Event)) : Builder :=
  (met.map (·.2)).foldl Builder.push Builder.empty

theorem built_concat (met : List (Nat × Event)) (depth : Nat) (event : Event) :
    built (met ++ [(depth, event)]) = (built met).push event := by
  simp [built]

/-- A builder is outside verbatim elements exactly when a stream is. Inside one, the depth of the
stream counts that element too, and the depth of the element does not. -/
structure SameVerbatim (b : Builder) (s : SpoilerStream) : Prop where
  outside : b.verbatim = none ↔ s.depth = 0
  inside : ∀ depth, b.verbatim.map (·.depth) = some depth ↔ s.depth = depth + 1

theorem sameVerbatim_of_depth {b : Builder} {s : SpoilerStream} (h : b.depth = s.depth) :
    SameVerbatim b s := by
  cases hverbatim : b.verbatim with
  | none =>
    rw [Builder.depth_of_none hverbatim] at h
    exact ⟨by simp [hverbatim, ← h], by simp [hverbatim, ← h]⟩
  | some element =>
    rw [Builder.depth_of_some hverbatim] at h
    exact ⟨by simp [hverbatim, ← h], by simp [hverbatim, ← h]⟩

/-- What has been met and what is still to be read are the events of the stream. What is built of
the former is as deep in verbatim elements as the stream, and has the text met at depth zero. -/
structure Records (events : List Event) (met : List (Nat × Event)) (s : SpoilerStream) : Prop where
  events : events = met.map (·.2) ++ s.source
  depth : (built met).depth = s.depth
  text : (built met).textContent = String.join (prose met)

variable {style : SpanStyle} {events : List Event} {met more : List (Nat × Event)}
  {s t : SpoilerStream}

theorem records_ofEvents (events : List Event) : Records events [] (ofEvents events) :=
  ⟨rfl, rfl, rfl⟩

theorem Records.waits (h : Records events met s) {event : Event} (hpending : s.pending ≠ [])
    (hnext : s.next? style = some (event, t)) : Records events met t := by
  rcases next?_cases hnext with ⟨-, hsource, hdepth⟩ | ⟨hnone, -⟩
  · exact ⟨by rw [hsource, ← h.events], by rw [hdepth, h.depth], h.text⟩
  · exact absurd hnone hpending

theorem Records.reads (h : Records events met s) {event read : Event} (hpending : s.pending = [])
    (hsource : s.source = read :: t.source) (hnext : s.next? style = some (event, t)) :
    Records events (met ++ [(s.depth, read)]) t := by
  rcases next?_cases hnext with ⟨hwaiting, -⟩ | ⟨-, first, hfirst, hyields⟩
  · simp [hpending] at hwaiting
  · obtain rfl : first = read := List.head_eq_of_cons_eq (hfirst.symm.trans hsource)
    have hdepth : t.depth = depthAfter s.depth first := hyields.eq_outputs.2
    constructor
    · rw [h.events, hsource, List.map_append, List.append_assoc]
      rfl
    · rw [built_concat, Builder.depth_push, h.depth, hdepth]
    · rw [built_concat, Builder.textContent_push, h.text, h.depth, join_prose_concat]

theorem Records.meets (h : Records events met s) (hmeets : Meets style s more t) :
    Records events (met ++ more) t := by
  induction hmeets generalizing met with
  | refl => rwa [List.append_nil]
  | waits pending drawn _ ih => exact ih (h.waits pending drawn)
  | reads pending source drawn _ ih =>
    have hrest := ih (h.reads pending source drawn)
    rwa [List.append_assoc, List.singleton_append] at hrest

/-- A stream can be drawn from until it has read any given part of its source. -/
theorem exists_meets (style : SpanStyle) {s : SpoilerStream} {read rest : List Event}
    (h : s.source = read ++ rest) :
    ∃ met t, Meets style s met t ∧ met.map (·.2) = read ∧ t.source = rest := by
  induction s using drain.induct style generalizing read with
  | case1 s hnone =>
    obtain ⟨hsource, -⟩ := next?_eq_none_iff.1 hnone
    obtain ⟨rfl, rfl⟩ := List.append_eq_nil_iff.1 (h.symm.trans hsource)
    exact ⟨[], s, .refl s, rfl, hsource⟩
  | case2 s event t hnext ih =>
    rcases next?_cases hnext with ⟨hpending, hsource, -⟩ | ⟨hpending, first, hsource, -⟩
    · obtain ⟨met, u, hmeets, hread, hrest⟩ := ih (hsource.trans h)
      exact ⟨met, u, .waits (by simp [hpending]) hnext hmeets, hread, hrest⟩
    · cases read with
      | nil => exact ⟨[], s, .refl s, rfl, h⟩
      | cons event' read =>
        obtain ⟨rfl, htail⟩ := List.cons.inj (hsource.symm.trans h)
        obtain ⟨met, u, hmeets, rfl, hrest⟩ := ih htail
        exact ⟨_, u, .reads hpending hsource hnext hmeets, rfl, hrest⟩

/-- A stream can be drawn from until it stands behind any first part of its events. Wherever it
stands, it agrees on verbatim elements with a builder that has taken the events it has read; and
when all are read, the text of their tree is that of the events met at depth zero, in order. -/
theorem meets_ofEvents (style : SpanStyle) (events : List Event) :
    (∀ read rest, events = read ++ rest →
      ∃ met s, Meets style (ofEvents events) met s ∧ met.map (·.2) = read ∧ s.source = rest) ∧
    ∀ met s, Meets style (ofEvents events) met s →
      events = met.map (·.2) ++ s.source ∧
        SameVerbatim (built met) s ∧
        (s.source = [] → (Node.ofEvents events).textContent = String.join (prose met)) := by
  refine ⟨fun read rest h => exists_meets style h, fun met s hmeets => ?_⟩
  have hrecords := (records_ofEvents events).meets hmeets
  rw [List.nil_append] at hrecords
  refine ⟨hrecords.events, sameVerbatim_of_depth hrecords.depth, fun hsource => ?_⟩
  have hread : events = met.map (·.2) := by
    rw [hrecords.events, hsource, List.append_nil]
  rw [Node.ofEvents, Builder.textContent_finish, hread]
  exact hrecords.text

/-- The first tag closes nothing. The code block inside the image counts for its depth only, and is
closed by the tag of strong text. -/
example :
    let image : Tag := .image ⟨.inline, "u", "", ""⟩
    (Node.ofEvents [.finish .item, .text "a", .start image, .start (.codeBlock none), .text "b",
      .finish .strong, .code "c", .finish .item, .html "<d>", .inlineMath "e"]).textContent =
        "a<d>" := by
  decide +kernel

end SpoilerStream

end SpoilerMarkup
