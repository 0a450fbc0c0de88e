import SpoilerMarkup.Proofs.Event.Join
import SpoilerMarkup.Proofs.Segment.Scan

/-!
The stream drawn event by event is the stream in which each event stands replaced by what it
becomes at its depth. This may be done before or after texts inside verbatim elements are joined,
and before or after the two kinds of raw markup are made one.
-/
namespace SpoilerMarkup

open Event

namespace SpanStyle

variable (style : SpanStyle)

theorem outputs_succ (depth : Nat) (event : Event) : style.outputs (depth + 1) event = [event] := by
  cases event <;> rfl

theorem outputs_of_not_text (depth : Nat) {event : Event} (h : ¬ event.isText) :
    style.outputs depth event = [event] := by
  cases event <;> simp_all [outputs, isText]

theorem outputs_of_none {value : String} (h : Segment.split value = none) (depth : Nat) :
    style.outputs depth (.text value) = [.text value] := by
  simp [outputs, h]

theorem outputs_of_some {value : String} {pieces : List Segment}
    (h : Segment.split value = some pieces) :
    style.outputs 0 (.text value) = pieces.map style.eventOfSegment := by
  simp [outputs, h]

/-- Only a text that has a spoiler and stands outside verbatim elements is replaced. -/
theorem outputs_of_unsplit {depth : Nat} {event : Event}
    (h : ∀ value, event = .text value → depth = 0 → Segment.split value = none) :
    style.outputs depth event = [event] := by
  by_cases htext : event.isText
  · obtain ⟨value, rfl⟩ := eq_text_of_isText htext
    cases depth with
    | zero => exact outputs_of_none style (h value rfl rfl) 0
    | succ depth => exact outputs_succ style depth (.text value)
  · exact outputs_of_not_text style depth htext

theorem outputs_ne_nil (depth : Nat) (event : Event) : style.outputs depth event ≠ [] := by
  unfold outputs
  split
  · split
    · split
      · next hsplit => simpa using Segment.ne_nil_of_split hsplit
      · simp
    · simp
  · simp

/-- What a text becomes is texts and markup inside a line, none of them empty texts. -/
theorem mem_outputs_text {value : String} {event : Event}
    (h : event ∈ style.outputs 0 (.text value)) :
    event.isContent ∧ event.plain = event ∧ (value ≠ "" → event ≠ .text "") := by
  cases hsplit : Segment.split value with
  | none =>
    rw [outputs_of_none style hsplit, List.mem_singleton] at h
    subst h
    exact ⟨rfl, rfl, fun hvalue he => hvalue (Event.text.inj he)⟩
  | some pieces =>
    rw [outputs_of_some style hsplit] at h
    obtain ⟨piece, hpiece, rfl⟩ := List.mem_map.1 h
    cases piece with
    | text text =>
      obtain rfl := Segment.eq_segments_of_split hsplit
      have hne := (Segment.text_of_mem_segments hpiece).1
      exact ⟨rfl, rfl, fun _ he => hne (Event.text.inj he)⟩
    | spoiler inner => exact ⟨rfl, rfl, fun _ => nofun⟩

theorem keepsDepth_outputs : KeepsDepth style.outputs := by
  intro depth event
  cases depth with
  | succ depth => rw [outputs_succ]; rfl
  | zero =>
    by_cases htext : event.isText
    · obtain ⟨value, rfl⟩ := eq_text_of_isText htext
      exact depthAfterAll_of_isContent (fun _ h => (mem_outputs_text style h).1) 0
    · rw [outputs_of_not_text style 0 htext]
      rfl

end SpanStyle

namespace SpoilerStream

variable {style : SpanStyle} {s t : SpoilerStream}

theorem drain_of_some {event : Event} (h : s.next? style = some (event, t)) :
    s.drain style = event :: t.drain style := by
  rw [drain]
  split <;> simp_all

theorem drain_of_none (h : s.next? style = none) : s.drain style = [] := by
  rw [drain]
  split <;> simp_all

/-- The events that wait come first, and behind them what the source becomes. -/
theorem drain_eq (source pending : List Event) (depth : Nat) :
    drain style ⟨source, pending, depth⟩ =
      pending ++ changeAtDepth style.outputs depth source := by
  induction source generalizing pending depth with
  | nil =>
    induction pending with
    | nil => exact drain_of_none rfl
    | cons event pending ih => rw [drain_of_some rfl, ih, List.cons_append]
  | cons event source ihsource =>
    induction pending with
    | nil =>
      obtain ⟨first, rest, houtputs⟩ := List.exists_cons_of_ne_nil (style.outputs_ne_nil depth event)
      have hnext : next? style ⟨event :: source, [], depth⟩ =
          some (first, ⟨source, rest, SpanStyle.depthAfter depth event⟩) := by
        simp [next?, houtputs]
      rw [drain_of_some hnext, ihsource, List.nil_append, changeAtDepth_cons, houtputs,
        List.cons_append]
    | cons event pending ih => rw [drain_of_some rfl, ih, List.cons_append]

end SpoilerStream

namespace SpanStyle

variable (style : SpanStyle)

theorem stream_eq (events : List Event) :
    style.stream events = changeAtDepth style.outputs 0 events := by
  rw [stream, SpoilerStream.ofEvents, SpoilerStream.drain_eq, List.nil_append]

/-- The texts that are joined inside verbatim elements are those that are not replaced. -/
theorem joinTexts_stream (events : List Event) :
    joinTexts (0 < ·) 0 (style.stream events) = style.stream (joinTexts (0 < ·) 0 events) := by
  rw [stream_eq, stream_eq]
  apply joinTexts_changeAtDepth style.keepsDepth_outputs
  · intro depth value hdepth
    obtain ⟨depth, rfl⟩ : ∃ n, depth = n + 1 := ⟨depth - 1, by simp at hdepth; omega⟩
    rw [outputs_succ]
  · intro depth event _ hevent
    exact ⟨event, outputs_of_not_text style depth hevent, hevent⟩
  · intro depth event hdepth
    obtain rfl : depth = 0 := by simpa using hdepth
    by_cases htext : event.isText
    · obtain ⟨value, rfl⟩ := eq_text_of_isText htext
      exact .inr ⟨rfl, fun _ h => (mem_outputs_text style h).1⟩
    · exact .inl ⟨event, outputs_of_not_text style 0 htext⟩

theorem plainMarkup_stream (events : List Event) :
    plainMarkup 0 (style.stream events) = style.stream (plainMarkup 0 events) := by
  rw [stream_eq, stream_eq, plainMarkup, changeAtDepth_changeAtDepth style.keepsDepth_outputs,
    changeAtDepth_changeAtDepth keepsDepth_plain]
  congr 1
  funext depth event
  cases depth with
  | succ depth => simp [outputs_succ]
  | zero =>
    by_cases htext : event.isText
    · obtain ⟨value, rfl⟩ := eq_text_of_isText htext
      have hplain : plainMarkup 0 (style.outputs 0 (.text value)) =
          style.outputs 0 (.text value) := by
        rw [plainMarkup_of_isContent fun _ h => (mem_outputs_text style h).1,
          List.map_congr_left fun _ h => (mem_outputs_text style h).2.1, List.map_id']
      simpa [plainMarkup, plain] using hplain
    · have hplain : ¬ event.plain.isText := by rwa [isText_plain]
      simp [outputs_of_not_text style 0 htext, outputs_of_not_text style 0 hplain]

theorem text_mem_stream {events : List Event} (h : .text "" ∈ style.stream events) :
    .text "" ∈ events := by
  rw [stream_eq] at h
  obtain ⟨depth, source, hsource, h⟩ := mem_changeAtDepth h
  by_cases htext : source.isText
  · obtain ⟨value, rfl⟩ := eq_text_of_isText htext
    by_cases hvalue : value = ""
    · rwa [← hvalue]
    · cases depth with
      | zero => exact absurd rfl ((mem_outputs_text style h).2.2 hvalue)
      | succ depth =>
        rw [outputs_succ, List.mem_singleton] at h
        rwa [h]
  · rw [outputs_of_not_text style depth htext, List.mem_singleton] at h
    rwa [h]

end SpanStyle

end SpoilerMarkup
