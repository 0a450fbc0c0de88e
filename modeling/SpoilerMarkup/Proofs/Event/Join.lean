import SpoilerMarkup.Proofs.Event.Depth
import SpoilerMarkup.Proofs.Text.Join

/-!
Neighbouring texts joined at some depths and left apart at others. The texts of a stream that has
no empty text are merged by joining them at every depth. Joining does not get in the way of other
changes to a stream as long as they leave the texts alone where texts are joined.
-/
namespace SpoilerMarkup.Event

open SpanStyle (depthAfter)
open Textual

instance : Textual Event where
  text := .text
  isText := isText
  string
    | .text value => value
    | _ => ""
  isText_text _ := rfl
  string_text _ := rfl
  text_string {event} h := by
    cases event with
    | text value => rfl
    | _ => cases h

/-- Joins neighbouring texts that stand at some depths. -/
def joinTexts (joins : Nat → Bool) : Nat → List Event → List Event :=
  joinAlong joins depthAfter

@[simp] theorem textual_isText (event : Event) : Textual.isText event = event.isText := rfl

theorem eq_text_of_isText {event : Event} (h : event.isText) : ∃ value, event = .text value :=
  Textual.eq_text_of_isText h

@[simp] theorem attach_texts (value next : String) (events : List Event) :
    attach true (.text value) (.text next :: events) = .text (value ++ next) :: events :=
  Textual.attach_texts value next events

theorem attach_attach (joins : Bool) (value value' : String) (events : List Event) :
    attach true (.text value) (attach joins (.text value') events) =
      attach joins (.text (value ++ value')) events :=
  Textual.attach_attach joins value value' events

section

variable {joins : Nat → Bool}

@[simp] theorem joinTexts_nil (depth : Nat) : joinTexts joins depth [] = [] := rfl

theorem joinTexts_cons (depth : Nat) (event : Event) (events : List Event) :
    joinTexts joins depth (event :: events) =
      attach (joins depth) event (joinTexts joins (depthAfter depth event) events) := rfl

/-- What stands before and behind a tag or a piece of markup is joined apart. -/
theorem joinTexts_append_of_not_text {event : Event} (h : ¬ event.isText) (depth : Nat)
    (before after : List Event) :
    joinTexts joins depth (before ++ event :: after) = joinTexts joins depth before ++
      event :: joinTexts joins (depthAfter (depthAfterAll depth before) event) after :=
  joinAlong_append_of_not_text h depth before after

/-- The content of an element is joined apart from what stands behind the element. -/
theorem joinTexts_element (depth : Nat) (tag : Tag) (endTag : EndTag) (content after : List Event) :
    joinTexts joins depth (.start tag :: (content ++ .finish endTag :: after)) =
      let inside := depthAfter depth (.start tag)
      .start tag :: (joinTexts joins inside content ++
        .finish endTag :: joinTexts joins (depthAfterAll inside content - 1) after) := by
  rw [joinTexts_cons, attach_of_not_text (by simp [isText]),
    joinTexts_append_of_not_text (by simp [isText])]
  rfl

/-- Two neighbouring texts may as well be one, where texts are joined. -/
theorem joinTexts_append_texts (depth : Nat) (before after : List Event) (value value' : String)
    (h : joins (depthAfterAll depth before) = true) :
    joinTexts joins depth (before ++ .text value :: .text value' :: after) =
      joinTexts joins depth (before ++ .text (value ++ value') :: after) := by
  induction before generalizing depth with
  | nil =>
    rw [depthAfterAll_nil] at h
    simp only [List.nil_append, joinTexts_cons, depthAfter, h]
    rw [attach_attach]
  | cons first before ih =>
    rw [List.cons_append, joinTexts_cons, ih _ h, List.cons_append, joinTexts_cons]

theorem joinTexts_append_of_apart {depth : Nat} (h : joins depth = false) {before : List Event}
    (hbefore : ∀ event ∈ before, event.isContent) (after : List Event) :
    joinTexts joins depth (before ++ after) = before ++ joinTexts joins depth after := by
  induction before with
  | nil => rfl
  | cons event before ih =>
    rw [List.cons_append, joinTexts_cons, depthAfter_of_isContent (hbefore event (by simp)),
      ih fun event hevent => hbefore event (by simp [hevent]), h, attach_false, List.cons_append]

theorem attach_changeAtDepth {change : Nat → Event → List Event} {depth : Nat}
    (htext : ∀ value, change depth (.text value) = [.text value])
    (hother : ∀ event, ¬ event.isText → ∃ event', change depth event = [event'] ∧ ¬ event'.isText)
    (value : String) (events : List Event) :
    attach true (.text value) (changeAtDepth change depth events) =
      changeAtDepth change depth (attach true (.text value) events) := by
  cases events with
  | nil => rw [changeAtDepth_nil, attach_of_head (by simp), changeAtDepth_cons, htext]; rfl
  | cons event events =>
    by_cases hevent : event.isText
    · obtain ⟨next, rfl⟩ := eq_text_of_isText hevent
      simp [htext]
    · obtain ⟨event', hchange, hevent'⟩ := hother event hevent
      have hhead : ∀ next ∈ (event :: events).head?, ¬ next.isText := by simpa using hevent
      have hhead' : ∀ next ∈ (event' :: changeAtDepth change (depthAfter depth event) events).head?,
          ¬ next.isText := by simpa using hevent'
      rw [changeAtDepth_cons, hchange, List.singleton_append, attach_of_head fun _ => hhead,
        attach_of_head fun _ => hhead']
      simp [htext, hchange]

/-- A change to a stream that keeps every text and makes no other where texts are joined may be
made before or after they are joined. -/
theorem joinTexts_changeAtDepth {change : Nat → Event → List Event} (hdepth : KeepsDepth change)
    (htext : ∀ depth value, joins depth = true → change depth (.text value) = [.text value])
    (hother : ∀ depth event, joins depth = true → ¬ event.isText →
      ∃ event', change depth event = [event'] ∧ ¬ event'.isText)
    (happart : ∀ depth event, joins depth = false → (∃ event', change depth event = [event']) ∨
      event.isContent ∧ ∀ event' ∈ change depth event, event'.isContent)
    (depth : Nat) (events : List Event) :
    joinTexts joins depth (changeAtDepth change depth events) =
      changeAtDepth change depth (joinTexts joins depth events) := by
  induction events generalizing depth with
  | nil => rfl
  | cons event events ih =>
    have hafter := hdepth depth event
    rw [changeAtDepth_cons, joinTexts_cons]
    cases hjoins : joins depth with
    | false =>
      rw [attach_false, changeAtDepth_cons]
      rcases happart depth event hjoins with ⟨event', hchange⟩ | ⟨hevent, hchange⟩
      · rw [hchange, depthAfterAll_cons, depthAfterAll_nil] at hafter
        rw [hchange, List.singleton_append, joinTexts_cons, hafter, ih, hjoins, attach_false,
          List.singleton_append]
      · rw [depthAfter_of_isContent hevent, joinTexts_append_of_apart hjoins hchange, ih]
    | true =>
      by_cases hevent : event.isText
      · obtain ⟨value, rfl⟩ := eq_text_of_isText hevent
        rw [htext depth value hjoins, List.singleton_append, joinTexts_cons, ih, hjoins]
        exact attach_changeAtDepth (htext depth · hjoins) (hother depth · hjoins) value _
      · obtain ⟨event', hchange, hevent'⟩ := hother depth event hjoins hevent
        rw [hchange, depthAfterAll_cons, depthAfterAll_nil] at hafter
        rw [hchange, List.singleton_append, joinTexts_cons, hafter, ih, attach_of_not_text hevent',
          attach_of_not_text hevent, changeAtDepth_cons, hchange, List.singleton_append]

theorem joinTexts_plainMarkup (depth : Nat) (events : List Event) :
    joinTexts joins depth (plainMarkup depth events) =
      plainMarkup depth (joinTexts joins depth events) := by
  apply joinTexts_changeAtDepth keepsDepth_plain
  · intro depth value _
    simp [plain]
  · intro depth event _ hevent
    by_cases hdepth : depth = 0
    · exact ⟨event.plain, if_pos hdepth, by rwa [isText_plain]⟩
    · exact ⟨event, if_neg hdepth, hevent⟩
  · intro depth event _
    by_cases hdepth : depth = 0 <;> simp [hdepth]

theorem text_mem_joinTexts {depth : Nat} {events : List Event}
    (h : .text "" ∈ joinTexts joins depth events) : .text "" ∈ events :=
  text_mem_joinAlong h

theorem countP_joinTexts (depth : Nat) (events : List Event) :
    (joinTexts joins depth events).countP isMarkup = events.countP isMarkup :=
  countP_joinAlong (fun _ => rfl) depth events

end

theorem joinedTexts_of_ne {value : String} (h : value ≠ "") (values : List String) :
    joinedTexts (value :: values) = [.text (String.join (value :: values))] := by
  cases values with
  | nil => simp [joinedTexts]
  | cons next values =>
    have hjoined : String.join (value :: next :: values) ≠ "" := by
      rw [String.join_cons]
      exact fun he => h (String.append_eq_empty_iff.1 he).1
    simp only [joinedTexts]
    rw [if_neg (by rwa [String.isEmpty_iff])]

theorem mergeTextsAfter_of_not_text {event : Event} (h : ¬ event.isText) (values : List String)
    (events : List Event) :
    mergeTextsAfter values (event :: events) =
      joinedTexts values ++ event :: mergeTextsAfter [] events := by
  cases event <;> simp_all [mergeTextsAfter, isText]

theorem mergeTextsAfter_eq (depth : Nat) {events : List Event} (h : .text "" ∉ events) :
    mergeTextsAfter [] events = joinTexts (fun _ => true) depth events ∧
      ∀ value values, value ≠ "" → mergeTextsAfter (value :: values) events =
        attach true (.text (String.join (value :: values)))
          (joinTexts (fun _ => true) depth events) := by
  induction events generalizing depth with
  | nil =>
    refine ⟨rfl, fun value values hvalue => ?_⟩
    rw [mergeTextsAfter, joinedTexts_of_ne hvalue, joinTexts_nil, attach_of_head (by simp)]
  | cons event events ih =>
    obtain ⟨hevent, hevents⟩ : ¬ .text "" = event ∧ .text "" ∉ events := by simpa using h
    obtain ⟨hnil, hcons⟩ := ih (depthAfter depth event) hevents
    by_cases htext : event.isText
    · obtain ⟨next, rfl⟩ := eq_text_of_isText htext
      have hnext : next ≠ "" := by
        rintro rfl
        exact hevent rfl
      rw [joinTexts_cons]
      refine ⟨?_, fun value values hvalue => ?_⟩
      · rw [mergeTextsAfter, List.nil_append, hcons next [] hnext]
        simp
      · rw [mergeTextsAfter, List.cons_append, hcons value _ hvalue, attach_attach, depthAfter_text]
        simp [String.append_assoc]
    · rw [joinTexts_cons, attach_of_not_text htext]
      refine ⟨?_, fun value values hvalue => ?_⟩
      · rw [mergeTextsAfter_of_not_text htext, hnil]
        rfl
      · rw [mergeTextsAfter_of_not_text htext, hnil, joinedTexts_of_ne hvalue,
          attach_of_head fun _ => by simpa using htext, List.singleton_append]

theorem mergeTexts_eq {events : List Event} (h : .text "" ∉ events) :
    mergeTexts events = joinTexts (fun _ => true) 0 events := by
  rw [mergeTexts, (mergeTextsAfter_eq 0 h).1]

end SpoilerMarkup.Event
