import SpoilerMarkup.Html.Writer
import SpoilerMarkup.Proofs.Event.Join

/-!
Differences between streams that do not show in their HTML. A text is escaped character by
character, so it may be cut anywhere but at its end; and outside images, which are verbatim
elements, the two kinds of raw markup are written alike.
-/
namespace SpoilerMarkup

open Event
open SpanStyle (depthAfter)
open Textual (attach attach_false attach_of_head)

namespace Text

theorem mapChars_eq (replace : Char → String) (value : String) :
    mapChars replace value = String.join (value.toList.map replace) := by
  have hfoldl : ∀ (cs : List Char) (out : String),
      cs.foldl (fun out c => out ++ replace c) out = out ++ String.join (cs.map replace) := by
    intro cs
    induction cs with
    | nil => simp
    | cons c cs ih => simp [ih, String.append_assoc]
  rw [mapChars, hfoldl, String.empty_append]

theorem mapChars_append (replace : Char → String) (value value' : String) :
    mapChars replace (value ++ value') = mapChars replace value ++ mapChars replace value' := by
  simp [mapChars_eq]

theorem endsWithNewline_append (value : String) {value' : String} (h : value' ≠ "") :
    endsWithNewline (value ++ value') = endsWithNewline value' := by
  have hne : value'.toList ≠ [] := by simpa using h
  rw [endsWithNewline, endsWithNewline, String.toList_append, List.getLast?_append,
    List.getLast?_eq_some_getLast hne, Option.some_or]

end Text

namespace Html.Writer

variable {w : Writer}

@[simp] theorem image_put (markup : String) : (w.put markup).2.image = w.image := by
  unfold put
  split <;> rfl

@[simp] theorem image_putOnNewLine (markup : String) :
    (w.putOnNewLine markup).2.image = w.image :=
  image_put _

@[simp] theorem image_putText (escape : String → String) (value : String) :
    (w.putText escape value).2.image = w.image := rfl

@[simp] theorem image_footnoteNumber (label : String) :
    (w.footnoteNumber label).2.image = w.image := by
  unfold footnoteNumber
  split <;> rfl

theorem image_writeStart (h : w.image = none) (tag : Tag) :
    ∀ image ∈ (w.writeStart tag).2.image, image.depth = 0 ∧ tag.isVerbatim := by
  cases tag with
  | blockQuote alert => cases alert <;> simp [writeStart, h]
  | _ => simp [writeStart, h, Tag.isVerbatim]

theorem image_writeFinish (h : w.image = none) (tag : EndTag) :
    (w.writeFinish tag).2.image = none := by
  cases tag with
  | list ordered => cases ordered <;> simp [writeFinish, h]
  | _ => simp [writeFinish, h]

/-- An image that is open was opened as a verbatim element or inside one. -/
def FitsDepth (w : Writer) (depth : Nat) : Prop :=
  ∀ image ∈ w.image, image.depth < depth

theorem fitsDepth_of_none (h : w.image = none) (depth : Nat) : w.FitsDepth depth := by
  simp [FitsDepth, h]

theorem FitsDepth.write {depth : Nat} (h : w.FitsDepth depth) (event : Event) :
    (w.write event).2.FitsDepth (depthAfter depth event) := by
  rw [Writer.write]
  cases himage : w.image with
  | none =>
    cases event with
    | start tag =>
      intro image hopened
      obtain ⟨hdepth, htag⟩ := image_writeStart himage tag image hopened
      simp [depthAfter, htag, hdepth]
    | finish tag => exact fitsDepth_of_none (image_writeFinish himage tag) _
    | text value =>
      apply fitsDepth_of_none
      simp only [writeContent]
      split <;> simp [himage]
    | taskMarker checked =>
      apply fitsDepth_of_none
      cases checked <;> simp [writeContent, himage]
    | _ => exact fitsDepth_of_none (by simp [writeContent, himage]) _
  | some image =>
    have hdepth : image.depth < depth := h image himage
    cases event with
    | start tag =>
      rintro _ ⟨⟩
      have hpos : 0 < depth := by omega
      simp [depthAfter, hpos, hdepth]
    | finish tag =>
      obtain ⟨title, level⟩ := image
      cases level with
      | zero => exact fitsDepth_of_none (by simp [writeDescription]) _
      | succ level =>
        rintro _ ⟨⟩
        simp only [depthAfter] at hdepth ⊢
        omega
    | taskMarker checked =>
      cases checked <;> simpa [writeDescription, FitsDepth, himage, depthAfter] using hdepth
    | _ => simpa [writeDescription, FitsDepth, himage, depthAfter] using hdepth

theorem write_plain (h : w.image = none) (event : Event) : w.write event.plain = w.write event := by
  cases event <;> simp [write, h, plain, writeContent]

/-- At no depth an image is open, so there it makes no difference which kind raw markup is of. -/
theorem pieces_plainMarkup {depth : Nat} (h : w.FitsDepth depth) (events : List Event) :
    w.pieces (plainMarkup depth events) = w.pieces events := by
  induction events generalizing w depth with
  | nil => rfl
  | cons event events ih =>
    have hrest := ih (h.write event)
    rw [plainMarkup] at hrest ⊢
    rw [changeAtDepth_cons]
    by_cases hdepth : depth = 0
    · have hnone : w.image = none := by
        cases himage : w.image with
        | none => rfl
        | some image =>
          have := h image himage
          omega
      simp only [hdepth, ↓reduceIte, List.singleton_append, pieces, write_plain hnone] at hrest ⊢
      rw [hrest]
    · simp only [hdepth, ↓reduceIte, List.singleton_append, pieces, hrest]

/-- A text may be written in two parts if the second is not empty. -/
theorem write_text_append (w : Writer) (value : String) {value' : String} (h : value' ≠ "") :
    w.write (.text (value ++ value')) =
      ((w.write (.text value)).1 ++ ((w.write (.text value)).2.write (.text value')).1,
        ((w.write (.text value)).2.write (.text value')).2) := by
  cases himage : w.image with
  | none =>
    cases hmetadata : w.inMetadata with
    | true => simp [write, himage, writeContent, hmetadata, put]
    | false =>
      simp [write, himage, writeContent, hmetadata, putText, Text.escapeBody, Text.mapChars_append,
        Text.endsWithNewline_append _ h]
  | some image =>
    simp [write, himage, writeDescription, putText, Text.escapeAttribute, Text.mapChars_append,
      Text.endsWithNewline_append _ h]

theorem join_pieces_cons (w : Writer) (event : Event) (events : List Event) :
    String.join (w.pieces (event :: events)) =
      (w.write event).1 ++ String.join ((w.write event).2.pieces events) := by
  rw [pieces, String.join_cons]

theorem join_pieces_attach (w : Writer) (joins : Bool) (event : Event) {events : List Event}
    (h : .text "" ∉ events) :
    String.join (w.pieces (attach joins event events)) =
      String.join (w.pieces (event :: events)) := by
  by_cases hjoined : event.isText ∧ ∃ next ∈ events.head?, next.isText
  · obtain ⟨hevent, next, hnext, htext⟩ := hjoined
    obtain ⟨value, rfl⟩ := eq_text_of_isText hevent
    obtain ⟨next, rfl⟩ := eq_text_of_isText htext
    obtain ⟨rest, rfl⟩ := List.head?_eq_some_iff.1 hnext
    have hne : next ≠ "" := by
      rintro rfl
      simp at h
    cases joins with
    | false => rw [attach_false]
    | true =>
      rw [attach_texts, join_pieces_cons, join_pieces_cons, join_pieces_cons,
        write_text_append w value hne, String.append_assoc]
  · have happart : event.isText → ∀ next ∈ events.head?, ¬ next.isText :=
      fun hevent next hnext htext => hjoined ⟨hevent, next, hnext, htext⟩
    rw [attach_of_head happart]

/-- Texts that are not empty may be joined before they are written. -/
theorem join_pieces_joinTexts (w : Writer) (joins : Nat → Bool) (depth : Nat) {events : List Event}
    (h : .text "" ∉ events) :
    String.join (w.pieces (joinTexts joins depth events)) = String.join (w.pieces events) := by
  induction events generalizing w depth with
  | nil => rfl
  | cons event events ih =>
    have hevents : .text "" ∉ events := fun hmem => h (by simp [hmem])
    rw [joinTexts_cons, join_pieces_attach w _ event (mt text_mem_joinTexts hevents),
      join_pieces_cons, ih _ _ hevents, join_pieces_cons]

end Html.Writer

namespace Html

theorem ofEvents_plainMarkup (events : List Event) :
    ofEvents (plainMarkup 0 events) = ofEvents events := by
  rw [ofEvents, Writer.pieces_plainMarkup (Writer.fitsDepth_of_none rfl 0), ofEvents]

theorem ofEvents_joinTexts (joins : Nat → Bool) {events : List Event} (h : .text "" ∉ events) :
    ofEvents (joinTexts joins 0 events) = ofEvents events := by
  rw [ofEvents, Writer.join_pieces_joinTexts _ _ _ h, ofEvents]

end Html

end SpoilerMarkup
