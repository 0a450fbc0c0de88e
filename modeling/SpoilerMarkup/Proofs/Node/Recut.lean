import SpoilerMarkup.Proofs.Node.Rebuild
import SpoilerMarkup.Render

/-!
Streams that differ in nothing but how their texts are cut into events. Outside verbatim elements
a text is added to the text before it, wherever that stands, so the tree of a stream does not show
where its texts were cut. Main statement: `ofEvents_recut`.
-/
namespace SpoilerMarkup

open SpanStyle (depthAfter)

/-- Two streams that are read at a depth and differ only in how texts outside verbatim elements are
cut: where one has some neighbouring texts the other has texts as well, with the same characters. -/
inductive Event.Recut : Nat → List Event → List Event → Prop where
  | nil {depth : Nat} : Recut depth [] []
  | texts {values values' : List String} {events events' : List Event} (hne : values ≠ [])
      (hne' : values' ≠ []) (hjoin : String.join values = String.join values')
      (rest : Recut 0 events events') :
      Recut 0 (values.map .text ++ events) (values'.map .text ++ events')
  | event {depth : Nat} {event : Event} {events events' : List Event}
      (rest : Recut (depthAfter depth event) events events') :
      Recut depth (event :: events) (event :: events')

open Event

namespace Builder

variable {b : Builder}

theorem verbatim_of_depth (h : b.depth = 0) : b.verbatim = none := by
  cases hverbatim : b.verbatim with
  | none => rfl
  | some element =>
    rw [depth_of_some hverbatim] at h
    cases h

theorem push_text (h : b.verbatim = none) (value : String) :
    b.push (.text value) = b.modifyNodes (appendText value) := by
  rw [push_of_none h, pushContent]

/-- Neighbouring texts are taken as one. -/
theorem foldl_push_texts (h : b.verbatim = none) {values : List String} (hne : values ≠ []) :
    (values.map .text).foldl push b = b.push (.text (String.join values)) := by
  induction values generalizing b with
  | nil => exact absurd rfl hne
  | cons value values ih =>
    have hafter : (b.push (.text value)).verbatim = none := by
      rw [push_text h, verbatim_modifyNodes, h]
    rw [List.map_cons, List.foldl_cons, String.join_cons]
    cases values with
    | nil => simp
    | cons next values =>
      rw [ih hafter (by simp), push_text hafter, push_text h, push_text h, modifyNodes_modifyNodes]
      simp only [appendText_appendText]

/-- However texts are cut, a builder comes to the same state. -/
theorem foldl_push_recut {depth : Nat} {events events' : List Event}
    (h : Recut depth events events') (hdepth : b.depth = depth) :
    events.foldl push b = events'.foldl push b := by
  induction h generalizing b with
  | nil => rfl
  | @texts values values' events events' hne hne' hjoin _ ih =>
    have hverbatim := verbatim_of_depth hdepth
    have hafter : (b.push (.text (String.join values))).depth = 0 := by
      rw [depth_push, hdepth, depthAfter_text]
    rw [List.foldl_append, List.foldl_append, foldl_push_texts hverbatim hne,
      foldl_push_texts hverbatim hne', ← hjoin, ih hafter]
  | @event depth event events events' _ ih =>
    have hafter : (b.push event).depth = depthAfter depth event := by rw [depth_push, hdepth]
    rw [List.foldl_cons, List.foldl_cons, ih hafter]

end Builder

namespace Node

/-- Streams, balanced or not, that differ only in how texts outside verbatim elements are cut have
the same tree. So as many spoilers are found in it, and it has the same HTML, before these are
replaced and after. -/
theorem ofEvents_recut {events events' : List Event} (h : Recut 0 events events') :
    ofEvents events = ofEvents events' ∧
      (ofEvents events).toHtml = (ofEvents events').toHtml ∧
      ∀ style : SpanStyle,
        (style.apply (ofEvents events)).2 = (style.apply (ofEvents events')).2 ∧
          (style.apply (ofEvents events)).1.toHtml = (style.apply (ofEvents events')).1.toHtml := by
  have hsame : ofEvents events = ofEvents events' := by
    rw [ofEvents, ofEvents, Builder.foldl_push_recut h rfl]
  rw [hsame]
  exact ⟨rfl, rfl, fun _ => ⟨rfl, rfl⟩⟩

/-- A stray closing tag, a text that is cut inside both delimiters of a spoiler, an image in whose
description texts are left as they are, and an element that is not closed. -/
def cutInDelimiters : List Event :=
  [.finish .item, .text "|", .text "|a|", .text "", .text "|b",
    .start (.image ⟨.inline, "u", "", ""⟩), .text "c", .text "d", .finish .image,
    .text "", .start .strong, .text "e||f||"]

theorem ofEvents_recut_cutInDelimiters :
    let uncut : List Event :=
      [.finish .item, .text "||a||b",
        .start (.image ⟨.inline, "u", "", ""⟩), .text "c", .text "d", .finish .image,
        .text "", .text "", .start .strong, .text "e|", .text "|f||", .text ""]
    Recut 0 cutInDelimiters uncut ∧ ofEvents cutInDelimiters = ofEvents uncut ∧
      ofEvents uncut = .root [.text "||a||b",
        .verbatim (.image ⟨.inline, "u", "", ""⟩) [.text "c", .text "d"],
        .text "", .element .strong [.text "e||f||"]] := by
  intro uncut
  have hlast : Recut 0 [.text "", .start .strong, .text "e||f||"]
      [.text "", .text "", .start .strong, .text "e|", .text "|f||", .text ""] :=
    @Recut.texts [""] ["", ""] _ _ (by simp) (by simp) (by decide)
      (.event (@Recut.texts ["e||f||"] ["e|", "|f||", ""] [] [] (by simp) (by simp) (by decide)
        .nil))
  have hrecut : Recut 0 cutInDelimiters uncut :=
    .event (@Recut.texts ["|", "|a|", "", "|b"] ["||a||b"] _ _ (by simp) (by simp) (by decide)
      (.event (.event (.event (.event hlast)))))
  exact ⟨hrecut, (ofEvents_recut hrecut).1, by decide +kernel⟩

end Node

end SpoilerMarkup
