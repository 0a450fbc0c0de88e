import SpoilerMarkup.Proofs.Html.Writer
import SpoilerMarkup.Proofs.Node.Build
import SpoilerMarkup.Render

/-!
Streams that go through a tree and come back. In a stream in which every element is closed two
things change on the way: texts outside verbatim elements are joined, and raw markup there becomes
of the kind that belongs where it stands. Neither shows in the HTML. Main statements:
`toEvents_ofEvents` and `toHtml_ofEvents`.
-/
namespace SpoilerMarkup.Node

open Event

/-- The stream of the tree of a stream is that stream with neighbouring texts joined and raw markup
settled, both outside verbatim elements only. -/
theorem toEvents_ofEvents {events : List Event} (h : IsNested events) :
    (ofEvents events).toEvents = joinTexts (· = 0) 0 (settleMarkup 0 [] events) := by
  obtain ⟨nodes, htree, hcanonical, hevents⟩ := ofEvents_settled h
  rw [htree, toEvents, flatten, ← joinTexts_outside_flattenList hcanonical, hevents _ rfl]

/-- Texts in several parts, one of them empty, and raw markup of both kinds in a paragraph, in an
HTML block and in the description of an image. -/
def scattered : List Event :=
  [.start .htmlBlock, .html "<p>", .inlineHtml "<b>", .start .emphasis, .html "<i>",
    .finish .emphasis, .html "</p>", .finish .htmlBlock,
    .start .paragraph, .text "a", .text "", .text "b", .html "<br>", .text "",
    .start (.image ⟨.inline, "u", "", ""⟩), .text "c", .start .strong, .text "d", .text "e",
    .finish .strong, .html "<hr>", .finish .image, .text "f", .finish .paragraph]

theorem toEvents_ofEvents_scattered :
    IsNested scattered ∧ (ofEvents scattered).toEvents =
      [.start .htmlBlock, .html "<p>", .html "<b>", .start .emphasis, .inlineHtml "<i>",
        .finish .emphasis, .html "</p>", .finish .htmlBlock,
        .start .paragraph, .text "ab", .inlineHtml "<br>", .text "",
        .start (.image ⟨.inline, "u", "", ""⟩), .text "c", .start .strong, .text "d", .text "e",
        .finish .strong, .html "<hr>", .finish .image, .text "f", .finish .paragraph] := by
  have hnested : IsNested scattered := by decide
  refine ⟨hnested, ?_⟩
  rw [toEvents_ofEvents hnested]
  decide

/-- A stream in which every element is closed and no text is empty has the same HTML as its tree. -/
theorem toHtml_ofEvents {events : List Event} (hnested : IsNested events)
    (hempty : .text "" ∉ events) : (ofEvents events).toHtml = Html.ofEvents events := by
  obtain ⟨nodes, htree, hcanonical, hevents⟩ := ofEvents_settled hnested
  have hempty' : .text "" ∉ settleMarkup 0 [] events := mt text_mem_settleMarkup hempty
  calc (ofEvents events).toHtml
      = Html.ofEvents (joinTexts (· = 0) 0 (flattenList false nodes)) := by
        rw [htree, toHtml, toEvents, flatten, joinTexts_outside_flattenList hcanonical]
    _ = Html.ofEvents (joinTexts (· = 0) 0 (settleMarkup 0 [] events)) := by
        rw [hevents _ rfl]
    _ = Html.ofEvents (settleMarkup 0 [] events) := Html.ofEvents_joinTexts _ hempty'
    _ = Html.ofEvents events := by
        rw [← Html.ofEvents_plainMarkup, plainMarkup_settleMarkup, Html.ofEvents_plainMarkup]

/-- The stream has raw markup in the description of an image, where one kind is dropped. -/
theorem toHtml_ofEvents_scattered :
    let events := scattered.filter (· ≠ .text "")
    IsNested events ∧ (.text "" ∉ events) ∧ (ofEvents events).toHtml = Html.ofEvents events := by
  have hnested : IsNested (scattered.filter (· ≠ .text "")) := by decide
  have hempty : .text "" ∉ scattered.filter (· ≠ .text "") := by decide
  exact ⟨hnested, hempty, toHtml_ofEvents hnested hempty⟩

end SpoilerMarkup.Node
