import SpoilerMarkup.Proofs.Node.Rebuild
import SpoilerMarkup.Proofs.SpanStyle.Agreement
import SpoilerMarkup.Proofs.SpanStyle.Confluence

/-!
Trees that stay canonical when a style is applied to them. The pieces of a text are never two texts
side by side, and a text at either end of them meets what the text they come from has met. So a tree
with its spoilers replaced comes back from its stream as it is, no two pieces are joined on the way,
and no new spoiler comes up. Main statement: `apply_canonical`.
-/
namespace SpoilerMarkup

namespace SpanStyle

open Node

variable (style : SpanStyle)

theorem kind_nodeOfSegment (piece : Segment) :
    (style.nodeOfSegment piece).kind = .text ↔ piece.isText := by
  cases piece <;> simp [nodeOfSegment, kind, Segment.isText]

theorem isCanonical_nodeOfSegment (piece : Segment) : (style.nodeOfSegment piece).IsCanonical [] := by
  cases piece with
  | text value => exact isCanonical_text value
  | spoiler inner => exact isCanonical_of_kind trivial (by simp [nodeOfSegment, kind])

theorem isCanonical_rewrite {node : Node} (h : node.IsCanonical []) :
    (style.rewrite node).IsCanonical [] := by
  obtain ⟨hsound, happart, hleaf⟩ := h
  refine ⟨isSound_rewrite style hsound, ?_, ?_⟩
  · rw [IsApart, kind_rewrite]
    exact happart
  · intro event hevent
    cases node with
    | leaf event' => exact hleaf event hevent
    | _ => cases hevent

theorem head_rewriteList {nodes : List Node} (h : ∀ next ∈ nodes.head?, next.kind ≠ .text) :
    ∀ next ∈ (style.rewriteList nodes).head?, next.kind ≠ .text := by
  cases nodes with
  | nil => simp [rewriteList]
  | cons node nodes =>
    have hkind : node.kind ≠ .text := h node (by simp)
    rw [rewriteList_cons style (spoilersIn_of_kind hkind)]
    simpa using hkind

/-- The pieces of a text may stand before a canonical list that does not begin with a text. -/
theorem canonical_pieces {pieces : List Segment}
    (hchain : pieces.IsChain fun a b => ¬ (a.isText ∧ b.isText)) {nodes : List Node}
    (hnodes : Canonical nodes) (hhead : ∀ next ∈ nodes.head?, next.kind ≠ .text) :
    Canonical (pieces.map style.nodeOfSegment ++ nodes) := by
  induction pieces with
  | nil => exact hnodes
  | cons piece pieces ih =>
    rw [List.map_cons, List.cons_append, canonical_cons, isCanonical_iff]
    refine ⟨⟨isCanonical_nodeOfSegment style piece, ?_⟩, ?_, ih hchain.tail⟩
    · intro hkind
      rw [kind_nodeOfSegment] at hkind
      cases pieces with
      | nil => exact hhead
      | cons next pieces =>
        have happart : ¬ (piece.isText ∧ next.isText) := (List.isChain_cons_cons.1 hchain).1
        have hnext : (style.nodeOfSegment next).kind ≠ .text := by
          intro hnext
          rw [kind_nodeOfSegment] at hnext
          exact happart ⟨hkind, hnext⟩
        simpa using hnext
    · rw [children_nodeOfSegment]
      exact .nil

/-- A canonical list is canonical again when every text in it and below it has been split. -/
theorem canonical_rewriteList {nodes : List Node} (h : Canonical nodes) :
    Canonical (style.rewriteList nodes) := by
  induction h with
  | nil => exact .nil
  | @cons node nodes first _ _ ihbelow ihrest =>
    obtain ⟨hnode, hhead⟩ := isCanonical_iff.1 first
    by_cases hspoilers : spoilersIn node = 0
    · rw [rewriteList_cons style hspoilers, canonical_cons, isCanonical_iff, kind_rewrite,
        children_rewrite]
      exact ⟨⟨isCanonical_rewrite style hnode, fun hkind => head_rewriteList style (hhead hkind)⟩,
        ihbelow, ihrest⟩
    · obtain ⟨value, pieces, rfl, hsplit⟩ := exists_split_of_spoilersIn hspoilers
      obtain rfl := Segment.eq_segments_of_split hsplit
      rw [rewriteList_text, rewriteText_of_some hsplit]
      exact canonical_pieces style (Segment.isChain_segments _) ihrest
        (head_rewriteList style (hhead rfl))

/-- A root with canonical children has canonical children again when a style is applied to it, and
none of their texts has a spoiler. So it comes back from its stream as it is, and neither this style
nor another one finds anything in it to replace or to count. -/
theorem apply_canonical {nodes : List Node} (h : Canonical nodes) :
    ∃ rewritten, (style.apply (.root nodes)).1 = .root rewritten ∧ Canonical rewritten ∧
      sumList spoilersIn rewritten = 0 ∧
      ofEvents (root rewritten).toEvents = .root rewritten ∧
      ∀ style' : SpanStyle,
        style'.apply (ofEvents (root rewritten).toEvents) = (.root rewritten, 0) := by
  have hcanonical := canonical_rewriteList style h
  have hbuilt := ofEvents_toEvents_of_canonical hcanonical
  refine ⟨style.rewriteList nodes, ?_, hcanonical, ?_, hbuilt, ?_⟩
  · rw [apply_eq, rewrite]
  · exact sumList_spoilersIn_of_settled (sumList_rewriteList style nodes)
  · intro style'
    rw [hbuilt]
    have hagain := apply_rewrite style style' (.root nodes)
    rwa [rewrite] at hagain

/-- Texts that leave half of a spoiler behind, next to raw markup, to a line break, to an element and
at the end; and code in two texts that together would have a spoiler, were they prose. -/
def halfSpoilers : List Node :=
  [.element .htmlBlock [.html "||", .text "||a||b||", .html "c||"],
    .element .paragraph
      [.text "d|||e|||||", .leaf .softBreak, .text "||f", .element .emphasis [.text "||||g||"],
        .text "|| ||"],
    .verbatim (.codeBlock none) [.text "||h", .text "||"], .text "i||"]

/-- What was left behind meets other halves in the stream, and stays text. -/
theorem apply_canonical_halfSpoilers :
    Canonical halfSpoilers ∧
      let rewritten : Node := .root
        [.element .htmlBlock
          [.html "||", .html "<span class=\"spoiler\">a</span>", .text "b||", .html "c||"],
        .element .paragraph
          [.text "d", .html "<span class=\"spoiler\">|e</span>", .text "|||", .leaf .softBreak,
            .text "||f", .element .emphasis [.html "<span class=\"spoiler\"></span>", .text "g||"],
            .html "<span class=\"spoiler\"> </span>"],
        .verbatim (.codeBlock none) [.text "||h", .text "||"], .text "i||"]
      (apply {} (.root halfSpoilers)).1 = rewritten ∧ ofEvents rewritten.toEvents = rewritten ∧
        apply ⟨"other"⟩ (ofEvents rewritten.toEvents) = (rewritten, 0) := by
  have hbalanced : Event.IsBalanced [.text "||h", .text "||"] := by decide
  have hcanonical : Canonical halfSpoilers := by
    simp [halfSpoilers, canonical_cons, IsCanonical, IsSound, IsApart, kind, Tag.isVerbatim,
      Event.isContent, Event.isText, Event.isLeaf, hbalanced]
  obtain ⟨rewritten, hrewritten, -, -, hbuilt, hagain⟩ := apply_canonical {} hcanonical
  refine ⟨hcanonical, ?_⟩
  intro expected
  have hexpected : (apply {} (.root halfSpoilers)).1 = expected := by
    rw [apply_eq]
    decide +kernel
  have hsame : Node.root rewritten = expected := hrewritten.symm.trans hexpected
  rw [hsame] at hbuilt hagain
  exact ⟨hexpected, hbuilt, hagain ⟨"other"⟩⟩

end SpanStyle

end SpoilerMarkup
