import SpoilerMarkup.Proofs.Node.Flatten
import SpoilerMarkup.Proofs.SpanStyle.Rewrite
import SpoilerMarkup.Proofs.SpanStyle.Stream

/-!
Spoilers may be replaced in a tree before it is flattened, or in its stream afterwards. The two
streams have the same events at the same places, apart from the kind of the spans that stand
directly inside an HTML block. Main statement: `stream_toEvents`.
-/
namespace SpoilerMarkup.SpanStyle

open Event Node

/-- The event of a piece of a text. Directly inside an HTML block a span is written by `block`, and
everywhere else it is a part of a line. -/
def pieceEvent (style : SpanStyle) (block : String → Event) (inHtmlBlock : Bool) : Segment → Event
  | .text value => .text value
  | .spoiler inner =>
    if inHtmlBlock then block (style.span inner) else .inlineHtml (style.span inner)

mutual

/-- The events of a tree, where every text of a child list is split at its spoilers. -/
def splitEvents (style : SpanStyle) (block : String → Event) (inHtmlBlock : Bool) :
    Node → List Event
  | .root children => splitEventsList style block false children
  | .element tag children =>
    .start tag :: (splitEventsList style block (tag = .htmlBlock) children ++ [.finish tag.close])
  | node => node.flatten inHtmlBlock

def splitEventsList (style : SpanStyle) (block : String → Event) (inHtmlBlock : Bool) :
    List Node → List Event
  | [] => []
  | .text value :: nodes =>
    (match Segment.split value with
      | none => [.text value]
      | some pieces => pieces.map (style.pieceEvent block inHtmlBlock)) ++
      splitEventsList style block inHtmlBlock nodes
  | node :: nodes =>
    splitEvents style block inHtmlBlock node ++ splitEventsList style block inHtmlBlock nodes

end

/-- No text that stands directly inside an HTML block has a spoiler. -/
def BlocksSettled : List Node → Prop :=
  Everywhere fun node _ => ∀ nodes, node = .element .htmlBlock nodes →
    ∀ child ∈ nodes, spoilersIn child = 0

variable (style : SpanStyle)

theorem splitEventsList_cons (block : String → Event) (inHtmlBlock : Bool) {node : Node}
    (h : spoilersIn node = 0) (nodes : List Node) :
    style.splitEventsList block inHtmlBlock (node :: nodes) =
      style.splitEvents block inHtmlBlock node ++
        style.splitEventsList block inHtmlBlock nodes := by
  cases node with
  | text value =>
    have hnone : Segment.split value = none := Segment.spoilerCount_eq_zero_iff.1 h
    simp [splitEventsList, splitEvents, flatten, hnone]
  | _ => simp [splitEventsList]

theorem splitEventsList_text (block : String → Event) (inHtmlBlock : Bool) {value : String}
    {pieces : List Segment} (h : Segment.split value = some pieces) (nodes : List Node) :
    style.splitEventsList block inHtmlBlock (.text value :: nodes) =
      pieces.map (style.pieceEvent block inHtmlBlock) ++
        style.splitEventsList block inHtmlBlock nodes := by
  simp [splitEventsList, h]

/-- In a stream it is not seen where the pieces of a text stand. -/
theorem pieceEvent_inlineHtml (inHtmlBlock : Bool) :
    style.pieceEvent .inlineHtml inHtmlBlock = style.eventOfSegment := by
  funext piece
  cases piece <;> cases inHtmlBlock <;> rfl

theorem flattenList_map_nodeOfSegment (pieces : List Segment) (inHtmlBlock : Bool) :
    flattenList inHtmlBlock (pieces.map style.nodeOfSegment) =
      pieces.map (style.pieceEvent .html inHtmlBlock) := by
  induction pieces with
  | nil => rfl
  | cons piece pieces ih =>
    rw [List.map_cons, flattenList_cons, ih]
    cases piece <;> cases inHtmlBlock <;> rfl

/-- A node that is no text with a spoiler: its stream is changed below it only. -/
theorem changeAtDepth_flatten {node : Node} (hsound : node.IsSound) (hnode : spoilersIn node = 0)
    (hdepth : ∀ inHtmlBlock, depthAfterAll 0 (flattenList inHtmlBlock node.children) = 0)
    (hbelow : ∀ inHtmlBlock,
      changeAtDepth style.outputs 0 (flattenList inHtmlBlock node.children) =
        style.splitEventsList .inlineHtml inHtmlBlock node.children)
    (inHtmlBlock : Bool) :
    changeAtDepth style.outputs 0 (node.flatten inHtmlBlock) =
      style.splitEvents .inlineHtml inHtmlBlock node := by
  cases node with
  | root children =>
    rw [flatten, splitEvents]
    exact hbelow false
  | element tag children =>
    simp only [children_element] at hdepth hbelow
    rw [flatten, changeAtDepth_element hsound rfl rfl (hdepth _), hbelow, splitEvents]
  | verbatim tag events =>
    rw [splitEvents, flatten, changeAtDepth_verbatim hsound.1 rfl style.outputs_succ hsound.2]
    all_goals simp
  | text value =>
    have hnone : Segment.split value = none := Segment.spoilerCount_eq_zero_iff.1 hnode
    simp [splitEvents, flatten, outputs_of_none style hnone]
  | html value => cases inHtmlBlock <;> simp [splitEvents, flatten, outputs]
  | inlineCode value => simp [splitEvents, flatten, outputs]
  | leaf event => simp [splitEvents, flatten, outputs_of_not_text style 0 hsound.2]

theorem stream_flattenList {nodes : List Node} (h : Sound nodes) (inHtmlBlock : Bool) :
    style.stream (flattenList inHtmlBlock nodes) =
      style.splitEventsList .inlineHtml inHtmlBlock nodes := by
  simp only [stream_eq]
  induction h generalizing inHtmlBlock with
  | nil => rfl
  | @cons node nodes first hbelow hrest ihbelow ihrest =>
    have hdepth := depthAfterAll_flatten first (depthAfterAll_flattenList hbelow) inHtmlBlock
    rw [flattenList_cons, changeAtDepth_append, hdepth, ihrest]
    by_cases hnode : spoilersIn node = 0
    · rw [splitEventsList_cons style _ _ hnode, changeAtDepth_flatten style first hnode
        (depthAfterAll_flattenList hbelow) ihbelow]
    · obtain ⟨value, pieces, rfl, hsplit⟩ := exists_split_of_spoilersIn hnode
      rw [splitEventsList_text style _ _ hsplit, flatten, changeAtDepth_cons,
        outputs_of_some style hsplit, changeAtDepth_nil, List.append_nil, pieceEvent_inlineHtml]

theorem flatten_rewrite {node : Node} (hnode : spoilersIn node = 0)
    (hbelow : ∀ inHtmlBlock, flattenList inHtmlBlock (style.rewriteList node.children) =
      style.splitEventsList .html inHtmlBlock node.children) (inHtmlBlock : Bool) :
    (style.rewrite node).flatten inHtmlBlock = style.splitEvents .html inHtmlBlock node := by
  cases node with
  | root children =>
    rw [rewrite, flatten, splitEvents]
    exact hbelow false
  | element tag children =>
    have hchildren := hbelow (tag = .htmlBlock)
    rw [children_element] at hchildren
    rw [rewrite, flatten, hchildren, splitEvents]
  | _ => simp [rewrite, splitEvents]

theorem flattenList_rewriteList (nodes : List Node) (inHtmlBlock : Bool) :
    flattenList inHtmlBlock (style.rewriteList nodes) =
      style.splitEventsList .html inHtmlBlock nodes := by
  induction nodes using list_induction generalizing inHtmlBlock with
  | nil => rfl
  | cons node nodes below rest =>
    by_cases hnode : spoilersIn node = 0
    · rw [rewriteList_cons style hnode, flattenList_cons, rest, flatten_rewrite style hnode below,
        splitEventsList_cons style _ _ hnode]
    · obtain ⟨value, pieces, rfl, hsplit⟩ := exists_split_of_spoilersIn hnode
      rw [rewriteList_text, rewriteText_of_some hsplit, flattenList_append, rest,
        flattenList_map_nodeOfSegment, splitEventsList_text style _ _ hsplit]

/-- What `block` is does not matter where it is not used. -/
theorem splitEventsList_of_blocksSettled (block block' : String → Event) {nodes : List Node}
    (h : BlocksSettled nodes) {inHtmlBlock : Bool}
    (hnodes : inHtmlBlock = true → ∀ node ∈ nodes, spoilersIn node = 0) :
    style.splitEventsList block inHtmlBlock nodes =
      style.splitEventsList block' inHtmlBlock nodes := by
  induction h generalizing inHtmlBlock with
  | nil => rfl
  | @cons node nodes first _ _ ihbelow ihrest =>
    have hrest := ihrest fun hblock node hnode => hnodes hblock node (by simp [hnode])
    by_cases hnode : spoilersIn node = 0
    · have hevents : style.splitEvents block inHtmlBlock node =
          style.splitEvents block' inHtmlBlock node := by
        cases node with
        | root children =>
          rw [splitEvents, splitEvents]
          exact ihbelow (by simp)
        | element tag children =>
          have hchildren := @ihbelow (tag = .htmlBlock) fun hblock =>
            first children (by simpa using hblock)
          rw [children_element] at hchildren
          rw [splitEvents, splitEvents, hchildren]
        | _ => simp [splitEvents]
      rw [splitEventsList_cons style _ _ hnode, splitEventsList_cons style _ _ hnode, hevents,
        hrest]
    · obtain ⟨value, pieces, rfl, hsplit⟩ := exists_split_of_spoilersIn hnode
      cases inHtmlBlock with
      | true => exact absurd (hnodes rfl _ (by simp)) hnode
      | false =>
        have hpieces : style.pieceEvent block false = style.pieceEvent block' false := by
          funext piece
          cases piece <;> rfl
        rw [splitEventsList_text style _ _ hsplit, splitEventsList_text style _ _ hsplit, hpieces,
          hrest]

/-- The stream of a sound root or element, with its spoilers replaced as it is read, and the stream
of the tree that a style makes of it are both the events of the tree with its texts split. All
spans are parts of a line in the first one, and in the second one those directly inside an HTML
block are blocks. Where there is no such span the streams are the same. -/
theorem stream_toEvents {tree : Node} (hparent : tree.isParent) (hsound : Sound [tree]) :
    style.stream tree.toEvents = style.splitEvents .inlineHtml false tree ∧
      (style.apply tree).1.toEvents = style.splitEvents .html false tree ∧
      (BlocksSettled [tree] → style.stream tree.toEvents = (style.apply tree).1.toEvents) := by
  have hnode := spoilersIn_of_isParent hparent
  have hsingle : ∀ block,
      style.splitEventsList block false [tree] = style.splitEvents block false tree := by
    intro block
    rw [splitEventsList_cons style block false hnode, splitEventsList, List.append_nil]
  have hstream : style.stream tree.toEvents = style.splitEvents .inlineHtml false tree := by
    rw [← hsingle, ← stream_flattenList style hsound, flattenList_cons, flattenList_nil,
      List.append_nil, toEvents]
  have hevents : (style.apply tree).1.toEvents = style.splitEvents .html false tree := by
    rw [← hsingle, ← flattenList_rewriteList, rewriteList_cons style hnode, rewriteList,
      flattenList_cons, flattenList_nil, List.append_nil, apply_eq, toEvents]
  refine ⟨hstream, hevents, fun hsettled => ?_⟩
  rw [hstream, hevents, ← hsingle, ← hsingle]
  exact splitEventsList_of_blocksSettled style _ _ hsettled (by simp)

/-- Texts in an HTML block, in a root and in emphasis inside it, and the description of an image. -/
def blockSpoilers : Node :=
  .element .htmlBlock
    [.text "a ||b||", .root [.text "||c||"], .element .emphasis [.text "||d||", .text ""],
      .verbatim (.image ⟨.inline, "u", "", ""⟩) [.start .strong, .text "||e||", .finish .link],
      .leaf (.html "<hr>")]

/-- Only the first of the spans stands directly inside the HTML block. -/
theorem stream_toEvents_blockSpoilers :
    blockSpoilers.isParent ∧ Sound [blockSpoilers] ∧
      stream {} blockSpoilers.toEvents =
        [.start .htmlBlock, .text "a ", .inlineHtml "<span class=\"spoiler\">b</span>",
          .inlineHtml "<span class=\"spoiler\">c</span>", .start .emphasis,
          .inlineHtml "<span class=\"spoiler\">d</span>", .text "", .finish .emphasis,
          .start (.image ⟨.inline, "u", "", ""⟩), .start .strong, .text "||e||", .finish .link,
          .finish .image, .html "<hr>", .finish .htmlBlock] ∧
      (apply {} blockSpoilers).1.toEvents =
        [.start .htmlBlock, .text "a ", .html "<span class=\"spoiler\">b</span>",
          .inlineHtml "<span class=\"spoiler\">c</span>", .start .emphasis,
          .inlineHtml "<span class=\"spoiler\">d</span>", .text "", .finish .emphasis,
          .start (.image ⟨.inline, "u", "", ""⟩), .start .strong, .text "||e||", .finish .link,
          .finish .image, .html "<hr>", .finish .htmlBlock] := by
  have hparent : blockSpoilers.isParent := rfl
  have hbalanced : IsBalanced [.start .strong, .text "||e||", .finish .link] := by decide
  have hsound : Sound [blockSpoilers] := by
    simp [blockSpoilers, Sound, everywhere_cons, Everywhere.nil, IsSound, Tag.isVerbatim,
      isContent, isText, hbalanced]
  obtain ⟨hstream, hevents, -⟩ := stream_toEvents {} hparent hsound
  refine ⟨hparent, hsound, ?_, ?_⟩
  · rw [hstream]
    decide +kernel
  · rw [hevents]
    decide +kernel

end SpoilerMarkup.SpanStyle
