import SpoilerMarkup.Proofs.Html.Writer
import SpoilerMarkup.Proofs.Node.Build
import SpoilerMarkup.Proofs.SpanStyle.Rewrite
import SpoilerMarkup.Proofs.SpanStyle.Stream

/-!
A style applied to the tree of a stream, and a stream whose spoilers are replaced as it is read,
are the same document. Main statement: `apply_agrees_with_stream`.
-/
namespace SpoilerMarkup.SpanStyle

open Event Node

variable (style : SpanStyle)

theorem isSound_rewrite {node : Node} (h : node.IsSound) : (style.rewrite node).IsSound := by
  cases node <;> exact h

theorem sound_map_nodeOfSegment (pieces : List Segment) :
    Sound (pieces.map style.nodeOfSegment) := by
  induction pieces with
  | nil => exact .nil
  | cons piece pieces ih =>
    cases piece with
    | text value => exact .cons trivial .nil ih
    | spoiler inner => exact .cons trivial .nil ih

/-- A rewritten tree is sound again. -/
theorem sound_rewriteList {nodes : List Node} (h : Sound nodes) :
    Sound (style.rewriteList nodes) := by
  induction h with
  | nil => exact .nil
  | @cons node nodes first _ _ ihbelow ihrest =>
    by_cases hnode : spoilersIn node = 0
    · rw [rewriteList_cons style hnode]
      refine .cons (isSound_rewrite style first) ?_ ihrest
      rw [children_rewrite]
      exact ihbelow
    · obtain ⟨value, pieces, rfl, hsplit⟩ := exists_split_of_spoilersIn hnode
      rw [rewriteList_text, rewriteText_of_some hsplit]
      exact (sound_map_nodeOfSegment style pieces).append ihrest

/-- The pieces of a text are the same in a tree and in a stream, up to the kind of raw markup. -/
theorem plainMarkup_map_nodeOfSegment (pieces : List Segment) (inHtmlBlock : Bool) :
    plainMarkup 0 (flattenList inHtmlBlock (pieces.map style.nodeOfSegment)) =
      plainMarkup 0 (pieces.map style.eventOfSegment) := by
  induction pieces with
  | nil => rfl
  | cons piece pieces ih =>
    cases piece with
    | text value => exact congrArg (Event.text value :: ·) ih
    | spoiler inner =>
      cases inHtmlBlock <;> exact congrArg (Event.inlineHtml (style.span inner) :: ·) ih

theorem plainMarkup_rewrite {node : Node} (hsound : node.IsSound) (hnode : spoilersIn node = 0)
    (hdepth : ∀ inHtmlBlock, depthAfterAll 0 (flattenList inHtmlBlock node.children) = 0)
    (hdepth' : ∀ inHtmlBlock,
      depthAfterAll 0 (flattenList inHtmlBlock (style.rewriteList node.children)) = 0)
    (hbelow : ∀ inHtmlBlock,
      plainMarkup 0 (flattenList inHtmlBlock (style.rewriteList node.children)) =
        plainMarkup 0 (changeAtDepth style.outputs 0 (flattenList inHtmlBlock node.children)))
    (inHtmlBlock : Bool) :
    plainMarkup 0 ((style.rewrite node).flatten inHtmlBlock) =
      plainMarkup 0 (changeAtDepth style.outputs 0 (node.flatten inHtmlBlock)) := by
  cases node with
  | root children => exact hbelow false
  | element tag children =>
    simp only [children_element] at hdepth hdepth' hbelow
    have hstream : depthAfterAll 0 (changeAtDepth style.outputs 0
        (flattenList (tag = .htmlBlock) children)) = 0 := by
      rw [depthAfterAll_changeAtDepth style.keepsDepth_outputs, hdepth]
    rw [rewrite, flatten, flatten, changeAtDepth_element hsound rfl rfl (hdepth _), plainMarkup,
      changeAtDepth_element hsound rfl rfl (hdepth' _),
      changeAtDepth_element hsound rfl rfl hstream]
    rw [← plainMarkup, hbelow]
  | verbatim tag events =>
    change plainMarkup 0 (flatten inHtmlBlock (.verbatim tag events)) = _
    rw [flatten, changeAtDepth_verbatim hsound.1 rfl style.outputs_succ hsound.2]
  | text value =>
    have hsplit : Segment.split value = none := Segment.spoilerCount_eq_zero_iff.1 hnode
    change plainMarkup 0 [.text value] = _
    rw [flatten, changeAtDepth_cons, outputs_of_none style hsplit]
    rfl
  | html value => cases inHtmlBlock <;> rfl
  | inlineCode value => rfl
  | leaf event =>
    change plainMarkup 0 [event] = _
    rw [flatten, changeAtDepth_cons, outputs_of_not_text style 0 hsound.2]
    rfl

/-- The stream of a rewritten tree is the stream of the tree with its spoilers replaced. -/
theorem plainMarkup_rewriteList {nodes : List Node} (h : Sound nodes) (inHtmlBlock : Bool) :
    plainMarkup 0 (flattenList inHtmlBlock (style.rewriteList nodes)) =
      plainMarkup 0 (style.stream (flattenList inHtmlBlock nodes)) := by
  simp only [stream_eq]
  induction h generalizing inHtmlBlock with
  | nil => rfl
  | @cons node nodes first hbelow hrest ihbelow ihrest =>
    have hdepth := depthAfterAll_flatten first (depthAfterAll_flattenList hbelow) inHtmlBlock
    have hstream : depthAfterAll 0
        (changeAtDepth style.outputs 0 (node.flatten inHtmlBlock)) = 0 := by
      rw [depthAfterAll_changeAtDepth style.keepsDepth_outputs, hdepth]
    rw [flattenList_cons, changeAtDepth_append, hdepth, plainMarkup_append hstream, ← ihrest]
    by_cases hnode : spoilersIn node = 0
    · have hbelow' := depthAfterAll_flattenList (sound_rewriteList style hbelow)
      have hdepth' : depthAfterAll 0 ((style.rewrite node).flatten inHtmlBlock) = 0 :=
        depthAfterAll_flatten (isSound_rewrite style first) (by rwa [children_rewrite]) inHtmlBlock
      rw [rewriteList_cons style hnode, flattenList_cons, plainMarkup_append hdepth',
        plainMarkup_rewrite style first hnode (depthAfterAll_flattenList hbelow) hbelow' ihbelow]
    · obtain ⟨value, pieces, rfl, hsplit⟩ := exists_split_of_spoilersIn hnode
      have hdepth' := depthAfterAll_flattenList (sound_map_nodeOfSegment style pieces) inHtmlBlock
      rw [rewriteList_text, rewriteText_of_some hsplit, flattenList_append,
        plainMarkup_append hdepth', plainMarkup_map_nodeOfSegment, flatten, changeAtDepth_cons,
        outputs_of_some style hsplit, changeAtDepth_nil, List.append_nil]

theorem countP_map_nodeOfSegment (pieces : List Segment) (inHtmlBlock : Bool) :
    (flattenList inHtmlBlock (pieces.map style.nodeOfSegment)).countP isMarkup =
      pieces.countP (!·.isText) := by
  induction pieces with
  | nil => rfl
  | cons piece pieces ih =>
    have hpiece : ((style.nodeOfSegment piece).flatten inHtmlBlock).countP isMarkup =
        if (!piece.isText) = true then 1 else 0 := by
      cases piece <;> cases inHtmlBlock <;> rfl
    rw [List.map_cons, flattenList_cons, List.countP_append, ih, hpiece, List.countP_cons,
      Nat.add_comm]

theorem countP_flatten_rewrite {node : Node}
    (hbelow : ∀ inHtmlBlock,
      (flattenList inHtmlBlock (style.rewriteList node.children)).countP isMarkup =
        (flattenList inHtmlBlock node.children).countP isMarkup + sumList spoilersIn node.children)
    (inHtmlBlock : Bool) :
    ((style.rewrite node).flatten inHtmlBlock).countP isMarkup =
      (node.flatten inHtmlBlock).countP isMarkup + sumList spoilersIn node.children := by
  cases node with
  | root children => exact hbelow false
  | element tag children =>
    have hchildren := hbelow (tag = .htmlBlock)
    rw [children_element] at hchildren
    simp [rewrite, flatten, isMarkup, hchildren]
  | _ => rfl

/-- The raw markup that the stream of a rewritten tree has more is the spoilers of the tree. -/
theorem countP_flattenList_rewriteList (nodes : List Node) (inHtmlBlock : Bool) :
    (flattenList inHtmlBlock (style.rewriteList nodes)).countP isMarkup =
      (flattenList inHtmlBlock nodes).countP isMarkup + sumList spoilersIn nodes := by
  induction nodes using list_induction generalizing inHtmlBlock with
  | nil => rfl
  | cons node nodes below rest =>
    rw [flattenList_cons, List.countP_append, sumList_cons]
    by_cases hnode : spoilersIn node = 0
    · rw [rewriteList_cons style hnode, flattenList_cons, List.countP_append, rest, hnode,
        countP_flatten_rewrite style below]
      omega
    · obtain ⟨value, pieces, rfl, hsplit⟩ := exists_split_of_spoilersIn hnode
      have hcount : spoilersIn (.text value) = pieces.countP (!·.isText) := by
        simp [spoilersIn, Segment.spoilerCount, hsplit]
      rw [rewriteList_text, rewriteText_of_some hsplit, flattenList_append, List.countP_append, rest,
        countP_map_nodeOfSegment, hcount]
      simp [flatten, isMarkup]
      omega

section

variable {nodes : List Node} (h : Canonical nodes)

include h

/-- In the stream of a canonical tree only texts inside verbatim elements are left to be joined. -/
theorem joinTexts_of_canonical :
    joinTexts (0 < ·) 0 (plainMarkup 0 (flattenList false nodes)) =
      joinTexts (fun _ => true) 0 (plainMarkup 0 (flattenList false nodes)) := by
  have hjoined : joinTexts (0 < ·) 0 (flattenList false nodes) =
      joinTexts (fun _ => true) 0 (flattenList false nodes) :=
    joinTexts_flattenList (fun depth => by simp) h.sound h.apart false
  rw [joinTexts_plainMarkup, hjoined, joinTexts_plainMarkup]

theorem joinTexts_outside_of_canonical :
    joinTexts (· = 0) 0 (plainMarkup 0 (flattenList false nodes)) =
      plainMarkup 0 (flattenList false nodes) := by
  rw [joinTexts_plainMarkup, joinTexts_outside_flattenList h]

end

/-- For a stream in which every element is closed and no text is empty: the events of its tree
after a style has been applied, with texts inside verbatim elements joined, are the events that
the stream with its texts merged becomes, where the kind of raw markup outside verbatim elements
does not count. Both have the same HTML, and the number that comes with the tree is that of the
pieces of raw markup that the stream gains. -/
theorem apply_agrees_with_stream (style : SpanStyle) {events : List Event}
    (hnested : IsNested events) (hempty : .text "" ∉ events) :
    joinTexts (0 < ·) 0 (plainMarkup 0 (style.apply (ofEvents events)).1.toEvents) =
        plainMarkup 0 (style.stream (mergeTexts events)) ∧
      Html.ofEvents (style.apply (ofEvents events)).1.toEvents =
        Html.ofEvents (style.stream (mergeTexts events)) ∧
      (style.stream (mergeTexts events)).countP isMarkup =
        (mergeTexts events).countP isMarkup + (style.apply (ofEvents events)).2 := by
  obtain ⟨nodes, htree, hcanonical, hevents⟩ := ofEvents_spec hnested
  have hsound := hcanonical.sound
  have hrewritten : (style.rewrite (.root nodes)).toEvents =
      flattenList false (style.rewriteList nodes) := rfl
  have hcount : (root nodes).sumBelow spoilersIn = sumList spoilersIn nodes := sumBelow_eq _ _
  rw [apply_eq, htree]
  simp only [hrewritten, hcount]
  have htreeEvents : plainMarkup 0 (flattenList false (style.rewriteList nodes)) =
      style.stream (plainMarkup 0 (flattenList false nodes)) := by
    rw [plainMarkup_rewriteList style hsound, plainMarkup_stream]
  have hmerged : joinTexts (0 < ·) 0 (plainMarkup 0 (flattenList false nodes)) =
      plainMarkup 0 (mergeTexts events) := by
    rw [joinTexts_of_canonical hcanonical, hevents _ rfl, joinTexts_plainMarkup,
      mergeTexts_eq hempty]
  have hagree : joinTexts (0 < ·) 0
      (plainMarkup 0 (flattenList false (style.rewriteList nodes))) =
      plainMarkup 0 (style.stream (mergeTexts events)) := by
    rw [htreeEvents, joinTexts_stream, hmerged, plainMarkup_stream]
  have hempty' : .text "" ∉ plainMarkup 0 (flattenList false (style.rewriteList nodes)) := by
    rw [htreeEvents]
    intro hmem
    have hmem := text_mem_stream style hmem
    rw [← joinTexts_outside_of_canonical hcanonical, hevents _ rfl] at hmem
    exact hempty (text_mem_plainMarkup (text_mem_joinTexts hmem))
  refine ⟨hagree, ?_, ?_⟩
  · rw [← Html.ofEvents_plainMarkup, ← Html.ofEvents_joinTexts (0 < ·) hempty', hagree,
      Html.ofEvents_plainMarkup]
  · rw [← countP_plainMarkup 0 (style.stream _), ← hagree, countP_joinTexts, countP_plainMarkup,
      countP_flattenList_rewriteList, ← countP_plainMarkup 0 (mergeTexts events), ← hmerged,
      countP_joinTexts, countP_plainMarkup]

/-- A spoiler that a stream has cut in two texts, and code that only looks like one. -/
def cutSpoiler : List Event :=
  [.start .paragraph, .text "a |", .text "|b||", .finish .paragraph,
    .start (.codeBlock none), .text "|", .text "|c||", .finish .codeBlock]

theorem cutSpoiler_agrees :
    IsNested cutSpoiler ∧ .text "" ∉ cutSpoiler ∧
      joinTexts (0 < ·) 0 (plainMarkup 0 (apply {} (ofEvents cutSpoiler)).1.toEvents) =
        plainMarkup 0 (stream {} (mergeTexts cutSpoiler)) ∧
      Html.ofEvents (apply {} (ofEvents cutSpoiler)).1.toEvents =
        Html.ofEvents (stream {} (mergeTexts cutSpoiler)) ∧
      (stream {} (mergeTexts cutSpoiler)).countP isMarkup =
        (mergeTexts cutSpoiler).countP isMarkup + (apply {} (ofEvents cutSpoiler)).2 := by
  have hnested : IsNested cutSpoiler := by decide
  have hempty : .text "" ∉ cutSpoiler := by decide
  exact ⟨hnested, hempty, apply_agrees_with_stream {} hnested hempty⟩

end SpoilerMarkup.SpanStyle
