import SpoilerMarkup.Proofs.Node.Build

/-!
Trees that are flattened and built again. Of a tree whose nodes are what their kinds say, all comes
back but two things: roots inside it are dissolved, and then neighbouring texts are joined. So a
tree comes back as it was if it has neither. Main statement: `ofEvents_toEvents`.
-/
namespace SpoilerMarkup

open Event
open Textual (attach attach_nil head_attach joinAll joinAll_cons joinAll_nil)

namespace Node

mutual

/-- What a node leaves in the list that it stands in, once all roots are dissolved: a root leaves
its children, and any other node itself. -/
def dissolve : Node → List Node
  | .root children => dissolveList children
  | .element tag children => [.element tag (dissolveList children)]
  | node => [node]

def dissolveList : List Node → List Node
  | [] => []
  | node :: nodes => dissolve node ++ dissolveList nodes

end

instance : Textual Node where
  text := .text
  isText node := node.kind = .text
  string
    | .text value => value
    | _ => ""
  isText_text _ := rfl
  string_text _ := rfl
  text_string {node} h := by
    cases node with
    | text value => rfl
    | _ => cases h

mutual

/-- A node with neighbouring texts joined in all child lists below it. -/
def join : Node → Node
  | .root children => .root (joinList children)
  | .element tag children => .element tag (joinList children)
  | node => node

/-- Joins neighbouring texts in a list and in all child lists below it. -/
def joinList : List Node → List Node
  | [] => []
  | node :: nodes => attach true (join node) (joinList nodes)

end

/-- A sound node that is a leaf only where no other kind of node would do. -/
def IsProper (node : Node) : Prop :=
  node.IsSound ∧ ∀ event, node = .leaf event → event.isLeaf

/-- A list of nodes that are proper all the way down. -/
def Proper : List Node → Prop :=
  Everywhere fun node _ => node.IsProper

theorem Canonical.proper {nodes : List Node} (h : Canonical nodes) : Proper nodes :=
  h.imp fun _ _ h => ⟨h.1, h.2.2⟩

theorem joinList_eq (nodes : List Node) : joinList nodes = joinAll (nodes.map join) := by
  induction nodes with
  | nil => rfl
  | cons node nodes ih => rw [joinList, ih, List.map_cons, joinAll_cons]

@[simp] theorem textual_isText (node : Node) : Textual.isText node = decide (node.kind = .text) := rfl

theorem attach_of_head {nodes : List Node} {node : Node}
    (h : node.kind = .text → ∀ next ∈ nodes.head?, next.kind ≠ .text) :
    attach true node nodes = node :: nodes :=
  Textual.attach_of_head (by simpa using h) true

theorem attach_attach (value value' : String) (nodes : List Node) :
    attach true (.text value) (attach true (.text value') nodes) =
      attach true (.text (value ++ value')) nodes :=
  Textual.attach_attach true value value' nodes

/-- A list whose nodes stand apart has nothing to be dissolved or joined. -/
theorem joinList_dissolveList {nodes : List Node} (h : Apart nodes) :
    joinList (dissolveList nodes) = nodes := by
  induction h with
  | nil => rfl
  | @cons node nodes first _ _ ihbelow ihrest =>
    have hnode : dissolve node = [node.withChildren (dissolveList node.children)] := by
      cases node with
      | root children => exact absurd rfl first.1
      | _ => rfl
    have hjoin : join (node.withChildren (dissolveList node.children)) = node := by
      cases node with
      | root children => exact absurd rfl first.1
      | element tag children => exact congrArg (element tag) ihbelow
      | _ => rfl
    rw [dissolveList, hnode, List.singleton_append, joinList, hjoin, ihrest, attach_of_head first.2]

end Node

namespace Builder

/-- Adds a node behind a node list that is kept newest first. A text before it grows by a text. -/
def append (nodes : List Node) : Node → List Node
  | .text value => appendText value nodes
  | node => node :: nodes

theorem append_of_texts (last value : String) (nodes : List Node) :
    append (.text last :: nodes) (.text value) = .text (last ++ value) :: nodes := rfl

theorem append_of_head {nodes : List Node} {node : Node}
    (h : node.kind = .text → ∀ last ∈ nodes.head?, last.kind ≠ .text) :
    append nodes node = node :: nodes := by
  unfold append appendText
  split
  · split <;> simp_all [Node.kind]
  · rfl

/-- Nodes added one by one are joined with each other and with the node that was last. -/
theorem reverse_foldl_append (nodes : List Node) (last : Node) (kept : List Node) :
    (nodes.foldl append (last :: kept)).reverse =
      kept.reverse ++ attach true last (joinAll nodes) := by
  induction nodes generalizing last kept with
  | nil =>
    rw [List.foldl_nil, joinAll_nil, attach_nil, List.reverse_cons]
  | cons node nodes ih =>
    rw [List.foldl_cons, joinAll_cons]
    by_cases htexts : node.kind = .text ∧ last.kind = .text
    · obtain ⟨value, rfl⟩ := Node.eq_text_of_kind htexts.1
      obtain ⟨last, rfl⟩ := Node.eq_text_of_kind htexts.2
      rw [append_of_texts, ih, Node.attach_attach]
    · have hlast : append (last :: kept) node = node :: last :: kept :=
        append_of_head (by simpa using fun hnode hlast => htexts ⟨hnode, hlast⟩)
      have hattach : attach true last (attach true node (joinAll nodes)) =
          last :: attach true node (joinAll nodes) := by
        apply Node.attach_of_head
        intro hkind first hfirst hfirst'
        have hnode : Textual.isText first = Textual.isText node := head_attach true node _ first hfirst
        exact htexts ⟨by simpa [hfirst'] using hnode, hkind⟩
      rw [hlast, ih, hattach]
      simp

theorem reverse_foldl_append_nil (nodes : List Node) :
    (nodes.foldl append []).reverse = joinAll nodes := by
  cases nodes with
  | nil => rfl
  | cons node nodes =>
    rw [List.foldl_cons, append_of_head (by simp), reverse_foldl_append]
    rfl

theorem modifyNodes_modifyNodes (b : Builder) (change change' : List Node → List Node) :
    (b.modifyNodes change).modifyNodes change' =
      b.modifyNodes fun nodes => change' (change nodes) := by
  obtain ⟨top, opened, verbatim⟩ := b
  cases opened <;> rfl

theorem modifyNodes_id (b : Builder) : b.modifyNodes (fun nodes => nodes) = b := by
  obtain ⟨top, opened, verbatim⟩ := b
  cases opened <;> rfl

theorem foldl_push_of_level {level level' : Nat} {events : List Event}
    (h : events.foldlM levelAfter? level = some level') (b : Builder) (tag : Tag)
    (kept : List Event) :
    events.foldl push { b with verbatim := some ⟨tag, kept, level⟩ } =
      { b with verbatim := some ⟨tag, events.reverse ++ kept, level'⟩ } := by
  induction events generalizing level kept with
  | nil =>
    cases h
    rfl
  | cons event events ih =>
    obtain ⟨next, hnext, h⟩ := foldlM_cons_eq_some.1 h
    have hpush : push { b with verbatim := some ⟨tag, kept, level⟩ } event =
        { b with verbatim := some ⟨tag, event :: kept, next⟩ } := by
      cases event with
      | finish tag =>
        cases level with
        | zero => simp [levelAfter?] at hnext
        | succ level =>
          cases hnext
          rfl
      | _ =>
        cases hnext
        rfl
    rw [List.foldl_cons, hpush, ih h]
    simp

theorem pushContent_of_isLeaf {event : Event} (h : event.isLeaf) (b : Builder) :
    b.pushContent event = b.add (.leaf event) := by
  cases event <;> simp_all [isLeaf, pushContent]

/-- What the events of a node add to the list that is being built: the node without the roots in it
and with its texts joined. -/
theorem foldl_push_flatten {node : Node} (h : node.IsProper)
    (hbelow : ∀ (b : Builder) (inHtmlBlock : Bool), b.verbatim = none →
      (Node.flattenList inHtmlBlock node.children).foldl push b =
        b.modifyNodes (((Node.dissolveList node.children).map Node.join).foldl append ·))
    {b : Builder} (hverbatim : b.verbatim = none) (inHtmlBlock : Bool) :
    (node.flatten inHtmlBlock).foldl push b =
      b.modifyNodes ((node.dissolve.map Node.join).foldl append ·) := by
  cases node with
  | root children => exact hbelow b false hverbatim
  | element tag children =>
    obtain ⟨top, opened, verbatim⟩ := b
    cases hverbatim
    have hstart : push ⟨top, opened, none⟩ (.start tag) = ⟨top, ⟨tag, []⟩ :: opened, none⟩ := by
      have htag : ¬ tag.isVerbatim := h.1
      simp [push, pushContent, htag]
    have hchildren := hbelow ⟨top, ⟨tag, []⟩ :: opened, none⟩ (tag = .htmlBlock) rfl
    rw [Node.children_element] at hchildren
    rw [Node.flatten, List.foldl_cons, hstart, List.foldl_append, hchildren]
    simp [modifyNodes, push, pushContent, closeElement, add, reverse_foldl_append_nil,
      ← Node.joinList_eq, Node.dissolve, Node.join, append]
  | verbatim tag events =>
    obtain ⟨top, opened, verbatim⟩ := b
    cases hverbatim
    have hstart : push ⟨top, opened, none⟩ (.start tag) = ⟨top, opened, some ⟨tag, [], 0⟩⟩ := by
      have htag : tag.isVerbatim := h.1.1
      simp [push, pushContent, htag]
    have hevents := foldl_push_of_level h.1.2 ⟨top, opened, none⟩ tag []
    rw [Node.flatten, List.foldl_cons, hstart, List.foldl_append, hevents]
    simp [push, pushVerbatim, closeVerbatim, add, Node.dissolve, Node.join, append]
  | leaf event =>
    have hleaf : event.isLeaf := h.2 event rfl
    rw [Node.flatten, List.foldl_cons, List.foldl_nil, push_of_none hverbatim,
      pushContent_of_isLeaf hleaf]
    rfl
  | html value =>
    cases inHtmlBlock <;>
      simp [Node.flatten, push_of_none hverbatim, pushContent, add, Node.dissolve, Node.join,
        append]
  | text value | inlineCode value =>
    simp [Node.flatten, push_of_none hverbatim, pushContent, add, Node.dissolve, Node.join, append]

theorem foldl_push_flattenList {nodes : List Node} (h : Node.Proper nodes) {b : Builder}
    (hverbatim : b.verbatim = none) (inHtmlBlock : Bool) :
    (Node.flattenList inHtmlBlock nodes).foldl push b =
      b.modifyNodes (((Node.dissolveList nodes).map Node.join).foldl append ·) := by
  induction h generalizing b inHtmlBlock with
  | nil => simp [Node.dissolveList, modifyNodes_id]
  | @cons node nodes first _ _ ihbelow ihrest =>
    have hnode := foldl_push_flatten first (fun b inHtmlBlock hb => ihbelow hb inHtmlBlock)
      hverbatim inHtmlBlock
    rw [Node.flattenList_cons, List.foldl_append, hnode,
      ihrest (by rwa [verbatim_modifyNodes]), modifyNodes_modifyNodes]
    simp [Node.dissolveList]

end Builder

namespace Node

/-- A proper tree comes back without the roots in it and with its texts joined. -/
theorem ofEvents_flatten {tree : Node} (h : Proper [tree]) :
    ofEvents tree.toEvents = .root (joinList tree.dissolve) ∧
      Canonical (joinList tree.dissolve) := by
  have hevents : tree.toEvents = flattenList false [tree] := by simp [toEvents]
  have hempty : Builder.empty.verbatim = none := rfl
  have hpush := Builder.foldl_push_flattenList h hempty false
  have hcanonical := (Builder.canonical_empty.foldl_push tree.toEvents).top
  have hnodes : (((dissolveList [tree]).map join).foldl Builder.append []).reverse =
      joinList tree.dissolve := by
    simp [Builder.reverse_foldl_append_nil, dissolveList, joinList_eq]
  rw [hevents, hpush] at hcanonical
  rw [ofEvents, hevents, hpush]
  simp only [Builder.modifyNodes, Builder.empty] at hcanonical ⊢
  rw [hnodes] at hcanonical
  exact ⟨by rw [Builder.finish_of_top, hnodes], hcanonical⟩

/-- A root with canonical children comes back as it was. -/
theorem ofEvents_toEvents_of_canonical {nodes : List Node} (h : Canonical nodes) :
    ofEvents (root nodes).toEvents = .root nodes := by
  have hproper : Proper [root nodes] := .cons ⟨trivial, nofun⟩ h.proper .nil
  rw [(ofEvents_flatten hproper).1, dissolve, joinList_dissolveList h.apart]

/-- A proper tree that is flattened and built again becomes a root whose children are those of the
tree, or the tree itself if it is no root, with the roots among them and below them dissolved and
with neighbouring texts joined then. Once built again, a tree does not change any more; and it
has not changed at all exactly if it was a root whose nodes stand apart. -/
theorem ofEvents_toEvents {tree : Node} (h : Proper [tree]) :
    ofEvents tree.toEvents = .root (joinList tree.dissolve) ∧
      ofEvents (ofEvents tree.toEvents).toEvents = ofEvents tree.toEvents ∧
      (ofEvents tree.toEvents = tree ↔ ∃ nodes, tree = .root nodes ∧ Apart nodes) := by
  obtain ⟨hbuilt, hcanonical⟩ := ofEvents_flatten h
  have hroot : ∀ {nodes : List Node}, Proper nodes → Apart nodes →
      ofEvents (root nodes).toEvents = .root nodes := by
    intro nodes hproper hapart
    have hnodes : Proper [root nodes] := .cons ⟨trivial, nofun⟩ hproper .nil
    rw [(ofEvents_flatten hnodes).1, dissolve, joinList_dissolveList hapart]
  refine ⟨hbuilt, ?_, ?_, ?_⟩
  · rw [hbuilt, hroot hcanonical.proper hcanonical.apart]
  · intro hsame
    exact ⟨joinList tree.dissolve, by rw [← hbuilt, hsame], hcanonical.apart⟩
  · rintro ⟨nodes, rfl, hapart⟩
    have hproper : Proper nodes := (everywhere_cons.1 h).2.1
    exact hroot hproper hapart

/-- Roots whose texts meet texts outside them, one root that is empty, and an image whose
description opens elements of its own. -/
def rootsInside : Node :=
  .root
    [.element .htmlBlock
      [.text "a", .root [.text "b", .html "<p>", .root [.text "c"]], .text "d"],
    .verbatim (.image ⟨.inline, "u", "", ""⟩) [.start .strong, .text "e", .text "f", .finish .link],
    .leaf .softBreak, .text "g", .root [], .text ""]

theorem ofEvents_toEvents_rootsInside :
    Proper [rootsInside] ∧
      ofEvents rootsInside.toEvents =
        .root [.element .htmlBlock [.text "ab", .html "<p>", .text "cd"],
          .verbatim (.image ⟨.inline, "u", "", ""⟩)
            [.start .strong, .text "e", .text "f", .finish .link],
          .leaf .softBreak, .text "g"] ∧
      ofEvents (ofEvents rootsInside.toEvents).toEvents = ofEvents rootsInside.toEvents ∧
      ofEvents rootsInside.toEvents ≠ rootsInside := by
  have hbalanced : IsBalanced [.start .strong, .text "e", .text "f", .finish .link] := by decide
  have hproper : Proper [rootsInside] := by
    simp [rootsInside, Proper, everywhere_cons, Everywhere.nil, IsProper, IsSound, Tag.isVerbatim,
      isContent, isText, isLeaf, hbalanced]
  obtain ⟨hbuilt, hagain, hsame⟩ := ofEvents_toEvents hproper
  refine ⟨hproper, ?_, hagain, ?_⟩
  · rw [hbuilt]
    decide
  · rw [hbuilt]
    decide

end Node

end SpoilerMarkup
