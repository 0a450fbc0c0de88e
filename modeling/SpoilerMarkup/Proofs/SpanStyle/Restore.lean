import SpoilerMarkup.Proofs.Node.Rebuild
import SpoilerMarkup.Proofs.SpanStyle.Rewrite

/-!
The text of a document is still there when a style has been applied to it: spans are read back as
the spoilers they were made of. What comes back has the texts of the document, though a text may
have been cut in several parts. Main statement: `restore?_apply`.
-/
namespace SpoilerMarkup

open Textual (attach)

namespace Node

theorem join_withChildren (node : Node) (nodes : List Node) :
    (node.withChildren nodes).join = node.withChildren (joinList nodes) := by
  cases node <;> simp [withChildren, join]

theorem joinList_cons (node : Node) (nodes : List Node) :
    joinList (node :: nodes) = attach true node.join (joinList nodes) := by
  rw [joinList]

theorem joinList_text (value : String) (nodes : List Node) :
    joinList (text value :: nodes) = attach true (.text value) (joinList nodes) := by
  simp [joinList, join]

/-- Texts that stand side by side become one, whatever stands behind them. -/
theorem joinList_texts {values : List String} (h : values ≠ []) (nodes : List Node) :
    joinList (values.map text ++ nodes) =
      attach true (.text (String.join values)) (joinList nodes) := by
  induction values with
  | nil => exact absurd rfl h
  | cons value values ih =>
    rw [List.map_cons, List.cons_append, joinList_text, String.join_cons]
    cases values with
    | nil => simp
    | cons next values => rw [ih (by simp), attach_attach]

/-- No text stands behind a text, all the way down. -/
def TextsApart : List Node → Prop :=
  Everywhere fun node nodes => node.kind = .text → ∀ next ∈ nodes.head?, next.kind ≠ .text

theorem joinList_of_textsApart {nodes : List Node} (h : TextsApart nodes) :
    joinList nodes = nodes := by
  induction h with
  | nil => rw [joinList]
  | @cons node nodes first _ _ ihbelow ihrest =>
    have hjoin : node.join = node := by
      have := join_withChildren node node.children
      rwa [ihbelow, withChildren_children] at this
    rw [joinList_cons, ihrest, hjoin, attach_of_head first]

end Node

namespace SpanStyle

/-- The inner text of a span, if the markup is one of this style. -/
def unspan? (style : SpanStyle) (markup : String) : Option String :=
  (("<span class=\"" ++ style.className ++ "\">").toList.isPrefixOf? markup.toList).bind
    fun rest => ("</span>".toList.isSuffixOf? rest).map String.ofList

mutual

/-- A tree with spoilers in the place of all raw markup in its child lists, unless some of this is
no span of the style. -/
def restore? (style : SpanStyle) : Node → Option Node
  | .root children => (restoreList? style children).map .root
  | .element tag children => (restoreList? style children).map (.element tag)
  | node => some node

def restoreList? (style : SpanStyle) : List Node → Option (List Node)
  | [] => some []
  | .html markup :: nodes => do
    let inner ← style.unspan? markup
    let nodes ← restoreList? style nodes
    return .text ("||" ++ inner ++ "||") :: nodes
  | node :: nodes => do
    let node ← restore? style node
    let nodes ← restoreList? style nodes
    return node :: nodes

end

variable (style : SpanStyle)

/-- No class and no inner text can make a span unreadable, since only its two ends are looked at. -/
theorem unspan?_span (inner : String) : style.unspan? (style.span inner) = some inner := by
  have hends : ∀ opening closing : String,
      (opening.toList.isPrefixOf? (opening ++ inner ++ closing).toList).bind
        (fun rest => (closing.toList.isSuffixOf? rest).map String.ofList) = some inner := by
    intro opening closing
    have hopening : opening.toList.isPrefixOf? (opening ++ inner ++ closing).toList =
        some (inner.toList ++ closing.toList) := by simp
    have hclosing : closing.toList.isSuffixOf? (inner.toList ++ closing.toList) =
        some inner.toList := by simp
    rw [hopening, Option.bind_some, hclosing, Option.map_some, String.ofList_toList]
  exact hends _ _

theorem restore?_eq (node : Node) :
    style.restore? node = (style.restoreList? node.children).map node.withChildren := by
  cases node <;> simp [restore?, restoreList?, Node.withChildren, Node.children] <;> rfl

theorem restoreList?_cons {node : Node} (h : node.kind ≠ .html) (nodes : List Node) :
    style.restoreList? (node :: nodes) = (do
      let node ← style.restore? node
      let nodes ← style.restoreList? nodes
      return node :: nodes) := by
  cases node <;> simp_all [restoreList?, Node.kind]

/-- Each piece of a text is read back as what it stood for in the text. -/
theorem restoreList?_pieces (pieces : List Segment) {nodes restored : List Node}
    (h : style.restoreList? nodes = some restored) :
    style.restoreList? (pieces.map style.nodeOfSegment ++ nodes) =
      some (pieces.map (.text ∘ Segment.source) ++ restored) := by
  induction pieces with
  | nil => simpa using h
  | cons piece pieces ih =>
    rw [List.map_cons, List.cons_append]
    cases piece with
    | text value =>
      rw [nodeOfSegment, restoreList?_cons style (by simp [Node.kind]), ih]
      rfl
    | spoiler inner =>
      rw [nodeOfSegment, restoreList?, unspan?_span, ih]
      rfl

/-- Where there was no raw markup before, all of it is read back, and joined texts are the same. -/
theorem restoreList?_rewriteList {nodes : List Node} (h : Node.countList .html nodes = 0) :
    ∃ restored, style.restoreList? (style.rewriteList nodes) = some restored ∧
      Node.joinList restored = Node.joinList nodes := by
  induction nodes using Node.list_induction with
  | nil => exact ⟨[], rfl, rfl⟩
  | cons node nodes below rest =>
    simp only [Node.countList_cons, Nat.add_eq_zero_iff, ite_eq_right_iff, Nat.one_ne_zero,
      imp_false] at h
    obtain ⟨⟨hkind, hbelow⟩, hnodes⟩ := h
    obtain ⟨restored, hrestored, hjoin⟩ := rest hnodes
    by_cases hnode : spoilersIn node = 0
    · obtain ⟨inside, hinside, hjoinInside⟩ := below hbelow
      have hrestore : style.restore? (style.rewrite node) = some (node.withChildren inside) := by
        rw [restore?_eq, children_rewrite, hinside, Option.map_some, rewrite_eq,
          Node.withChildren_withChildren]
      refine ⟨node.withChildren inside :: restored, ?_, ?_⟩
      · rw [rewriteList_cons style hnode, restoreList?_cons style (by rwa [kind_rewrite]), hrestore,
          hrestored]
        rfl
      · rw [Node.joinList_cons, Node.join_withChildren, hjoinInside, hjoin, Node.joinList_cons,
          ← Node.join_withChildren, Node.withChildren_children]
    · obtain ⟨value, pieces, rfl, hsplit⟩ := exists_split_of_spoilersIn hnode
      refine ⟨pieces.map (.text ∘ Segment.source) ++ restored, ?_, ?_⟩
      · rw [rewriteList_text, rewriteText_of_some hsplit]
        exact restoreList?_pieces style pieces hrestored
      · have hne : pieces.map Segment.source ≠ [] := by simpa using Segment.ne_nil_of_split hsplit
        obtain rfl := Segment.eq_segments_of_split hsplit
        rw [← List.map_map, Node.joinList_texts hne, Segment.join_source_segments,
          String.ofList_toList, hjoin, Node.joinList_text]

/-- A tree without raw markup is restored from what a style makes of it, whatever its class is: all
spans can be read, and with neighbouring texts joined the tree is what it was with neighbouring
texts joined. So it is the tree itself if that had no texts side by side. -/
theorem restore?_apply {tree : Node} (h : Node.countList .html [tree] = 0) :
    ∃ restored, style.restore? (style.apply tree).1 = some restored ∧
      restored.join = tree.join ∧ (Node.TextsApart [tree] → restored.join = tree) := by
  have hbelow : Node.countList .html tree.children = 0 := by
    simp only [Node.countList_cons] at h
    omega
  obtain ⟨restored, hrestored, hjoin⟩ := restoreList?_rewriteList style hbelow
  have hsame : (tree.withChildren restored).join = tree.join := by
    rw [Node.join_withChildren, hjoin, ← Node.join_withChildren, Node.withChildren_children]
  refine ⟨tree.withChildren restored, ?_, hsame, fun hapart => ?_⟩
  · rw [apply_eq, restore?_eq, children_rewrite, hrestored, Option.map_some, rewrite_eq,
      Node.withChildren_withChildren]
  · have hlist := Node.joinList_of_textsApart hapart
    rw [Node.joinList_cons, Node.joinList, Node.attach_of_head (by simp)] at hlist
    rw [hsame, List.singleton_inj.1 hlist]

/-- Spoilers that hold the end of a span, one of them with half of a delimiter left behind it, and a
root between texts. -/
def spanLike : Node :=
  .root
    [.element .paragraph
      [.text "a ||</span>||", .root [.text "||\">||b||"], .text "|||||", .leaf .softBreak],
    .verbatim (.codeBlock none) [.text "||c||"], .leaf (.html "<hr>"), .text ""]

/-- The class would end the attribute that it is written to, and the tag as well. -/
theorem restore?_apply_spanLike :
    Node.countList .html [spanLike] = 0 ∧ Node.TextsApart [spanLike] ∧
      ∃ restored, restore? ⟨"\"></span>"⟩ (apply ⟨"\"></span>"⟩ spanLike).1 = some restored ∧
        restored.join = spanLike := by
  have hmarkup : Node.countList .html [spanLike] = 0 := by decide
  have hapart : Node.TextsApart [spanLike] := by
    simp [spanLike, Node.TextsApart, Node.everywhere_cons, Node.Everywhere.nil, Node.kind]
  obtain ⟨restored, hrestored, -, hsame⟩ := restore?_apply ⟨"\"></span>"⟩ hmarkup
  exact ⟨hmarkup, hapart, restored, hrestored, hsame hapart⟩

end SpanStyle

end SpoilerMarkup
