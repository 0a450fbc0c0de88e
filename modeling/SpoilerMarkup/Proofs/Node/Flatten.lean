import SpoilerMarkup.Node.Flatten
import SpoilerMarkup.Proofs.Event.Join
import SpoilerMarkup.Proofs.Node.Below

/-!
The stream of a tree whose nodes are what their kinds say: only verbatim elements are kept as
events, and what they keep is balanced. Each node of such a tree begins and ends outside verbatim
elements. Where no two texts stand side by side in the tree, none do in its stream.
-/
namespace SpoilerMarkup.Node

open Event
open SpanStyle (depthAfter)
open Textual (attach_of_head attach_of_not_text joinAlong_never)

/-- A property of every node in a list and below it, each seen with the siblings behind it. -/
inductive Everywhere (holds : Node → List Node → Prop) : List Node → Prop where
  | nil : Everywhere holds []
  | cons {node : Node} {nodes : List Node} (first : holds node nodes)
      (below : Everywhere holds node.children) (rest : Everywhere holds nodes) :
      Everywhere holds (node :: nodes)

/-- What the kind of a node promises. A leaf holds no tag and no text. -/
def IsSound : Node → Prop
  | .element tag _ => ¬ tag.isVerbatim
  | .verbatim tag events => tag.isVerbatim ∧ IsBalanced events
  | .leaf event => event.isContent ∧ ¬ event.isText
  | _ => True

/-- A list of nodes that are sound all the way down. -/
def Sound : List Node → Prop :=
  Everywhere fun node _ => node.IsSound

/-- A node stands apart if it is not a root and not a text with a text behind it. -/
def IsApart (node : Node) (nodes : List Node) : Prop :=
  node.kind ≠ .root ∧ (node.kind = .text → ∀ next ∈ nodes.head?, next.kind ≠ .text)

/-- A list of nodes that stand apart all the way down. -/
def Apart : List Node → Prop :=
  Everywhere IsApart

/-- A sound node that stands apart and is a leaf only where no other kind of node would do. -/
def IsCanonical (node : Node) (nodes : List Node) : Prop :=
  node.IsSound ∧ IsApart node nodes ∧ ∀ event, node = .leaf event → event.isLeaf

def Canonical : List Node → Prop :=
  Everywhere IsCanonical

theorem everywhere_cons {holds : Node → List Node → Prop} {node : Node} {nodes : List Node} :
    Everywhere holds (node :: nodes) ↔
      holds node nodes ∧ Everywhere holds node.children ∧ Everywhere holds nodes :=
  ⟨fun | .cons first below rest => ⟨first, below, rest⟩, fun h => .cons h.1 h.2.1 h.2.2⟩

theorem Everywhere.imp {holds holds' : Node → List Node → Prop}
    (himp : ∀ node nodes, holds node nodes → holds' node nodes) {nodes : List Node}
    (h : Everywhere holds nodes) : Everywhere holds' nodes := by
  induction h with
  | nil => exact .nil
  | cons first _ _ ihbelow ihrest => exact .cons (himp _ _ first) ihbelow ihrest

@[simp] theorem canonical_nil : Canonical [] := .nil

theorem canonical_cons {node : Node} {nodes : List Node} :
    Canonical (node :: nodes) ↔
      IsCanonical node nodes ∧ Canonical node.children ∧ Canonical nodes :=
  everywhere_cons

/-- Of what stands behind a canonical node only the kind counts, and only behind a text. -/
theorem isCanonical_iff {node : Node} {nodes : List Node} :
    IsCanonical node nodes ↔ IsCanonical node [] ∧
      (node.kind = .text → ∀ next ∈ nodes.head?, next.kind ≠ .text) := by
  constructor
  · rintro ⟨hsound, ⟨hroot, happart⟩, hleaf⟩
    exact ⟨⟨hsound, ⟨hroot, by simp⟩, hleaf⟩, happart⟩
  · rintro ⟨⟨hsound, ⟨hroot, -⟩, hleaf⟩, happart⟩
    exact ⟨hsound, ⟨hroot, happart⟩, hleaf⟩

theorem Canonical.sound {nodes : List Node} (h : Canonical nodes) : Sound nodes :=
  h.imp fun _ _ h => h.1

theorem Canonical.apart {nodes : List Node} (h : Canonical nodes) : Apart nodes :=
  h.imp fun _ _ h => h.2.1

@[simp] theorem flattenList_nil (inHtmlBlock : Bool) : flattenList inHtmlBlock [] = [] := by
  rw [flattenList]

@[simp] theorem flattenList_cons (inHtmlBlock : Bool) (node : Node) (nodes : List Node) :
    flattenList inHtmlBlock (node :: nodes) =
      flatten inHtmlBlock node ++ flattenList inHtmlBlock nodes := by
  rw [flattenList]

@[simp] theorem flattenList_append (inHtmlBlock : Bool) (nodes nodes' : List Node) :
    flattenList inHtmlBlock (nodes ++ nodes') =
      flattenList inHtmlBlock nodes ++ flattenList inHtmlBlock nodes' := by
  induction nodes with
  | nil => simp
  | cons node nodes ih => simp [ih]

theorem Sound.append {nodes nodes' : List Node} (h : Sound nodes) (h' : Sound nodes') :
    Sound (nodes ++ nodes') := by
  induction h with
  | nil => exact h'
  | cons first below _ _ ih => exact .cons first below ih

theorem depthAfterAll_flatten {node : Node} (h : node.IsSound)
    (hbelow : ∀ inHtmlBlock, depthAfterAll 0 (flattenList inHtmlBlock node.children) = 0)
    (inHtmlBlock : Bool) : depthAfterAll 0 (node.flatten inHtmlBlock) = 0 := by
  cases node with
  | root children => exact hbelow false
  | element tag children =>
    rw [flatten, depthAfterAll_cons, depthAfter_start h, depthAfterAll_append]
    rw [children_element] at hbelow
    rw [hbelow]
    rfl
  | verbatim tag events =>
    rw [flatten, depthAfterAll_cons, depthAfter_start_verbatim h.1, depthAfterAll_append,
      depthAfterAll_of_level h.2]
    rfl
  | leaf event =>
    rw [flatten, depthAfterAll_cons, depthAfter_of_isContent h.1, depthAfterAll_nil]
  | html value => cases inHtmlBlock <;> rfl
  | text value | inlineCode value => rfl

/-- A sound tree begins and ends outside verbatim elements. -/
theorem depthAfterAll_flattenList {nodes : List Node} (h : Sound nodes) (inHtmlBlock : Bool) :
    depthAfterAll 0 (flattenList inHtmlBlock nodes) = 0 := by
  induction h generalizing inHtmlBlock with
  | nil => rfl
  | cons first _ _ ihbelow ihrest =>
    rw [flattenList_cons, depthAfterAll_append, depthAfterAll_flatten first ihbelow, ihrest]

theorem joinTexts_of_level {joins joins' : Nat → Bool}
    (hjoins : ∀ depth, joins (depth + 1) = joins' (depth + 1)) {level level' : Nat}
    {events : List Event} (h : events.foldlM levelAfter? level = some level') :
    joinTexts joins (level + 1) events = joinTexts joins' (level + 1) events := by
  induction events generalizing level with
  | nil => rfl
  | cons event events ih =>
    obtain ⟨next, hnext, h⟩ := foldlM_cons_eq_some.1 h
    rw [joinTexts_cons, joinTexts_cons, depthAfter_of_level hnext, ih h, hjoins]

theorem head_flattenList {nodes : List Node} (hsound : Sound nodes) (hapart : Apart nodes)
    (h : ∀ next ∈ nodes.head?, next.kind ≠ .text) (inHtmlBlock : Bool) :
    ∀ event ∈ (flattenList inHtmlBlock nodes).head?, ¬ event.isText := by
  cases hsound with
  | nil => simp
  | @cons node nodes first _ _ =>
    cases hapart with
    | cons hroot _ _ =>
      have hkind : node.kind ≠ .text := h node (by simp)
      cases node with
      | root children => exact absurd rfl hroot.1
      | text value => exact absurd rfl hkind
      | leaf event => simpa [flatten] using first.2
      | html value => cases inHtmlBlock <;> simp [flatten, isText]
      | element tag children | verbatim tag events | inlineCode value => simp [flatten, isText]

theorem head_joinTexts {joins : Nat → Bool} {depth : Nat} {events : List Event}
    (h : ∀ event ∈ events.head?, ¬ event.isText) :
    ∀ event ∈ (joinTexts joins depth events).head?, ¬ event.isText := by
  cases events with
  | nil => simp
  | cons event events =>
    have hevent : ¬ event.isText := h event (by simp)
    rw [joinTexts_cons, attach_of_not_text hevent]
    simpa using hevent

/-- In the stream of a tree whose texts stand apart there is nothing to be joined outside
verbatim elements. -/
theorem joinTexts_flattenList {joins joins' : Nat → Bool}
    (hjoins : ∀ depth, joins (depth + 1) = joins' (depth + 1)) {nodes : List Node}
    (hsound : Sound nodes) (hapart : Apart nodes) (inHtmlBlock : Bool) :
    joinTexts joins 0 (flattenList inHtmlBlock nodes) =
      joinTexts joins' 0 (flattenList inHtmlBlock nodes) := by
  induction hsound generalizing inHtmlBlock with
  | nil => rfl
  | @cons node nodes first hbelow hrest ihbelow ihrest =>
    cases hapart with
    | cons happart hbelow' hrest' =>
      have hnodes := ihrest hrest' inHtmlBlock
      have hchildren := ihbelow hbelow'
      have hsingle : ∀ event : Event, event.isContent → ¬ event.isText →
          joinTexts joins 0 ([event] ++ flattenList inHtmlBlock nodes) =
            joinTexts joins' 0 ([event] ++ flattenList inHtmlBlock nodes) := by
        intro event hcontent htext
        rw [List.singleton_append, joinTexts_cons, joinTexts_cons, attach_of_not_text htext,
          attach_of_not_text htext, depthAfter_of_isContent hcontent, hnodes]
      rw [flattenList_cons]
      cases node with
      | root children => exact absurd rfl happart.1
      | element tag children =>
        have hdepth := depthAfterAll_flattenList hbelow (tag = .htmlBlock)
        rw [children_element] at hchildren hdepth
        rw [flatten, List.cons_append, List.append_assoc, List.singleton_append, joinTexts_element,
          joinTexts_element, depthAfter_start first]
        simp only [hdepth, hchildren, Nat.zero_sub, hnodes]
      | verbatim tag events =>
        rw [flatten, List.cons_append, List.append_assoc, List.singleton_append, joinTexts_element,
          joinTexts_element, depthAfter_start_verbatim first.1]
        simp only [depthAfterAll_of_level first.2, joinTexts_of_level hjoins first.2, Nat.sub_self,
          hnodes]
      | text value =>
        have hhead : ∀ event ∈ (joinTexts joins 0 (flattenList inHtmlBlock nodes)).head?,
            ¬ event.isText :=
          head_joinTexts (head_flattenList hrest hrest' (happart.2 rfl) inHtmlBlock)
        rw [flatten, List.singleton_append, joinTexts_cons, joinTexts_cons, depthAfter_text,
          ← hnodes, attach_of_head fun _ => hhead, attach_of_head fun _ => hhead]
      | html value => cases inHtmlBlock <;> exact hsingle _ rfl (by simp [isText])
      | inlineCode value => exact hsingle (.code value) rfl (by simp [isText])
      | leaf event => exact hsingle event first.1 first.2

/-- Outside verbatim elements nothing is left to be joined in the stream of a canonical tree. -/
theorem joinTexts_outside_flattenList {nodes : List Node} (h : Canonical nodes)
    (inHtmlBlock : Bool) :
    joinTexts (· = 0) 0 (flattenList inHtmlBlock nodes) = flattenList inHtmlBlock nodes := by
  have hjoined : joinTexts (· = 0) 0 (flattenList inHtmlBlock nodes) =
      joinTexts (fun _ => false) 0 (flattenList inHtmlBlock nodes) :=
    joinTexts_flattenList (fun depth => by simp) h.sound h.apart inHtmlBlock
  rw [hjoined]
  exact joinAlong_never 0 _

end SpoilerMarkup.Node
