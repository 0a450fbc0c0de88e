import Mathlib.Data.List.Chain

/-!
Neighbouring texts joined in a list of items of which some are texts. All texts are joined, or
those that a state allows which goes along the list.
-/
namespace SpoilerMarkup

/-- Items some of which are texts. -/
class Textual (α : Type) where
  text : String → α
  isText : α → Bool
  /-- The string of an item that is a text. -/
  string : α → String
  isText_text (value : String) : isText (text value) = true
  string_text (value : String) : string (text value) = value
  text_string {item : α} : isText item = true → text (string item) = item

namespace Textual

attribute [simp] isText_text string_text

variable {α σ : Type} [Textual α]

/-- Puts an item before others. A text and a text behind it become one if they are to be
joined. -/
def attach (joins : Bool) (item : α) : List α → List α
  | [] => [item]
  | next :: rest =>
    if joins && isText item && isText next then text (string item ++ string next) :: rest
    else item :: next :: rest

/-- Joins neighbouring texts wherever the state that goes along the list allows it. -/
def joinAlong (joins : σ → Bool) (after : σ → α → σ) : σ → List α → List α
  | _, [] => []
  | state, item :: items =>
    attach (joins state) item (joinAlong joins after (after state item) items)

/-- Joins neighbouring texts. -/
def joinAll : List α → List α :=
  joinAlong (fun _ => true) (fun _ _ => ()) ()

theorem eq_text_of_isText {item : α} (h : isText item) : ∃ value, item = text value :=
  ⟨string item, (text_string h).symm⟩

theorem head_cases (items : List α) :
    (∀ next ∈ items.head?, ¬ isText next) ∨ ∃ value rest, items = text value :: rest := by
  cases items with
  | nil => simp
  | cons item rest =>
    by_cases hitem : isText item
    · obtain ⟨value, rfl⟩ := eq_text_of_isText hitem
      exact .inr ⟨value, rest, rfl⟩
    · simpa using Or.inl hitem

@[simp] theorem attach_nil (joins : Bool) (item : α) : attach joins item [] = [item] := rfl

@[simp] theorem attach_false (item : α) (items : List α) :
    attach false item items = item :: items := by
  cases items <;> rfl

@[simp] theorem attach_texts (value next : String) (items : List α) :
    attach true (text value) (text next :: items) = text (value ++ next) :: items := by
  simp [attach]

theorem attach_of_head {item : α} {items : List α}
    (h : isText item → ∀ next ∈ items.head?, ¬ isText next) (joins : Bool) :
    attach joins item items = item :: items := by
  cases items with
  | nil => rfl
  | cons next rest =>
    rw [attach, if_neg]
    simpa using fun _ hitem => h hitem next rfl

theorem attach_of_not_text {item : α} (h : ¬ isText item) (joins : Bool) (items : List α) :
    attach joins item items = item :: items :=
  attach_of_head (fun hitem => absurd hitem h) joins

theorem head_attach (joins : Bool) (item : α) (items : List α) :
    ∀ first ∈ (attach joins item items).head?, isText first = isText item := by
  cases items with
  | nil => simp
  | cons next rest =>
    rw [attach]
    split <;> simp_all

theorem attach_attach (joins : Bool) (value value' : String) (items : List α) :
    attach true (text value) (attach joins (text value') items) =
      attach joins (text (value ++ value')) items := by
  cases joins with
  | false => simp
  | true =>
    rcases head_cases items with hhead | ⟨value'', rest, rfl⟩
    · rw [attach_of_head fun _ => hhead, attach_of_head fun _ => hhead, attach_texts]
    · rw [attach_texts, attach_texts, attach_texts, String.append_assoc]

theorem attach_append {item : α} (h : ¬ isText item) (joins : Bool) (first : α)
    (before after : List α) :
    attach joins first (before ++ item :: after) =
      attach joins first before ++ item :: after := by
  cases before with
  | nil => exact attach_of_head (by simpa using fun _ => h) joins
  | cons next before =>
    rw [List.cons_append, attach, attach]
    split <;> rfl

/-- Texts that are not empty make no empty text when they are joined. -/
theorem text_mem_attach {joins : Bool} {item : α} {items : List α}
    (h : text "" ∈ attach joins item items) : text "" ∈ item :: items := by
  cases items with
  | nil => exact h
  | cons next rest =>
    rw [attach] at h
    split at h
    · rename_i htexts
      simp only [Bool.and_eq_true] at htexts
      rcases List.mem_cons.1 h with h | h
      · have hempty := congrArg string h
        rw [string_text, string_text] at hempty
        obtain ⟨hitem, -⟩ := String.append_eq_empty_iff.1 hempty.symm
        rw [← text_string htexts.1.2, hitem]
        exact List.mem_cons_self
      · exact List.mem_cons_of_mem _ (List.mem_cons_of_mem _ h)
    · exact h

theorem countP_attach {p : α → Bool} (hp : ∀ value, p (text value) = false) (joins : Bool)
    (item : α) (items : List α) :
    (attach joins item items).countP p = (item :: items).countP p := by
  cases items with
  | nil => rfl
  | cons next rest =>
    rw [attach]
    split
    · rename_i htexts
      simp only [Bool.and_eq_true] at htexts
      rw [← text_string htexts.1.2, ← text_string htexts.2]
      simp [hp]
    · rfl

section

variable {joins : σ → Bool} {after : σ → α → σ}

@[simp] theorem joinAlong_nil (state : σ) : joinAlong joins after state ([] : List α) = [] := rfl

theorem joinAlong_cons (state : σ) (item : α) (items : List α) :
    joinAlong joins after state (item :: items) =
      attach (joins state) item (joinAlong joins after (after state item) items) := rfl

theorem joinAlong_never (state : σ) (items : List α) :
    joinAlong (fun _ => false) after state items = items := by
  induction items generalizing state with
  | nil => rfl
  | cons item items ih => rw [joinAlong_cons, attach_false, ih]

/-- What stands before and behind an item that is no text is joined apart. -/
theorem joinAlong_append_of_not_text {item : α} (h : ¬ isText item) (state : σ)
    (before rest : List α) :
    joinAlong joins after state (before ++ item :: rest) = joinAlong joins after state before ++
      item :: joinAlong joins after (after (before.foldl after state) item) rest := by
  induction before generalizing state with
  | nil => rw [List.nil_append, joinAlong_cons, attach_of_not_text h]; rfl
  | cons first before ih =>
    rw [List.cons_append, joinAlong_cons, ih, attach_append h, joinAlong_cons, List.foldl_cons]

theorem text_mem_joinAlong {state : σ} {items : List α}
    (h : text "" ∈ joinAlong joins after state items) : text "" ∈ items := by
  induction items generalizing state with
  | nil => exact h
  | cons item items ih =>
    rcases List.mem_cons.1 (text_mem_attach h) with h | h
    · simp [h]
    · simp [ih h]

/-- Joining texts makes no difference to what else there is. -/
theorem countP_joinAlong {p : α → Bool} (hp : ∀ value, p (text value) = false) (state : σ)
    (items : List α) : (joinAlong joins after state items).countP p = items.countP p := by
  induction items generalizing state with
  | nil => rfl
  | cons item items ih =>
    rw [joinAlong_cons, countP_attach hp, List.countP_cons, ih, List.countP_cons]

end

@[simp] theorem joinAll_nil : joinAll ([] : List α) = [] := rfl

@[simp] theorem joinAll_cons (item : α) (items : List α) :
    joinAll (item :: items) = attach true item (joinAll items) := rfl

theorem countP_joinAll {p : α → Bool} (hp : ∀ value, p (text value) = false) (items : List α) :
    (joinAll items).countP p = items.countP p :=
  countP_joinAlong hp () items

/-- Where no two texts are neighbours there is nothing to be joined. -/
theorem joinAll_of_isChain {items : List α}
    (h : items.IsChain fun a b => ¬ (isText a ∧ isText b)) : joinAll items = items := by
  induction items with
  | nil => rfl
  | cons item items ih =>
    obtain ⟨hfirst, hrest⟩ := List.isChain_cons.1 h
    have happart : isText item → ∀ next ∈ items.head?, ¬ isText next :=
      fun hitem next hnext htext => hfirst next hnext ⟨hitem, htext⟩
    rw [joinAll_cons, ih hrest, attach_of_head happart]

end Textual

end SpoilerMarkup
