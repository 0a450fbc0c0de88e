import Mathlib.Data.List.Basic
import SpoilerMarkup.Proofs.Config.Load
import SpoilerMarkup.SpanStyle

/-!
The class of a span stands in an attribute, and nothing in it is escaped. A class that has been
validated ends neither the attribute nor the tag, so both end where they are meant to, whatever
the inner text is. Main statement: `replacements_readsAs`.
-/
namespace SpoilerMarkup.SpanStyle

/-- How markup reads from the left: `className` is what stands between its first and its second
double quote, its first `>` stands right behind the second one, and `content` is what follows. -/
def ReadsAs (markup className content : String) : Prop :=
  ∃ before : List Char,
    markup.toList = before ++ '"' :: (className.toList ++ '"' :: '>' :: content.toList) ∧
      ∀ c ∈ before ++ className.toList, c ≠ '"' ∧ c ≠ '>'

/-- The first of a character cuts a text in one way only. -/
theorem append_cons_inj_of_first {c : Char} {before before' after after' : List Char}
    (h : c ∉ before) (h' : c ∉ before') (hsame : before ++ c :: after = before' ++ c :: after') :
    before = before' ∧ after = after' := by
  have hlength : before.length = before'.length := by
    simpa [List.idxOf_append_of_notMem, h, h'] using congrArg (List.idxOf c) hsame
  obtain ⟨hbefore, hafter⟩ := List.append_inj hsame hlength
  exact ⟨hbefore, (List.cons.inj hafter).2⟩

/-- Markup can be read in one way only. -/
theorem ReadsAs.unique {markup className className' content content' : String}
    (h : ReadsAs markup className content) (h' : ReadsAs markup className' content') :
    className = className' ∧ content = content' := by
  obtain ⟨before, hmarkup, hquotes⟩ := h
  obtain ⟨before', hmarkup', hquotes'⟩ := h'
  have hnot {chars : List Char} (hchars : ∀ c ∈ chars, c ≠ '"' ∧ c ≠ '>') : '"' ∉ chars :=
    fun hmem => (hchars _ hmem).1 rfl
  rw [hmarkup] at hmarkup'
  rw [List.forall_mem_append] at hquotes hquotes'
  obtain ⟨-, hrest⟩ := append_cons_inj_of_first (hnot hquotes.1) (hnot hquotes'.1) hmarkup'
  obtain ⟨hclass, hcontent⟩ := append_cons_inj_of_first (hnot hquotes.2) (hnot hquotes'.2) hrest
  exact ⟨String.toList_inj.1 hclass, String.toList_inj.1 (List.cons.inj hcontent).2⟩

/-- A span reads as it was meant to. Of all characters that a class must not have only the double
quote and `>` count here. -/
theorem readsAs_span {config : Config} (h : config.validate = .ok ()) (inner : String) :
    ReadsAs (span ⟨config.className⟩ inner) config.className (inner ++ "</span>") := by
  have hspan {opening middle : String} {before : List Char}
      (hopening : opening.toList = before ++ ['"']) (hmiddle : middle.toList = ['"', '>'])
      (closing : String) :
      (opening ++ config.className ++ middle ++ inner ++ closing).toList =
        before ++ '"' :: (config.className.toList ++ '"' :: '>' :: (inner ++ closing).toList) := by
    simp [hopening, hmiddle]
  refine ⟨"<span class=".toList, hspan (by decide) (by decide) _, ?_⟩
  rw [List.forall_mem_append]
  refine ⟨by simp, fun c hc => ?_⟩
  have hforbids := Config.not_forbids_of_validate h hc
  constructor
  · rintro rfl
    exact hforbids (.inr (by simp))
  · rintro rfl
    exact hforbids (.inr (by simp))

/-- Each piece of raw markup that comes from a text is made from the spoiler that stands in the
same place among the segments. -/
theorem exists_spoiler_of_replacements {style : SpanStyle} {value markup : String} {index : Nat}
    (h : (style.replacements value)[index]? = some (.html markup)) :
    ∃ segments inner, Segment.split value = some segments ∧
      segments[index]? = some (.spoiler inner) ∧ markup = style.span inner := by
  unfold replacements at h
  split at h
  · simp at h
  · next segments hsplit =>
    rw [List.getElem?_map, Option.map_eq_some_iff] at h
    obtain ⟨segment, hsegment, hnode⟩ := h
    cases segment with
    | text value => cases hnode
    | spoiler inner =>
      cases hnode
      exact ⟨segments, inner, hsplit, hsegment, rfl⟩

/-- With a class that has been validated every piece of raw markup that a text becomes reads as
the class and the inner text of the spoiler that it stands for. So two spans whose classes have
been validated are the same only if their classes are and their inner texts are. -/
theorem replacements_readsAs {config : Config} (h : config.validate = .ok ()) :
    (∀ (value : String) (index : Nat) (markup : String),
      (replacements ⟨config.className⟩ value)[index]? = some (.html markup) →
        ∃ segments inner, Segment.split value = some segments ∧
          segments[index]? = some (.spoiler inner) ∧
          ReadsAs markup config.className (inner ++ "</span>")) ∧
      ∀ other : Config, other.validate = .ok () → ∀ inner inner' : String,
        span ⟨config.className⟩ inner = span ⟨other.className⟩ inner' →
          config.className = other.className ∧ inner = inner' := by
  constructor
  · intro value index markup hmarkup
    obtain ⟨segments, inner, hsplit, hsegment, rfl⟩ := exists_spoiler_of_replacements hmarkup
    exact ⟨segments, inner, hsplit, hsegment, readsAs_span h inner⟩
  · intro other hother inner inner' hsame
    have hread := readsAs_span hother inner'
    rw [← hsame] at hread
    obtain ⟨hclass, hcontent⟩ := (readsAs_span h inner).unique hread
    exact ⟨hclass, (String.append_left_inj _).1 hcontent⟩

/-- The first spoiler has the end of the tag and another tag in it. -/
theorem replacements_readsAs_tagLike :
    let config : Config := { className := "ü=/" }
    let markup := "<span class=\"ü=/\">\"><b class=\"c\"></span>"
    config.validate = .ok () ∧
      (replacements ⟨config.className⟩ "a||\"><b class=\"c\">||")[1]? = some (.html markup) ∧
      ∃ segments inner,
        Segment.split "a||\"><b class=\"c\">||" = some segments ∧
        segments[1]? = some (.spoiler inner) ∧
        ReadsAs markup config.className (inner ++ "</span>") := by
  have hvalid : Config.validate { className := "ü=/" } = .ok () := by decide +kernel
  have hmarkup : (replacements ⟨"ü=/"⟩ "a||\"><b class=\"c\">||")[1]? =
      some (.html "<span class=\"ü=/\">\"><b class=\"c\"></span>") := by decide +kernel
  exact ⟨hvalid, hmarkup, (replacements_readsAs hvalid).1 _ 1 _ hmarkup⟩

/-- A class that has not been validated can pass for a part of the inner text. -/
example :
    span ⟨"a\">b"⟩ "c" = span ⟨"a"⟩ "b\">c" ∧
      Config.validate { className := "a\">b" } = .error (.invalid (.invalidCharacter '"')) := by
  decide +kernel

end SpoilerMarkup.SpanStyle
