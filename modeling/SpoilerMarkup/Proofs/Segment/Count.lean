import Mathlib.Algebra.Ring.Nat
import SpoilerMarkup.Proofs.Segment.Line

/-!
The number of spoilers on a line is half the number of its delimiters, and a run of bars makes as
many delimiters as there are pairs of bars in it. Delimiters are counted from left to right for
the proof, since that is how a line is searched. Main statement: `countP_segments`.
-/
namespace SpoilerMarkup.Segment

open Textual

/-- The longest pieces of a line that are made of bars only. -/
def barRuns (line : List Char) : List (List Char) :=
  (line.splitOnP (· ≠ '|')).filter (· ≠ [])

/-- The number of delimiters on a line, each of which takes up two bars of a run. -/
def delimiterCount (line : List Char) : Nat :=
  ((barRuns line).map (·.length / 2)).sum

/-- The delimiters that are met from left to right. -/
def delimitersMet : List Char → Nat
  | '|' :: '|' :: rest => delimitersMet rest + 1
  | _ :: rest => delimitersMet rest
  | [] => 0

/-- A number that adds up over the pieces of a text is the sum of what it is for each of them. -/
theorem eq_sum_splitOnP {p : Char → Bool} (count value : List Char → Nat)
    (hpiece : ∀ cs, (∀ c ∈ cs, p c = false) → count cs = value cs)
    (happend : ∀ cs c rest, p c = true → count (cs ++ c :: rest) = count cs + count rest)
    (cs : List Char) : count cs = ((cs.splitOnP p).map value).sum := by
  suffices h : ∀ before : List Char, (∀ c ∈ before, p c = false) →
      count (before ++ cs) = (((before ++ cs).splitOnP p).map value).sum from h [] (by simp)
  induction cs with
  | nil =>
    intro before hbefore
    rw [List.append_nil, List.splitOnP_eq_singleton hbefore]
    simpa using hpiece before hbefore
  | cons c cs ih =>
    intro before hbefore
    cases hc : p c with
    | true =>
      have hrest := ih [] (by simp)
      rw [List.nil_append] at hrest
      rw [happend before c cs hc, List.splitOnP_append_cons _ _ hc,
        List.splitOnP_eq_singleton hbefore, List.map_append, List.sum_append, hrest,
        hpiece before hbefore]
      simp
    | false =>
      have hlonger : ∀ d ∈ before ++ [c], p d = false := by
        intro d hd
        rcases List.mem_append.1 hd with hd | hd
        · exact hbefore d hd
        · rwa [List.mem_singleton.1 hd]
      simpa using ih (before ++ [c]) hlonger

theorem delimitersMet_cons {c : Char} {cs : List Char}
    (h : ∀ after, c = '|' → cs = '|' :: after → False) :
    delimitersMet (c :: cs) = delimitersMet cs := by
  rw [delimitersMet]
  exact h

/-- A character that is no bar belongs to no delimiter. -/
theorem delimitersMet_append_cons {c : Char} (hc : c ≠ '|') (cs rest : List Char) :
    delimitersMet (cs ++ c :: rest) = delimitersMet cs + delimitersMet rest := by
  fun_induction delimitersMet cs with
  | case1 cs ih =>
    rw [List.cons_append, List.cons_append, delimitersMet, ih]
    omega
  | case2 d cs hopen ih =>
    rw [List.cons_append, delimitersMet_cons (not_opens_append hc hopen rest), ih]
  | case3 =>
    rw [List.nil_append, delimitersMet_cons fun _ h _ => hc h]
    omega

theorem delimitersMet_of_bars {cs : List Char} (h : ∀ c ∈ cs, c = '|') :
    delimitersMet cs = cs.length / 2 := by
  fun_induction delimitersMet cs with
  | case1 cs ih =>
    rw [ih fun c hc => h c (by simp [hc])]
    simp only [List.length_cons]
    omega
  | case2 c cs hopen ih =>
    cases cs with
    | nil => simp [delimitersMet]
    | cons d cs =>
      have hbars : c = '|' ∧ d = '|' := ⟨h c (by simp), h d (by simp)⟩
      exact absurd (hbars.2 ▸ rfl) (hopen cs hbars.1)
  | case3 => rfl

/-- The runs of bars make the delimiters that are met. -/
theorem delimitersMet_eq (line : List Char) : delimitersMet line = delimiterCount line := by
  have hnonempty : ∀ runs : List (List Char),
      ((runs.filter (· ≠ [])).map (·.length / 2)).sum = (runs.map (·.length / 2)).sum := by
    intro runs
    induction runs with
    | nil => rfl
    | cons run runs ih => by_cases hrun : run = [] <;> simp_all
  rw [delimiterCount, barRuns, hnonempty]
  have hbars : ∀ cs : List Char, (∀ c ∈ cs, decide (c ≠ '|') = false) →
      delimitersMet cs = cs.length / 2 :=
    fun cs hcs => delimitersMet_of_bars fun c hc => by simpa using hcs c hc
  exact eq_sum_splitOnP delimitersMet _ hbars
    (fun cs c rest hc => delimitersMet_append_cons (by simpa using hc) cs rest) line

/-- One character more makes one delimiter more at most. -/
theorem delimitersMet_cons_bounds (c : Char) (cs : List Char) :
    delimitersMet cs ≤ delimitersMet (c :: cs) ∧
      delimitersMet (c :: cs) ≤ delimitersMet cs + 1 := by
  induction cs generalizing c with
  | nil =>
    have hlast : delimitersMet [c] = delimitersMet [] := delimitersMet_cons (by simp)
    omega
  | cons d cs ih =>
    by_cases hopen : c = '|' ∧ d = '|'
    · obtain ⟨rfl, rfl⟩ := hopen
      have hrest := ih '|'
      rw [show delimitersMet ('|' :: '|' :: cs) = delimitersMet cs + 1 by rw [delimitersMet]]
      omega
    · have hsame : delimitersMet (c :: d :: cs) = delimitersMet (d :: cs) := by
        refine delimitersMet_cons fun after hc hd => hopen ⟨hc, ?_⟩
        exact (List.cons.inj hd).1
      omega

theorem delimitersMet_of_close? {cs inner after : List Char}
    (h : close? cs = some (inner, after)) : delimitersMet cs = delimitersMet after + 1 := by
  fun_induction close? cs generalizing inner with
  | case1 rest =>
    simp only [Option.some.injEq, Prod.mk.injEq] at h
    rw [delimitersMet, h.2]
  | case2 => simp at h
  | case3 c cs hopen _ ih =>
    obtain ⟨⟨i, a⟩, hi, he⟩ := Option.map_eq_some_iff.1 h
    simp only [Prod.mk.injEq] at he
    obtain ⟨-, rfl⟩ := he
    rw [delimitersMet_cons hopen, ih hi]
  | case4 => simp at h

section

variable {cs : List Char} (hline : ∀ c ∈ cs, Text.isLineEnd c = false)

include hline

/-- A line on which nothing can be closed has no delimiter. -/
theorem delimitersMet_of_not_close? (h : close? cs = none) : delimitersMet cs = 0 := by
  fun_induction close? cs with
  | case1 => simp at h
  | case2 c cs _ hend => simp [hline c (by simp)] at hend
  | case3 c cs hopen _ ih =>
    rw [delimitersMet_cons hopen]
    exact ih (fun d hd => hline d (by simp [hd])) (by simpa using h)
  | case4 => rfl

/-- A line without a spoiler has one delimiter at most, and the first spoiler of a line takes the
first two. -/
theorem delimitersMet_of_cut? :
    (cut? cs = none → delimitersMet cs ≤ 1) ∧
      ∀ before inner after, cut? cs = some (before, inner, after) →
        delimitersMet cs = delimitersMet after + 2 := by
  induction cs with
  | nil => simp [cut?, delimitersMet]
  | cons c cs ih =>
    obtain ⟨ihnone, ihsome⟩ := ih fun d hd => hline d (by simp [hd])
    by_cases hopen : ∃ after, c = '|' ∧ cs = '|' :: after
    · obtain ⟨cs, rfl, rfl⟩ := hopen
      have hmet : delimitersMet ('|' :: '|' :: cs) = delimitersMet cs + 1 := by rw [delimitersMet]
      cases hclose : close? cs with
      | some found =>
        obtain ⟨i, a⟩ := found
        have hcut : cut? ('|' :: '|' :: cs) = some ([], i, a) := by rw [cut?, spoiler?, hclose]
        have hclosed := delimitersMet_of_close? hclose
        simp only [hcut, Option.some.injEq, Prod.mk.injEq, reduceCtorEq, false_implies, true_and]
        rintro before inner after ⟨rfl, rfl, rfl⟩
        omega
      | none =>
        have hzero : delimitersMet cs = 0 :=
          delimitersMet_of_not_close? (fun d hd => hline d (by simp [hd])) hclose
        have hbound := (delimitersMet_cons_bounds '|' cs).2
        have hcut : cut? ('|' :: '|' :: cs) = none := by
          cases hrest : cut? ('|' :: cs) with
          | none => rw [cut?, spoiler?, hclose, hrest]; rfl
          | some found =>
            obtain ⟨b, i, a⟩ := found
            have htwo := ihsome b i a hrest
            omega
        simp only [hcut, reduceCtorEq, false_implies, implies_true, and_true, true_implies]
        omega
    · have hnot : ∀ after, c = '|' → cs = '|' :: after → False :=
        fun after hc hcs => hopen ⟨after, hc, hcs⟩
      rw [cut?_cons (spoiler?_cons hnot), delimitersMet_cons hnot, Option.map_eq_none_iff]
      refine ⟨ihnone, fun before inner after h => ?_⟩
      obtain ⟨⟨b, i, a⟩, hb, he⟩ := Option.map_eq_some_iff.1 h
      simp only [Prod.mk.injEq] at he
      obtain ⟨rfl, rfl, rfl⟩ := he
      exact ihsome b i a hb

end

theorem countP_ofText (cs : List Char) : (ofText cs).countP (!·.isText) = 0 := by
  cases cs <;> rfl

/-- The number of spoilers on one line. -/
theorem countP_segments_of_line {cs : List Char} (hline : ∀ c ∈ cs, Text.isLineEnd c = false) :
    (segments cs).countP (!·.isText) = delimitersMet cs / 2 := by
  induction cs using segments_induction with
  | none cs h =>
    have hone := (delimitersMet_of_cut? hline).1 h
    rw [segments_of_cut?_none h, countP_ofText]
    omega
  | some cs before inner after h ih =>
    have htwo := (delimitersMet_of_cut? hline).2 before inner after h
    have hafter : ∀ c ∈ after, Text.isLineEnd c = false := by
      intro c hc
      apply hline c
      rw [eq_append_of_cut? h]
      simp [hc]
    rw [segments_of_cut? h, List.countP_append, countP_ofText, List.countP_cons, ih hafter, htwo]
    simp only [isText, Bool.not_false, ↓reduceIte]
    omega

theorem countP_segments_append_lineEnd {t : Char} (ht : Text.isLineEnd t) (cs rest : List Char) :
    (segments (cs ++ t :: rest)).countP (!·.isText) =
      (segments cs).countP (!·.isText) + (segments rest).countP (!·.isText) := by
  rw [segments_append_lineEnd ht, countP_joinAll fun _ => rfl, List.countP_append, List.countP_cons]
  simp [isText]

/-- The spoilers of a text are those of its lines, and each takes up two delimiters of its line. -/
theorem countP_segments (cs : List Char) :
    (segments cs).countP (!·.isText) =
      ((cs.splitOnP Text.isLineEnd).map fun line => delimiterCount line / 2).sum := by
  have hline : ∀ line, (∀ c ∈ line, Text.isLineEnd c = false) →
      (segments line).countP (!·.isText) = delimiterCount line / 2 := by
    intro line hline
    rw [countP_segments_of_line hline, delimitersMet_eq]
  exact eq_sum_splitOnP (fun cs => (segments cs).countP (!·.isText)) _ hline
    (fun line t rest ht => countP_segments_append_lineEnd ht line rest) cs

theorem spoilerCount_eq (value : String) :
    spoilerCount value = (segments value.toList).countP (!·.isText) := by
  cases h : split value with
  | none =>
    have hcut : cut? value.toList = none := split_eq_none_iff.1 h
    rw [segments_of_cut?_none hcut, countP_ofText]
    exact spoilerCount_eq_zero_iff.2 h
  | some found => rw [spoilerCount, h, Option.getD_some, eq_segments_of_split h]

end SpoilerMarkup.Segment
