import SpoilerMarkup.Proofs.Segment.Scan
import SpoilerMarkup.Proofs.Text.Join

/-!
The lines of a text are searched for spoilers one by one: an opening delimiter that is not closed
on its line closes nothing and opens nothing on another line. So the segments of a text are those
of its lines and the line ends between them, with neighbouring texts joined. Main statement:
`pieces_append_lineEnd`.
-/
namespace SpoilerMarkup.Segment

open Textual

/-- The segments of a text. One that has no spoiler is a segment itself, unless it is empty. -/
def pieces (value : String) : List Segment :=
  (split value).getD (ofText value.toList)

instance : Textual Segment where
  text := .text
  isText := isText
  string
    | .text value => value
    | .spoiler _ => ""
  isText_text _ := rfl
  string_text _ := rfl
  text_string {segment} h := by
    cases segment with
    | text value => rfl
    | spoiler inner => cases h

theorem pieces_eq (value : String) : pieces value = segments value.toList := by
  cases h : split value with
  | none =>
    have hcut : cut? value.toList = none := split_eq_none_iff.1 h
    rw [pieces, h, Option.getD_none, segments_of_cut?_none hcut]
  | some found =>
    rw [pieces, h, Option.getD_some, eq_segments_of_split h]

@[simp] theorem attach_texts (value next : String) (segments : List Segment) :
    attach true (.text value) (.text next :: segments) = .text (value ++ next) :: segments :=
  Textual.attach_texts value next segments

@[simp] theorem attach_spoiler (inner : String) (segments : List Segment) :
    attach true (.spoiler inner) segments = .spoiler inner :: segments :=
  attach_of_not_text Bool.false_ne_true true segments

theorem ofText_of_ne {cs : List Char} (h : cs ≠ []) : ofText cs = [.text (String.ofList cs)] := by
  rw [ofText, if_neg (by simpa using h)]

section

variable {segments : List Segment} (h : ∀ next ∈ (joinAll segments).head?, ¬ next.isText)

include h

/-- A text is joined apart from what stands behind it if that does not begin with one. -/
theorem joinAll_ofText_append (cs : List Char) :
    joinAll (ofText cs ++ segments) = ofText cs ++ joinAll segments := by
  by_cases hcs : cs = []
  · subst hcs
    rfl
  · rw [ofText_of_ne hcs, List.singleton_append, joinAll_cons, attach_of_head fun _ => h]
    rfl

/-- A character is joined with the texts on both sides of it. -/
theorem joinAll_around (before : List Char) (c : Char) (after : List Char) :
    joinAll (ofText before ++ .text c.toString :: (ofText after ++ segments)) =
      ofText (before ++ c :: after) ++ joinAll segments := by
  have hbehind : joinAll (.text c.toString :: (ofText after ++ segments)) =
      .text (String.ofList (c :: after)) :: joinAll segments := by
    rw [joinAll_cons, joinAll_ofText_append h]
    by_cases hafter : after = []
    · subst hafter
      exact attach_of_head (fun _ => h) true
    · rw [ofText_of_ne hafter, List.singleton_append, attach_texts, String.ofList_cons]
      rfl
  have hall : ofText (before ++ c :: after) = [.text (String.ofList (before ++ c :: after))] :=
    ofText_of_ne (by simp)
  rw [hall]
  by_cases hbefore : before = []
  · subst hbefore
    exact hbehind
  · rw [ofText_of_ne hbefore, List.singleton_append, joinAll_cons, hbehind, attach_texts,
      ← String.ofList_append]
    rfl

end

section

variable {t : Char}

theorem ne_bar_of_isLineEnd (ht : Text.isLineEnd t) : t ≠ '|' := by
  rintro rfl
  exact absurd ht (by decide)

theorem close?_cons {c : Char} {cs : List Char}
    (h : ∀ after, c = '|' → cs = '|' :: after → False) :
    close? (c :: cs) = if Text.isLineEnd c then none
      else (close? cs).map fun (inner, after) => (c :: inner, after) := by
  rw [close?]
  exact h

theorem spoiler?_cons {c : Char} {cs : List Char}
    (h : ∀ after, c = '|' → cs = '|' :: after → False) : spoiler? (c :: cs) = none := by
  unfold spoiler?
  split
  · next after heq =>
    obtain ⟨hc, hcs⟩ := List.cons.inj heq
    exact absurd hcs (h after hc)
  · rfl

theorem cut?_cons {c : Char} {cs : List Char} (h : spoiler? (c :: cs) = none) :
    cut? (c :: cs) =
      (cut? cs).map fun (before, inner, after) => (c :: before, inner, after) := by
  rw [cut?, h]

/-- No delimiter comes about where a character stands that is no bar. -/
theorem not_opens_append (ht : t ≠ '|') {c : Char} {cs : List Char}
    (h : ∀ after, c = '|' → cs = '|' :: after → False) (rest : List Char) :
    ∀ after, c = '|' → cs ++ t :: rest = '|' :: after → False := by
  intro after hc hcs
  cases cs with
  | nil => exact ht (List.cons.inj hcs).1
  | cons d cs =>
    obtain ⟨rfl, -⟩ := List.cons.inj hcs
    exact h cs hc rfl

/-- A closing delimiter is looked for up to the end of the line. -/
theorem close?_append_lineEnd (ht : Text.isLineEnd t) (cs rest : List Char) :
    close? (cs ++ t :: rest) =
      (close? cs).map fun (inner, after) => (inner, after ++ t :: rest) := by
  have hne := ne_bar_of_isLineEnd ht
  fun_induction close? cs with
  | case1 after => simp [close?]
  | case2 c cs hopen hline =>
    rw [List.cons_append, close?_cons (not_opens_append hne hopen rest), if_pos hline]
    rfl
  | case3 c cs hopen hline ih =>
    rw [List.cons_append, close?_cons (not_opens_append hne hopen rest), if_neg hline, ih]
    cases close? cs <;> rfl
  | case4 =>
    rw [List.nil_append, close?_cons fun _ hc _ => hne hc, if_pos ht]
    rfl

theorem spoiler?_append_lineEnd (ht : Text.isLineEnd t) (cs rest : List Char) :
    spoiler? (cs ++ t :: rest) =
      (spoiler? cs).map fun (inner, after) => (inner, after ++ t :: rest) := by
  have hne := ne_bar_of_isLineEnd ht
  cases cs with
  | nil =>
    rw [List.nil_append, spoiler?_cons fun _ hc _ => hne hc]
    rfl
  | cons c cs =>
    by_cases hopen : ∃ after, c = '|' ∧ cs = '|' :: after
    · obtain ⟨after, rfl, rfl⟩ := hopen
      exact close?_append_lineEnd ht after rest
    · have hnot : ∀ after, c = '|' → cs = '|' :: after → False :=
        fun after hc hcs => hopen ⟨after, hc, hcs⟩
      rw [List.cons_append, spoiler?_cons (not_opens_append hne hnot rest), spoiler?_cons hnot]
      rfl

/-- A spoiler stays the first one when more lines follow. -/
theorem cut?_append_of_some (ht : Text.isLineEnd t) {cs before inner after : List Char}
    (h : cut? cs = some (before, inner, after)) (rest : List Char) :
    cut? (cs ++ t :: rest) = some (before, inner, after ++ t :: rest) := by
  fun_induction cut? cs generalizing before with
  | case1 => simp at h
  | case2 c cs i a hs =>
    simp only [Option.some.injEq, Prod.mk.injEq] at h
    obtain ⟨rfl, rfl, rfl⟩ := h
    have hspoiler := spoiler?_append_lineEnd ht (c :: cs) rest
    rw [List.cons_append, hs] at hspoiler
    rw [List.cons_append, cut?, hspoiler]
    rfl
  | case3 c cs hs ih =>
    obtain ⟨⟨b, i, a⟩, hb, he⟩ := Option.map_eq_some_iff.1 h
    simp only [Prod.mk.injEq] at he
    obtain ⟨rfl, rfl, rfl⟩ := he
    have hspoiler := spoiler?_append_lineEnd ht (c :: cs) rest
    rw [List.cons_append, hs] at hspoiler
    rw [List.cons_append, cut?_cons hspoiler, ih hb]
    rfl

/-- Lines without a spoiler hide none of those that follow. -/
theorem cut?_append_of_none (ht : Text.isLineEnd t) {cs : List Char} (h : cut? cs = none)
    (rest : List Char) :
    cut? (cs ++ t :: rest) =
      (cut? rest).map fun (before, inner, after) => (cs ++ t :: before, inner, after) := by
  fun_induction cut? cs with
  | case1 =>
    have hspoiler := spoiler?_append_lineEnd ht [] rest
    rw [List.nil_append] at hspoiler
    rw [List.nil_append, cut?_cons hspoiler]
    rfl
  | case2 => simp at h
  | case3 c cs hs ih =>
    have hspoiler := spoiler?_append_lineEnd ht (c :: cs) rest
    rw [List.cons_append, hs] at hspoiler
    rw [List.cons_append, cut?_cons hspoiler, ih (by simpa using h)]
    cases cut? rest <;> rfl

/-- What a line end separates is split apart. -/
theorem segments_append_lineEnd (ht : Text.isLineEnd t) (cs rest : List Char) :
    segments (cs ++ t :: rest) =
      joinAll (segments cs ++ .text t.toString :: segments rest) := by
  induction cs using segments_induction with
  | none cs h =>
    rw [segments_of_cut?_none h]
    cases hrest : cut? rest with
    | none =>
      have hcut : cut? (cs ++ t :: rest) = none := by rw [cut?_append_of_none ht h, hrest]; rfl
      have hjoined : joinAll (ofText cs ++ .text t.toString :: (ofText rest ++ [])) =
          ofText (cs ++ t :: rest) ++ joinAll [] := joinAll_around (by simp) cs t rest
      rw [segments_of_cut?_none hcut, segments_of_cut?_none hrest]
      simpa using hjoined.symm
    | some cut =>
      obtain ⟨before, inner, after⟩ := cut
      have hcut : cut? (cs ++ t :: rest) = some (cs ++ t :: before, inner, after) := by
        rw [cut?_append_of_none ht h, hrest]
        rfl
      have hafter : joinAll (.spoiler (String.ofList inner) :: segments after) =
          .spoiler (String.ofList inner) :: segments after := by
        rw [joinAll_cons, joinAll_of_isChain (isChain_segments after), attach_spoiler]
      rw [segments_of_cut? hcut, segments_of_cut? hrest,
        joinAll_around (by simp [isText]) cs t before, hafter]
  | some cs before inner after h ih =>
    rw [segments_of_cut? (cut?_append_of_some ht h rest), segments_of_cut? h, List.append_assoc,
      List.cons_append, joinAll_ofText_append (by simp [isText]), joinAll_cons, attach_spoiler,
      ih]

end

/-- Where a text is cut at the end of a line, its segments are those of both parts with the line
end between them. -/
theorem pieces_append_lineEnd (before after : String) {t : Char}
    (h : t ∈ ['\n', '\r', '\u2028', '\u2029']) :
    pieces (before ++ t.toString ++ after) =
      joinAll (pieces before ++ .text t.toString :: pieces after) := by
  have ht : Text.isLineEnd t := by
    simpa [Text.isLineEnd, or_assoc] using h
  have hsplit : (before ++ t.toString ++ after).toList = before.toList ++ t :: after.toList := by
    simp
  rw [pieces_eq, pieces_eq, pieces_eq, hsplit, segments_append_lineEnd ht]

/-- The delimiters that are left over on both lines do not find each other. -/
theorem pieces_append_leftOver :
    '\u2028' ∈ ['\n', '\r', '\u2028', '\u2029'] ∧
      pieces ("||a||b||" ++ '\u2028'.toString ++ "c||d||e||") =
        joinAll (pieces "||a||b||" ++ .text '\u2028'.toString :: pieces "c||d||e||") ∧
      pieces ("||a||b||" ++ '\u2028'.toString ++ "c||d||e||") =
        [.spoiler "a", .text "b||\u2028c", .spoiler "d", .text "e||"] := by
  refine ⟨by decide, pieces_append_lineEnd "||a||b||" "c||d||e||" (by decide), ?_⟩
  decide +kernel

end SpoilerMarkup.Segment
