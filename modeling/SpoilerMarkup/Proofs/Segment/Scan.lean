import Mathlib.Data.List.Chain
import SpoilerMarkup.Proofs.Segment.Match

/-!
The segments of a text are what a scan from left to right finds. A scan takes the first match
at or after the end of the one before it, and its segments are the inner texts of these matches
and the gaps that are not empty. Main statement: `split_eq_layout`.
-/
namespace SpoilerMarkup.Segment

/-- The matches that a scan of `cs` finds from position `s` on. Each takes up its inner text
and four characters of delimiters. -/
inductive Scan (cs : List Char) : Nat → List (Nat × Nat) → Prop where
  | stop {s : Nat} (none : ∀ p n, s ≤ p → ¬ IsMatch cs p n) : Scan cs s []
  | next {s p n : Nat} {found : List (Nat × Nat)} (behind : s ≤ p) (isMatch : IsMatch cs p n)
      (leftmost : ∀ q m, s ≤ q → IsMatch cs q m → p ≤ q)
      (shortest : ∀ m, IsMatch cs p m → n ≤ m)
      (rest : Scan cs (p + n + 4) found) : Scan cs s ((p, n) :: found)

/-- The inner texts of some matches and the gaps around them, from position `s` on. -/
def layout (cs : List Char) : Nat → List (Nat × Nat) → List Segment
  | s, [] => ofText (cs.drop s)
  | s, (p, n) :: found =>
    ofText ((cs.drop s).take (p - s)) ++
      .spoiler (String.ofList ((cs.drop (p + 2)).take n)) :: layout cs (p + n + 4) found

/-- What a segment stands for in the text it was read from. -/
def source : Segment → String
  | .text value => value
  | .spoiler inner => "||" ++ inner ++ "||"

def isText : Segment → Bool
  | .text _ => true
  | .spoiler _ => false

/-- The number of spoilers in a text. -/
def spoilerCount (value : String) : Nat :=
  ((split value).getD []).countP (!·.isText)

theorem segments_of_cut?_none {cs : List Char} (h : cut? cs = none) :
    segments cs = ofText cs := by
  rw [segments]
  split
  · rfl
  · next h' => simp [h] at h'

theorem segments_of_cut? {cs before inner after : List Char}
    (h : cut? cs = some (before, inner, after)) :
    segments cs = ofText before ++ .spoiler (String.ofList inner) :: segments after := by
  rw [segments]
  split
  · next h' => simp [h] at h'
  · next h' =>
    rw [h] at h'
    simp only [Option.some.injEq, Prod.mk.injEq] at h'
    obtain ⟨rfl, rfl, rfl⟩ := h'
    rfl

/-- Texts are shown to have a property of their segments cut by cut. -/
theorem segments_induction {motive : List Char → Prop}
    (none : ∀ cs, cut? cs = none → motive cs)
    (some : ∀ cs before inner after, cut? cs = some (before, inner, after) → motive after →
      motive cs) (cs : List Char) : motive cs := by
  induction cs using segments.induct with
  | case1 cs h => exact none cs h
  | case2 cs before inner after h ih => exact some cs before inner after h ih

/-- A scan finds the same matches whenever it is made. -/
theorem Scan.unique {cs : List Char} {s : Nat} {found found' : List (Nat × Nat)}
    (h : Scan cs s found) (h' : Scan cs s found') : found = found' := by
  induction h generalizing found' with
  | stop hnone =>
    cases h' with
    | stop => rfl
    | next behind isMatch => exact absurd isMatch (hnone _ _ behind)
  | next behind isMatch leftmost shortest _ ih =>
    cases h' with
    | stop hnone => exact absurd isMatch (hnone _ _ behind)
    | next behind' isMatch' leftmost' shortest' rest' =>
      obtain rfl := Nat.le_antisymm (leftmost _ _ behind' isMatch') (leftmost' _ _ behind isMatch)
      obtain rfl := Nat.le_antisymm (shortest _ isMatch') (shortest' _ isMatch)
      rw [ih rest']

/-- The segments of what is left of a text are those that a scan from there on finds. -/
theorem exists_scan (cs : List Char) (s : Nat) :
    ∃ found, Scan cs s found ∧ segments (cs.drop s) = layout cs s found := by
  generalize hrest : cs.drop s = rest
  induction rest using segments_induction generalizing s with
  | none rest h =>
    subst hrest
    refine ⟨[], .stop fun p n hp => ?_, segments_of_cut?_none h⟩
    have := not_isMatch_of_cut? h (p - s) n
    rwa [isMatch_drop, Nat.add_sub_cancel' hp] at this
  | some rest before inner after h ih =>
    subst hrest
    have hcut := eq_append_of_cut? h
    have hm := isFirstMatch_of_cut? h
    have hafter : cs.drop (s + before.length + inner.length + 4) = after := by
      rw [show s + before.length + inner.length + 4 =
        s + (before ++ '|' :: '|' :: (inner ++ ['|', '|'])).length by simp; omega,
        ← List.drop_drop, hcut]
      rw [show before ++ '|' :: '|' :: (inner ++ '|' :: '|' :: after) =
        before ++ '|' :: '|' :: (inner ++ ['|', '|']) ++ after by simp, List.drop_left]
    have hinner : (cs.drop (s + before.length + 2)).take inner.length = inner := by
      rw [show s + before.length + 2 = s + (before ++ ['|', '|']).length by simp; omega,
        ← List.drop_drop, hcut]
      rw [show before ++ '|' :: '|' :: (inner ++ '|' :: '|' :: after) =
        before ++ ['|', '|'] ++ (inner ++ '|' :: '|' :: after) by simp, List.drop_left,
        List.take_left]
    obtain ⟨found, hscan, hlayout⟩ := ih _ hafter
    refine ⟨(s + before.length, inner.length) :: found, .next (Nat.le_add_right _ _) ?_ ?_ ?_ hscan,
      ?_⟩
    · exact isMatch_drop.1 hm.isMatch
    · intro q m hq hmatch
      have := hm.leftmost (q - s) m (isMatch_drop.2 (by rwa [Nat.add_sub_cancel' hq]))
      omega
    · intro m hmatch
      exact hm.shortest m (isMatch_drop.2 hmatch)
    · rw [segments_of_cut? h, layout, hinner, hlayout, Nat.add_sub_cancel_left, hcut, List.take_left]

@[simp] theorem mem_ofText {cs : List Char} {segment : Segment} :
    segment ∈ ofText cs ↔ cs ≠ [] ∧ segment = .text (String.ofList cs) := by
  cases cs <;> simp [ofText]

@[simp] theorem join_source_ofText (cs : List Char) :
    String.join ((ofText cs).map source) = String.ofList cs := by
  cases cs <;> simp [ofText, source]

/-- Nothing of a text is lost in its segments. -/
theorem join_source_segments (cs : List Char) :
    String.join ((segments cs).map source) = String.ofList cs := by
  induction cs using segments_induction with
  | none cs h => rw [segments_of_cut?_none h, join_source_ofText]
  | some cs before inner after h ih =>
    rw [segments_of_cut? h, List.map_append, List.map_cons, String.join_append, String.join_cons,
      ih, join_source_ofText, eq_append_of_cut? h]
    apply String.toList_inj.1
    simp [source]

theorem isChain_segments (cs : List Char) :
    (segments cs).IsChain fun a b => ¬ (a.isText ∧ b.isText) := by
  have hofText (cs : List Char) : (ofText cs).IsChain fun a b => ¬ (a.isText ∧ b.isText) := by
    cases cs <;> simp [ofText]
  induction cs using segments_induction with
  | none cs h =>
    rw [segments_of_cut?_none h]
    exact hofText cs
  | some cs before inner after h ih =>
    rw [segments_of_cut? h, List.isChain_append, List.isChain_cons]
    exact ⟨hofText before, ⟨by simp [isText], ih⟩, by simp [isText]⟩

theorem split_eq_none_iff {value : String} :
    split value = none ↔ cut? value.toList = none := by
  unfold split
  cases cut? value.toList <;> simp

theorem eq_segments_of_split {value : String} {pieces : List Segment}
    (h : split value = some pieces) : pieces = segments value.toList := by
  unfold split at h
  split at h
  · simp at h
  · exact (Option.some.inj h).symm

theorem spoilerCount_eq_zero_iff {value : String} :
    spoilerCount value = 0 ↔ split value = none := by
  cases h : split value with
  | none => simp [spoilerCount, h]
  | some pieces =>
    obtain rfl := eq_segments_of_split h
    cases hcut : cut? value.toList with
    | none => simp [split_eq_none_iff.2 hcut] at h
    | some cut =>
      obtain ⟨before, inner, after⟩ := cut
      simp [spoilerCount, h, segments_of_cut? hcut, isText]

theorem ne_nil_of_split {value : String} {pieces : List Segment}
    (h : split value = some pieces) : pieces ≠ [] := by
  rintro rfl
  have : spoilerCount value = 0 := by simp [spoilerCount, h]
  simp [spoilerCount_eq_zero_iff.1 this] at h

/-- No text among the segments is empty or has a spoiler of its own. -/
theorem text_of_mem_segments {cs : List Char} {value : String} (h : .text value ∈ segments cs) :
    value ≠ "" ∧ split value = none := by
  have hofText {cs : List Char} (hcut : cut? cs = none) (hmem : .text value ∈ ofText cs) :
      value ≠ "" ∧ split value = none := by
    obtain ⟨hne, he⟩ := mem_ofText.1 hmem
    obtain rfl := Segment.text.inj he
    exact ⟨by simpa using hne, split_eq_none_iff.2 (by simpa using hcut)⟩
  induction cs using segments_induction with
  | none cs hcut =>
    rw [segments_of_cut?_none hcut] at h
    exact hofText hcut h
  | some cs before inner after hcut ih =>
    rw [segments_of_cut? hcut] at h
    rcases List.mem_append.1 h with h | h
    · exact hofText (cut?_before hcut) h
    · exact ih (by simpa using h)

theorem spoiler_of_mem_segments {cs : List Char} {inner : String}
    (h : .spoiler inner ∈ segments cs) :
    (∀ c ∈ inner.toList, Text.isLineEnd c = false) ∧ ¬ ['|', '|'] <:+: inner.toList ∧
      inner.toList.getLast? ≠ some '|' := by
  induction cs using segments_induction with
  | none cs hcut =>
    rw [segments_of_cut?_none hcut] at h
    simp at h
  | some cs before inner' after hcut ih =>
    rw [segments_of_cut? hcut] at h
    simp only [List.mem_append, mem_ofText, reduceCtorEq, and_false, List.mem_cons, false_or] at h
    rcases h with h | h
    · obtain rfl := Segment.spoiler.inj h
      rw [String.toList_ofList]
      exact inner_of_cut? hcut
    · exact ih h

/-- Splitting finds exactly the leftmost, shortest matches that do not overlap, and it gives
back the text around them. -/
theorem split_eq_layout (value : String) :
    ∃ found, Scan value.toList 0 found ∧ (∀ found', Scan value.toList 0 found' → found' = found) ∧
      split value = (if found = [] then none else some (layout value.toList 0 found)) ∧
      (split value = none ↔ ∀ p n, ¬ IsMatch value.toList p n) ∧
      ∀ pieces ∈ split value,
        String.join (pieces.map source) = value ∧
        (pieces.IsChain fun a b => ¬ (a.isText ∧ b.isText)) ∧
        (∀ text, .text text ∈ pieces → text ≠ "" ∧ split text = none) ∧
        ∀ inner, .spoiler inner ∈ pieces → (∀ c ∈ inner.toList, Text.isLineEnd c = false) ∧
          ¬ ['|', '|'] <:+: inner.toList ∧ inner.toList.getLast? ≠ some '|' := by
  obtain ⟨found, hscan, hlayout⟩ := exists_scan value.toList 0
  rw [List.drop_zero] at hlayout
  have hnone : split value = none ↔ ∀ p n, ¬ IsMatch value.toList p n :=
    split_eq_none_iff.trans cut?_eq_none_iff
  refine ⟨found, hscan, fun found' h => h.unique hscan, ?_, hnone, fun pieces h => ?_⟩
  · cases hscan with
    | stop h => simpa using hnone.2 fun p n => h p n (Nat.zero_le p)
    | next behind isMatch =>
      have hne : cut? value.toList ≠ none := fun hc => not_isMatch_of_cut? hc _ _ isMatch
      obtain ⟨cut, hcut⟩ := Option.ne_none_iff_exists'.1 hne
      simp [split, hcut, hlayout]
  · obtain rfl := eq_segments_of_split h
    refine ⟨?_, isChain_segments _, fun text => text_of_mem_segments,
      fun inner => spoiler_of_mem_segments⟩
    rw [join_source_segments, String.ofList_toList]

end SpoilerMarkup.Segment
