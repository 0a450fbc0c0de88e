import Mathlib.Order.Bounds.Defs
import SpoilerMarkup.Proofs.Segment.Count

/-!
No choice of matches that do not overlap has more of them than the scan of a text. The match that
a scan finds next ends first of all that are left, so whatever is chosen, all but one of its
matches begin behind it. Main statement: `spoilerCount_isGreatest`.
-/
namespace SpoilerMarkup.Segment

/-- Matches of which no two have a character in common. Each takes up its inner text and four
characters of delimiters. -/
structure IsPacking (cs : List Char) (found : List (Nat × Nat)) : Prop where
  isMatch : ∀ m ∈ found, IsMatch cs m.1 m.2
  apart : found.Pairwise fun m m' => m.1 + m.2 + 4 ≤ m'.1 ∨ m'.1 + m'.2 + 4 ≤ m.1

variable {cs : List Char}

theorem IsPacking.filter {found : List (Nat × Nat)} (h : IsPacking cs found)
    (keep : Nat × Nat → Bool) : IsPacking cs (found.filter keep) :=
  ⟨fun m hm => h.isMatch m (List.mem_of_mem_filter hm), h.apart.filter keep⟩

/-- A match has its closing delimiter behind its inner text. -/
theorem IsMatch.closes {p n : Nat} (h : IsMatch cs p n) :
    ∃ after, cs.drop (p + 2 + n) = '|' :: '|' :: after := by
  obtain ⟨rest, hrest, inner, after, rfl, rfl, -⟩ := h
  refine ⟨after, ?_⟩
  rw [← List.drop_drop, ← List.drop_drop, hrest]
  simp

/-- A delimiter inside a match closes another match. -/
theorem IsMatch.shorten {p n k : Nat} (h : IsMatch cs p n) (hk : k ≤ n) {after : List Char}
    (hafter : cs.drop (p + 2 + k) = '|' :: '|' :: after) : IsMatch cs p k := by
  obtain ⟨rest, hrest, inner, behind, rfl, hn, hline⟩ := h
  refine ⟨_, hrest, inner.take k, after, ?_, ?_, fun c hc => hline c (List.mem_of_mem_take hc)⟩
  · have hdrop : (inner ++ '|' :: '|' :: behind).drop k = '|' :: '|' :: after := by
      rw [← hafter, ← List.drop_drop, ← List.drop_drop, hrest]
      rfl
    rw [← hdrop, List.drop_append_of_le_length (by omega), ← List.append_assoc,
      List.take_append_drop]
  · rw [List.length_take]
    omega

/-- The leftmost match, and the shortest one there, ends before all others. -/
theorem end_le_of_leftmost {s p n : Nat} (hmatch : IsMatch cs p n)
    (leftmost : ∀ q m, s ≤ q → IsMatch cs q m → p ≤ q) (shortest : ∀ m, IsMatch cs p m → n ≤ m)
    {q m : Nat} (hq : s ≤ q) (h : IsMatch cs q m) : p + n ≤ q + m := by
  by_contra hlt
  obtain ⟨after, hafter⟩ := h.closes
  have hpq := leftmost q m hq h
  rw [show q + 2 + m = p + 2 + (q + m - p) by omega] at hafter
  have hle := shortest _ (hmatch.shorten (by omega) hafter)
  omega

theorem Scan.behind {s : Nat} {found : List (Nat × Nat)} (h : Scan cs s found) :
    ∀ m ∈ found, s ≤ m.1 := by
  induction h with
  | stop => simp
  | next hbehind _ _ _ _ ih =>
    intro m hm
    rcases List.mem_cons.1 hm with rfl | hm
    · exact hbehind
    · have hrest := ih m hm
      omega

theorem Scan.isPacking {s : Nat} {found : List (Nat × Nat)} (h : Scan cs s found) :
    IsPacking cs found := by
  induction h with
  | stop => exact ⟨by simp, .nil⟩
  | next _ hmatch _ _ hrest ih =>
    refine ⟨List.forall_mem_cons.2 ⟨hmatch, ih.isMatch⟩, List.pairwise_cons.2 ⟨?_, ih.apart⟩⟩
    exact fun m hm => .inl (hrest.behind m hm)

/-- Of matches that do not overlap only one can begin before the place where all of them have not
yet ended. -/
theorem IsPacking.length_le_one {found : List (Nat × Nat)} (h : IsPacking cs found) {place : Nat}
    (hbegin : ∀ m ∈ found, m.1 < place) (hend : ∀ m ∈ found, place ≤ m.1 + m.2 + 4) :
    found.length ≤ 1 := by
  match found, h.apart with
  | [], _ => simp
  | [_], _ => simp
  | m :: m' :: found, hapart =>
    have hfirst := (List.pairwise_cons.1 hapart).1 m' (by simp)
    have hm := hbegin m (by simp)
    have hm' := hbegin m' (by simp)
    have hplace := hend m (by simp)
    have hplace' := hend m' (by simp)
    omega

/-- A scan finds as many matches as can be chosen without overlap. -/
theorem Scan.length_le {s : Nat} {found chosen : List (Nat × Nat)} (h : Scan cs s found)
    (hchosen : IsPacking cs chosen) (hbehind : ∀ m ∈ chosen, s ≤ m.1) :
    chosen.length ≤ found.length := by
  induction h generalizing chosen with
  | stop hnone =>
    cases chosen with
    | nil => simp
    | cons m chosen =>
      have hm := hchosen.isMatch m (by simp)
      exact absurd hm (hnone m.1 m.2 (hbehind m (by simp)))
  | @next s p n found _ hmatch leftmost shortest _ ih =>
    let isLater (m : Nat × Nat) : Bool := p + n + 4 ≤ m.1
    have hlater : (chosen.filter isLater).length ≤ found.length := by
      apply ih (hchosen.filter isLater)
      intro m hm
      simpa [isLater] using (List.mem_filter.1 hm).2
    have hfirst : (chosen.filter (!isLater ·)).length ≤ 1 := by
      have hbegin : ∀ m ∈ chosen.filter (!isLater ·), m.1 < p + n + 4 := by
        intro m hm
        simpa [isLater] using (List.mem_filter.1 hm).2
      have hend : ∀ m ∈ chosen.filter (!isLater ·), p + n + 4 ≤ m.1 + m.2 + 4 := by
        intro m hm
        have hmem := List.mem_of_mem_filter hm
        have hle := end_le_of_leftmost hmatch leftmost shortest (hbehind m hmem)
          (hchosen.isMatch m hmem)
        omega
      exact (hchosen.filter _).length_le_one hbegin hend
    have hsplit := chosen.length_eq_length_filter_add isLater
    rw [List.length_cons]
    omega

theorem countP_layout (cs : List Char) (s : Nat) (found : List (Nat × Nat)) :
    (layout cs s found).countP (!·.isText) = found.length := by
  induction found generalizing s with
  | nil => rw [layout, countP_ofText, List.length_nil]
  | cons m found ih =>
    rw [layout, List.countP_append, countP_ofText, List.countP_cons, ih, List.length_cons]
    simp [isText]

/-- The spoilers of a text are as many as its lines have pairs of delimiters, and there are no
more matches in it that do not overlap. -/
theorem spoilerCount_isGreatest (value : String) :
    spoilerCount value =
        ((value.toList.splitOnP Text.isLineEnd).map fun line => delimiterCount line / 2).sum ∧
      IsGreatest {k | ∃ found, IsPacking value.toList found ∧ found.length = k}
        (spoilerCount value) := by
  refine ⟨by rw [spoilerCount_eq, countP_segments], ?_⟩
  obtain ⟨found, hscan, hlayout⟩ := exists_scan value.toList 0
  have hcount : spoilerCount value = found.length := by
    rw [List.drop_zero] at hlayout
    rw [spoilerCount_eq, hlayout, countP_layout]
  constructor
  · exact ⟨found, hscan.isPacking, hcount.symm⟩
  · rintro k ⟨chosen, hchosen, rfl⟩
    rw [hcount]
    exact hscan.length_le hchosen fun m _ => Nat.zero_le m.1

/-- Three runs, of five, three and two bars, make four delimiters, which is enough for two
spoilers; the two bars on the next line stay alone. -/
example : delimiterCount "|||||a|||b||".toList = 4 ∧
    spoilerCount "|||||a|||b||\n||" = 2 ∧
    split "|||||a|||b||\n||" =
      some [.spoiler "", .text "|a", .spoiler "|b", .text "\n||"] := by
  decide +kernel

end SpoilerMarkup.Segment
