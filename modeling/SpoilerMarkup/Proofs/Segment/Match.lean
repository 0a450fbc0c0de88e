import SpoilerMarkup.Segment

/-!
Where spoilers stand in a text. A match is an opening delimiter, characters of one line and a
closing delimiter, at any position. The cut of a text is its match of least position and, at
that position, of least length. Main definition: `Segment.IsMatch`.
-/
namespace SpoilerMarkup.Segment

/-- A closing delimiter stands in `cs` behind `n` characters that end no line. -/
def Closes (cs : List Char) (n : Nat) : Prop :=
  ∃ inner after, cs = inner ++ '|' :: '|' :: after ∧ inner.length = n ∧
    ∀ c ∈ inner, Text.isLineEnd c = false

/-- A spoiler of `n` inner characters stands in `cs` at position `p`. -/
def IsMatch (cs : List Char) (p n : Nat) : Prop :=
  ∃ rest, cs.drop p = '|' :: '|' :: rest ∧ Closes rest n

theorem closes_zero (after : List Char) : Closes ('|' :: '|' :: after) 0 :=
  ⟨[], after, rfl, rfl, by simp⟩

theorem not_closes_nil (n : Nat) : ¬ Closes [] n := by
  rintro ⟨inner, after, h, -, -⟩
  simp at h

theorem closes_cons_succ {c : Char} {cs : List Char} {n : Nat} :
    Closes (c :: cs) (n + 1) ↔ Text.isLineEnd c = false ∧ Closes cs n := by
  constructor
  · rintro ⟨inner, after, h, hn, hline⟩
    cases inner with
    | nil => simp at hn
    | cons d inner =>
      simp only [List.cons_append, List.cons.injEq] at h
      obtain ⟨rfl, rfl⟩ := h
      exact ⟨hline c (by simp), inner, after, rfl, by simpa using hn,
        fun d hd => hline d (by simp [hd])⟩
  · rintro ⟨hc, inner, after, rfl, rfl, hline⟩
    refine ⟨c :: inner, after, rfl, rfl, ?_⟩
    intro d hd
    rcases List.mem_cons.1 hd with rfl | hd
    · exact hc
    · exact hline d hd

theorem not_closes_zero {c : Char} {cs : List Char}
    (h : ∀ after, c = '|' → cs = '|' :: after → False) : ¬ Closes (c :: cs) 0 := by
  rintro ⟨inner, after, he, hn, -⟩
  obtain rfl := List.length_eq_zero_iff.1 hn
  simp only [List.nil_append, List.cons.injEq] at he
  exact h after he.1 he.2

theorem closes_of_close? {cs inner after : List Char} (h : close? cs = some (inner, after)) :
    Closes cs inner.length := by
  fun_induction close? cs generalizing inner with
  | case1 rest =>
    simp only [Option.some.injEq, Prod.mk.injEq] at h
    obtain ⟨rfl, rfl⟩ := h
    exact closes_zero rest
  | case2 => simp at h
  | case3 c rest _ hline ih =>
    obtain ⟨⟨i, a⟩, hi, he⟩ := Option.map_eq_some_iff.1 h
    simp only [Prod.mk.injEq] at he
    obtain ⟨rfl, rfl⟩ := he
    exact closes_cons_succ.2 ⟨by simpa using hline, ih hi⟩
  | case4 => simp at h

/-- The delimiter that closes is the nearest one. -/
theorem length_le_of_close? {cs inner after : List Char} {n : Nat}
    (h : close? cs = some (inner, after)) (hn : Closes cs n) : inner.length ≤ n := by
  fun_induction close? cs generalizing inner n with
  | case1 rest =>
    simp only [Option.some.injEq, Prod.mk.injEq] at h
    simp [← h.1]
  | case2 => simp at h
  | case3 c rest hopen _ ih =>
    obtain ⟨⟨i, a⟩, hi, he⟩ := Option.map_eq_some_iff.1 h
    simp only [Prod.mk.injEq] at he
    obtain ⟨rfl, rfl⟩ := he
    cases n with
    | zero => exact absurd hn (not_closes_zero hopen)
    | succ n =>
      have := ih hi (closes_cons_succ.1 hn).2
      simpa using this
  | case4 => simp at h

theorem not_closes_of_close? {cs : List Char} (h : close? cs = none) (n : Nat) :
    ¬ Closes cs n := by
  fun_induction close? cs generalizing n with
  | case1 => simp at h
  | case2 c rest hopen hline =>
    cases n with
    | zero => exact not_closes_zero hopen
    | succ n =>
      intro hn
      have := (closes_cons_succ.1 hn).1
      simp_all
  | case3 c rest hopen _ ih =>
    cases n with
    | zero => exact not_closes_zero hopen
    | succ n => exact fun hn => ih (by simpa using h) n (closes_cons_succ.1 hn).2
  | case4 => exact not_closes_nil n

@[simp] theorem isMatch_cons_succ {c : Char} {cs : List Char} {p n : Nat} :
    IsMatch (c :: cs) (p + 1) n ↔ IsMatch cs p n := by
  simp [IsMatch]

theorem isMatch_drop {cs : List Char} {s p n : Nat} :
    IsMatch (cs.drop s) p n ↔ IsMatch cs (s + p) n := by
  simp [IsMatch]

theorem not_isMatch_nil (p n : Nat) : ¬ IsMatch [] p n := by
  simp [IsMatch]

/-- A match stays one when more text follows. -/
theorem IsMatch.append {cs : List Char} {p n : Nat} (h : IsMatch cs p n) (more : List Char) :
    IsMatch (cs ++ more) p n ∧ p < cs.length := by
  obtain ⟨rest, hp, inner, after, rfl, hn, hline⟩ := h
  have hlt : p < cs.length := by
    have hl := congrArg List.length hp
    simp only [List.length_drop, List.length_cons] at hl
    omega
  refine ⟨⟨inner ++ '|' :: '|' :: (after ++ more), ?_, inner, after ++ more, rfl, hn, hline⟩, hlt⟩
  rw [List.drop_append_of_le_length (Nat.le_of_lt hlt), hp]
  simp

theorem isMatch_of_spoiler? {cs inner after : List Char} (h : spoiler? cs = some (inner, after)) :
    IsMatch cs 0 inner.length ∧ ∀ n, IsMatch cs 0 n → inner.length ≤ n := by
  unfold spoiler? at h
  split at h
  · next rest =>
    refine ⟨⟨rest, rfl, closes_of_close? h⟩, ?_⟩
    rintro n ⟨rest', he, hn⟩
    simp only [List.drop_zero, List.cons.injEq, true_and] at he
    exact length_le_of_close? h (he ▸ hn)
  · simp at h

theorem not_isMatch_of_spoiler? {cs : List Char} (h : spoiler? cs = none) (n : Nat) :
    ¬ IsMatch cs 0 n := by
  rintro ⟨rest, hp, hn⟩
  rw [List.drop_zero] at hp
  subst hp
  exact not_closes_of_close? h n hn

/-- A cut is the match of least position, and of least length at that position. -/
structure IsFirstMatch (cs : List Char) (p n : Nat) : Prop where
  isMatch : IsMatch cs p n
  leftmost : ∀ q m, IsMatch cs q m → p ≤ q
  shortest : ∀ m, IsMatch cs p m → n ≤ m

theorem isFirstMatch_of_cut? {cs before inner after : List Char}
    (h : cut? cs = some (before, inner, after)) :
    IsFirstMatch cs before.length inner.length := by
  fun_induction cut? cs generalizing before with
  | case1 => simp at h
  | case2 c rest i a hs =>
    simp only [Option.some.injEq, Prod.mk.injEq] at h
    obtain ⟨rfl, rfl, rfl⟩ := h
    have hm := isMatch_of_spoiler? hs
    exact ⟨hm.1, fun q m _ => Nat.zero_le q, hm.2⟩
  | case3 c rest hs ih =>
    obtain ⟨⟨b, i, a⟩, hb, he⟩ := Option.map_eq_some_iff.1 h
    simp only [Prod.mk.injEq] at he
    obtain ⟨rfl, rfl, rfl⟩ := he
    have hm := ih hb
    refine ⟨isMatch_cons_succ.2 hm.isMatch, fun q m hq => ?_, fun m hq => ?_⟩
    · cases q with
      | zero => exact absurd hq (not_isMatch_of_spoiler? hs m)
      | succ q => exact Nat.succ_le_succ (hm.leftmost q m (isMatch_cons_succ.1 hq))
    · exact hm.shortest m (isMatch_cons_succ.1 hq)

theorem not_isMatch_of_cut? {cs : List Char} (h : cut? cs = none) (p n : Nat) :
    ¬ IsMatch cs p n := by
  fun_induction cut? cs generalizing p with
  | case1 => exact not_isMatch_nil p n
  | case2 => simp at h
  | case3 c rest hs ih =>
    cases p with
    | zero => exact not_isMatch_of_spoiler? hs n
    | succ p => exact fun hp => ih (by simpa using h) p (isMatch_cons_succ.1 hp)

theorem cut?_eq_none_iff {cs : List Char} : cut? cs = none ↔ ∀ p n, ¬ IsMatch cs p n := by
  refine ⟨not_isMatch_of_cut?, fun h => ?_⟩
  cases hc : cut? cs with
  | none => rfl
  | some cut =>
    obtain ⟨before, inner, after⟩ := cut
    exact absurd (isFirstMatch_of_cut? hc).isMatch (h _ _)

/-- What stands inside the first spoiler is one line without a delimiter, and its last
character does not belong to one either. -/
theorem inner_of_cut? {cs before inner after : List Char}
    (h : cut? cs = some (before, inner, after)) :
    (∀ c ∈ inner, Text.isLineEnd c = false) ∧ ¬ ['|', '|'] <:+: inner ∧
      inner.getLast? ≠ some '|' := by
  have hm := isFirstMatch_of_cut? h
  have hdrop : cs.drop before.length = '|' :: '|' :: (inner ++ '|' :: '|' :: after) := by
    rw [eq_append_of_cut? h, List.drop_left]
  have hline : ∀ c ∈ inner, Text.isLineEnd c = false := by
    obtain ⟨rest, hrest, inner', after', rfl, hlen, hline⟩ := hm.isMatch
    rw [hdrop] at hrest
    simp only [List.cons.injEq, true_and] at hrest
    obtain ⟨rfl, -⟩ := List.append_inj hrest hlen.symm
    exact hline
  have hinside : ∀ a b, inner ++ ['|'] = a ++ '|' :: '|' :: b → False := by
    intro a b he
    have hlt : a.length < inner.length := by
      have := congrArg List.length he
      simp only [List.length_append, List.length_cons, List.length_nil] at this
      omega
    have ha : ∀ c ∈ a, c ∈ inner := by
      intro c hc
      have hprefix : a <+: inner :=
        List.prefix_of_prefix_length_le ⟨'|' :: '|' :: b, he.symm⟩ ⟨['|'], rfl⟩ (Nat.le_of_lt hlt)
      exact hprefix.subset hc
    have hcloses : Closes (inner ++ '|' :: '|' :: after) a.length := by
      refine ⟨a, b ++ '|' :: after, ?_, rfl, fun c hc => hline c (ha c hc)⟩
      rw [show inner ++ '|' :: '|' :: after = inner ++ ['|'] ++ '|' :: after by simp, he]
      simp
    have := hm.shortest a.length ⟨_, hdrop, hcloses⟩
    omega
  refine ⟨hline, ?_, ?_⟩
  · rintro ⟨a, b, rfl⟩
    exact hinside a (b ++ ['|']) (by simp)
  · intro hlast
    obtain ⟨a, rfl⟩ := List.getLast?_eq_some_iff.1 hlast
    exact hinside a [] (by simp)

/-- What stands before the first spoiler has no spoiler. -/
theorem cut?_before {cs before inner after : List Char}
    (h : cut? cs = some (before, inner, after)) : cut? before = none := by
  refine cut?_eq_none_iff.2 fun p n hp => ?_
  obtain ⟨hm, hlt⟩ := hp.append ('|' :: '|' :: (inner ++ '|' :: '|' :: after))
  rw [← eq_append_of_cut? h] at hm
  have := (isFirstMatch_of_cut? h).leftmost p n hm
  omega

end SpoilerMarkup.Segment
