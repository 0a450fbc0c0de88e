import SpoilerMarkup.Text.Line

/-!
Finds spoilers in a text. A spoiler is what stands on one line between two `||`; the
leftmost opening delimiter that can be closed on its line is taken with the nearest
closing one, and the search goes on behind it. Main definition: `Segment.split`.
-/
namespace SpoilerMarkup

inductive Segment where
  | text (value : String)
  | spoiler (inner : String)
  deriving DecidableEq, Repr

namespace Segment

/-- What stands before the nearest `||` of the same line, and what follows it. -/
def close? : List Char → Option (List Char × List Char)
  | '|' :: '|' :: rest => some ([], rest)
  | c :: rest =>
    if Text.isLineEnd c then none
    else (close? rest).map fun (inner, after) => (c :: inner, after)
  | [] => none

/-- The inner text of a spoiler at the very front, and what follows the spoiler. -/
def spoiler? : List Char → Option (List Char × List Char)
  | '|' :: '|' :: rest => close? rest
  | _ => none

/-- Cuts at the leftmost spoiler: what stands before it, inside it and after it. -/
def cut? : List Char → Option (List Char × List Char × List Char)
  | [] => none
  | c :: rest =>
    match spoiler? (c :: rest) with
    | some (inner, after) => some ([], inner, after)
    | none => (cut? rest).map fun (before, inner, after) => (c :: before, inner, after)

theorem eq_append_of_close? {cs inner after : List Char} (h : close? cs = some (inner, after)) :
    cs = inner ++ '|' :: '|' :: after := by
  fun_induction close? cs generalizing inner with
  | case1 rest => simp_all
  | case2 => simp at h
  | case3 c rest _ _ ih =>
    obtain ⟨⟨i, a⟩, hi, he⟩ := Option.map_eq_some_iff.1 h
    simp only [Prod.mk.injEq] at he
    obtain ⟨rfl, rfl⟩ := he
    simp [← ih hi]
  | case4 => simp at h

theorem eq_append_of_spoiler? {cs inner after : List Char} (h : spoiler? cs = some (inner, after)) :
    cs = '|' :: '|' :: (inner ++ '|' :: '|' :: after) := by
  unfold spoiler? at h
  split at h
  · rw [← eq_append_of_close? h]
  · simp at h

theorem eq_append_of_cut? {cs before inner after : List Char}
    (h : cut? cs = some (before, inner, after)) :
    cs = before ++ '|' :: '|' :: (inner ++ '|' :: '|' :: after) := by
  fun_induction cut? cs generalizing before with
  | case1 => simp at h
  | case2 c rest i a hs =>
    simp only [Option.some.injEq, Prod.mk.injEq] at h
    obtain ⟨rfl, rfl, rfl⟩ := h
    simpa using eq_append_of_spoiler? hs
  | case3 c rest _ ih =>
    obtain ⟨⟨b, i, a⟩, hb, he⟩ := Option.map_eq_some_iff.1 h
    simp only [Prod.mk.injEq] at he
    obtain ⟨rfl, rfl, rfl⟩ := he
    simp [← ih hb]

/-- A text that is left out if it is empty. -/
def ofText (cs : List Char) : List Segment :=
  if cs.isEmpty then [] else [.text (String.ofList cs)]

def segments (cs : List Char) : List Segment :=
  match _h : cut? cs with
  | none => ofText cs
  | some (before, inner, after) =>
    ofText before ++ .spoiler (String.ofList inner) :: segments after
termination_by cs.length
decreasing_by
  rw [eq_append_of_cut? _h]
  simp only [List.length_append, List.length_cons]
  omega

/-- The segments of a text that has a spoiler, and nothing for any other text. -/
def split (value : String) : Option (List Segment) :=
  match cut? value.toList with
  | none => none
  | some _ => some (segments value.toList)

end Segment

end SpoilerMarkup
