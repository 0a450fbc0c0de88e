import Mathlib.Data.List.Infix
import SpoilerMarkup.Config.Load
import SpoilerMarkup.Files.Tree

/-!
Where a configuration is found. The search begins in a directory and goes up to the topmost one,
and the first file on the way is taken. So the file in the longest of these directories is found,
and nothing counts but what is between it and the directory where the search began. Main statement:
`discover?_nearest`.
-/
namespace SpoilerMarkup.Config

variable {has has' : List String → Bool} {directory nearest : List String}

/-- At the top the search ends. -/
theorem discover?_nil (has : List String → Bool) :
    discover? has [] = if has [fileName] then some [fileName] else none := rfl

/-- A search that finds nothing in a directory goes on in the one above it. -/
theorem discover?_concat (has : List String → Bool) (above : List String) (name : String) :
    discover? has (above ++ [name]) =
      if has (above ++ [name] ++ [fileName]) then some (above ++ [name] ++ [fileName])
      else discover? has above := by
  rw [discover?, List.reverse_concat, discoverFrom?, List.reverse_cons, List.reverse_reverse,
    discover?]

theorem candidates_concat (above : List String) (name : String) :
    candidates (above ++ [name]) = candidates above ++ [above ++ [name] ++ [fileName]] := by
  have habove : ∀ n ∈ List.range (above.length + 1),
      (above ++ [name]).take n ++ [fileName] = above.take n ++ [fileName] := by
    intro n hn
    rw [List.mem_range] at hn
    rw [List.take_append_of_le_length (by omega)]
  have hall : (above ++ [name]).take (above.length + 1) = above ++ [name] :=
    List.take_of_length_le (by simp)
  rw [candidates, List.length_append, List.length_singleton, List.range_succ, List.map_append,
    List.map_congr_left habove, List.map_singleton, hall, candidates]

/-- A search looks at none but its candidates, so it is enough to know which of these there are. -/
theorem discover?_congr (h : ∀ parts ∈ candidates directory, has parts = has' parts) :
    discover? has directory = discover? has' directory := by
  induction directory using List.reverseRecOn with
  | nil => rw [discover?_nil, discover?_nil, h [fileName] (by decide)]
  | append_singleton above name ih =>
    rw [candidates_concat] at h
    rw [discover?_concat, discover?_concat, h _ (by simp),
      ih fun parts hparts => h parts (List.mem_append_left _ hparts)]

/-- The longest in which there is a configuration, of a directory and all those above it. -/
structure IsNearest (has : List String → Bool) (directory nearest : List String) : Prop where
  above : nearest <+: directory
  found : has (nearest ++ [fileName]) = true
  longest : ∀ other, other <+: directory → has (other ++ [fileName]) = true →
    other.length ≤ nearest.length

theorem isNearest_iff_eq (h : has (directory ++ [fileName]) = true) :
    IsNearest has directory nearest ↔ nearest = directory := by
  constructor
  · intro hnearest
    exact hnearest.above.eq_of_length_le (hnearest.longest directory (List.prefix_refl _) h)
  · rintro rfl
    exact ⟨List.prefix_refl _, h, fun _ hother _ => hother.length_le⟩

/-- Where a directory has no configuration, the nearest one is that of the directory above it. -/
theorem isNearest_concat_iff {above : List String} {name : String}
    (h : has (above ++ [name] ++ [fileName]) = false) :
    IsNearest has (above ++ [name]) nearest ↔ IsNearest has above nearest := by
  have hother : ∀ other, has (other ++ [fileName]) = true →
      (other <+: above ++ [name] ↔ other <+: above) := by
    intro other hfound
    rw [List.prefix_concat_iff, or_iff_right]
    rintro rfl
    rw [h] at hfound
    cases hfound
  constructor
  · rintro ⟨habove, hfound, hlongest⟩
    exact ⟨(hother _ hfound).1 habove, hfound,
      fun other hprefix hhas => hlongest other ((hother _ hhas).2 hprefix) hhas⟩
  · rintro ⟨habove, hfound, hlongest⟩
    exact ⟨(hother _ hfound).2 habove, hfound,
      fun other hprefix hhas => hlongest other ((hother _ hhas).1 hprefix) hhas⟩

theorem discover?_eq_some_iff {path : List String} :
    discover? has directory = some path ↔
      ∃ nearest, IsNearest has directory nearest ∧ path = nearest ++ [fileName] := by
  induction directory using List.reverseRecOn with
  | nil =>
    rw [discover?_nil]
    cases hhere : has [fileName] with
    | true =>
      have hself : ∀ nearest, IsNearest has [] nearest ↔ nearest = [] :=
        fun nearest => isNearest_iff_eq hhere
      simp [hself, eq_comm]
    | false =>
      have hnone : ∀ nearest, ¬ IsNearest has [] nearest := by
        intro nearest hnearest
        obtain rfl := List.prefix_nil.1 hnearest.above
        have hfound : has [fileName] = true := hnearest.found
        rw [hhere] at hfound
        cases hfound
      simp [hnone]
  | append_singleton above name ih =>
    rw [discover?_concat]
    cases hhere : has (above ++ [name] ++ [fileName]) with
    | true => simp [isNearest_iff_eq hhere, eq_comm]
    | false =>
      rw [if_neg (by simp), ih]
      simp only [isNearest_concat_iff hhere]

/-- The search fails only if there is nothing to be found. -/
theorem discover?_eq_none_iff :
    discover? has directory = none ↔
      ∀ other, other <+: directory → has (other ++ [fileName]) = false := by
  induction directory using List.reverseRecOn with
  | nil => simp [discover?_nil]
  | append_singleton above name ih =>
    rw [discover?_concat]
    simp only [List.prefix_concat_iff, forall_eq_or_imp, ← ih]
    cases has (above ++ [name] ++ [fileName]) <;> simp

/-- The nearest configuration stays the nearest one as long as it is there and no nearer one comes
in. -/
theorem IsNearest.congr (h : IsNearest has directory nearest)
    (hsame : ∀ other, nearest <+: other → other <+: directory →
      has' (other ++ [fileName]) = has (other ++ [fileName])) :
    IsNearest has' directory nearest := by
  refine ⟨h.above, ?_, fun other hother hfound => ?_⟩
  · rw [hsame nearest (List.prefix_refl nearest) h.above, h.found]
  · by_contra hlonger
    have hbetween : nearest <+: other :=
      List.prefix_of_prefix_length_le h.above hother (by omega)
    rw [hsame other hbetween hother] at hfound
    exact hlonger (h.longest other hother hfound)

/-- The search ends with the file in the longest directory that has one, of the directory it began
in and all those above it up to the topmost one, and finds nothing only if none of them has one.
What is found does not depend on any place but those from the one found down to where the search
began: not on what is above them, beside them or below. -/
theorem discover?_nearest (has : List String → Bool) (directory : List String) :
    (∀ path, discover? has directory = some path ↔
        ∃ nearest, IsNearest has directory nearest ∧ path = nearest ++ [fileName]) ∧
      (discover? has directory = none ↔
        ∀ other, other <+: directory → has (other ++ [fileName]) = false) ∧
      ∀ nearest, IsNearest has directory nearest → ∀ has' : List String → Bool,
        (∀ other, nearest <+: other → other <+: directory →
          has' (other ++ [fileName]) = has (other ++ [fileName])) →
        discover? has' directory = discover? has directory := by
  refine ⟨fun path => discover?_eq_some_iff, discover?_eq_none_iff, ?_⟩
  intro nearest hnearest has' hsame
  have hfound := discover?_eq_some_iff.2 ⟨nearest, hnearest, rfl⟩
  have hfound' := discover?_eq_some_iff.2 ⟨nearest, hnearest.congr hsame, rfl⟩
  rw [hfound, hfound']

/-- A directory of that name is found as well. The file above it does not count, nor does the one
below. -/
example :
    let tree : FileTree :=
      { files := [([fileName], "".toUTF8), (["a", "b", "c", fileName], "".toUTF8)]
        directories := [["a", fileName], ["a", "b"]] }
    discover? (fun parts => (tree.view []).has (.absolute parts)) ["a", "b"] =
      some ["a", fileName] := by
  decide +kernel

end SpoilerMarkup.Config
