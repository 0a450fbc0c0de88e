import SpoilerMarkup.Config.Load

/-!
What comes of loading a configuration. It fails if the file that is asked for does not exist; else
if the file, asked for or nearest, cannot be read as text; else if it is no configuration; else if
the class that is in force cannot stand between double quotes. In this order and for no other
reason. Main statement: `load_eq_iff`.
-/
namespace SpoilerMarkup

/-- The content of a file is a text in UTF-8. -/
def FileView.Holds (files : FileView) (path : Path) (text : String) : Prop :=
  files.read path = .ok text.toUTF8

/-- Why a file gives no text: it cannot be read, or its content is no UTF-8. -/
inductive FileView.Withholds (files : FileView) (path : Path) : FileError → Prop where
  | unreadable {cause : FileError} (h : files.read path = .error cause) :
    files.Withholds path cause
  | notUtf8 {bytes : ByteArray} (h : files.read path = .ok bytes)
      (hbytes : ∀ text : String, bytes ≠ text.toUTF8) : files.Withholds path .invalidUtf8

theorem decodeUtf8_eq_ok_iff {bytes : ByteArray} {text : String} :
    decodeUtf8 bytes = .ok text ↔ bytes = text.toUTF8 := by
  unfold decodeUtf8 String.fromUTF8?
  by_cases hvalid : bytes.IsValidUTF8
  · rw [dif_pos hvalid]
    constructor
    · rintro ⟨⟩
      rfl
    · rintro rfl
      rfl
  · rw [dif_neg hvalid]
    constructor
    · rintro ⟨⟩
    · rintro rfl
      exact absurd text.isValidUTF8 hvalid

theorem decodeUtf8_eq_error {bytes : ByteArray} (h : ∀ text : String, bytes ≠ text.toUTF8) :
    decodeUtf8 bytes = .error .invalidUtf8 := by
  cases hdecoded : decodeUtf8 bytes with
  | ok text => exact absurd (decodeUtf8_eq_ok_iff.1 hdecoded) (h text)
  | error cause =>
    unfold decodeUtf8 at hdecoded
    split at hdecoded
    · cases hdecoded
    · rw [← hdecoded]

namespace FileView

variable {files : FileView} {path : Path}

theorem readText_of_holds {text : String} (h : files.Holds path text) :
    files.readText path = .ok text := by
  rw [readText, show files.read path = .ok text.toUTF8 from h]
  exact decodeUtf8_eq_ok_iff.2 rfl

theorem readText_of_withholds {cause : FileError} (h : files.Withholds path cause) :
    files.readText path = .error cause := by
  cases h with
  | unreadable h => rw [readText, h]; rfl
  | notUtf8 h hbytes =>
    rw [readText, h]
    exact decodeUtf8_eq_error hbytes

theorem holds_or_withholds (files : FileView) (path : Path) :
    (∃ text, files.Holds path text) ∨ ∃ cause, files.Withholds path cause := by
  cases hread : files.read path with
  | error cause => exact .inr ⟨cause, .unreadable hread⟩
  | ok bytes =>
    by_cases htext : ∃ text : String, bytes = text.toUTF8
    · obtain ⟨text, rfl⟩ := htext
      exact .inl ⟨text, hread⟩
    · exact .inr ⟨.invalidUtf8, .notUtf8 hread fun text hbytes => htext ⟨text, hbytes⟩⟩

end FileView

namespace Config

/-- White space, quotes, angle brackets and the ampersand. -/
def Forbids (c : Char) : Prop :=
  Text.isBlank c ∨ c ∈ ['"', '\'', '<', '>', '&']

/-- What is wrong with a class: it is empty, or a certain character is its first forbidden one. -/
inductive HasFlaw (className : String) : ClassError → Prop where
  | empty (h : className = "") : HasFlaw className .empty
  | invalidCharacter {before after : List Char} {c : Char}
      (h : className.toList = before ++ c :: after) (hbefore : ∀ d ∈ before, ¬ Forbids d)
      (hc : Forbids c) : HasFlaw className (.invalidCharacter c)

theorem isForbidden_iff {c : Char} : isForbidden c = true ↔ Forbids c := by
  simp [isForbidden, Forbids, or_assoc]

theorem classError?_eq_some_iff {className : String} {cause : ClassError} :
    classError? className = some cause ↔ HasFlaw className cause := by
  by_cases hempty : className = ""
  · subst hempty
    constructor
    · rintro ⟨⟩
      exact .empty rfl
    · rintro (_ | ⟨h, -, -⟩)
      · rfl
      · simp at h
  · rw [classError?, if_neg (by simpa using hempty), Option.map_eq_some_iff]
    constructor
    · rintro ⟨c, hfound, rfl⟩
      obtain ⟨hc, before, after, hclass, hbefore⟩ := List.find?_eq_some_iff_append.1 hfound
      refine .invalidCharacter hclass (fun d hd => ?_) (isForbidden_iff.1 hc)
      rw [← isForbidden_iff]
      simpa using hbefore d hd
    · rintro (h | ⟨hclass, hbefore, hc⟩)
      · exact absurd h hempty
      · refine ⟨_, List.find?_eq_some_iff_append.2 ⟨isForbidden_iff.2 hc, _, _, hclass, ?_⟩, rfl⟩
        intro d hd
        have hd := hbefore d hd
        rw [← isForbidden_iff] at hd
        simpa using hd

theorem validate_of_hasFlaw {config : Config} {cause : ClassError}
    (h : HasFlaw config.className cause) : config.validate = .error (.invalid cause) := by
  rw [validate, classError?_eq_some_iff.2 h]

theorem validate_eq_ok_iff {config : Config} :
    config.validate = .ok () ↔ ∀ cause, ¬ HasFlaw config.className cause := by
  constructor
  · intro hvalid cause hflaw
    rw [validate_of_hasFlaw hflaw] at hvalid
    cases hvalid
  · intro hsound
    cases hclass : classError? config.className with
    | some cause => exact absurd (classError?_eq_some_iff.1 hclass) (hsound cause)
    | none => rw [validate, hclass]

/-- A class that has been validated has no forbidden character anywhere. -/
theorem not_forbids_of_validate {config : Config} (h : config.validate = .ok ()) {c : Char}
    (hc : c ∈ config.className.toList) : ¬ Forbids c := by
  intro hforbids
  have hempty : config.className ≠ "" := by
    rintro hempty
    simp [hempty] at hc
  cases hclass : classError? config.className with
  | some cause => exact validate_eq_ok_iff.1 h cause (classError?_eq_some_iff.1 hclass)
  | none =>
    rw [classError?, if_neg (by simpa using hempty), Option.map_eq_none_iff,
      List.find?_eq_none] at hclass
    exact hclass c hc (isForbidden_iff.2 hforbids)

/-- A file that is asked for exists. -/
def IsFound (files : FileView) (asked : Option Path) : Prop :=
  ∀ path, asked = some path → files.has path = true

/-- The file to read: the one that is asked for, or else the nearest one. -/
def source (files : FileView) (directory : List String) (asked : Option Path) : Option Path :=
  asked.or ((discover? (fun parts => files.has (.absolute parts)) directory).map .absolute)

/-- The settings that a file makes, or none where there is no file. -/
inductive Supplies (files : FileView) : Option Path → Settings → Prop where
  | nothing : Supplies files none {}
  | file {path : Path} {text : String} {settings : Settings} (holds : files.Holds path text)
      (parses : Settings.ofToml? text = some settings) : Supplies files (some path) settings

/-- The configuration in force: each setting is that of the overrides if they make it, else that of
the file, and else the default. -/
def inForce (overrides : Option Settings) (settings : Settings) (path : Option Path) : Config where
  className := ((overrides.bind (·.className)).or settings.className).getD "spoiler"
  gfm := ((overrides.bind (·.gfm)).or settings.gfm).getD true
  path

section

variable (files : FileView) (directory : List String) (asked : Option Path)
  (overrides : Option Settings)

/-- What can come of loading a configuration, each with its conditions. -/
inductive Outcome : Except ConfigError Config → Prop where
  | notFound {path : Path} (asks : asked = some path) (absent : files.has path = false) :
    Outcome (.error (.notFound path))
  | unreadable {path : Path} {cause : FileError} (found : IsFound files asked)
      (reads : source files directory asked = some path) (withholds : files.Withholds path cause) :
    Outcome (.error (.unreadable cause))
  | malformed {path : Path} {text : String} (found : IsFound files asked)
      (reads : source files directory asked = some path) (holds : files.Holds path text)
      (fails : Settings.ofToml? text = none) : Outcome (.error .malformed)
  | invalid {settings : Settings} {cause : ClassError} (found : IsFound files asked)
      (supplies : Supplies files (source files directory asked) settings)
      (flaw : HasFlaw (inForce overrides settings none).className cause) :
    Outcome (.error (.invalid cause))
  | ok {settings : Settings} (found : IsFound files asked)
      (supplies : Supplies files (source files directory asked) settings)
      (sound : ∀ cause, ¬ HasFlaw (inForce overrides settings none).className cause) :
    Outcome (.ok (inForce overrides settings (source files directory asked)))

end

section

variable {files : FileView} {directory : List String} {asked : Option Path}
  {overrides : Option Settings} {settings : Settings} {path : Path}

theorem ofSettings_getD (overrides : Option Settings) (settings : Settings) (path : Option Path) :
    ofSettings (overrides.getD {}) settings path = inForce overrides settings path := by
  cases overrides <;> rfl

theorem locate_of_isFound (h : IsFound files asked) :
    locate files directory asked = .ok (source files directory asked) := by
  cases asked with
  | none => rfl
  | some path =>
    rw [locate, if_pos (h path rfl)]
    rfl

theorem readSettings_of_supplies (h : Supplies files (some path) settings) :
    readSettings files path = .ok settings := by
  cases h with
  | file holds parses =>
    rw [readSettings, FileView.readText_of_holds holds]
    simp only [parses]

theorem readSettings_of_withholds {cause : FileError} (h : files.Withholds path cause) :
    readSettings files path = .error (.unreadable cause) := by
  rw [readSettings, FileView.readText_of_withholds h]

theorem readSettings_of_malformed {text : String} (h : files.Holds path text)
    (hfails : Settings.ofToml? text = none) : readSettings files path = .error .malformed := by
  rw [readSettings, FileView.readText_of_holds h]
  simp only [hfails]

/-- With the settings of the file at hand only the class in force is left to be checked. -/
theorem load_of_supplies (hfound : IsFound files asked)
    (h : Supplies files (source files directory asked) settings) :
    load files directory asked (overrides.getD {}) =
      let config := inForce overrides settings (source files directory asked)
      config.validate.map fun _ => config := by
  rw [load, locate_of_isFound hfound]
  generalize source files directory asked = reads at h
  cases h with
  | nothing =>
    simp only [bind, Except.bind, pure, Except.pure, ofSettings_getD]
    cases (inForce overrides {} none).validate <;> rfl
  | @file path text _ holds parses =>
    simp only [bind, Except.bind, readSettings_of_supplies (.file holds parses), ofSettings_getD]
    cases (inForce overrides settings (some path)).validate <;> rfl

theorem load_of_readSettings {error : ConfigError} (hfound : IsFound files asked)
    (hreads : source files directory asked = some path)
    (h : readSettings files path = .error error) :
    load files directory asked (overrides.getD {}) = .error error := by
  rw [load, locate_of_isFound hfound, hreads]
  simp only [bind, Except.bind, h]

theorem Outcome.load_eq {result : Except ConfigError Config}
    (h : Outcome files directory asked overrides result) :
    load files directory asked (overrides.getD {}) = result := by
  cases h with
  | notFound asks absent =>
    subst asks
    rw [load, locate, if_neg (by simp [absent])]
    rfl
  | unreadable found reads withholds =>
    exact load_of_readSettings found reads (readSettings_of_withholds withholds)
  | malformed found reads holds fails =>
    exact load_of_readSettings found reads (readSettings_of_malformed holds fails)
  | @invalid settings cause found supplies flaw =>
    have hflaw : HasFlaw (inForce overrides settings (source files directory asked)).className
        cause := flaw
    rw [load_of_supplies found supplies]
    simp only [validate_of_hasFlaw hflaw]
    rfl
  | @ok settings found supplies sound =>
    have hvalid : (inForce overrides settings (source files directory asked)).validate = .ok () :=
      validate_eq_ok_iff.2 sound
    rw [load_of_supplies found supplies]
    simp only [hvalid]
    rfl

/-- Settings that are at hand lead to a configuration, or their class is at fault. -/
theorem exists_outcome_of_supplies (hfound : IsFound files asked)
    (h : Supplies files (source files directory asked) settings) :
    ∃ result, Outcome files directory asked overrides result := by
  by_cases hflaw : ∃ cause, HasFlaw (inForce overrides settings none).className cause
  · obtain ⟨cause, hcause⟩ := hflaw
    exact ⟨_, .invalid hfound h hcause⟩
  · exact ⟨_, .ok hfound h fun cause hcause => hflaw ⟨cause, hcause⟩⟩

/-- There is no other outcome. -/
theorem exists_outcome (files : FileView) (directory : List String) (asked : Option Path)
    (overrides : Option Settings) : ∃ result, Outcome files directory asked overrides result := by
  by_cases hfound : IsFound files asked
  · cases hreads : source files directory asked with
    | none =>
      have hsupplies : Supplies files (source files directory asked) {} := by
        rw [hreads]
        exact .nothing
      exact exists_outcome_of_supplies hfound hsupplies
    | some path =>
      rcases files.holds_or_withholds path with ⟨text, holds⟩ | ⟨cause, withholds⟩
      · cases hparsed : Settings.ofToml? text with
        | none => exact ⟨_, .malformed hfound hreads holds hparsed⟩
        | some settings =>
          have hsupplies : Supplies files (source files directory asked) settings := by
            rw [hreads]
            exact .file holds hparsed
          exact exists_outcome_of_supplies hfound hsupplies
      · exact ⟨_, .unreadable hfound hreads withholds⟩
  · cases asked with
    | none => exact absurd (fun _ => nofun) hfound
    | some path =>
      cases habsent : files.has path with
      | true =>
        refine absurd ?_ hfound
        rintro _ ⟨⟩
        exact habsent
      | false => exact ⟨_, .notFound rfl habsent⟩

theorem load_eq_iff_outcome {result : Except ConfigError Config} :
    load files directory asked (overrides.getD {}) = result ↔
      Outcome files directory asked overrides result := by
  constructor
  · rintro rfl
    obtain ⟨result, h⟩ := exists_outcome files directory asked overrides
    rwa [h.load_eq]
  · exact Outcome.load_eq

theorem outcome_notFound_iff :
    Outcome files directory asked overrides (.error (.notFound path)) ↔
      asked = some path ∧ files.has path = false := by
  constructor
  · rintro ⟨asks, absent⟩
    exact ⟨asks, absent⟩
  · rintro ⟨asks, absent⟩
    exact .notFound asks absent

theorem outcome_unreadable_iff {cause : FileError} :
    Outcome files directory asked overrides (.error (.unreadable cause)) ↔
      IsFound files asked ∧
        ∃ path, source files directory asked = some path ∧ files.Withholds path cause := by
  constructor
  · rintro (_ | ⟨found, reads, withholds⟩)
    exact ⟨found, _, reads, withholds⟩
  · rintro ⟨found, path, reads, withholds⟩
    exact .unreadable found reads withholds

theorem outcome_malformed_iff :
    Outcome files directory asked overrides (.error .malformed) ↔
      IsFound files asked ∧ ∃ path text, source files directory asked = some path ∧
        files.Holds path text ∧ Settings.ofToml? text = none := by
  constructor
  · rintro (_ | _ | ⟨found, reads, holds, fails⟩)
    exact ⟨found, _, _, reads, holds, fails⟩
  · rintro ⟨found, path, text, reads, holds, fails⟩
    exact .malformed found reads holds fails

theorem outcome_invalid_iff {cause : ClassError} :
    Outcome files directory asked overrides (.error (.invalid cause)) ↔
      IsFound files asked ∧ ∃ settings, Supplies files (source files directory asked) settings ∧
        HasFlaw (inForce overrides settings (source files directory asked)).className cause := by
  constructor
  · rintro (_ | _ | _ | ⟨found, supplies, flaw⟩)
    exact ⟨found, _, supplies, flaw⟩
  · rintro ⟨found, settings, supplies, flaw⟩
    exact .invalid found supplies flaw

theorem outcome_ok_iff {config : Config} :
    Outcome files directory asked overrides (.ok config) ↔
      IsFound files asked ∧ ∃ settings, Supplies files (source files directory asked) settings ∧
        (∀ cause, ¬ HasFlaw
          (inForce overrides settings (source files directory asked)).className cause) ∧
        config = inForce overrides settings (source files directory asked) := by
  constructor
  · rintro (_ | _ | _ | _ | ⟨found, supplies, sound⟩)
    exact ⟨found, _, supplies, sound, rfl⟩
  · rintro ⟨found, settings, supplies, sound, rfl⟩
    exact .ok found supplies sound

theorem className_inForce_of_overrides {className : String}
    (h : overrides.bind (·.className) = some className) (settings : Settings)
    (path : Option Path) : (inForce overrides settings path).className = className := by
  simp [inForce, h]

end

/-- Loading a configuration ends in one of five ways, each under its own conditions. Nothing that
overrides the file keeps it from being read, and nothing else is read in its place; but a class in
the file that is overridden does no harm. -/
theorem load_eq_iff (files : FileView) (directory : List String) (asked : Option Path)
    (overrides : Option Settings) :
    let loaded := load files directory asked (overrides.getD {})
    let reads := source files directory asked
    (∀ path, loaded = .error (.notFound path) ↔ asked = some path ∧ files.has path = false) ∧
      (∀ cause, loaded = .error (.unreadable cause) ↔
        IsFound files asked ∧ ∃ path, reads = some path ∧ files.Withholds path cause) ∧
      (loaded = .error .malformed ↔ IsFound files asked ∧
        ∃ path text, reads = some path ∧ files.Holds path text ∧ Settings.ofToml? text = none) ∧
      (∀ cause, loaded = .error (.invalid cause) ↔ IsFound files asked ∧
        ∃ settings, Supplies files reads settings ∧
          HasFlaw (inForce overrides settings reads).className cause) ∧
      (∀ config, loaded = .ok config ↔ IsFound files asked ∧
        ∃ settings, Supplies files reads settings ∧
          (∀ cause, ¬ HasFlaw (inForce overrides settings reads).className cause) ∧
          config = inForce overrides settings reads) ∧
      (∀ config, loaded = .ok config → config.validate = .ok ()) ∧
      ∀ className settings, overrides.bind (·.className) = some className →
        (∀ cause, ¬ HasFlaw className cause) → IsFound files asked →
        Supplies files reads settings →
        ∃ config, loaded = .ok config ∧ config.className = className := by
  intro loaded reads
  have hloaded {result : Except ConfigError Config} :
      loaded = result ↔ Outcome files directory asked overrides result := load_eq_iff_outcome
  refine ⟨fun path => hloaded.trans outcome_notFound_iff,
    fun cause => hloaded.trans outcome_unreadable_iff, hloaded.trans outcome_malformed_iff,
    fun cause => hloaded.trans outcome_invalid_iff, fun config => hloaded.trans outcome_ok_iff,
    fun config hok => ?_, fun className settings hclass hsound hfound hsupplies => ?_⟩
  · obtain ⟨-, settings, -, sound, rfl⟩ := outcome_ok_iff.1 (hloaded.1 hok)
    exact validate_eq_ok_iff.2 sound
  · have hname : (inForce overrides settings reads).className = className :=
      className_inForce_of_overrides hclass settings reads
    have hok : loaded = .ok (inForce overrides settings reads) := by
      refine hloaded.2 (outcome_ok_iff.2 ⟨hfound, settings, hsupplies, ?_, rfl⟩)
      intro cause
      rw [hname]
      exact hsound cause
    exact ⟨_, hok, hname⟩

/-- The nearest file is taken although it is no configuration and the one above it is. A class of
two words in it does no harm if another one is asked for. -/
example :
    let farther := (Path.absolute [fileName], Except.ok "".toUTF8)
    let nearest (text : String) := (Path.absolute ["a", fileName], Except.ok text.toUTF8)
    let loaded (text : String) :=
      (load (.ofList [farther, nearest text]) ["a", "b"] none { className := some "z" }).toOption
    loaded "class" = none ∧
      loaded "spoiler.class = 'x y'" = some ⟨"z", true, some (.absolute ["a", fileName])⟩ := by
  decide +kernel

end Config

end SpoilerMarkup
