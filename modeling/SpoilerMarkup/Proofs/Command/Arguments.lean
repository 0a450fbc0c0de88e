import Mathlib.Data.List.TakeWhile
import SpoilerMarkup.Command.Arguments

/-!
Arguments written out on a command line. Each option that is set is given by its name, and the files
stand at the end, where nothing is taken for an option any more. What is written so is read back,
whatever the values are. Main statement: `ofArguments_spelled`.
-/
namespace SpoilerMarkup.Command

namespace RenderOption

def name : RenderOption → String
  | .output => "output"
  | .className => "class"
  | .noGfm => "no-gfm"
  | .config => "config"
  | .verbose => "verbose"
  | .help => "help"

theorem ofName?_name (option : RenderOption) : ofName? option.name = some option := by
  cases option <;> rfl

theorem ne_equals_of_mem_name {option : RenderOption} {c : Char} (h : c ∈ option.name.toList) :
    c ≠ '=' := by
  rintro rfl
  cases option <;> exact absurd h (by decide)

end RenderOption

namespace RenderArguments

variable {a b : RenderArguments} {option : RenderOption}

/-- An option with its value, or nothing where there is none. -/
def spelledValue (option : RenderOption) : Option String → List String
  | some value => ["--" ++ option.name ++ "=" ++ value]
  | none => []

def spelledFlag (option : RenderOption) : Bool → List String
  | true => ["--" ++ option.name]
  | false => []

/-- The arguments as they are written behind the name of the command. -/
def spelled (a : RenderArguments) : List String :=
  spelledValue .output a.output ++ spelledValue .className a.className ++
    spelledFlag .noGfm a.noGfm ++ spelledValue .config a.config ++
    spelledFlag .verbose a.verbose ++ "--" :: a.files

theorem readName_value (htakes : option.takesValue) (value : List Char) :
    a.readName (option.name.toList ++ '=' :: value) =
      (a.setValue option (String.ofList value)).map (·, none) := by
  have htake : (option.name.toList ++ '=' :: value).takeWhile (· ≠ '=') = option.name.toList := by
    rw [List.takeWhile_append_of_pos]
    · simp
    · simpa using fun c hc => RenderOption.ne_equals_of_mem_name hc
  rw [readName, htake, String.ofList_toList, RenderOption.ofName?_name]
  simp [htakes]

theorem readName_flag (htakes : option.takesValue = false) :
    a.readName option.name.toList = (a.setFlag option).map (·, none) := by
  have htake : option.name.toList.takeWhile (· ≠ '=') = option.name.toList := by
    rw [List.takeWhile_eq_self_iff]
    simpa using fun c hc => RenderOption.ne_equals_of_mem_name hc
  rw [readName, htake, String.ofList_toList, RenderOption.ofName?_name]
  simp [htakes]

theorem read_value (htakes : option.takesValue) {value : String}
    (h : a.setValue option value = .ok b) (rest : List String) :
    a.read none (("--" ++ option.name ++ "=" ++ value) :: rest) = b.read none rest := by
  have hcs : ("--" ++ option.name ++ "=" ++ value).toList =
      '-' :: '-' :: (option.name.toList ++ '=' :: value.toList) := by
    simp
  have hname := readName_value (a := a) htakes value.toList
  rw [String.ofList_toList, h] at hname
  cases hrest : option.name.toList ++ '=' :: value.toList with
  | nil => simp at hrest
  | cons c cs =>
    rw [hrest] at hcs hname
    simp only [read, hcs, hname, Except.map]

theorem read_flag (htakes : option.takesValue = false) (h : a.setFlag option = .ok b)
    (rest : List String) : a.read none (("--" ++ option.name) :: rest) = b.read none rest := by
  have hcs : ("--" ++ option.name).toList = '-' :: '-' :: option.name.toList := by
    simp
  have hname := readName_flag (a := a) htakes
  rw [h] at hname
  cases hrest : option.name.toList with
  | nil => cases option <;> cases hrest
  | cons c cs =>
    rw [hrest] at hcs hname
    simp only [read, hcs, hname, Except.map]

theorem read_spelledValue (htakes : option.takesValue) {value : Option String}
    (hsome : ∀ v, value = some v → a.setValue option v = .ok b) (hnone : value = none → a = b)
    (rest : List String) :
    a.read none (spelledValue option value ++ rest) = b.read none rest := by
  cases value with
  | none =>
    rw [hnone rfl]
    rfl
  | some v => exact read_value htakes (hsome v rfl) rest

theorem read_spelledFlag (htakes : option.takesValue = false) {flag : Bool}
    (hset : flag = true → a.setFlag option = .ok b) (hunset : flag = false → a = b)
    (rest : List String) :
    a.read none (spelledFlag option flag ++ rest) = b.read none rest := by
  cases flag with
  | false =>
    rw [hunset rfl]
    rfl
  | true => exact read_flag htakes (hset rfl) rest

theorem addFile_of_ne {file : String} (h : file ≠ "") :
    a.addFile file = .ok { a with files := a.files ++ [file] } := by
  rw [addFile, if_neg (by rwa [String.isEmpty_iff])]

theorem foldlM_addFile {files : List String} (h : "" ∉ files) :
    files.foldlM addFile a = .ok { a with files := a.files ++ files } := by
  induction files generalizing a with
  | nil => simp [pure, Except.pure]
  | cons file files ih =>
    obtain ⟨hfile, hfiles⟩ : ¬ "" = file ∧ "" ∉ files := by simpa using h
    have hrest := ih (a := { a with files := a.files ++ [file] }) hfiles
    rw [List.append_assoc, List.singleton_append] at hrest
    rw [List.foldlM_cons, addFile_of_ne (Ne.symm hfile)]
    exact hrest

/-- Behind two dashes all arguments are files. -/
theorem read_files {files : List String} (h : "" ∉ files) :
    a.read none ("--" :: files) = .ok { a with files := a.files ++ files } :=
  foldlM_addFile h

theorem read_spelled (houtput : a.output ≠ some "") (hconfig : a.config ≠ some "")
    (hfiles : "" ∉ a.files) : ({} : RenderArguments).read none a.spelled = .ok a := by
  obtain ⟨files, output, className, noGfm, config, verbose⟩ := a
  have h₁ (rest) : ({} : RenderArguments).read none (spelledValue .output output ++ rest) =
      read { output } none rest := by
    refine read_spelledValue rfl (fun value hvalue => ?_) (by rintro rfl; rfl) rest
    subst hvalue
    have hne : value ≠ "" := fun hempty => houtput (congrArg some hempty)
    simp [setValue, hne]
  have h₂ (rest) : read { output } none (spelledValue .className className ++ rest) =
      read { output, className } none rest :=
    read_spelledValue rfl (by rintro value rfl; rfl) (by rintro rfl; rfl) rest
  have h₃ (rest) : read { output, className } none (spelledFlag .noGfm noGfm ++ rest) =
      read { output, className, noGfm } none rest :=
    read_spelledFlag rfl (by rintro rfl; rfl) (by rintro rfl; rfl) rest
  have h₄ (rest) : read { output, className, noGfm } none (spelledValue .config config ++ rest) =
      read { output, className, noGfm, config } none rest := by
    refine read_spelledValue rfl (fun value hvalue => ?_) (by rintro rfl; rfl) rest
    subst hvalue
    have hne : value ≠ "" := fun hempty => hconfig (congrArg some hempty)
    simp [setValue, hne]
  have h₅ (rest) : read { output, className, noGfm, config } none
      (spelledFlag .verbose verbose ++ rest) =
        read { output, className, noGfm, config, verbose } none rest :=
    read_spelledFlag rfl (by rintro rfl; rfl) (by rintro rfl; rfl) rest
  simp only [spelled, List.append_assoc]
  rw [h₁, h₂, h₃, h₄, h₅, read_files hfiles, List.nil_append]

end RenderArguments

/-- All arguments can be given on a command line. The environment fills in a configuration that is
not among them. -/
theorem ofArguments_spelled {a : RenderArguments} {config : Option String}
    (houtput : a.output ≠ some "") (hgiven : a.config ≠ some "") (hconfig : config ≠ some "")
    (hfiles : "" ∉ a.files) :
    Request.ofArguments config ("render" :: a.spelled) =
      .render { a with config := a.config.or config } := by
  have hor : a.orConfig config = .ok { a with config := a.config.or config } := by
    obtain ⟨files, output, className, noGfm, given, verbose⟩ := a
    cases given with
    | some path => rfl
    | none =>
      cases config with
      | none => rfl
      | some path =>
        have hne : path ≠ "" := fun hempty => hconfig (congrArg some hempty)
        simp [RenderArguments.orConfig, RenderArguments.setValue, hne]
  have hread : (RenderArguments.read {} none a.spelled).bind (·.orConfig config) =
      .ok { a with config := a.config.or config } := by
    rw [RenderArguments.read_spelled houtput hgiven hfiles]
    exact hor
  simp only [Request.ofArguments, hread]

end SpoilerMarkup.Command
