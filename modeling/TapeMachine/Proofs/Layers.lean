import Mathlib.Data.List.Basic
import TapeMachine.Proofs.Setting
import TapeMachine.Proofs.Trim

/-! # The layers of a setting

The first of four layers decides a setting: the command line, its environment variable, the config
file, its default. A variable is consulted only if the command line is silent. If it cannot be used
it leaves a warning, and the layers behind it decide as if it were not set. No setting looks at the
layers of another.
-/

namespace TapeMachine

namespace Environment

variable {environment : Environment} {name : String} {text : List Char}

/-- A variable is set to a text that is not empty, blanks at the ends of its value aside. -/
def IsSet (environment : Environment) (name : String) (text : List Char) : Prop :=
  text ≠ [] ∧ ∃ value, environment name = some value ∧ Text.StandsIn text value.toList

theorem value?_eq_some_iff : environment.value? name = some text ↔ environment.IsSet name text := by
  unfold value? IsSet
  cases environment name with
  | none => simp
  | some value =>
    simp only [Option.some.injEq, exists_eq_left', ← Text.trim_eq_iff]
    split
    · rename_i empty
      simp [empty, eq_comm]
    · rename_i left found
      constructor
      · rintro ⟨rfl⟩
        exact ⟨found, rfl⟩
      · rintro ⟨-, rfl⟩
        rfl

section Read

variable {α : Type} {parse : List Char → Option α}

theorem read_of_readable {value : α} (isSet : environment.IsSet name text)
    (readable : parse text = some value) : environment.read name parse = .ok (some value) := by
  simp only [read, value?_eq_some_iff.mpr isSet, readable]

theorem read_of_unreadable (isSet : environment.IsSet name text) (unreadable : parse text = none) :
    environment.read name parse = .error ⟨name, text⟩ := by
  simp only [read, value?_eq_some_iff.mpr isSet, unreadable]

theorem read_of_not_isSet (unset : ∀ text, ¬environment.IsSet name text) :
    environment.read name parse = .ok none := by
  have noValue : environment.value? name = none :=
    Option.eq_none_iff_forall_ne_some.mpr fun text found => unset text (value?_eq_some_iff.mp found)
  simp only [read, noValue]

end Read

end Environment

namespace Setting

/-- The variable of a setting has no text that can be used. -/
def IsUninherited (environment : Environment) (setting : Setting) : Prop :=
  ∀ text, environment.IsSet setting.variableName text → setting.parse text = none

/-- The variable of a setting is consulted, and its text cannot be used. -/
structure IsUnusable (overrides : Overrides) (environment : Environment) (setting : Setting)
    (text : List Char) : Prop where
  silent : setting.flag? overrides = none
  isSet : environment.IsSet setting.variableName text
  unreadable : setting.parse text = none

/-- How the layers decide a setting. -/
inductive DecidedAs (overrides : Overrides) (environment : Environment) (file : FileConfig)
    (setting : Setting) : Option setting.Value → Prop
  | given {value : setting.Value} (given : setting.flag? overrides = some value) :
      DecidedAs overrides environment file setting (some value)
  | inherited {text : List Char} {value : setting.Value} (silent : setting.flag? overrides = none)
      (isSet : environment.IsSet setting.variableName text)
      (readable : setting.parse text = some value) :
      DecidedAs overrides environment file setting (some value)
  | written {value : setting.Value} (silent : setting.flag? overrides = none)
      (uninherited : setting.IsUninherited environment)
      (written : setting.inFile? file = some value) :
      DecidedAs overrides environment file setting (some value)
  | default (silent : setting.flag? overrides = none)
      (uninherited : setting.IsUninherited environment)
      (unwritten : setting.inFile? file = none) :
      DecidedAs overrides environment file setting setting.default?

variable {overrides : Overrides} {environment : Environment} {file : FileConfig}
  {setting : Setting} {text : List Char}

theorem IsUnusable.isUninherited (unusable : setting.IsUnusable overrides environment text) :
    setting.IsUninherited environment := by
  intro other isSet
  have same := Environment.value?_eq_some_iff.mpr isSet
  rw [Environment.value?_eq_some_iff.mpr unusable.isSet] at same
  cases same
  exact unusable.unreadable

/-! ## The choice for one setting -/

theorem choose_of_given {value : setting.Value} (given : setting.flag? overrides = some value) :
    setting.choose overrides environment file = (some value, []) := by
  simp only [choose, Settings.choose, given]

theorem choose_of_readable {value : setting.Value} (silent : setting.flag? overrides = none)
    (isSet : environment.IsSet setting.variableName text)
    (readable : setting.parse text = some value) :
    setting.choose overrides environment file = (some value, []) := by
  simp only [choose, Settings.choose, silent, Environment.read_of_readable isSet readable,
    Option.some_or]

theorem choose_of_unusable (unusable : setting.IsUnusable overrides environment text) :
    setting.choose overrides environment file =
      (setting.inFile? file, [⟨setting.variableName, text⟩]) := by
  simp only [choose, Settings.choose, unusable.silent,
    Environment.read_of_unreadable unusable.isSet unusable.unreadable]

theorem choose_of_not_isSet (silent : setting.flag? overrides = none)
    (unset : ∀ text, ¬environment.IsSet setting.variableName text) :
    setting.choose overrides environment file = (setting.inFile? file, []) := by
  simp only [choose, Settings.choose, silent, Environment.read_of_not_isSet unset, Option.none_or]

/-- Without a flag and a usable variable the choice is that of the config file. -/
theorem choose_fst_of_uninherited (silent : setting.flag? overrides = none)
    (uninherited : setting.IsUninherited environment) :
    (setting.choose overrides environment file).1 = setting.inFile? file := by
  by_cases isSet : ∃ text, environment.IsSet setting.variableName text
  · obtain ⟨text, isSet⟩ := isSet
    rw [choose_of_unusable ⟨silent, isSet, uninherited text isSet⟩]
  · rw [choose_of_not_isSet silent (not_exists.mp isSet)]

theorem exists_decidedAs (overrides : Overrides) (environment : Environment) (file : FileConfig)
    (setting : Setting) : ∃ value, setting.DecidedAs overrides environment file value := by
  cases silent : setting.flag? overrides with
  | some value => exact ⟨_, .given silent⟩
  | none =>
    by_cases uninherited : setting.IsUninherited environment
    · cases written : setting.inFile? file with
      | some value => exact ⟨_, .written silent uninherited written⟩
      | none => exact ⟨_, .default silent uninherited written⟩
    · simp only [IsUninherited, not_forall] at uninherited
      obtain ⟨text, isSet, readable⟩ := uninherited
      obtain ⟨value, readable⟩ := Option.ne_none_iff_exists'.mp readable
      exact ⟨_, .inherited silent isSet readable⟩

/-- The settings of a run have the values that the layers decide. -/
theorem DecidedAs.decided?_eq {value : Option setting.Value}
    (decided : setting.DecidedAs overrides environment file value) :
    decided? (.resolve overrides environment file) setting = value := by
  rw [decided?_resolve]
  cases decided with
  | given given => rw [choose_of_given given, Option.some_or]
  | inherited silent isSet readable =>
    rw [choose_of_readable silent isSet readable, Option.some_or]
  | written silent uninherited written =>
    rw [choose_fst_of_uninherited silent uninherited, written, Option.some_or]
  | default silent uninherited unwritten =>
    rw [choose_fst_of_uninherited silent uninherited, unwritten, Option.none_or]

theorem decidedAs_iff {value : Option setting.Value} :
    setting.DecidedAs overrides environment file value ↔
      decided? (.resolve overrides environment file) setting = value := by
  constructor
  · exact DecidedAs.decided?_eq
  · rintro rfl
    obtain ⟨value, decided⟩ := exists_decidedAs overrides environment file setting
    exact decided.decided?_eq ▸ decided

/-! ## Warnings -/

/-- The text of the variable of a setting, if it is consulted and cannot be used. -/
def unusable? (overrides : Overrides) (environment : Environment) (setting : Setting) :
    Option (List Char) :=
  match setting.flag? overrides with
  | some _ => none
  | none => (environment.value? setting.variableName).filter fun text => (setting.parse text).isNone

theorem unusable?_eq_some_iff :
    setting.unusable? overrides environment = some text ↔
      setting.IsUnusable overrides environment text := by
  unfold unusable?
  cases silent : setting.flag? overrides with
  | some value =>
    simp only [reduceCtorEq, false_iff]
    intro unusable
    cases silent.symm.trans unusable.silent
  | none =>
    simp only [Option.filter_eq_some_iff, Environment.value?_eq_some_iff, Option.isNone_iff_eq_none]
    exact ⟨fun ⟨isSet, unreadable⟩ => ⟨silent, isSet, unreadable⟩,
      fun unusable => ⟨unusable.isSet, unusable.unreadable⟩⟩

/-- A choice warns of a variable that is consulted and cannot be used, and of nothing else. -/
theorem choose_snd :
    (setting.choose overrides environment file).2 =
      ((setting.unusable? overrides environment).map (Warning.mk setting.variableName)).toList := by
  cases found : setting.unusable? overrides environment with
  | some text => rw [choose_of_unusable (unusable?_eq_some_iff.mp found)]; rfl
  | none =>
    have usable : ∀ text, ¬setting.IsUnusable overrides environment text := by
      intro text unusable
      cases found.symm.trans (unusable?_eq_some_iff.mpr unusable)
    cases silent : setting.flag? overrides with
    | some value => rw [choose_of_given silent]; rfl
    | none =>
      by_cases isSet : ∃ text, environment.IsSet setting.variableName text
      · obtain ⟨text, isSet⟩ := isSet
        cases readable : setting.parse text with
        | some value => rw [choose_of_readable silent isSet readable]; rfl
        | none => exact absurd ⟨silent, isSet, readable⟩ (usable text)
      · rw [choose_of_not_isSet silent (not_exists.mp isSet)]; rfl

theorem warnings_eq :
    (Settings.resolve overrides environment file).warnings =
      all.filterMap fun setting =>
        (setting.unusable? overrides environment).map (Warning.mk setting.variableName) := by
  rw [warnings_resolve, List.filterMap_eq_flatMap_toList]
  exact List.flatMap_congr fun setting _ => choose_snd

/-! ## One setting does not look at another -/

/-- A setting is decided by its own flag, variable and value in the config file. -/
theorem decided?_congr {overridesToo : Overrides} {environmentToo : Environment}
    {fileToo : FileConfig}
    (flag : setting.flag? overridesToo = setting.flag? overrides)
    (inherited : environmentToo setting.variableName = environment setting.variableName)
    (inFile : setting.inFile? fileToo = setting.inFile? file) :
    setting.decided? (.resolve overridesToo environmentToo fileToo) =
      setting.decided? (.resolve overrides environment file) := by
  simp only [decided?_resolve, choose, Environment.read, Environment.value?, flag, inherited,
    inFile]

end Setting

namespace Settings

open Setting

/-- The first layer that has a value decides a setting: its flag, a usable text of its variable, its
value in the config file, its default. With dispatches to be logged the log level is that of traces;
without a time limit the default one holds, unless someone types the input. The warnings are those
of the variables that are consulted and cannot be used, in the order of the settings. Whatever is
changed in the layers of one setting, the others stay as they are, and a variable that cannot be
used hides no value of the config file. -/
theorem first_layer_decides (overrides : Overrides) (environment : Environment)
    (file : FileConfig) :
    (∀ (setting : Setting) value, setting.DecidedAs overrides environment file value ↔
      setting.decided? (resolve overrides environment file) = value) ∧
    (overrides.debug = true → (resolve overrides environment file).logLevel = .trace) ∧
    (∀ interactive, (resolve overrides environment file).timeLimitMs? interactive =
      (resolve overrides environment file).timeoutMs.or (if interactive then none else some 2000)) ∧
    (∀ (setting : Setting) text, setting.unusable? overrides environment = some text ↔
      setting.IsUnusable overrides environment text) ∧
    (resolve overrides environment file).warnings =
      (all.filterMap fun setting =>
        (setting.unusable? overrides environment).map (Warning.mk setting.variableName)) ∧
    ((resolve overrides environment file).warnings.map Warning.text =
      all.filterMap fun setting => (setting.unusable? overrides environment).map fun text =>
        "ignoring " ++ setting.variableName ++ "=" ++ String.ofList (Text.quoted text) ++
          ": not a valid value") ∧
    (∀ (changed : Setting) overridesToo environmentToo fileToo,
      (∀ other, other ≠ changed → other.flag? overridesToo = other.flag? overrides ∧
        other.inFile? fileToo = other.inFile? file) →
      (∀ name, name ≠ changed.variableName → environmentToo name = environment name) →
      ∀ other, other ≠ changed →
        other.decided? (resolve overridesToo environmentToo fileToo) =
          other.decided? (resolve overrides environment file)) ∧
    ∀ (setting : Setting) text value, setting.IsUnusable overrides environment text →
      setting.inFile? file = some value →
      setting.decided? (resolve overrides environment file) = some value := by
  refine ⟨fun setting value => decidedAs_iff, fun debug => ?_, fun interactive => ?_,
    fun setting text => unusable?_eq_some_iff, warnings_eq, ?_, ?_, ?_⟩
  · have given : Setting.logLevel.flag? overrides = some .trace := if_pos debug
    exact Option.some.inj (decidedAs_iff.mp (.given given) : _ = some _)
  · unfold timeLimitMs?
    cases (resolve overrides environment file).timeoutMs <;> rfl
  · rw [warnings_eq, List.map_filterMap]
    simp only [Option.map_map]
    rfl
  · intro changed overridesToo environmentToo fileToo same sameVariables other isOther
    have ⟨flag, inFile⟩ := same other isOther
    exact decided?_congr flag (sameVariables _ (variableName_injective.ne isOther)) inFile
  · intro setting text value unusable inFile
    exact decidedAs_iff.mp (.written unusable.silent unusable.isUninherited inFile)

/-- A variable that holds no number leaves the step limit to the config file. Setting it right later
moves neither the log level, which has a variable of its own, nor the time limit of the command
line, and with every dispatch to be logged the variable of the log level does not count. -/
theorem first_layer_decides_badVariable :
    let overrides : Overrides := ⟨some 50, none, none, false⟩
    let environment : Environment := fun name =>
      if name = "TAPEBF_MAX_STEPS" then some " lots" else
        if name = "TAPEBF_LOG" then some "5" else none
    let mended : Environment := fun name =>
      if name = "TAPEBF_MAX_STEPS" then some "40" else environment name
    let file : FileConfig := ⟨some 10, some 7, some .scan, some .info⟩
    (Setting.maxSteps.IsUnusable overrides environment ['l', 'o', 't', 's'] ∧
      Setting.maxSteps.inFile? file = some 7 ∧
      Setting.maxSteps.decided? (resolve overrides environment file) = some 7) ∧
    ((∀ other, other ≠ Setting.maxSteps → other.flag? overrides = other.flag? overrides ∧
        other.inFile? file = other.inFile? file) ∧
      (∀ name, name ≠ Setting.maxSteps.variableName → mended name = environment name) ∧
      Setting.logLevel.decided? (resolve overrides mended file) =
        Setting.logLevel.decided? (resolve overrides environment file) ∧
      Setting.timeoutMs.decided? (resolve overrides mended file) =
        Setting.timeoutMs.decided? (resolve overrides environment file)) ∧
    ({ overrides with debug := true }.debug = true ∧
      (resolve { overrides with debug := true } environment file).logLevel = .trace) := by
  intro overrides environment mended file
  have ⟨_, _, _, unusable, _, _, others, hidesNothing⟩ :=
    first_layer_decides overrides environment file
  have inVain := (unusable .maxSteps ['l', 'o', 't', 's']).mp (by decide)
  have elsewhere (name : String) (isOther : name ≠ Setting.maxSteps.variableName) :
      mended name = environment name := if_neg isOther
  have same (other : Setting) (_ : other ≠ .maxSteps) :
      other.flag? overrides = other.flag? overrides ∧ other.inFile? file = other.inFile? file :=
    ⟨rfl, rfl⟩
  have kept := others .maxSteps overrides mended file same elsewhere
  exact ⟨⟨inVain, rfl, hidesNothing .maxSteps _ 7 inVain rfl⟩,
    ⟨same, elsewhere, kept .logLevel (by decide), kept .timeoutMs (by decide)⟩,
    rfl, (first_layer_decides { overrides with debug := true } environment file).2.1 rfl⟩

end Settings

end TapeMachine
