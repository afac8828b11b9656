import TapeMachine.Settings.Basic

/-! # One setting at a time

A run has four settings, each with values of its own kind. What holds of every one of them is said
here of one setting: its flag, its variable, its key in the config file, and its default are
functions of the setting, and deciding all settings is deciding each one.
-/

namespace TapeMachine

inductive Setting where
  | timeoutMs
  | maxSteps
  | resolver
  | logLevel
deriving DecidableEq, Repr

namespace Setting

/-- All settings, in the order in which they are decided. -/
def all : List Setting := [timeoutMs, maxSteps, resolver, logLevel]

abbrev Value : Setting → Type
  | timeoutMs => UInt64
  | maxSteps => UInt64
  | resolver => Strategy
  | logLevel => LogLevel

def parse : (setting : Setting) → List Char → Option setting.Value
  | timeoutMs => Text.Decimal.read?
  | maxSteps => Text.Decimal.read?
  | resolver => Strategy.ofText?
  | logLevel => LogLevel.ofText?

def variableName : Setting → String
  | timeoutMs => "TAPEBF_TIMEOUT_MS"
  | maxSteps => "TAPEBF_MAX_STEPS"
  | resolver => "TAPEBF_RESOLVER"
  | logLevel => "TAPEBF_LOG"

def key : Setting → String
  | timeoutMs => "timeout_ms"
  | maxSteps => "max_steps"
  | resolver => "resolver"
  | logLevel => "log_level"

/-- The value on the command line. Every dispatch is logged at the level of traces. -/
def flag? (overrides : Overrides) : (setting : Setting) → Option setting.Value
  | timeoutMs => overrides.timeoutMs
  | maxSteps => overrides.maxSteps
  | resolver => overrides.resolver
  | logLevel => if overrides.debug then some .trace else none

def inFile? (file : FileConfig) : (setting : Setting) → Option setting.Value
  | timeoutMs => file.timeoutMs
  | maxSteps => file.maxSteps
  | resolver => file.resolver
  | logLevel => file.logLevel

/-- The value that nobody chose. There may be no limit at all. -/
def default? : (setting : Setting) → Option setting.Value
  | timeoutMs => none
  | maxSteps => none
  | resolver => some .table
  | logLevel => some .warn

/-- The value of a setting among the settings of a run. -/
def decided? (settings : Settings) : (setting : Setting) → Option setting.Value
  | timeoutMs => settings.timeoutMs
  | maxSteps => settings.maxSteps
  | resolver => some settings.resolver
  | logLevel => some settings.logLevel

theorem variableName_injective : Function.Injective variableName := by
  intro setting other
  cases setting <;> cases other <;> decide

theorem key_injective : Function.Injective key := by
  intro setting other
  cases setting <;> cases other <;> decide

/-- A config is what it says of each setting. -/
theorem ext_inFile? {file other : FileConfig}
    (same : ∀ setting, inFile? file setting = inFile? other setting) : file = other := by
  obtain ⟨timeoutMs, maxSteps, resolver, logLevel⟩ := file
  obtain rfl : timeoutMs = _ := same .timeoutMs
  obtain rfl : maxSteps = _ := same .maxSteps
  obtain rfl : resolver = _ := same .resolver
  obtain rfl : logLevel = _ := same .logLevel
  rfl

/-- Configs that agree on the other settings differ at most in this one. -/
theorem eq_iff_inFile?_eq {file other : FileConfig} {setting : Setting}
    (others : ∀ another, another ≠ setting → inFile? file another = inFile? other another) :
    file = other ↔ inFile? file setting = inFile? other setting := by
  refine ⟨fun same => same ▸ rfl, fun same => ext_inFile? fun another => ?_⟩
  by_cases isOther : another = setting
  · exact isOther ▸ same
  · exact others another isOther

/-- The value in the config file is read from the last assignment to the key. -/
theorem inFile?_ofAssignments (assigned : List (List Char × List Char)) (setting : Setting) :
    inFile? (.ofAssignments assigned) setting =
      (FileConfig.lastValue? assigned setting.key).bind setting.parse := by
  cases setting <;> rfl

section

variable (overrides : Overrides) (environment : Environment) (file : FileConfig)

/-- The choice between the command line, the environment and the config file for one setting. -/
def choose (setting : Setting) : Option setting.Value × List Warning :=
  Settings.choose (setting.flag? overrides)
    (environment.read setting.variableName setting.parse) (setting.inFile? file)

/-- Each setting has the value that is chosen for it, or else its default. -/
theorem decided?_resolve (setting : Setting) :
    decided? (.resolve overrides environment file) setting =
      (setting.choose overrides environment file).1.or setting.default? := by
  cases setting with
  | timeoutMs => exact (Option.or_none).symm
  | maxSteps => exact (Option.or_none).symm
  | resolver => exact (Option.or_some).symm
  | logLevel => exact (Option.or_some).symm

/-- The warnings are those of each choice. -/
theorem warnings_resolve :
    (Settings.resolve overrides environment file).warnings =
      all.flatMap fun setting => (setting.choose overrides environment file).2 := by
  simp only [all, List.flatMap_cons, List.flatMap_nil, List.append_nil]
  simp only [Settings.resolve, List.append_assoc]
  rfl

end

end Setting

end TapeMachine
