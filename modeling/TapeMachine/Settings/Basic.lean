import TapeMachine.Settings.ConfigFile
import TapeMachine.Text.Quoted

/-! # Settings

Each setting of a run is decided by the first of four layers that has a value for it: the command
line, an environment variable, the config file, a default. A variable is looked at only when the
command line is silent. A variable that is blank counts as not set; one whose value cannot be read
leaves a warning and is passed over.
-/

namespace TapeMachine

structure Overrides where
  timeoutMs : Option UInt64
  maxSteps : Option UInt64
  resolver : Option Strategy
  /-- Log every dispatch. -/
  debug : Bool
deriving DecidableEq, Repr

def Overrides.none : Overrides := ⟨.none, .none, .none, false⟩

/-- The value of each environment variable that is set. -/
abbrev Environment := String → Option String

/-- An environment variable whose value cannot be read. -/
structure Warning where
  name : String
  value : List Char
deriving DecidableEq, Repr

def Warning.text (warning : Warning) : String :=
  "ignoring " ++ warning.name ++ "=" ++ String.ofList (Text.quoted warning.value) ++
    ": not a valid value"

structure Settings where
  timeoutMs : Option UInt64
  maxSteps : Option UInt64
  resolver : Strategy
  logLevel : LogLevel
  /-- The variables that were passed over, in the order of the settings. -/
  warnings : List Warning
deriving DecidableEq, Repr

namespace Environment

/-- The value of a variable without the blanks around it, if anything is left. -/
def value? (environment : Environment) (name : String) : Option (List Char) :=
  match environment name with
  | none => none
  | some text =>
    match Text.trim text.toList with
    | [] => none
    | value => some value

/-- The value read from a variable, or the warning that it cannot be read. -/
def read {α : Type} (environment : Environment) (name : String) (parse : List Char → Option α) :
    Except Warning (Option α) :=
  match environment.value? name with
  | none => .ok none
  | some text =>
    match parse text with
    | some value => .ok (some value)
    | none => .error ⟨name, text⟩

end Environment

namespace Settings

def timeoutVariable : String := "TAPEBF_TIMEOUT_MS"

def maxStepsVariable : String := "TAPEBF_MAX_STEPS"

def resolverVariable : String := "TAPEBF_RESOLVER"

def logVariable : String := "TAPEBF_LOG"

/-- The time limit of a run whose input is not typed, in milliseconds. -/
def defaultTimeoutMs : UInt64 := 2000

def defaultLogLevel : LogLevel := .warn

/-- Choose a setting by the command line, the environment and the config file, in this order, with
the warnings that this leaves. -/
def choose {α : Type} (flag : Option α) (inherited : Except Warning (Option α)) (file : Option α) :
    Option α × List Warning :=
  match flag, inherited with
  | some value, _ => (some value, [])
  | none, .ok value => (value.or file, [])
  | none, .error warning => (file, [warning])

def resolve (overrides : Overrides) (environment : Environment) (file : FileConfig) : Settings :=
  let timeout := choose overrides.timeoutMs
    (environment.read timeoutVariable Text.Decimal.read?) file.timeoutMs
  let steps := choose overrides.maxSteps
    (environment.read maxStepsVariable Text.Decimal.read?) file.maxSteps
  let resolver := choose overrides.resolver
    (environment.read resolverVariable Strategy.ofText?) file.resolver
  let log := choose (if overrides.debug then some .trace else none)
    (environment.read logVariable LogLevel.ofText?) file.logLevel
  { timeoutMs := timeout.1
    maxSteps := steps.1
    resolver := resolver.1.getD .default
    logLevel := log.1.getD defaultLogLevel
    warnings := timeout.2 ++ steps.2 ++ resolver.2 ++ log.2 }

/-- The time limit of a run in milliseconds. A chosen limit always holds; the default holds only
when no one types the input. -/
def timeLimitMs? (settings : Settings) (interactive : Bool) : Option UInt64 :=
  match settings.timeoutMs with
  | some limit => some limit
  | none => if interactive then none else some defaultTimeoutMs

end Settings

end TapeMachine
