import TapeMachine.Command.Arguments
import TapeMachine.Command.Directory
import TapeMachine.Diagnostic
import TapeMachine.Session.Event
import TapeMachine.Session.OneShot
import TapeMachine.Text.Duration

/-! # Plans

From its arguments, its files and its environment the command makes a plan: either all is done, with
an outcome, or an accepted script is ready to run. Neither standard input nor standard output has
been touched by then. The log lines up to the level of the settings are part of the outcome.
-/

namespace TapeMachine.Command

/-- What a process leaves behind. -/
structure Outcome where
  exitCode : ExitCode
  /-- The bytes on standard output. -/
  output : Array UInt8
  /-- The text on standard error. -/
  errors : String
deriving DecidableEq

structure Surroundings where
  readFile : String → Except FileFault ByteArray
  environment : Environment
  /-- Whether standard input is a terminal. -/
  terminal : Bool

namespace Surroundings

def fileText (surroundings : Surroundings) (path : String) : Except FileFault String := do
  textOfBytes (← surroundings.readFile path)

end Surroundings

/-- The path of the config file. An empty config directory is the working directory, but an empty
home is the root of the file system. -/
def configPath? (environment : Environment) : Option String :=
  match environment "XDG_CONFIG_HOME" with
  | some directory => some (joinPath directory "tapebf.toml")
  | none => (environment "HOME").map fun home => joinPath (home ++ "/.config") "tapebf.toml"

/-- The values in the config file; a file that cannot be read gives none. -/
def fileConfig (surroundings : Surroundings) : FileConfig :=
  match configPath? surroundings.environment with
  | none => .ofText []
  | some path =>
    match surroundings.fileText path with
    | .ok text => .ofText text.toList
    | .error _ => .ofText []

/-- A line of the log, if the log goes that far. -/
def logLine (limit level : LogLevel) (text : String) : String :=
  if limit.isShown level then level.name ++ " " ++ text ++ "\n" else ""

def eventLine (limit : LogLevel) (event : Event) : String := logLine limit event.level event.text

def warningLines (settings : Settings) : String :=
  String.join (settings.warnings.map fun warning => logLine settings.logLevel .warn warning.text)

/-- A message of the command itself, in a line of its own. -/
def complaint (message : String) : String := name ++ ": " ++ message ++ "\n"

/-- The script that the arguments give, or the outcome if they give none. -/
def script (surroundings : Surroundings) (arguments : Arguments) : Except Outcome Script :=
  match arguments.file, arguments.parts with
  | some _, _ :: _ =>
    .error ⟨.usage, #[], complaint "cannot use positional script together with --file"⟩
  | none, [] =>
    .error ⟨.usage, #[], complaint "no script given (pass it as arguments or with --file)"⟩
  | some path, [] =>
    match surroundings.fileText path with
    | .ok text => .ok (.ofString text)
    | .error fault =>
      .error ⟨.ioFailure, #[],
        complaint ("failed to read script file " ++ path ++ ": " ++ fault.message)⟩
  | none, parts => .ok parts.flatten.toArray

/-- An accepted script that is ready to run. -/
structure Job where
  program : Program
  settings : Settings
  /-- The text that input is taken from, instead of standard input. -/
  input : Option (List Char)
  /-- The time limit in milliseconds. -/
  timeLimitMs : Option UInt64
  /-- What stands on standard error already. -/
  errors : String

inductive Plan where
  | finish (outcome : Outcome)
  | run (job : Job)

def optionText (value : Option String) : String :=
  match value with
  | some text => "Some(" ++ text ++ ")"
  | none => "None"

def strategyText : Strategy → String
  | .scan => "Scan"
  | .table => "Table"

/-- The log line for the start of a run. -/
def startText (job : Job) : String :=
  "starting run len=" ++ toString job.program.script.size ++
    " resolver=" ++ strategyText job.settings.resolver ++
    " max_steps=" ++ optionText (job.settings.maxSteps.map fun limit => toString limit.toNat) ++
    " timeout=" ++ optionText (job.timeLimitMs.map fun limit => Text.duration limit.toNat)

/-- What is left to do for a refused script. -/
def refusal (script : Script) (unmatched : UnmatchedBracket) (errors : String) : Outcome :=
  let error := RunError.script unmatched
  ⟨error.exitCode, #[], errors ++ error.render name script⟩

def planRun (surroundings : Surroundings) (arguments : Arguments) : Plan :=
  match script surroundings arguments with
  | .error outcome => .finish outcome
  | .ok script =>
    let settings := Settings.resolve arguments.overrides surroundings.environment
      (fileConfig surroundings)
    let errors := warningLines settings
    match Program.load script with
    | .error unmatched => .finish (refusal script unmatched errors)
    | .ok program =>
      let interactive := surroundings.terminal && arguments.input.isNone
      let job : Job := {
        program := program.withStrategy settings.resolver
        settings
        input := arguments.input
        timeLimitMs := settings.timeLimitMs? interactive
        errors }
      .run { job with
        errors := errors ++
          eventLine settings.logLevel (.validated script.size defaultCells) ++
          logLine settings.logLevel .info (startText job) }

def check (surroundings : Surroundings) (arguments : Arguments) : Outcome :=
  match script surroundings arguments with
  | .error outcome => outcome
  | .ok script =>
    let settings := Settings.resolve .none surroundings.environment (fileConfig surroundings)
    let errors := warningLines settings
    match script.check with
    | .error unmatched => refusal script unmatched errors
    | .ok () =>
      ⟨.ok, "ok\n".toUTF8.data,
        errors ++ logLine settings.logLevel .debug
          ("script is balanced len=" ++ toString script.size)⟩

namespace Stop

/-- The outcome of a command line that asks for no work. -/
def outcome : Stop → Outcome
  | usage error => ⟨.usage, #[], error.render⟩
  | nothingAsked => ⟨.usage, #[], Command.help⟩
  | help none => ⟨.ok, Command.help.toUTF8.data, ""⟩
  | help (some subcommand) => ⟨.ok, subcommand.help.toUTF8.data, ""⟩
  | version => ⟨.ok, (name ++ " " ++ Command.version ++ "\n").toUTF8.data, ""⟩

end Stop

def plan (surroundings : Surroundings) (arguments : List String) : Plan :=
  match Invocation.ofArguments arguments with
  | .error stop => .finish stop.outcome
  | .ok ⟨.check, arguments⟩ => .finish (check surroundings arguments)
  | .ok ⟨.run, arguments⟩ => planRun surroundings arguments

/-- The files that a command line may read. -/
def filesOf (environment : Environment) (arguments : List String) : List String :=
  match Invocation.ofArguments arguments with
  | .error _ => []
  | .ok invocation => invocation.arguments.file.toList ++ (configPath? environment).toList

def variableNames : List String :=
  ["XDG_CONFIG_HOME", "HOME", Settings.timeoutVariable, Settings.maxStepsVariable,
    Settings.resolverVariable, Settings.logVariable]

end TapeMachine.Command
