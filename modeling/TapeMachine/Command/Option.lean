/-! # Options of the command

The command has two subcommands. Each knows some options by a long name, some of them also by a
letter; an option either stands alone or takes a value, which messages show by a placeholder.
-/

namespace TapeMachine.Command

/-- The name under which the command speaks. -/
def name : String := "tapebf"

def version : String := "0.1.0"

inductive Subcommand where
  /-- Run a script. -/
  | run
  /-- Check the brackets of a script. -/
  | check
deriving DecidableEq, Repr

/-- An option in front of the script or of the subcommand. -/
inductive Switch where
  | debug
  | file
  | input
  | timeout
  | maxSteps
  | resolver
  | help
  | version
deriving DecidableEq, Repr

def Subcommand.word : Subcommand → String
  | run => "run"
  | check => "check"

def Subcommand.ofWord? (word : String) : Option Subcommand :=
  [run, check].find? fun subcommand => subcommand.word = word

namespace Switch

def longName : Switch → String
  | debug => "debug"
  | file => "file"
  | input => "input"
  | timeout => "timeout"
  | maxSteps => "max-steps"
  | resolver => "resolver"
  | help => "help"
  | version => "version"

def letter? : Switch → Option Char
  | debug => some 'd'
  | file => some 'f'
  | input => some 'i'
  | help => some 'h'
  | version => some 'V'
  | timeout | maxSteps | resolver => none

/-- The placeholder for the value of an option that takes one. -/
def placeholder? : Switch → Option String
  | file => some "PATH"
  | input => some "TEXT"
  | timeout => some "MS"
  | maxSteps => some "N"
  | resolver => some "STRATEGY"
  | debug | help | version => none

def display (switch : Switch) : String :=
  match switch.placeholder? with
  | some placeholder => "--" ++ switch.longName ++ " <" ++ placeholder ++ ">"
  | none => "--" ++ switch.longName

end Switch

def Subcommand.switches : Subcommand → List Switch
  | run => [.debug, .file, .input, .timeout, .maxSteps, .resolver, .help]
  | check => [.file, .help]

/-- The options in front of the subcommand. -/
def switches : List Switch := [.help, .version]

end TapeMachine.Command
