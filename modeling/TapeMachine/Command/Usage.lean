import TapeMachine.Command.Option
import TapeMachine.Text.ControlSequence

/-! # Usage

The messages for a command line that cannot be understood, and the help texts. A message marks what
it quotes from the command line, and is shown plain: neither the marks nor anything in the quoted
text that a terminal would obey is left.
-/

namespace TapeMachine.Command

/-- Why a command line cannot be understood. -/
inductive UsageError where
  /-- The option takes a value and none follows. -/
  | valueRequired (switch : Switch)
  /-- The option stands there twice. -/
  | repeated (switch : Switch)
  /-- The option takes no value and has one attached. -/
  | unexpectedValue (switch : Switch) (value : String)
  /-- The value of the option cannot be read, for the given reason. -/
  | invalidValue (switch : Switch) (value reason : String)
  | unrecognizedSubcommand (word : String)
  | unexpectedArgument (argument : String)
deriving DecidableEq, Repr

/-- A text that stands out from the message around it. The mark behind it also ends a control
sequence that the text leaves open. -/
def mark (text : String) : String := "\x1b[1m" ++ text ++ "\x1b[0m"

/-- The message for a command line that cannot be understood. The reason that a value cannot be read
stands there without marks. -/
def UsageError.message : UsageError → String
  | valueRequired switch =>
    s!"a value is required for '{mark switch.display}' but none was supplied"
  | repeated switch => s!"the argument '{mark switch.display}' cannot be used multiple times"
  | unexpectedValue switch value =>
    s!"unexpected value '{mark value}' for '{mark switch.display}' found; no more were expected"
  | invalidValue switch value reason =>
    s!"invalid value '{mark value}' for '{mark switch.display}': {reason}"
  | unrecognizedSubcommand word => s!"unrecognized subcommand '{mark word}'"
  | unexpectedArgument argument => s!"unexpected argument '{mark argument}' found"

/-- The message as it is shown, with a hint behind it. -/
def UsageError.render (error : UsageError) : String :=
  let marked := mark "error:" ++ " " ++ error.message ++
    "\n\nFor more information, try '" ++ mark "--help" ++ "'.\n"
  String.ofList (Text.plain marked.toList)

def Subcommand.about : Subcommand → String
  | run => "Run a script; `,` reads stdin (or --input) and `.` writes stdout"
  | check => "Check that a script's brackets balance without running it"

def Switch.about : Switch → String
  | debug => "Log every dispatched instruction to stderr"
  | file => "Read the script from PATH instead of positional arguments"
  | input => "Feed TEXT to `,` instead of streaming stdin"
  | timeout =>
    "Wall-clock timeout in milliseconds (fallback TAPEBF_TIMEOUT_MS; default 2_000, " ++
      "or none while `,` reads a terminal)"
  | maxSteps =>
    "Maximum interpreter steps before abort (fallback TAPEBF_MAX_STEPS; default unlimited)"
  | resolver =>
    "Loop matching strategy: `table` or `scan` (fallback TAPEBF_RESOLVER; default table)"
  | help => "Print help"
  | version => "Print version"

/-- Rows of two columns, the second of which starts at the same place in every row. -/
def table (rows : List (String × String)) : String :=
  let width := (rows.map fun (left, _) => left.length).foldl max 0
  String.join <| rows.map fun (left, right) =>
    "  " ++ left.pushn ' ' (width - left.length) ++ "  " ++ right ++ "\n"

def Switch.row (switch : Switch) : String × String :=
  let short :=
    match switch.letter? with
    | some letter => s!"-{letter}, "
    | none => "    "
  (short ++ switch.display, switch.about)

def help : String :=
  "Run Brainfuck scripts on a fixed, wrapping tape\n\n" ++
    s!"Usage: {name} <COMMAND>\n\n" ++
    "Commands:\n" ++
    table ([Subcommand.run, .check].map fun subcommand => (subcommand.word, subcommand.about)) ++
    "\nOptions:\n" ++ table (switches.map Switch.row)

def Subcommand.help (subcommand : Subcommand) : String :=
  s!"{subcommand.about}\n\nUsage: {name} {subcommand.word} [OPTIONS] [SCRIPT]...\n\n" ++
    "Arguments:\n" ++ table [("[SCRIPT]...", "Script parts, concatenated")] ++
    "\nOptions:\n" ++ table (subcommand.switches.map Switch.row)

end TapeMachine.Command
