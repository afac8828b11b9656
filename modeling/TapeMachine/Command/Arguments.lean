import TapeMachine.Command.Usage
import TapeMachine.Settings.Basic

/-! # Arguments

A subcommand takes options and then a script in parts. An argument is an option only if all of it is
known: a long name, alone or with a value behind an equals sign, or letters behind one hyphen. Two
hyphens alone end the options. Any other argument is the value of an option that still waits for
one, or else the first part of the script, and behind that everything belongs to the script.

A value given as an argument of its own is looked at only when the next option or the script
arrives. A value attached to an option that takes none is refused at once, so of two faults the one
further right can win.
-/

namespace TapeMachine.Command

structure Arguments where
  file : Option String
  input : Option (List Char)
  overrides : Overrides
  /-- The parts of the script, in order. -/
  parts : List (List Char)
deriving DecidableEq, Repr

def Arguments.none : Arguments := ⟨.none, .none, .none, []⟩

/-- Why a command line asks for no work. -/
inductive Stop where
  | usage (error : UsageError)
  /-- The command line is empty. -/
  | nothingAsked
  | help (subcommand : Option Subcommand)
  | version
deriving DecidableEq, Repr

/-- What an argument in front of the script looks like. -/
inductive Token where
  | separator
  | long (switch : Switch) (attached : Option (List Char))
  | letters (letters : List Char)
  | word
deriving DecidableEq, Repr

def switchOfLetter? (known : List Switch) (letter : Char) : Option Switch :=
  known.find? fun switch => switch.letter? = some letter

def switchOfName? (known : List Switch) (longName : List Char) : Option Switch :=
  known.find? fun switch => switch.longName.toList = longName

/-- The name in front of an equals sign and the value behind it. -/
def splitValue (argument : List Char) : List Char × Option (List Char) :=
  match Text.splitFirst? '=' argument with
  | some (longName, value) => (longName, some value)
  | none => (argument, .none)

/-- Tell options from words, by the options that are known. -/
def Token.ofArgument (known : List Switch) : List Char → Token
  | ['-', '-'] => .separator
  | '-' :: '-' :: argument =>
    match switchOfName? known (splitValue argument).1 with
    | some switch => .long switch (splitValue argument).2
    | none => .word
  | '-' :: letter :: more =>
    if (letter :: more).all fun letter => (switchOfLetter? known letter).isSome then
      .letters (letter :: more)
    else .word
  | _ => .word

/-- An option whose value is still to be given, or to be looked at. -/
inductive Pending where
  | nothing
  | awaiting (switch : Switch)
  | holding (switch : Switch) (value : List Char)
deriving DecidableEq, Repr

/-- The arguments read so far, and the options among them. -/
structure Reading where
  arguments : Arguments
  seen : List Switch
  pending : Pending
deriving DecidableEq, Repr

namespace Reading

def start : Reading := ⟨.none, [], .nothing⟩

/-- Note an option that has not been there before. -/
def note (reading : Reading) (switch : Switch) : Except Stop Reading :=
  if switch ∈ reading.seen then .error (.usage (.repeated switch))
  else .ok { reading with seen := switch :: reading.seen }

def number (switch : Switch) (value : List Char) : Except Stop UInt64 :=
  match Text.Decimal.read value with
  | .ok number => .ok number
  | .error fault => .error (.usage (.invalidValue switch (String.ofList value) fault.message))

def strategy (switch : Switch) (value : List Char) : Except Stop Strategy :=
  match Strategy.ofText value with
  | .ok strategy => .ok strategy
  | .error unknown => .error (.usage (.invalidValue switch (String.ofList value) unknown.message))

/-- What the arguments say once an option has its value. -/
def store (arguments : Arguments) (switch : Switch) (value : List Char) : Except Stop Arguments :=
  let overrides := arguments.overrides
  match switch with
  | .file => .ok { arguments with file := some (String.ofList value) }
  | .input => .ok { arguments with input := some value }
  | .timeout => do
    let limit ← number switch value
    .ok { arguments with overrides := { overrides with timeoutMs := some limit } }
  | .maxSteps => do
    let limit ← number switch value
    .ok { arguments with overrides := { overrides with maxSteps := some limit } }
  | .resolver => do
    let strategy ← strategy switch value
    .ok { arguments with overrides := { overrides with resolver := some strategy } }
  | .debug | .help | .version => .ok arguments

/-- Give an option its value. That it is there twice counts before what the value is. -/
def assign (reading : Reading) (switch : Switch) (value : List Char) : Except Stop Reading := do
  let reading ← reading.note switch
  let arguments ← store reading.arguments switch value
  .ok { reading with arguments }

/-- Look at the value that was given last, or miss it. -/
def settle (reading : Reading) : Except Stop Reading :=
  match reading.pending with
  | .nothing => .ok reading
  | .awaiting switch => .error (.usage (.valueRequired switch))
  | .holding switch value => { reading with pending := .nothing }.assign switch value

/-- Follow an option that takes no value. -/
def follow (subcommand : Subcommand) (reading : Reading) (switch : Switch) :
    Except Stop Reading := do
  let reading ← reading.settle
  match switch with
  | .help => .error (.help (some subcommand))
  | .version => .error .version
  | _ =>
    let reading ← reading.note switch
    let overrides := { reading.arguments.overrides with debug := true }
    .ok { reading with arguments := { reading.arguments with overrides } }

/-- Meet an option that takes a value, with the value if it is attached. -/
def meet (reading : Reading) (switch : Switch) (attached : Option (List Char)) :
    Except Stop Reading := do
  let reading ← reading.settle
  match attached with
  | some value => reading.assign switch value
  | none => .ok { reading with pending := .awaiting switch }

/-- Read letters behind one hyphen. The first that takes a value takes the letters behind it. -/
def readLetters (subcommand : Subcommand) (reading : Reading) : List Char → Except Stop Reading
  | [] => .ok reading
  | letter :: more =>
    match switchOfLetter? subcommand.switches letter with
    | none => .ok reading
    | some switch =>
      if switch.placeholder?.isSome then
        reading.meet switch (if more = [] then none else some more)
      else do
        let reading ← reading.follow subcommand switch
        readLetters subcommand reading more

/-- End the options; the parts of the script follow. -/
def finish (reading : Reading) (parts : List (List Char)) : Except Stop Arguments := do
  let reading ← reading.settle
  .ok { reading.arguments with parts }

def read (subcommand : Subcommand) (reading : Reading) : List (List Char) → Except Stop Arguments
  | [] => reading.finish []
  | argument :: rest =>
    match Token.ofArgument subcommand.switches argument with
    | .separator => reading.finish rest
    | .word =>
      match reading.pending with
      | .awaiting switch =>
        read subcommand { reading with pending := .holding switch argument } rest
      | _ => reading.finish (argument :: rest)
    | .letters letters => do
      let reading ← reading.readLetters subcommand letters
      read subcommand reading rest
    | .long switch attached =>
      if switch.placeholder?.isSome then do
        let reading ← reading.meet switch attached
        read subcommand reading rest
      else
        match attached with
        | some value => .error (.usage (.unexpectedValue switch (String.ofList value)))
        | none => do
          let reading ← reading.follow subcommand switch
          read subcommand reading rest

end Reading

structure Invocation where
  subcommand : Subcommand
  arguments : Arguments
deriving DecidableEq, Repr

namespace Invocation

/-- Why an argument in the place of the subcommand is none. -/
def refuse (argument : List Char) : Stop :=
  let whole := String.ofList argument
  match argument with
  | '-' :: '-' :: rest =>
    let (longName, attached) := splitValue rest
    match switchOfName? switches longName, attached with
    | some switch, some value => .usage (.unexpectedValue switch (String.ofList value))
    | some .version, none => .version
    | some _, none => .help none
    | none, _ => .usage (.unexpectedArgument ("--" ++ String.ofList longName))
  | '-' :: letter :: _ =>
    match switchOfLetter? switches letter with
    | some .version => .version
    | some _ => .help none
    | none => .usage (.unexpectedArgument ("-" ++ letter.toString))
  | _ => .usage (.unrecognizedSubcommand whole)

/-- Why an argument behind two hyphens is no subcommand. -/
def refuseBehindSeparator (argument : String) : UsageError :=
  match Subcommand.ofWord? argument with
  | some _ => .unexpectedArgument argument
  | none => .unrecognizedSubcommand argument

def ofArguments : List String → Except Stop Invocation
  | [] => .error .nothingAsked
  | ["--"] => .error .nothingAsked
  | "--" :: argument :: _ => .error (.usage (refuseBehindSeparator argument))
  | argument :: rest =>
    match Subcommand.ofWord? argument with
    | none => .error (refuse argument.toList)
    | some subcommand => do
      let arguments ← Reading.start.read subcommand (rest.map String.toList)
      .ok { subcommand, arguments }

end Invocation

end TapeMachine.Command
