import TapeMachine.Command.Execution

/-! # The command line

The outer layer: it reads the files and the environment for the plan, and runs a job with standard
input and standard output as its device. The clock is looked at now and then between dispatches, and
a job that is past its time limit is cancelled there.
-/

namespace TapeMachine.Command

/-- The failure of a call to the operating system as the answer of a device. -/
def answerOf {α : Type} (call : IO α) : IO (Except IoFailure α) :=
  try return .ok (← call)
  catch problem => return .error ⟨.other, toString problem⟩

def readBytes (path : String) : IO (Except FileFault ByteArray) :=
  try return .ok (← IO.FS.readBinFile path)
  catch
    | .noFileOrDirectory .. => return .error .notFound
    | .inappropriateType _ code _ =>
      return .error (if code = 21 then .isADirectory else .notADirectory)
    | .invalidArgument _ 36 _ => return .error .nameTooLong
    | problem => return .error (.other (toString problem))

/-- The files and variables that a command line may read. -/
def surroundingsOf (arguments : List String) : IO Surroundings := do
  let values ← variableNames.mapM fun name => return (name, ← IO.getEnv name)
  let environment : Environment := fun name => (values.lookup name).join
  let files ← (filesOf environment arguments).mapM fun path => return (path, ← readBytes path)
  let readFile (path : String) := (files.lookup path).getD (.error .notFound)
  return ⟨readFile, environment, ← (← IO.getStdin).isTty⟩

def nextByte (stream : IO.FS.Stream) : IO (Option UInt8) := do
  return (← stream.read 1)[0]?

/-- The next byte of a text that is read through a reference. -/
def nextCharacter (unread : IO.Ref (List Char)) : IO (Except IoFailure (Option UInt8)) := do
  let (answer, rest) := Source.text.read (← unread.get)
  unread.set rest
  return answer

/-- The number of dispatches between two looks at the clock. -/
def dispatchesPerLook : Nat := 1024

/-- Whether a deadline has passed, as far as the clock is looked at after so many dispatches. -/
def isLate (deadline : Option Nat) (steps : Nat) : IO Bool := do
  match deadline with
  | some deadline =>
    if steps % dispatchesPerLook = 0 then return deadline ≤ (← IO.monoMsNow) else return false
  | none => return false

def step (job : Job) (read : IO (Except IoFailure (Option UInt8))) (output errors : IO.FS.Stream)
    (late : Bool) (session : Session defaultCells) : IO (Status defaultCells) := do
  let control : Control Unit := ⟨job.settings.maxSteps.map UInt64.toNat, fun _ _ => late⟩
  if job.settings.logLevel.isShown .trace then
    for event in job.program.events control session () do
      errors.putStr (eventLine job.settings.logLevel event)
  if inside : session.position < job.program.script.size then
    match control.stop? session.steps () with
    | some error => return .aborted session error
    | none =>
      match job.program.action job.program.script[session.position] session with
      | .proceed next => return .running next
      | .read waiting => return waiting.received (← read)
      | .write byte waiting => return waiting.delivered (← answerOf (output.write ⟨#[byte]⟩))
      | .stop session fault => return .aborted session (.internal fault)
  else return .completed session

/-- Make the dispatches of a job until it ends. -/
partial def drive (job : Job) (read : IO (Except IoFailure (Option UInt8)))
    (output errors : IO.FS.Stream) (deadline : Option Nat) (session : Session defaultCells) :
    IO (Status defaultCells) := do
  let late ← isLate deadline session.steps
  match ← step job read output errors late session with
  | .running session => drive job read output errors deadline session
  | ended => return ended

def perform (job : Job) : IO ExitCode := do
  let output ← IO.getStdout
  let errors ← IO.getStderr
  errors.putStr job.errors
  let read ←
    match job.input with
    | some text => do pure (nextCharacter (← IO.mkRef text))
    | none => do pure (answerOf (nextByte (← IO.getStdin)))
  let start ← IO.monoMsNow
  let deadline := job.timeLimitMs.map fun limit => start + limit.toNat
  let status ← drive job read output errors deadline (Session.start defaultCells)
  let flushed ← answerOf output.flush
  let ended : Device Unit := {
    read _ := (.ok none, ())
    write _ _ := (.ok (), ())
    flush _ := (flushed, ()) }
  match status.close? ended () with
  | none => return .internal
  | some report =>
    for event in report.closingEvent?.toList do
      errors.putStr (eventLine job.settings.logLevel event)
    let (exitCode, last) := job.verdict report.result
    errors.putStr last
    return exitCode

def carryOut (arguments : List String) : IO UInt32 := do
  let exitCode ←
    match plan (← surroundingsOf arguments) arguments with
    | .finish outcome => do
      (← IO.getStdout).write ⟨outcome.output⟩
      (← IO.getStderr).putStr outcome.errors
      pure outcome.exitCode
    | .run job => perform job
  return exitCode.toNat.toUInt32

end TapeMachine.Command

def main (arguments : List String) : IO UInt32 := TapeMachine.Command.carryOut arguments
