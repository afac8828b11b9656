import TapeMachine.Command.Plan

/-! # Carrying out a plan

A job runs as one session under the step limit of its settings and a time limit. Here time is
counted in dispatches: the cancel flag goes up when the session has made as many of them as the time
limit allows, and a session that ends cancelled has timed out. What the script wrote stands on
standard output in every case.
-/

namespace TapeMachine.Command

universe u

namespace Job

/-- The control of the session of a job, if `patience` dispatches are what its time limit allows. -/
def control {World : Type u} (job : Job) (patience : Nat) : Control World where
  maxSteps := job.settings.maxSteps.map UInt64.toNat
  flag steps _ := patience ≤ steps

/-- Run the session of a job, with the events that its log shows. -/
def session? {World : Type u} (job : Job) (device : Device World) (patience : Nat) (world : World) :
    Option (List Event × Report defaultCells World) :=
  let control := job.control patience
  if job.settings.logLevel.isShown .trace then
    (job.program.runRecorded? device control defaultCells (patience + 1) world).map
      fun (events, report) => (events.toList, report)
  else
    (job.program.run? device control defaultCells (patience + 1) world).map
      fun report => (report.closingEvent?.toList, report)

/-- What a job says at its end, and its exit code. -/
def verdict (job : Job) (result : Except ExecError (Halted defaultCells)) : ExitCode × String :=
  match result with
  | .ok halted =>
    (.ok, logLine job.settings.logLevel .debug ("run finished steps=" ++ toString halted.steps))
  | .error .cancelled =>
    (.aborted, "Execution aborted: wall-clock timeout exceeded (" ++
      toString (job.timeLimitMs.getD 0).toNat ++ " ms)\n")
  | .error error =>
    ((RunError.exec error).exitCode, (RunError.exec error).render name job.program.script)

def conclude (job : Job) (events : List Event) (result : Except ExecError (Halted defaultCells))
    (output : Array UInt8) : Outcome :=
  let (exitCode, last) := job.verdict result
  ⟨exitCode, output,
    job.errors ++ String.join (events.map (eventLine job.settings.logLevel)) ++ last⟩

/-- Run a job against the input that a source serves, up to its outcome and what is left unread. -/
def runOn {In : Type} (job : Job) (source : Source In) (patience : Nat) (input : In) :
    Outcome × In :=
  match job.session? (.ofEnds source .bytes) patience (input, #[]) with
  | some (events, report) =>
    (job.conclude events report.result report.world.2, report.world.1)
  | none => (⟨.internal, #[], job.errors⟩, input)

/-- Run a job where standard input serves the given input. A text of its own leaves that unread. -/
def outcome {In : Type} (job : Job) (standard : Source In) (patience : Nat) (input : In) :
    Outcome × In :=
  match job.input with
  | some text => ((job.runOn .text patience text).1, input)
  | none => job.runOn standard patience input

end Job

/-- Carry out a command line where standard input serves the given input, if `patience` dispatches
are what a time limit allows. What is left of the input comes with the outcome. -/
def executeOn {In : Type} (surroundings : Surroundings) (standard : Source In) (patience : Nat)
    (input : In) (arguments : List String) : Outcome × In :=
  match plan surroundings arguments with
  | .finish outcome => (outcome, input)
  | .run job => job.outcome standard patience input

def execute (surroundings : Surroundings) (patience : Nat) (standardInput : List UInt8)
    (arguments : List String) : Outcome :=
  (executeOn surroundings .bytes patience standardInput arguments).1

end TapeMachine.Command
