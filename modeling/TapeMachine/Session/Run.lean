import TapeMachine.Session.Basic

/-! # Running a session

`Program.step` makes one dispatch of a session against a device. Before each dispatch the control of
the session is asked: a raised cancel flag stops the session first, a used up step limit second.
`Program.advance` makes a given number of steps, so a session that never ends is one that is still
running after every number of them. At the end the device is flushed once; the flush decides the
result only when the script was executed to its end.
-/

namespace TapeMachine

universe u

/-- What may stop a session from outside. -/
structure Control (World : Type u) where
  /-- The number of dispatches that the session may make, if it is limited. -/
  maxSteps : Option Nat
  /-- Whether the cancel flag is up, seen after a number of dispatches in a state of the world. -/
  flag : Nat → World → Bool

namespace Control

variable {World : Type u}

def none : Control World := ⟨.none, fun _ _ => false⟩

/-- Why the next dispatch is not made, if the control forbids it. -/
def stop? (control : Control World) (steps : Nat) (world : World) : Option ExecError :=
  if control.flag steps world then some .cancelled
  else
    match control.maxSteps with
    | .none => .none
    | some limit => if limit ≤ steps then some (.stepLimitExceeded limit) else .none

end Control

/-- The state of a session that executed its script to the end. -/
structure Halted (n : Nat) where
  tape : Tape n
  steps : Nat
deriving DecidableEq, Repr

/-- What is known when a session has ended. -/
structure Report (n : Nat) (World : Type u) where
  result : Except ExecError (Halted n)
  /-- How the session stood before the flush. -/
  status : Status n
  /-- The world behind the flush. -/
  world : World

namespace Program

variable {n : Nat} {World : Type u}

/-- Make one dispatch: its effect on the session, with the answer of the device if it needs one. -/
@[inline] def dispatch (program : Program) (device : Device World) (character : Char)
    (session : Session n) (world : World) : Status n × World :=
  match program.action character session with
  | .proceed next => (.running next, world)
  | .read waiting =>
    let (answer, world) := device.read world
    (waiting.received answer, world)
  | .write byte waiting =>
    let (answer, world) := device.write byte world
    (waiting.delivered answer, world)
  | .stop session fault => (.aborted session (.internal fault), world)

/-- Take a session to its next dispatch boundary. -/
@[inline] def step (program : Program) (device : Device World) (control : Control World)
    (session : Session n) (world : World) : Status n × World :=
  if inside : session.position < program.script.size then
    match control.stop? session.steps world with
    | some error => (.aborted session error, world)
    | none => program.dispatch device program.script[session.position] session world
  else (.completed session, world)

/-- Take a running session `count` steps further, or to its end if that comes first. -/
def advance (program : Program) (device : Device World) (control : Control World) :
    (count : Nat) → Session n → World → Status n × World
  | 0, session, world => (.running session, world)
  | count + 1, session, world =>
    match program.step device control session world with
    | (.running session, world) => program.advance device control count session world
    | ended => ended

/-- A number of steps can be made in two parts; a session that ends in the first has ended. -/
theorem advance_add (program : Program) (device : Device World) (control : Control World)
    (first second : Nat) (session : Session n) (world : World) :
    program.advance device control (first + second) session world =
      match program.advance device control first session world with
      | (.running session, world) => program.advance device control second session world
      | ended => ended := by
  induction first generalizing session world with
  | zero => rw [Nat.zero_add]; rfl
  | succ first inner =>
    rw [Nat.add_right_comm]
    simp only [advance]
    rcases program.step device control session world with ⟨_ | _ | _, next⟩
    · exact inner _ _
    · rfl
    · rfl

end Program

/-- End a session that is not running any more with the flush of its device. -/
def Status.close? {n : Nat} {World : Type u} (status : Status n) (device : Device World)
    (world : World) : Option (Report n World) :=
  match status with
  | .running _ => none
  | .completed session =>
    match device.flush world with
    | (.ok (), world) => some ⟨.ok ⟨session.tape, session.steps⟩, status, world⟩
    | (.error failure, world) => some ⟨.error (.io session.position failure), status, world⟩
  | .aborted _ error => some ⟨.error error, status, (device.flush world).2⟩

/-- Run a session of `program` on `n` cells from its start, for at most `count` steps. There is no
report if the session is still running then. -/
def Program.run? {World : Type u} (program : Program) (device : Device World)
    (control : Control World) (n : Nat) [HasCell n] (count : Nat) (world : World) :
    Option (Report n World) :=
  let (status, world) := program.advance device control count (Session.start n) world
  status.close? device world

end TapeMachine
