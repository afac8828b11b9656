import TapeMachine.Error
import TapeMachine.Program
import TapeMachine.Tape

/-! # Sessions

A session runs a program on a tape of its own. Its state between two dispatches is the tape, the
position in the script and the number of dispatches made. `Program.action` says what the character
at hand does to that state; only input and output need the device, and for them the answer of the
device decides how the session goes on. Comments are dispatched and counted like instructions.
-/

namespace TapeMachine

/-- The state of a session between two dispatches. -/
structure Session (n : Nat) where
  tape : Tape n
  /-- The position of the character that is dispatched next. -/
  position : Nat
  /-- The number of characters dispatched so far. -/
  steps : Nat
deriving DecidableEq, Repr

/-- Where a session stands. -/
inductive Status (n : Nat) where
  | running (session : Session n)
  /-- The position has run off the end of the script. -/
  | completed (session : Session n)
  /-- The session stops here, in the state before the dispatch that failed or was not made. -/
  | aborted (session : Session n) (error : ExecError)
deriving DecidableEq, Repr

/-- What a dispatch does, up to the answer of the device. -/
inductive Action (n : Nat) where
  | proceed (next : Session n)
  | read (waiting : Session n)
  | write (byte : UInt8) (waiting : Session n)
  | stop (session : Session n) (fault : LoopFault)
deriving DecidableEq, Repr

namespace Session

variable {n : Nat}

def start (n : Nat) [HasCell n] : Session n := ⟨.blank n, 0, 0⟩

@[inline] def goTo (session : Session n) (position : Nat) : Session n :=
  { session with position, steps := session.steps + 1 }

/-- The state behind a dispatch that turns the tape into `change tape`. -/
@[inline] def goOn (session : Session n) (change : Tape n → Tape n) : Session n where
  tape := change session.tape
  position := session.position + 1
  steps := session.steps + 1

/-- How an input instruction ends, by the answer of the device. -/
def received (waiting : Session n) : Except IoFailure (Option UInt8) → Status n
  | .ok (some byte) => .running (waiting.goOn (·.write byte))
  | .ok none => .aborted waiting (.noMoreInput waiting.position)
  | .error failure => .aborted waiting (.io waiting.position failure)

/-- How an output instruction ends, by the answer of the device. -/
def delivered (waiting : Session n) : Except IoFailure Unit → Status n
  | .ok () => .running (waiting.goOn id)
  | .error failure => .aborted waiting (.io waiting.position failure)

end Session

namespace Program

variable {n : Nat}

/-- Go to the position behind the partner of the bracket at hand. -/
def jump (program : Program) (session : Session n) : Action n :=
  match program.partner session.position with
  | .ok target => .proceed (session.goTo (target + 1))
  | .error fault => .stop session fault

/-- What the dispatch of `character` does to a session. -/
def action (program : Program) (character : Char) (session : Session n) : Action n :=
  match Instruction.ofChar? character with
  | none => .proceed (session.goOn id)
  | some .increment => .proceed (session.goOn Tape.increment)
  | some .decrement => .proceed (session.goOn Tape.decrement)
  | some .moveRight => .proceed (session.goOn Tape.moveRight)
  | some .moveLeft => .proceed (session.goOn Tape.moveLeft)
  | some .loopOpen =>
    if session.tape.read = 0 then program.jump session else .proceed (session.goOn id)
  | some .loopClose =>
    if session.tape.read = 0 then .proceed (session.goOn id) else program.jump session
  | some .output => .write session.tape.read session
  | some .input => .read session

end Program

end TapeMachine
