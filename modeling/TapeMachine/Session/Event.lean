import TapeMachine.LogLevel
import TapeMachine.Session.Run

/-! # The events of a session

A recorded session leaves one event for each dispatch it makes, and behind it one for the jump if
the dispatch is a jump. Both are read off the state before the dispatch, so recording changes
nothing in the session. One more event closes the record, unless only the final flush failed.
-/

namespace TapeMachine

universe u

inductive Event where
  /-- A script of `length` characters was accepted for a tape of `cells` cells. -/
  | validated (length cells : Nat)
  /-- A character was about to be dispatched in the given state. -/
  | dispatch (step position cursor : Nat) (cell : UInt8) (character : Char)
  /-- The dispatch was a jump to the given partner. -/
  | jump (position target : Nat)
  | halted (steps : Nat)
  | aborted (position steps : Nat) (error : ExecError)
deriving DecidableEq, Repr

namespace Event

def level : Event → LogLevel
  | dispatch .. | jump .. => .trace
  | _ => .debug

/-- The event in words, without its level. -/
def text : Event → String
  | validated length cells => s!"script validated len={length} cells={cells}"
  | dispatch step position cursor cell character =>
    s!"dispatch step={step} ip={position} ptr={cursor} cell={cell} instr={character}"
  | jump position target => s!"jump ip={position} target={target}"
  | halted steps => s!"session halted steps={steps}"
  | aborted position steps error =>
    s!"session aborted ip={position} steps={steps} error={error.message}"

end Event

namespace Program

variable {n : Nat} {World : Type u}

/-- The event for the jump that the dispatch of `character` makes, if it makes one. -/
def jumpEvent? (program : Program) (character : Char) (session : Session n) : Option Event :=
  if (Instruction.ofChar? character).any (·.jumpsOn session.tape.read) then
    match program.partner session.position with
    | .ok target => some (.jump session.position target)
    | .error _ => none
  else none

/-- The events of the next dispatch, if the session makes one. -/
def events (program : Program) (control : Control World) (session : Session n) (world : World) :
    List Event :=
  if inside : session.position < program.script.size then
    match control.stop? session.steps world with
    | some _ => []
    | none =>
      let character := program.script[session.position]
      .dispatch session.steps session.position session.tape.cursor session.tape.read character ::
        (program.jumpEvent? character session).toList
  else []

/-- Take a session up to `count` steps further, and put its events behind those already recorded. -/
def record (program : Program) (device : Device World) (control : Control World) :
    (count : Nat) → Array Event → Session n → World → Array Event × Status n × World
  | 0, recorded, session, world => (recorded, .running session, world)
  | count + 1, recorded, session, world =>
    let recorded := recorded.appendList (program.events control session world)
    match program.step device control session world with
    | (.running session, world) => program.record device control count recorded session world
    | ended => (recorded, ended)

/-- Recording changes nothing in the session. -/
theorem record_snd (program : Program) (device : Device World) (control : Control World)
    (count : Nat) (recorded : Array Event) (session : Session n) (world : World) :
    (program.record device control count recorded session world).2 =
      program.advance device control count session world := by
  induction count generalizing recorded session world with
  | zero => rfl
  | succ count inner =>
    simp only [record, advance]
    rcases program.step device control session world with ⟨_ | _ | _, next⟩
    · exact inner _ _ _
    · rfl
    · rfl

end Program

/-- The event that closes the record of a session. -/
def Report.closingEvent? {n : Nat} {World : Type u} (report : Report n World) : Option Event :=
  match report.status, report.result with
  | .completed session, .ok _ => some (.halted session.steps)
  | .aborted session error, _ => some (.aborted session.position session.steps error)
  | _, _ => none

/-- Run a session like `Program.run?`, and record all its events. -/
def Program.runRecorded? {World : Type u} (program : Program) (device : Device World)
    (control : Control World) (n : Nat) [HasCell n] (count : Nat) (world : World) :
    Option (Array Event × Report n World) :=
  let (recorded, status, world) := program.record device control count #[] (Session.start n) world
  (status.close? device world).map fun report =>
    (recorded.appendList report.closingEvent?.toList, report)

end TapeMachine
