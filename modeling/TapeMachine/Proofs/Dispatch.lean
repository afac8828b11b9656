import TapeMachine.Session.Run

/-! # What one step can do

A step ends a session at the end of its script, stops it for its control, or makes one dispatch.
`Program.Dispatched` lists all that a dispatch can come to, with the reason for each case, and
`Program.dispatched` says that there is nothing else. What one step keeps is read off this list.
-/

namespace TapeMachine

universe u

variable {n : Nat} {World : Type u}

def Status.session : Status n → Session n
  | running session | completed session | aborted session _ => session

namespace Instruction

/-- Whether the dispatch of a character on a cell of that value is a jump. -/
def charJumpsOn (character : Char) (cell : UInt8) : Bool :=
  (ofChar? character).any (·.jumpsOn cell)

/-- Only the two brackets jump. -/
theorem bracket_of_charJumpsOn {character : Char} {cell : UInt8}
    (jumps : charJumpsOn character cell) : character = '[' ∨ character = ']' := by
  unfold charJumpsOn at jumps
  cases read : ofChar? character with
  | none => simp [read] at jumps
  | some instruction =>
    obtain rfl := ofChar?_eq_some_iff.mp read
    cases instruction <;> simp_all [jumpsOn, toChar]

@[simp] theorem charJumpsOn_opening (cell : UInt8) : charJumpsOn '[' cell = decide (cell = 0) := rfl

@[simp] theorem charJumpsOn_closing (cell : UInt8) : charJumpsOn ']' cell = decide (cell ≠ 0) := rfl

end Instruction

/-- A control stops a session for a raised flag first, for a used up limit second, and for nothing
else. -/
theorem Control.stop?_eq_some_iff {control : Control World} {steps : Nat} {world : World}
    {error : ExecError} :
    control.stop? steps world = some error ↔
      (control.flag steps world ∧ error = .cancelled) ∨
        (¬control.flag steps world ∧ ∃ limit, control.maxSteps = some limit ∧ limit ≤ steps ∧
          error = .stepLimitExceeded limit) := by
  unfold stop?
  by_cases raised : control.flag steps world
  · simp [raised, eq_comm]
  · cases control.maxSteps with
    | none => simp [raised]
    | some limit => simp [raised, eq_comm]

/-- The error of a control names no position. -/
theorem Control.position?_of_stop {control : Control World} {steps : Nat} {world : World}
    {error : ExecError} (stop : control.stop? steps world = some error) : error.position? = .none := by
  rcases stop?_eq_some_iff.mp stop with ⟨-, rfl⟩ | ⟨-, limit, -, -, rfl⟩ <;> rfl

/-- A control lets a session go on while the flag is down and the limit is not used up. -/
theorem Control.stop?_eq_none_iff {control : Control World} {steps : Nat} {world : World} :
    control.stop? steps world = .none ↔
      control.flag steps world = false ∧ ∀ limit, control.maxSteps = some limit → steps < limit := by
  unfold stop?
  by_cases raised : control.flag steps world
  · simp [raised]
  · cases control.maxSteps with
    | none => simp [raised]
    | some limit => simp [raised]

/-- What the dispatch of a character does to the tape if it neither jumps nor calls the device. -/
def Tape.effect (character : Char) (tape : Tape n) : Tape n :=
  match Instruction.ofChar? character with
  | some .increment => tape.increment
  | some .decrement => tape.decrement
  | some .moveRight => tape.moveRight
  | some .moveLeft => tape.moveLeft
  | _ => tape

namespace Program

/-- What the dispatch of a character can come to, with the world behind it. -/
inductive Dispatched (program : Program) (device : Device World) (character : Char)
    (session : Session n) (world : World) : Status n → World → Prop
  | proceed {change : Tape n → Tape n}
      (acted : program.action character session = .proceed (session.goOn change)) :
      Dispatched program device character session world (.running (session.goOn change)) world
  | jump {target : Nat} (jumps : Instruction.charJumpsOn character session.tape.read)
      (found : program.partner session.position = .ok target) :
      Dispatched program device character session world
        (.running (session.goTo (target + 1))) world
  | lost {fault : LoopFault} (jumps : Instruction.charJumpsOn character session.tape.read)
      (missing : program.partner session.position = .error fault) :
      Dispatched program device character session world (.aborted session (.internal fault)) world
  | read (isInput : Instruction.ofChar? character = some .input) :
      Dispatched program device character session world
        (session.received (device.read world).1) (device.read world).2
  | write (isOutput : Instruction.ofChar? character = some .output) :
      Dispatched program device character session world
        (session.delivered (device.write session.tape.read world).1)
        (device.write session.tape.read world).2

/-- A jump goes behind the partner of the bracket, if there is one. -/
theorem action_of_charJumpsOn (program : Program) {character : Char} {session : Session n}
    (jumps : Instruction.charJumpsOn character session.tape.read) :
    program.action character session = program.jump session := by
  rcases Instruction.bracket_of_charJumpsOn jumps with rfl | rfl
  · have zero : session.tape.read = 0 := by simpa using jumps
    simp only [action, Instruction.ofChar?, zero, ↓reduceIte]
  · have nonzero : session.tape.read ≠ 0 := by simpa using jumps
    simp only [action, Instruction.ofChar?, nonzero, ↓reduceIte]

theorem jump_of_partner {program : Program} {session : Session n} {target : Nat}
    (found : program.partner session.position = .ok target) :
    program.jump session = .proceed (session.goTo (target + 1)) := by
  simp only [jump, found]

theorem dispatch_of_proceed {program : Program} {device : Device World} {character : Char}
    {session next : Session n} {world : World}
    (acted : program.action character session = .proceed next) :
    program.dispatch device character session world = (.running next, world) := by
  simp only [dispatch, acted]

theorem dispatch_of_output {program : Program} {device : Device World} {character : Char}
    {session : Session n} {world : World}
    (isOutput : Instruction.ofChar? character = some .output) :
    program.dispatch device character session world =
      (session.delivered (device.write session.tape.read world).1,
        (device.write session.tape.read world).2) := by
  simp only [dispatch, action, isOutput]

theorem dispatch_of_input {program : Program} {device : Device World} {character : Char}
    {session : Session n} {world : World}
    (isInput : Instruction.ofChar? character = some .input) :
    program.dispatch device character session world =
      (session.received (device.read world).1, (device.read world).2) := by
  simp only [dispatch, action, isInput]

theorem dispatch_of_jump {program : Program} {device : Device World} {character : Char}
    {session : Session n} {world : World} {target : Nat}
    (jumps : Instruction.charJumpsOn character session.tape.read)
    (found : program.partner session.position = .ok target) :
    program.dispatch device character session world =
      (.running (session.goTo (target + 1)), world) :=
  dispatch_of_proceed ((program.action_of_charJumpsOn jumps).trans (jump_of_partner found))

/-- A dispatch that neither jumps nor calls the device goes on behind its effect on the tape. -/
theorem action_of_plain (program : Program) {character : Char} {session : Session n}
    (stays : ¬Instruction.charJumpsOn character session.tape.read)
    (notOutput : Instruction.ofChar? character ≠ some .output)
    (notInput : Instruction.ofChar? character ≠ some .input) :
    program.action character session = .proceed (session.goOn (Tape.effect character)) := by
  unfold action Tape.effect
  cases read : Instruction.ofChar? character with
  | none => rfl
  | some instruction =>
    cases instruction with
    | increment | decrement | moveRight | moveLeft => rfl
    | output => exact absurd read notOutput
    | input => exact absurd read notInput
    | loopOpen =>
      have nonzero : session.tape.read ≠ 0 := by
        simpa [Instruction.charJumpsOn, read, Instruction.jumpsOn] using stays
      simp only [nonzero, ↓reduceIte]
      rfl
    | loopClose =>
      have zero : session.tape.read = 0 := by
        simpa [Instruction.charJumpsOn, read, Instruction.jumpsOn] using stays
      simp only [zero, ↓reduceIte]
      rfl

/-- The list of what a dispatch can come to is complete. -/
theorem dispatched (program : Program) (device : Device World) (character : Char)
    (session : Session n) (world : World) :
    Dispatched program device character session world
      (program.dispatch device character session world).1
      (program.dispatch device character session world).2 := by
  by_cases jumps : Instruction.charJumpsOn character session.tape.read
  · cases found : program.partner session.position with
    | ok target =>
      rw [dispatch_of_jump jumps found]
      exact .jump jumps found
    | error fault =>
      simp only [dispatch, program.action_of_charJumpsOn jumps, jump, found]
      exact .lost jumps found
  by_cases isOutput : Instruction.ofChar? character = some .output
  · rw [dispatch_of_output isOutput]
    exact .write isOutput
  by_cases isInput : Instruction.ofChar? character = some .input
  · rw [dispatch_of_input isInput]
    exact .read isInput
  have acted := program.action_of_plain jumps isOutput isInput
  rw [dispatch_of_proceed acted]
  exact .proceed acted

/-! ## The three kinds of step -/

variable {program : Program} {device : Device World} {control : Control World}
  {session : Session n} {world : World}

theorem step_of_outside (outside : program.script.size ≤ session.position) :
    program.step device control session world = (.completed session, world) := by
  simp only [step, Nat.not_lt.mpr outside, ↓reduceDIte]

theorem step_of_stop {error : ExecError} (inside : session.position < program.script.size)
    (stop : control.stop? session.steps world = some error) :
    program.step device control session world = (.aborted session error, world) := by
  simp only [step, inside, ↓reduceDIte, stop]

theorem step_of_inside (inside : session.position < program.script.size)
    (free : control.stop? session.steps world = none) :
    program.step device control session world =
      program.dispatch device program.script[session.position] session world := by
  simp only [step, inside, ↓reduceDIte, free]

theorem step_of_present {character : Char}
    (present : program.script[session.position]? = some character)
    (free : control.stop? session.steps world = none) :
    program.step device control session world =
      program.dispatch device character session world := by
  obtain ⟨inside, rfl⟩ := Array.getElem?_eq_some_iff.mp present
  exact step_of_inside inside free

/-- What holds at the end, at a stop and behind every dispatch holds behind every step. -/
theorem step_induction {motive : Status n → World → Prop}
    (outside : program.script.size ≤ session.position → motive (.completed session) world)
    (stop : ∀ error, session.position < program.script.size →
      control.stop? session.steps world = some error → motive (.aborted session error) world)
    (dispatch : ∀ inside : session.position < program.script.size,
      control.stop? session.steps world = none →
        ∀ status after, Dispatched program device program.script[session.position] session world
          status after → motive status after) :
    motive (program.step device control session world).1
      (program.step device control session world).2 := by
  by_cases inside : session.position < program.script.size
  · cases free : control.stop? session.steps world with
    | some error =>
      rw [step_of_stop inside free]
      exact stop error inside free
    | none =>
      rw [step_of_inside inside free]
      exact dispatch inside free _ _ (program.dispatched device _ session world)
  · rw [step_of_outside (Nat.not_lt.mp inside)]
    exact outside (Nat.not_lt.mp inside)

/-- A session is completed only where its script ends. -/
theorem outside_of_completed {last : Session n}
    (completed : (program.step device control session world).1 = .completed last) :
    program.script.size ≤ session.position := by
  revert completed
  apply step_induction
    (motive := fun status _ => status = .completed last → program.script.size ≤ session.position)
  · exact fun outside _ => outside
  · exact fun _ _ _ aborted => by cases aborted
  · intro _ _ status after dispatched completed
    cases dispatched with
    | proceed | jump | lost => cases completed
    | read =>
      rcases answer : (device.read world).1 with _ | _ | _ <;>
        simp [answer, Session.received] at completed
    | write =>
      rcases answer : (device.write session.tape.read world).1 with _ | _ <;>
        simp [answer, Session.delivered] at completed

end Program

end TapeMachine
