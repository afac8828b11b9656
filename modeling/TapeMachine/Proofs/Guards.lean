import TapeMachine.Proofs.Ending
import TapeMachine.Proofs.Nesting

/-! # The guards of loops

Behind the bracket that starts a loop a session never stands on a zero cell, and behind the one that
ends it always on one. For a session comes there from two brackets only, past the one or by a jump
from its partner, and both of them read the cell and leave it as it is. Nothing is asked of the
state before: one move is enough, whatever the tape was.
-/

namespace TapeMachine

universe u

variable {n : Nat} {World : Type u}

/-- Behind the start of a loop the cell under the cursor is not zero, and behind its end it is. -/
structure Session.Guarded (script : Script) (session : Session n) : Prop where
  opened : ∀ {position : Nat}, session.position = position + 1 → script[position]? = some '[' →
    session.tape.read ≠ 0
  closed : ∀ {position : Nat}, session.position = position + 1 → script[position]? = some ']' →
    session.tape.read = 0

theorem Session.guarded_start [HasCell n] (script : Script) : (start n).Guarded script := by
  constructor <;> rintro position ⟨⟩

namespace Program

/-- How a session moves on in a step: past the character at hand, or behind the partner of a bracket.
No bracket changes the tape. -/
inductive Moves (program : Program) (session next : Session n) : Prop
  | passed {character : Char} (present : program.script[session.position]? = some character)
      (stays : ¬Instruction.charJumpsOn character session.tape.read)
      (position : next.position = session.position + 1)
      (tape : character = '[' ∨ character = ']' → next.tape = session.tape)
  | jumped {character : Char} {target : Nat}
      (present : program.script[session.position]? = some character)
      (jumps : Instruction.charJumpsOn character session.tape.read)
      (found : program.partner session.position = .ok target)
      (position : next.position = target + 1) (tape : next.tape = session.tape)

variable {program : Program} {device : Device World} {control : Control World}
  {session next : Session n} {world after : World}

/-- A dispatch behind which a session is still running was a move. -/
theorem moves_of_dispatch {character : Char}
    (present : program.script[session.position]? = some character)
    (dispatched : program.dispatch device character session world = (.running next, after)) :
    program.Moves session next := by
  by_cases jumps : Instruction.charJumpsOn character session.tape.read
  · obtain ⟨target, found, -⟩ :=
      program.exists_partner present (Instruction.bracket_of_charJumpsOn jumps)
    rw [dispatch_of_jump jumps found] at dispatched
    cases dispatched
    exact .jumped present jumps found rfl rfl
  by_cases isOutput : Instruction.ofChar? character = some .output
  · rw [dispatch_of_output isOutput] at dispatched
    obtain ⟨delivered, -⟩ := Prod.mk.inj dispatched
    cases answer : (device.write session.tape.read world).1 with
    | error failure => simp [answer, Session.delivered] at delivered
    | ok done =>
      rw [answer] at delivered
      cases delivered
      exact .passed present jumps rfl fun _ => rfl
  by_cases isInput : Instruction.ofChar? character = some .input
  · rw [dispatch_of_input isInput] at dispatched
    obtain ⟨received, -⟩ := Prod.mk.inj dispatched
    rcases answer : (device.read world).1 with failure | _ | byte
    · simp [answer, Session.received] at received
    · simp [answer, Session.received] at received
    · rw [answer] at received
      cases received
      obtain rfl := Instruction.ofChar?_eq_some_iff.mp isInput
      exact .passed present jumps rfl fun bracket => absurd bracket (by decide)
  rw [dispatch_of_proceed (program.action_of_plain jumps isOutput isInput)] at dispatched
  cases dispatched
  refine .passed present jumps rfl ?_
  rintro (rfl | rfl) <;> rfl

/-- A step behind which a session is not running any more leaves it as it was. -/
theorem session_of_step (ended : ∀ next, (program.step device control session world).1 ≠ .running next) :
    (program.step device control session world).1.session = session := by
  revert ended
  apply step_induction
    (motive := fun status _ => (∀ next, status ≠ .running next) → status.session = session)
  · exact fun _ _ => rfl
  · exact fun _ _ _ _ => rfl
  · intro _ _ status after dispatched ended
    cases dispatched with
    | proceed | jump => exact absurd rfl (ended _)
    | lost => rfl
    | read =>
      rcases answer : (device.read world).1 with failure | _ | byte
      · rfl
      · rfl
      · rw [answer] at ended
        exact absurd rfl (ended _)
    | write =>
      rcases answer : (device.write session.tape.read world).1 with failure | done
      · rfl
      · rw [answer] at ended
        exact absurd rfl (ended _)

/-- What every move keeps holds of every state that a session comes to. -/
theorem reached_induction {motive : Session n → Prop}
    (kept : ∀ {session next}, program.Moves session next → motive session → motive next)
    (start : motive session) (device : Device World) (control : Control World) (count : Nat)
    (world : World) : motive (program.advance device control count session world).1.session := by
  apply advance_induction (motive := fun status _ => motive status.session) _ count start
  intro session world holds
  rcases stepped : program.step device control session world with ⟨status, after⟩
  cases status with
  | running next =>
    obtain ⟨inside, free⟩ := free_of_running (advance_one.trans stepped) advance_zero Nat.one_pos
    rw [step_of_inside inside free] at stepped
    exact kept (moves_of_dispatch (Array.getElem?_eq_getElem inside) stepped) holds
  | completed last | aborted last error =>
    have same : (program.step device control session world).1.session = session :=
      session_of_step (by simp [stepped])
    rw [stepped] at same
    exact same ▸ holds

/-- The partner of a bracket is a bracket of the other kind. -/
theorem partner_kinds {position other : Nat} (found : program.partner position = .ok other) :
    (program.script[position]? = some '[' ∧ program.script[other]? = some ']') ∨
      (program.script[position]? = some ']' ∧ program.script[other]? = some '[') := by
  simp only [← Array.getElem?_toList]
  rcases program.partner_eq_ok_iff.mp found with isLoop | isLoop
  · exact .inl ⟨isLoop.opens, isLoop.closes⟩
  · exact .inr ⟨isLoop.closes, isLoop.opens⟩

/-- Every move leads to a state in which the guards hold. -/
theorem Moves.guarded (moves : program.Moves session next) : next.Guarded program.script := by
  cases moves with
  | @passed character present stays position tape =>
    constructor
    · intro behind stands opens
      obtain rfl : session.position = behind := by omega
      obtain rfl := Option.some.inj (present.symm.trans opens)
      rw [tape (.inl rfl)]
      simpa using stays
    · intro behind stands closes
      obtain rfl : session.position = behind := by omega
      obtain rfl := Option.some.inj (present.symm.trans closes)
      rw [tape (.inr rfl)]
      simpa using stays
  | @jumped character target present jumps found position tape =>
    rcases partner_kinds found with ⟨atHand, atTarget⟩ | ⟨atHand, atTarget⟩ <;>
      obtain rfl := Option.some.inj (present.symm.trans atHand)
    · refine ⟨fun stands opens => ?_, fun _ _ => ?_⟩
      · obtain rfl := Nat.succ.inj (position.symm.trans stands)
        cases atTarget.symm.trans opens
      · rw [tape]
        simpa using jumps
    · refine ⟨fun _ _ => ?_, fun stands closes => ?_⟩
      · rw [tape]
        simpa using jumps
      · obtain rfl := Nat.succ.inj (position.symm.trans stands)
        cases atTarget.symm.trans closes

/-- The guards hold in every state that a session comes to. -/
theorem guarded_advance [HasCell n] (program : Program) (device : Device World)
    (control : Control World) (count : Nat) (world : World) :
    (program.advance device control count (Session.start n) world).1.session.Guarded
      program.script :=
  reached_induction (fun moves _ => moves.guarded) (Session.guarded_start _) device control count
    world

/-- Where a loop starts right behind the end of another one, no move leads into it. -/
theorem Moves.not_inside {opening closing : Nat}
    (isLoop : Script.IsLoop program.script.toList opening closing)
    (behind : ∃ before, opening = before + 1 ∧ program.script[before]? = some ']')
    (moves : program.Moves session next) (guarded : session.Guarded program.script)
    (outside : ¬(opening < session.position ∧ session.position ≤ closing)) :
    ¬(opening < next.position ∧ next.position ≤ closing) := by
  rintro ⟨after, before⟩
  cases moves with
  | @passed character present stays position tape =>
    -- Only the bracket itself could be passed, and there the cell is zero.
    obtain rfl : session.position = opening := by omega
    obtain ⟨last, stands, closes⟩ := behind
    have opens := isLoop.opens
    rw [Array.getElem?_toList] at opens
    obtain rfl := Option.some.inj (present.symm.trans opens)
    exact stays (by simpa using guarded.closed stands closes)
  | @jumped character target present jumps found position tape =>
    -- A jump that ends in the loop starts in it, for loops nest.
    rcases program.partner_eq_ok_iff.mp found with partners | partners
    · have order := partners.opening_lt_closing
      have nested := isLoop.disjoint_or_nested partners
      omega
    · have order := partners.opening_lt_closing
      have nested := isLoop.disjoint_or_nested partners
      omega

/-- From its start a session never comes into a loop that starts right behind another one. -/
theorem not_inside_advance [HasCell n] {opening closing : Nat}
    (isLoop : Script.IsLoop program.script.toList opening closing)
    (behind : ∃ before, opening = before + 1 ∧ program.script[before]? = some ']')
    (device : Device World) (control : Control World) (count : Nat) (world : World) :
    let session := (program.advance device control count (Session.start n) world).1.session
    ¬(opening < session.position ∧ session.position ≤ closing) := by
  -- Moves keep out of the loop as long as the guards hold, and moves keep the guards.
  have kept := reached_induction (motive := fun session : Session n =>
      session.Guarded program.script ∧ ¬(opening < session.position ∧ session.position ≤ closing))
    (fun moves holds => ⟨moves.guarded, moves.not_inside isLoop behind holds.1 holds.2⟩)
    ⟨Session.guarded_start program.script, by simp [Session.start]⟩ device control count world
  exact kept.2

/-- A session halts behind its script, with the tape that it has there. -/
theorem exists_last_of_halted [HasCell n] {count : Nat} {report : Report n World}
    {halted : Halted n} (ran : program.run? device control n count world = some report)
    (result : report.result = .ok halted) :
    ∃ first last before,
      program.advance device control first (Session.start n) world = (.running last, before) ∧
        last.position = program.script.size ∧ halted = ⟨last.tape, last.steps⟩ := by
  obtain ⟨first, last, before, after, running, ends, closed⟩ := exists_endsIn_of_run? ran
  have found := (Status.close?_eq_some_iff.mp closed).1
  rw [result] at found
  refine ⟨first, last, before, running, ?_, halted_eq_of_step ends.step_eq found⟩
  generalize report.status = status at ends found
  cases ends with
  | executed atEnd => exact atEnd
  | stopped | exhausted | readFailed | writeFailed => cases found

/-- The guards of loops hold in every state that a session comes to: behind the start of a loop its
cell is not zero, and behind the end of one it is. So it never enters a loop that starts right behind
the end of another one, and if it halts behind a loop it halts on a zero cell. -/
theorem loop_guards_hold (program : Program) (device : Device World) (control : Control World)
    (n : Nat) [HasCell n] (world : World) :
    (∀ count, (program.advance device control count (Session.start n) world).1.session.Guarded
        program.script) ∧
      (∀ position closing, program.script[position]? = some ']' →
        program.script[position + 1]? = some '[' →
          program.partner (position + 1) = .ok closing →
            ∀ count, let session :=
                (program.advance device control count (Session.start n) world).1.session
              ¬(position + 1 < session.position ∧ session.position ≤ closing)) ∧
      ∀ count report halted, program.run? device control n count world = some report →
        report.result = .ok halted → program.script.back? = some ']' → halted.tape.read = 0 := by
  refine ⟨fun count => program.guarded_advance device control count world, ?_, ?_⟩
  · intro position closing closes opens found count
    have isLoop : Script.IsLoop program.script.toList (position + 1) closing := by
      rcases program.partner_eq_ok_iff.mp found with isLoop | isLoop
      · exact isLoop
      · have closesToo := isLoop.closes
        rw [Array.getElem?_toList] at closesToo
        cases opens.symm.trans closesToo
    exact not_inside_advance isLoop ⟨position, rfl, closes⟩ device control count world
  · intro count report halted ran result ends
    obtain ⟨first, last, before, running, atEnd, rfl⟩ := exists_last_of_halted ran result
    have guarded := program.guarded_advance (n := n) device control first world
    rw [running] at guarded
    rw [Array.back?_eq_getElem?] at ends
    have nonempty : 0 < program.script.size := Nat.zero_lt_of_lt (Array.getElem?_eq_some_iff.mp ends).1
    exact guarded.closed (show last.position = _ by omega) ends

/-- The guards hold where a session has come into a loop, and where it has gone past that loop and
another one right behind it. -/
theorem loop_guards_hold_behind :
    let program : Program := ⟨#['+', '[', '-', ']', '[', '+', ']'], _, .table, rfl, rfl⟩
    let session (count : Nat) := (program.advance (.ofEnds .text .bytes) .none count
      (Session.start 3) ([], #[])).1.session
    ((session 2).position = 2 ∧ (session 2).tape.read ≠ 0) ∧
      (program.partner 4 = .ok 6 ∧
        ∀ count, ¬(4 < (session count).position ∧ (session count).position ≤ 6)) ∧
      ∃ report halted, program.run? (.ofEnds .text .bytes) .none 3 6 ([], #[]) = some report ∧
        report.result = .ok halted ∧ halted.tape.read = 0 := by
  intro program session
  have guards := program.loop_guards_hold (.ofEnds .text .bytes) .none 3 ([], #[])
  refine ⟨⟨rfl, (guards.1 2).opened rfl rfl⟩, ⟨rfl, guards.2.1 3 6 rfl rfl rfl⟩, ?_⟩
  exact ⟨_, _, rfl, rfl, guards.2.2 6 _ _ rfl rfl rfl⟩

end Program

end TapeMachine
