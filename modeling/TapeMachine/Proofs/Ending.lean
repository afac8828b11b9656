import TapeMachine.Proofs.Bounds

/-! # How a session ends

A session comes to its end at a boundary between two dispatches: behind its script, at a stop of its
control, or in a dispatch that its device refuses. `Program.EndsIn` lists these ways, with the
status that they leave and the world in front of the flush, and every report of a session comes from
one of them.
-/

namespace TapeMachine

universe u

variable {n : Nat} {World : Type u}

namespace Program

/-- The ways in which a session that is running ends in its next step. -/
inductive EndsIn (program : Program) (device : Device World) (control : Control World)
    (last : Session n) (before : World) : Status n → World → Prop
  | executed (atEnd : last.position = program.script.size) :
      EndsIn program device control last before (.completed last) before
  | stopped {error : ExecError} (inside : last.position < program.script.size)
      (stop : control.stop? last.steps before = some error) :
      EndsIn program device control last before (.aborted last error) before
  | exhausted (isInput : program.script[last.position]? = some ',')
      (answer : (device.read before).1 = .ok none)
      (free : control.stop? last.steps before = none) :
      EndsIn program device control last before
        (.aborted last (.noMoreInput last.position)) (device.read before).2
  | readFailed {failure : IoFailure} (isInput : program.script[last.position]? = some ',')
      (answer : (device.read before).1 = .error failure)
      (free : control.stop? last.steps before = none) :
      EndsIn program device control last before
        (.aborted last (.io last.position failure)) (device.read before).2
  | writeFailed {failure : IoFailure} (isOutput : program.script[last.position]? = some '.')
      (answer : (device.write last.tape.read before).1 = .error failure)
      (free : control.stop? last.steps before = none) :
      EndsIn program device control last before
        (.aborted last (.io last.position failure)) (device.write last.tape.read before).2

variable {program : Program} {device : Device World} {control : Control World}

/-- A step that is the last one of its session is one of these. -/
theorem endsIn_of_step {last : Session n} {before after : World} {status : Status n}
    (inside : last.position ≤ program.script.size)
    (stepped : program.step device control last before = (status, after))
    (ended : ∀ next, status ≠ .running next) :
    program.EndsIn device control last before status after := by
  have listed : (∀ next, (program.step device control last before).1 ≠ .running next) →
      program.EndsIn device control last before (program.step device control last before).1
        (program.step device control last before).2 := by
    apply step_induction (motive := fun status after => (∀ next, status ≠ .running next) →
      program.EndsIn device control last before status after)
    · intro outside _
      exact .executed (Nat.le_antisymm inside outside)
    · intro error before stop _
      exact .stopped before stop
    · intro before free status after dispatched ended
      have present := Array.getElem?_eq_getElem before
      cases dispatched with
      | proceed | jump => exact absurd rfl (ended _)
      | lost jumps missing =>
        have bracket := Instruction.bracket_of_charJumpsOn jumps
        exact absurd missing (program.partner_ne_error present bracket _)
      | read isInput =>
        rw [Instruction.ofChar?_eq_some_iff.mp isInput] at present
        rcases answer : (device.read _).1 with failure | _ | byte
        · exact .readFailed present answer free
        · exact .exhausted present answer free
        · rw [answer] at ended
          exact absurd rfl (ended _)
      | write isOutput =>
        rw [Instruction.ofChar?_eq_some_iff.mp isOutput] at present
        rcases answer : (device.write _ _).1 with failure | _
        · exact .writeFailed present answer free
        · rw [answer] at ended
          exact absurd rfl (ended _)
  rw [stepped] at listed
  exact listed ended

/-- A session that ends in one of these ways does so in its next step. -/
theorem EndsIn.step_eq {last : Session n} {before after : World} {status : Status n}
    (ends : program.EndsIn device control last before status after) :
    program.step device control last before = (status, after) := by
  cases ends with
  | executed atEnd => exact step_of_outside (Nat.le_of_eq atEnd.symm)
  | stopped inside stop => exact step_of_stop inside stop
  | exhausted isInput answer free =>
    rw [step_of_present isInput free, dispatch_of_input rfl, answer]
    rfl
  | readFailed isInput answer free =>
    rw [step_of_present isInput free, dispatch_of_input rfl, answer]
    rfl
  | writeFailed isOutput answer free =>
    rw [step_of_present isOutput free, dispatch_of_output rfl, answer]
    rfl

theorem EndsIn.ne_running {last : Session n} {before after : World} {status : Status n}
    (ends : program.EndsIn device control last before status after) (next : Session n) :
    status ≠ .running next := by
  cases ends <;> simp

/-- Once a session has ended in one of these ways, its report closes it. -/
theorem EndsIn.run?_of_running [HasCell n] {first count : Nat} {last : Session n}
    {world before after : World} {status : Status n}
    (ends : program.EndsIn device control last before status after)
    (running : program.advance device control first (Session.start n) world =
      (.running last, before)) (lt : first < count) :
    program.run? device control n count world = status.close? device after := by
  have ended : program.advance device control (first + 1) (Session.start n) world =
      (status, after) := by
    rw [advance_add_of_running running, advance_one, ends.step_eq]
  rw [run?_eq, advance_of_ended ended ends.ne_running lt]

/-- Every report tells of a session that was running up to a boundary and ended in the step from
there, and closes it. -/
theorem exists_endsIn_of_run? [HasCell n] {count : Nat} {world : World} {report : Report n World}
    (ran : program.run? device control n count world = some report) :
    ∃ first last before after,
      program.advance device control first (Session.start n) world = (.running last, before) ∧
        program.EndsIn device control last before report.status after ∧
          report.status.close? device after = some report := by
  obtain ⟨after, reached, closed⟩ := advance_of_run? ran
  have ended (next : Session n) : report.status ≠ .running next := by
    intro running
    rw [running] at closed
    cases closed
  obtain ⟨first, last, before, running, stepped⟩ := exists_last_step reached ended
  have inside := position_le_of_running running
  exact ⟨first, last, before, after, running, endsIn_of_step inside stepped ended, closed⟩

/-- The session of a report was running for fewer steps than were allowed. -/
theorem lt_of_run? [HasCell n] {first count : Nat} {last : Session n} {world before : World}
    {report : Report n World}
    (running : program.advance device control first (Session.start n) world =
      (.running last, before))
    (ran : program.run? device control n count world = some report) : first < count := by
  apply Nat.lt_of_not_le
  intro le
  obtain ⟨middle, between, runningToo⟩ := exists_running_of_le running le
  rw [run?_eq, runningToo] at ran
  cases ran

/-- A session ends with this result, and leaves this world behind its flush. -/
def EndsWith (program : Program) (device : Device World) (control : Control World) (n : Nat)
    [HasCell n] (world : World) (result : Except ExecError (Halted n)) (final : World) : Prop :=
  ∃ count report, program.run? device control n count world = some report ∧
    report.result = result ∧ report.world = final

/-- What a session ends with is the result of a step that is its last one. -/
theorem endsWith_iff [HasCell n] {world final : World} {result : Except ExecError (Halted n)} :
    program.EndsWith device control n world result final ↔
      ∃ first last before status after,
        program.advance device control first (Session.start n) world = (.running last, before) ∧
          program.step device control last before = (status, after) ∧
            status.result? (device.flush after).1 = some result ∧
              final = (device.flush after).2 := by
  constructor
  · rintro ⟨count, report, ran, rfl, rfl⟩
    obtain ⟨after, reached, closed⟩ := advance_of_run? ran
    obtain ⟨result, -, final⟩ := Status.close?_eq_some_iff.mp closed
    have ended (next : Session n) : report.status ≠ .running next := by
      intro running
      rw [running] at result
      cases result
    obtain ⟨first, last, before, running, stepped⟩ := exists_last_step reached ended
    exact ⟨first, last, before, _, after, running, stepped, result, final⟩
  · rintro ⟨first, last, before, status, after, running, stepped, result, rfl⟩
    refine ⟨first + 1, ⟨_, status, _⟩, ?_, rfl, rfl⟩
    rw [run?_eq, advance_add_of_running running, advance_one, stepped, Status.close?_eq, result]
    rfl

/-- A session halts in the state from which its last step finds the end of the script. -/
theorem halted_eq_of_step {last : Session n} {before after : World} {status : Status n}
    {flushed : Except IoFailure Unit} {halted : Halted n}
    (stepped : program.step device control last before = (status, after))
    (found : status.result? flushed = some (.ok halted)) : halted = ⟨last.tape, last.steps⟩ := by
  cases status with
  | running next => cases found
  | aborted ended error => cases found
  | completed ended =>
    have outside := outside_of_completed (congrArg Prod.fst stepped)
    rw [step_of_outside outside] at stepped
    cases stepped
    cases flushed with
    | ok answer =>
      cases found
      rfl
    | error failure => cases found

theorem EndsWith.unique [HasCell n] {world final finalToo : World}
    {result other : Except ExecError (Halted n)}
    (ends : program.EndsWith device control n world result final)
    (endsToo : program.EndsWith device control n world other finalToo) :
    result = other ∧ final = finalToo := by
  obtain ⟨count, report, ran, rfl, rfl⟩ := ends
  obtain ⟨countToo, reportToo, ranToo, rfl, rfl⟩ := endsToo
  obtain rfl := run?_unique ran ranToo
  exact ⟨rfl, rfl⟩

/-- A session that ends with nothing goes on forever. -/
theorem forall_run?_eq_none_iff [HasCell n] {world : World} :
    (∀ count, program.run? device control n count world = none) ↔
      ∀ result final, ¬program.EndsWith device control n world result final := by
  constructor
  · rintro never result final ⟨count, report, ran, -⟩
    rw [never count] at ran
    cases ran
  · intro never count
    cases ran : program.run? device control n count world with
    | none => rfl
    | some report => exact absurd ⟨count, report, ran, rfl, rfl⟩ (never _ _)

/-- An error that names no position is the work of the control. -/
theorem exists_stop_of_run? [HasCell n] {count : Nat} {world : World} {report : Report n World}
    {error : ExecError} (ran : program.run? device control n count world = some report)
    (failed : report.result = .error error) (unplaced : error.position? = none) :
    ∃ first last before,
      program.advance device control first (Session.start n) world = (.running last, before) ∧
        control.stop? last.steps before = some error := by
  obtain ⟨first, last, before, after, running, ends, closed⟩ := exists_endsIn_of_run? ran
  refine ⟨first, last, before, running, ?_⟩
  have result := (Status.close?_eq_some_iff.mp closed).1
  rw [failed] at result
  generalize report.status = status at ends result
  cases ends with
  | executed =>
    obtain ⟨failure, -, rfl⟩ := Status.error_of_completed result
    cases unplaced
  | stopped _ stop =>
    cases result
    exact stop
  | exhausted | readFailed | writeFailed =>
    cases result
    cases unplaced

/-- A session that ran out of input did so at an input instruction, and made no call behind that read
but the flush. -/
theorem exists_read_of_noMoreInput [HasCell n] {count : Nat} {world : World}
    {report : Report n World} {position : Nat}
    (ran : program.run? device control n count world = some report)
    (exhausted : report.result = .error (.noMoreInput position)) :
    ∃ first last before,
      program.advance device control first (Session.start n) world = (.running last, before) ∧
        last.position = position ∧ program.script[position]? = some ',' ∧
          (device.read before).1 = .ok none ∧
            report.world = (device.flush (device.read before).2).2 := by
  obtain ⟨first, last, before, after, running, ends, closed⟩ := exists_endsIn_of_run? ran
  obtain ⟨result, -, left⟩ := Status.close?_eq_some_iff.mp closed
  rw [exhausted] at result
  generalize report.status = status at ends result
  cases ends with
  | exhausted isInput answer =>
    cases result
    exact ⟨first, last, before, running, rfl, isInput, answer, left⟩
  | executed =>
    obtain ⟨failure, -, other⟩ := Status.error_of_completed result
    cases other
  | stopped _ stop =>
    cases result
    cases Control.position?_of_stop stop
  | readFailed | writeFailed => cases result

end Program

end TapeMachine
