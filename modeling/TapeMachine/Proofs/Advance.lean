import TapeMachine.Proofs.Dispatch

/-! # Any number of steps

What every step keeps, a run keeps. A session that has ended stays as it is, so a report does not
depend on how many steps are allowed once they are enough. A running session has made exactly as
many dispatches as it was taken steps further, and one that has ended made fewer.
-/

namespace TapeMachine

universe u

variable {n : Nat} {World : Type u} {program : Program} {device : Device World}
  {control : Control World} {session : Session n} {world : World}

/-- The result of a session, by the answer to its flush. -/
def Status.result? (flushed : Except IoFailure Unit) :
    Status n → Option (Except ExecError (Halted n))
  | running _ => none
  | completed last =>
    some <|
      match flushed with
      | .ok () => .ok ⟨last.tape, last.steps⟩
      | .error failure => .error (.io last.position failure)
  | aborted _ error => some (.error error)

/-- Behind an executed script only the flush can fail. -/
theorem Status.error_of_completed {flushed : Except IoFailure Unit} {last : Session n}
    {error : ExecError} (found : (completed last).result? flushed = some (.error error)) :
    ∃ failure, flushed = .error failure ∧ error = .io last.position failure := by
  cases flushed with
  | ok answer => cases found
  | error failure =>
    cases found
    exact ⟨failure, rfl, rfl⟩

/-- A session is closed with one flush, and all that its report needs of it is the answer. -/
theorem Status.close?_eq (status : Status n) (device : Device World) (after : World) :
    status.close? device after =
      (status.result? (device.flush after).1).map (⟨·, status, (device.flush after).2⟩) := by
  cases status with
  | running next => rfl
  | completed last =>
    simp only [close?, result?]
    rcases device.flush after with ⟨_ | _, final⟩ <;> rfl
  | aborted last error => rfl

theorem Status.close?_eq_some_iff {status : Status n} {after : World} {report : Report n World} :
    status.close? device after = some report ↔
      status.result? (device.flush after).1 = some report.result ∧ report.status = status ∧
        report.world = (device.flush after).2 := by
  rw [close?_eq, Option.map_eq_some_iff]
  constructor
  · rintro ⟨result, found, rfl⟩
    exact ⟨found, rfl, rfl⟩
  · rintro ⟨found, rfl, same⟩
    exact ⟨report.result, found, by rw [← same]⟩

namespace Program

@[simp] theorem advance_zero :
    program.advance device control 0 session world = (.running session, world) := rfl

@[simp] theorem advance_one : program.advance device control 1 session world =
    program.step device control session world := by
  simp only [advance]
  rcases program.step device control session world with ⟨_ | _ | _, after⟩ <;> rfl

theorem advance_succ_of_running {next : Session n} {after : World}
    (ran : program.step device control session world = (.running next, after)) (count : Nat) :
    program.advance device control (count + 1) session world =
      program.advance device control count next after := by
  simp only [advance, ran]

/-- What one step keeps, any number of steps keeps. -/
theorem advance_induction {motive : Status n → World → Prop}
    (kept : ∀ session world, motive (.running session) world →
      motive (program.step device control session world).1
        (program.step device control session world).2)
    (count : Nat) (start : motive (.running session) world) :
    motive (program.advance device control count session world).1
      (program.advance device control count session world).2 := by
  induction count generalizing session world with
  | zero => exact start
  | succ count ih =>
    have stepped := kept session world start
    simp only [advance]
    rcases step : program.step device control session world with ⟨status, after⟩
    rw [step] at stepped
    cases status with
    | running next => exact ih stepped
    | completed last => exact stepped
    | aborted last error => exact stepped

/-- A relation between worlds that the calls of a device respect holds from start to end. -/
theorem advance_world {R : World → World → Prop} (refl : ∀ world, R world world)
    (trans : ∀ {first second third}, R first second → R second third →
      R first third)
    (read : ∀ world, R world (device.read world).2)
    (write : ∀ byte world, R world (device.write byte world).2) (count : Nat) :
    R world (program.advance device control count session world).2 := by
  apply advance_induction (motive := fun _ after => R world after) _ count (refl world)
  intro session middle reached
  apply step_induction (motive := fun _ after => R world after)
  · exact fun _ => reached
  · exact fun _ _ _ => reached
  · intro _ _ status after dispatched
    cases dispatched with
    | proceed | jump | lost => exact reached
    | read => exact trans reached (read middle)
    | write => exact trans reached (write _ middle)

/-- A session that is still running was running all the time. -/
theorem exists_running_of_le {first count : Nat} {next : Session n} {after : World}
    (ran : program.advance device control count session world = (.running next, after))
    (le : first ≤ count) :
    ∃ middle between, program.advance device control first session world =
      (.running middle, between) := by
  obtain ⟨second, rfl⟩ := Nat.exists_eq_add_of_le le
  rw [advance_add] at ran
  rcases reached : program.advance device control first session world with ⟨status, between⟩
  rw [reached] at ran
  cases status with
  | running middle => exact ⟨middle, between, rfl⟩
  | completed | aborted => cases ran

theorem advance_add_of_running {first : Nat} {middle : Session n} {between : World}
    (reached : program.advance device control first session world = (.running middle, between))
    (second : Nat) :
    program.advance device control (first + second) session world =
      program.advance device control second middle between := by
  rw [advance_add, reached]

/-- A session that is still running was allowed every dispatch so far. -/
theorem free_of_running {first count : Nat} {middle last : Session n} {between after : World}
    (ran : program.advance device control count session world = (.running last, after))
    (reached : program.advance device control first session world = (.running middle, between))
    (before : first < count) :
    middle.position < program.script.size ∧ control.stop? middle.steps between = none := by
  obtain ⟨next, behind, went⟩ := exists_running_of_le ran (show first + 1 ≤ count from before)
  rw [advance_add_of_running reached, advance_one] at went
  rcases Nat.lt_or_ge middle.position program.script.size with inside | outside
  · refine ⟨inside, ?_⟩
    cases stop : control.stop? middle.steps between with
    | none => rfl
    | some error =>
      rw [step_of_stop inside stop] at went
      cases went
  · rw [step_of_outside outside] at went
    cases went

/-- A session that has ended stays as it is. -/
theorem advance_of_ended {first count : Nat} {status : Status n} {after : World}
    (reached : program.advance device control first session world = (status, after))
    (ended : ∀ next, status ≠ .running next) (le : first ≤ count) :
    program.advance device control count session world = (status, after) := by
  obtain ⟨second, rfl⟩ := Nat.exists_eq_add_of_le le
  rw [advance_add, reached]
  cases status with
  | running next => exact absurd rfl (ended next)
  | completed | aborted => rfl

/-- A session that has ended made a last step, from a state in which it was still running. -/
theorem exists_last_step {count : Nat} {status : Status n} {after : World}
    (reached : program.advance device control count session world = (status, after))
    (ended : ∀ next, status ≠ .running next) :
    ∃ first last before, program.advance device control first session world =
        (.running last, before) ∧ program.step device control last before = (status, after) := by
  induction count generalizing session world with
  | zero =>
    cases reached
    exact absurd rfl (ended session)
  | succ count ih =>
    rcases step : program.step device control session world with ⟨next | last | last, between⟩
    · rw [advance_succ_of_running step] at reached
      obtain ⟨first, last, before, running, stepped⟩ := ih reached
      refine ⟨first + 1, last, before, ?_, stepped⟩
      rw [advance_succ_of_running step, running]
    · simp only [advance, step] at reached
      exact ⟨0, session, world, rfl, step.trans reached⟩
    · simp only [advance, step] at reached
      exact ⟨0, session, world, rfl, step.trans reached⟩

/-- A session ends in one way only. -/
theorem advance_unique {first second : Nat} {ended other : Status n × World}
    (reached : program.advance device control first session world = ended)
    (reachedToo : program.advance device control second session world = other)
    (notRunning : ∀ next, ended.1 ≠ .running next) (notRunningToo : ∀ next, other.1 ≠ .running next) :
    ended = other := by
  have last := advance_of_ended reached notRunning (Nat.le_max_left first second)
  have lastToo := advance_of_ended reachedToo notRunningToo (Nat.le_max_right first second)
  exact last.symm.trans lastToo

/-- The steps of a session count its dispatches: a running session has made all that were `allowed`,
and one that has ended made fewer. A failed dispatch is not counted. -/
def CountsSteps (before allowed : Nat) : Status n → Prop
  | .running session => session.steps = before + allowed
  | .completed session | .aborted session _ =>
    before ≤ session.steps ∧ session.steps < before + allowed

theorem CountsSteps.bounds {before allowed : Nat} {status : Status n}
    (counted : CountsSteps before allowed status) :
    before ≤ status.session.steps ∧ status.session.steps ≤ before + allowed := by
  cases status with
  | running last => exact ⟨counted ▸ Nat.le_add_right .., Nat.le_of_eq counted⟩
  | completed | aborted => exact ⟨counted.1, Nat.le_of_lt counted.2⟩

theorem countsSteps_of_eq {status : Status n} (ended : ∀ next, status ≠ .running next)
    (same : status.session = session) : CountsSteps session.steps 1 status := by
  cases status with
  | running next => exact absurd rfl (ended next)
  | completed | aborted =>
    obtain rfl := same
    exact ⟨Nat.le_refl _, Nat.lt_succ_self _⟩

theorem countsSteps_dispatched {character : Char} {status : Status n} {after : World}
    (dispatched : Dispatched program device character session world status after) :
    CountsSteps session.steps 1 status := by
  cases dispatched with
  | proceed | jump => rfl
  | lost => exact countsSteps_of_eq (by simp) rfl
  | read =>
    rcases (device.read world).1 with _ | _ | _
    · exact countsSteps_of_eq (by simp [Session.received]) rfl
    · exact countsSteps_of_eq (by simp [Session.received]) rfl
    · rfl
  | write =>
    rcases (device.write session.tape.read world).1 with _ | _
    · exact countsSteps_of_eq (by simp [Session.delivered]) rfl
    · rfl

theorem step_countsSteps :
    CountsSteps session.steps 1 (program.step device control session world).1 := by
  apply step_induction (motive := fun status _ => CountsSteps session.steps 1 status)
  · exact fun _ => countsSteps_of_eq (by simp) rfl
  · exact fun _ _ _ => countsSteps_of_eq (by simp) rfl
  · exact fun _ _ _ _ dispatched => countsSteps_dispatched dispatched

theorem steps_of_step {next : Session n} {after : World}
    (ran : program.step device control session world = (.running next, after)) :
    next.steps = session.steps + 1 := by
  have counted : CountsSteps session.steps 1 (program.step device control session world).1 :=
    step_countsSteps
  rw [ran] at counted
  exact counted

theorem advance_countsSteps (count : Nat) :
    CountsSteps session.steps count (program.advance device control count session world).1 := by
  induction count generalizing session world with
  | zero => rfl
  | succ count ih =>
    have stepped : CountsSteps session.steps 1 (program.step device control session world).1 :=
      step_countsSteps
    simp only [advance]
    rcases step : program.step device control session world with ⟨status, after⟩
    rw [step] at stepped
    cases status with
    | running next =>
      have first : next.steps = session.steps + 1 := stepped
      have counted : CountsSteps next.steps count
        (program.advance device control count next after).1 := ih
      change CountsSteps session.steps (count + 1)
        (program.advance device control count next after).1
      generalize program.advance device control count next after = ended at counted
      rcases ended with ⟨last | last | last, final⟩ <;> simp only [CountsSteps] at counted ⊢ <;>
        omega
    | completed last | aborted last error =>
      exact ⟨stepped.1, Nat.lt_of_lt_of_le stepped.2 (by omega)⟩

/-- From its start a session that is running has made as many dispatches as it was taken steps. -/
theorem steps_of_running [HasCell n] {count : Nat} {next : Session n} {after : World}
    (reached : program.advance device control count (Session.start n) world =
      (.running next, after)) : next.steps = count := by
  have counted : CountsSteps (Session.start n).steps count
    (program.advance device control count (Session.start n) world).1 := advance_countsSteps count
  rw [reached] at counted
  exact counted.trans (Nat.zero_add count)

theorem run?_eq [HasCell n] (count : Nat) :
    program.run? device control n count world =
      (program.advance device control count (Session.start n) world).1.close? device
        (program.advance device control count (Session.start n) world).2 := rfl

/-- A report is about the status in which the session ended, and closes it. -/
theorem advance_of_run? [HasCell n] {count : Nat} {report : Report n World}
    (ran : program.run? device control n count world = some report) :
    ∃ after, program.advance device control count (Session.start n) world =
      (report.status, after) ∧ report.status.close? device after = some report := by
  rw [run?_eq] at ran
  have same := (Status.close?_eq_some_iff.mp ran).2.1
  exact ⟨_, by rw [same], by rw [same]; exact ran⟩

/-- A report does not change when more steps are allowed. -/
theorem run?_of_le [HasCell n] {first count : Nat} {report : Report n World}
    (ran : program.run? device control n first world = some report) (le : first ≤ count) :
    program.run? device control n count world = some report := by
  unfold run? at ran ⊢
  rcases reached : program.advance device control first (Session.start n) world with ⟨status, after⟩
  rw [reached] at ran
  have ended (next : Session n) : status ≠ .running next := by
    rintro rfl
    cases ran
  rw [advance_of_ended reached ended le]
  exact ran

/-- A session has at most one report. -/
theorem run?_unique [HasCell n] {first second : Nat} {report other : Report n World}
    (ran : program.run? device control n first world = some report)
    (ranToo : program.run? device control n second world = some other) : report = other := by
  have ran := run?_of_le ran (Nat.le_max_left first second)
  have ranToo := run?_of_le ranToo (Nat.le_max_right first second)
  exact Option.some.inj (ran.symm.trans ranToo)

/-- There is no report exactly as long as the session is running. -/
theorem run?_eq_none_iff [HasCell n] {count : Nat} :
    program.run? device control n count world = none ↔
      ∃ next after, program.advance device control count (Session.start n) world =
        (.running next, after) := by
  rw [run?_eq, Status.close?_eq, Option.map_eq_none_iff]
  rcases program.advance device control count (Session.start n) world with ⟨_ | _ | _, after⟩ <;>
    simp [Status.result?]

end Program

end TapeMachine
