import Mathlib.Data.Nat.Find
import TapeMachine.Proofs.Calls
import TapeMachine.Proofs.Ending

/-! # A raised flag stops a session at its next boundary

The flag is seen at the boundaries between dispatches only. A session therefore makes all dispatches
that it has started when the flag goes up, exactly as it would make them with the flag down. If that
brings it to its end, nothing has changed; otherwise it is cancelled there, with one flush and no
other call. The flag comes before the step limit, so a limit that is used up at the same boundary
does not show. Any state of the device and any call may raise the flag.
-/

namespace TapeMachine

universe u

variable {n : Nat} {World : Type u}

namespace Control

/-- The control with the same limit whose flag stays down. -/
def unraised (control : Control World) : Control World := { control with flag := fun _ _ => false }

variable {control : Control World} {steps : Nat} {world : World}

theorem stop?_of_raised (raised : control.flag steps world = true) :
    control.stop? steps world = some .cancelled := by
  simp only [stop?, raised, ↓reduceIte]

theorem stop?_of_down (down : control.flag steps world = false) :
    control.stop? steps world = control.unraised.stop? steps world := by
  simp only [stop?, unraised, down, Bool.false_eq_true, ↓reduceIte]

end Control

/-- The flag goes up when the session has started so many dispatches: told of the session with the
flag down, it is not up at any boundary before, and it is up behind the last of them. -/
structure Program.RaisedAfter (program : Program) (device : Device World) (control : Control World)
    (n : Nat) [HasCell n] (world : World) (started : Nat) : Prop where
  dispatches : (program.record device control.unraised started #[] (Session.start n)
    world).1.countP Event.isDispatch = started
  down : ∀ earlier < started, control.flag earlier
    (program.advance device control.unraised earlier (Session.start n) world).2 = false
  up : control.flag started
    (program.advance device control.unraised started (Session.start n) world).2 = true

namespace Program

variable [HasCell n] {program : Program} {device : Device World} {control : Control World}
  {world : World} {started : Nat}

/-- As long as the flag is seen down, it makes no difference that it can go up. -/
theorem record_unraised {count : Nat}
    (down : ∀ first next after, first < count →
      program.advance device control.unraised first (Session.start n) world =
        (.running next, after) →
      next.position < program.script.size → control.flag first after = false) :
    program.record device control count #[] (Session.start n) world =
      program.record device control.unraised count #[] (Session.start n) world := by
  apply record_congr_of_reached
  intro first next after before reached inside
  apply Control.stop?_of_down
  rw [steps_of_running reached]
  exact down first next after before reached inside

theorem RaisedAfter.down_of_running (raised : program.RaisedAfter device control n world started)
    {earlier : Nat} {next : Session n} {after : World} (before : earlier < started)
    (reached : program.advance device control.unraised earlier (Session.start n) world =
      (.running next, after)) : control.flag earlier after = false := by
  have down := raised.down earlier before
  rw [reached] at down
  exact down

/-- The dispatches that have been started are made as if the flag were down. -/
theorem RaisedAfter.record_eq (raised : program.RaisedAfter device control n world started) :
    program.record device control started #[] (Session.start n) world =
      program.record device control.unraised started #[] (Session.start n) world :=
  record_unraised fun _ _ _ before reached _ => raised.down_of_running before reached

/-- The session is over once these dispatches are made: it has ended, or is behind its script. -/
def IsOverAfter (program : Program) (device : Device World) (control : Control World) (n : Nat)
    [HasCell n] (world : World) (count : Nat) : Prop :=
  ∀ next after, program.advance device control count (Session.start n) world =
    (.running next, after) → program.script.size ≤ next.position

/-- A session that is over makes no dispatch more. -/
theorem IsOverAfter.lt_of_inside {count first : Nat}
    (isOver : program.IsOverAfter device control n world count) {next : Session n} {after : World}
    (reached : program.advance device control first (Session.start n) world =
      (.running next, after)) (inside : next.position < program.script.size) : first < count := by
  apply Nat.lt_of_not_le
  intro le
  obtain ⟨middle, between, ran⟩ := exists_running_of_le reached le
  have outside := isOver middle between ran
  rcases Nat.eq_or_lt_of_le le with rfl | lt
  · obtain ⟨same, -⟩ := Prod.mk.inj (reached.symm.trans ran)
    cases same
    omega
  · have insideToo := (free_of_running reached ran lt).1
    omega

theorem IsOverAfter.exists_run? {count : Nat}
    (isOver : program.IsOverAfter device control n world count) :
    ∃ report, program.run? device control n (count + 1) world = some report := by
  apply Option.ne_none_iff_exists'.mp
  intro running
  obtain ⟨last, final, ran⟩ := run?_eq_none_iff.mp running
  obtain ⟨next, after, reached⟩ := exists_running_of_le ran (Nat.le_succ count)
  have inside := (free_of_running ran reached (Nat.lt_succ_self count)).1
  exact Nat.lt_irrefl count (isOver.lt_of_inside reached inside)

/-- If the session is over by then, the flag comes too late. -/
theorem RaisedAfter.record_eq_of_isOver
    (raised : program.RaisedAfter device control n world started)
    (isOver : program.IsOverAfter device control.unraised n world started) (count : Nat) :
    program.record device control count #[] (Session.start n) world =
      program.record device control.unraised count #[] (Session.start n) world := by
  apply record_unraised
  intro first next after _ reached inside
  exact raised.down_of_running (isOver.lt_of_inside reached inside) reached

/-- If it is not, the session is cancelled in front of the next dispatch. -/
theorem RaisedAfter.record_of_running (raised : program.RaisedAfter device control n world started)
    {session : Session n} {after : World}
    (reached : program.advance device control.unraised started (Session.start n) world =
      (.running session, after)) (inside : session.position < program.script.size)
    {count : Nat} (lt : started < count) :
    program.record device control count #[] (Session.start n) world =
      ((program.record device control.unraised started #[] (Session.start n) world).1,
        .aborted session .cancelled, after) := by
  have up := raised.up
  rw [reached] at up
  rw [← record_snd program device control.unraised started #[]] at reached
  have recorded : program.record device control started #[] (Session.start n) world =
      ((program.record device control.unraised started #[] (Session.start n) world).1,
        .running session, after) := by
    rw [raised.record_eq, ← reached]
  have ran := congrArg Prod.snd recorded
  rw [record_snd] at ran
  apply record_of_stop recorded inside _ lt
  rw [steps_of_running ran]
  exact Control.stop?_of_raised up

/-- If the flag goes up at no moment of the session, it is seen down at every boundary. -/
theorem record_eq_of_not_raised
    (never : ∀ started, ¬program.RaisedAfter device control n world started)
    (count : Nat) :
    program.record device control count #[] (Session.start n) world =
      program.record device control.unraised count #[] (Session.start n) world := by
  apply record_unraised
  intro first next after _ reached _
  by_contra up
  rw [Bool.not_eq_false] at up
  -- The first boundary at which the flag is up is one at which the session is running.
  have seen : ∃ started, control.flag started
      (program.advance device control.unraised started (Session.start n) world).2 = true :=
    ⟨first, by rw [reached]; exact up⟩
  have isFirst := Nat.find_min' seen (by rw [reached]; exact up : control.flag first _ = true)
  obtain ⟨middle, between, ran⟩ := exists_running_of_le reached isFirst
  refine never (Nat.find seen) ⟨?_, ?_, Nat.find_spec seen⟩
  · exact countP_record_of_running ran
  · intro earlier before
    exact Bool.not_eq_true _ ▸ Nat.find_min seen before

/-- A limit stops a session behind as many dispatches as it allows, and only if the flag has not
been seen up by then. -/
theorem down_of_stepLimitExceeded {count limit : Nat} {report : Report n World}
    (ran : program.run? device control n count world = some report)
    (failed : report.result = .error (.stepLimitExceeded limit)) :
    control.maxSteps = some limit ∧ ∀ boundary ≤ limit,
      control.flag boundary (program.advance device control boundary (Session.start n) world).2 =
        false := by
  obtain ⟨first, last, before, running, stop⟩ := exists_stop_of_run? ran failed rfl
  rw [steps_of_running running, Control.stop?_eq_some_iff] at stop
  rcases stop with ⟨-, other⟩ | ⟨down, allowed, limited, reached, same⟩
  · cases other
  obtain rfl := ExecError.stepLimitExceeded.inj same
  have free {boundary : Nat} (lt : boundary < first) :
      control.stop? boundary
        (program.advance device control boundary (Session.start n) world).2 = none := by
    obtain ⟨middle, between, ranToo⟩ := exists_running_of_le running (Nat.le_of_lt lt)
    have free := (free_of_running running ranToo lt).2
    rw [steps_of_running ranToo] at free
    rw [ranToo]
    exact free
  -- A session that is running behind the limit would have been stopped at it.
  have atLimit : first = limit := by
    apply Nat.le_antisymm _ reached
    apply Nat.le_of_not_lt
    intro beyond
    exact Nat.lt_irrefl limit ((Control.stop?_eq_none_iff.mp (free beyond)).2 limit limited)
  subst atLimit
  refine ⟨limited, fun boundary le => ?_⟩
  rcases Nat.lt_or_eq_of_le le with lt | rfl
  · exact (Control.stop?_eq_none_iff.mp (free lt)).1
  · rw [running]
    exact Bool.not_eq_true _ ▸ down

/-- The flag goes up once. -/
theorem RaisedAfter.unique {other : Nat}
    (raised : program.RaisedAfter device control n world started)
    (raisedToo : program.RaisedAfter device control n world other) : started = other := by
  rcases Nat.lt_trichotomy started other with lt | same | gt
  · exact absurd (raisedToo.down started lt) (by simp [raised.up])
  · exact same
  · exact absurd (raised.down other gt) (by simp [raisedToo.up])

/-- The world changes in dispatches only. So a flag that the world raises goes up when some
dispatches have been started, and the last of them is the one in which it does. -/
theorem existsUnique_raisedAfter {raised : World → Bool} {count : Nat}
    (byWorld : control.flag = fun _ world => raised world)
    (up : raised (program.advance device control.unraised count (Session.start n) world).2 = true) :
    ∃! started, program.RaisedAfter device control n world started := by
  have seen : ∃ count,
      raised (program.advance device control.unraised count (Session.start n) world).2 = true :=
    ⟨count, up⟩
  have raisedAfter : program.RaisedAfter device control n world (Nat.find seen) := by
    refine ⟨?_, ?_, ?_⟩
    · cases found : Nat.find seen with
      | zero => rfl
      | succ first =>
        have isUp := Nat.find_spec seen
        have isDown := Nat.find_min seen (show first < Nat.find seen by omega)
        apply countP_record_succ_of_ne
        intro same
        rw [found, same] at isUp
        exact isDown isUp
    · intro earlier before
      rw [byWorld]
      exact (Bool.not_eq_true _).mp (Nat.find_min seen before)
    · rw [byWorld]
      exact Nat.find_spec seen
  exact ⟨_, raisedAfter, fun _ raisedToo => raisedToo.unique raisedAfter⟩

/-- A flag that is up from the start lets no dispatch be made. -/
theorem advance_of_raised_at_start {count : Nat} (raised : control.flag 0 world = true)
    (positive : 0 < count) :
    program.advance device control count (Session.start n) world =
      (if program.script.size = 0 then .completed (Session.start n)
        else .aborted (Session.start n) .cancelled, world) := by
  obtain ⟨count, rfl⟩ := Nat.exists_eq_add_of_lt positive
  split_ifs with empty
  · have outside : program.script.size ≤ (Session.start n).position := Nat.le_of_eq empty
    simp only [advance, step_of_outside outside]
  · have inside : (Session.start n).position < program.script.size := Nat.pos_of_ne_zero empty
    have stop : control.stop? (Session.start n).steps world = some .cancelled :=
      Control.stop?_of_raised raised
    simp only [advance, step_of_stop inside stop]

/-- A session makes the dispatches that it has started when its flag goes up as if the flag were
down. If it is over then, nothing has changed; otherwise it is cancelled at that boundary, after one
flush and no other call, whether its limit is used up there or not. A flag that goes up at no moment
of the session does nothing, a session that its limit stops has not seen the flag up, and with the
flag up from the start only the empty script is executed. A flag that the device or its calls raise
goes up behind a definite number of dispatches. -/
theorem cancels_at_next_boundary (program : Program) (device : Device World)
    (control : Control (World × CallLog)) (n : Nat) [HasCell n] (world : World) :
    (∀ raised : World × CallLog → Bool, control.flag = (fun _ world => raised world) →
      ∀ count, raised (program.advance device.logged control.unraised count (Session.start n)
        (world, [])).2 = true →
          ∃! started, program.RaisedAfter device.logged control n (world, []) started) ∧
    (∀ started, program.RaisedAfter device.logged control n (world, []) started →
      program.record device.logged control started #[] (Session.start n) (world, []) =
          program.record device.logged control.unraised started #[] (Session.start n)
            (world, []) ∧
        (program.IsOverAfter device.logged control.unraised n (world, []) started →
          (∃ report, program.run? device.logged control.unraised n (started + 1) (world, []) =
            some report) ∧
          ∀ count,
            program.record device.logged control count #[] (Session.start n) (world, []) =
              program.record device.logged control.unraised count #[] (Session.start n)
                (world, []) ∧
            program.run? device.logged control n count (world, []) =
              program.run? device.logged control.unraised n count (world, [])) ∧
        (¬program.IsOverAfter device.logged control.unraised n (world, []) started →
          ∃ session after log,
            program.advance device.logged control.unraised started (Session.start n) (world, []) =
              (.running session, (after, log)) ∧
            ∀ count, started < count →
              program.record device.logged control count #[] (Session.start n) (world, []) =
                ((program.record device.logged control.unraised started #[] (Session.start n)
                  (world, [])).1, .aborted session .cancelled, (after, log)) ∧
              program.run? device.logged control n count (world, []) =
                some ⟨.error .cancelled, .aborted session .cancelled,
                  ((device.flush after).2, log ++ [.flush (device.flush after).1])⟩)) ∧
    ((∀ started, ¬program.RaisedAfter device.logged control n (world, []) started) →
      ∀ count,
        program.record device.logged control count #[] (Session.start n) (world, []) =
          program.record device.logged control.unraised count #[] (Session.start n) (world, []) ∧
        program.run? device.logged control n count (world, []) =
          program.run? device.logged control.unraised n count (world, [])) ∧
    (∀ count report limit,
      program.run? device.logged control n count (world, []) = some report →
      report.result = .error (.stepLimitExceeded limit) →
        control.maxSteps = some limit ∧ ∀ boundary ≤ limit, control.flag boundary
          (program.advance device.logged control boundary (Session.start n) (world, [])).2 =
            false) ∧
    (control.flag 0 (world, []) = true → ∀ count, 0 < count →
      ∃ report, program.run? device.logged control n count (world, []) = some report ∧
        report.world = ((device.flush world).2, [.flush (device.flush world).1]) ∧
        report.result =
          if program.script.size = 0 then
            match (device.flush world).1 with
            | .ok () => .ok ⟨.blank n, 0⟩
            | .error failure => .error (.io 0 failure)
          else .error .cancelled) := by
  have same {count : Nat} (recorded :
      program.record device.logged control count #[] (Session.start n) (world, []) =
        program.record device.logged control.unraised count #[] (Session.start n) (world, [])) :
      program.run? device.logged control n count (world, []) =
        program.run? device.logged control.unraised n count (world, []) := by
    rw [run?_eq, run?_eq, ← record_snd program device.logged control count #[], recorded,
      record_snd]
  refine ⟨fun _ byWorld _ => existsUnique_raisedAfter byWorld, fun started raised =>
    ⟨raised.record_eq, fun isOver => ⟨isOver.exists_run?, fun count => ?_⟩, fun going => ?_⟩,
    fun never count => ?_, fun _ _ _ => down_of_stepLimitExceeded, fun raised count positive => ?_⟩
  · have recorded := raised.record_eq_of_isOver isOver count
    exact ⟨recorded, same recorded⟩
  · obtain ⟨session, ⟨after, log⟩, reached, inside⟩ :
        ∃ session between, program.advance device.logged control.unraised started
          (Session.start n) (world, []) = (.running session, between) ∧
            session.position < program.script.size := by
      simpa [IsOverAfter] using going
    refine ⟨session, after, log, reached, fun count lt => ?_⟩
    have recorded := raised.record_of_running reached inside lt
    refine ⟨recorded, ?_⟩
    rw [run?_eq, ← record_snd program device.logged control count #[], recorded]
    rfl
  · have recorded := record_eq_of_not_raised never count
    exact ⟨recorded, same recorded⟩
  · rw [run?_eq, advance_of_raised_at_start raised positive, Status.close?_eq]
    split_ifs with empty
    · exact ⟨_, rfl, rfl, rfl⟩
    · exact ⟨_, rfl, rfl, rfl⟩

/-- The flag goes up while the first byte is written, and the limit is used up then. -/
theorem cancels_at_next_boundary_write :
    ∃ program, load #[',', '.', '.'] = .ok program ∧
      program.RaisedAfter (Device.ofEnds .text .bytes).logged
        ⟨some 2, fun _ world => 2 ≤ world.2.length⟩ 1 ((['a'], #[]), []) 2 ∧
      ¬program.IsOverAfter (Device.ofEnds .text .bytes).logged
        (Control.unraised ⟨some 2, fun _ world => 2 ≤ world.2.length⟩) 1 ((['a'], #[]), []) 2 ∧
      ∃ session after log,
        program.advance (Device.ofEnds .text .bytes).logged
          (Control.unraised ⟨some 2, fun _ world => 2 ≤ world.2.length⟩) 2 (Session.start 1)
            ((['a'], #[]), []) = (.running session, (after, log)) ∧
        ∀ count, 2 < count →
          program.run? (Device.ofEnds .text .bytes).logged
            ⟨some 2, fun _ world => 2 ≤ world.2.length⟩ 1 count ((['a'], #[]), []) =
              some ⟨.error .cancelled, .aborted session .cancelled,
                (after, log ++ [.flush (.ok ())])⟩ := by
  refine ⟨⟨_, _, _, rfl, rfl⟩, rfl, ?_⟩
  have raised : RaisedAfter ⟨#[',', '.', '.'], _, .default, rfl, rfl⟩
      (Device.ofEnds .text .bytes).logged ⟨some 2, fun _ world => 2 ≤ world.2.length⟩ 1
      ((['a'], #[]), []) 2 := by
    refine ⟨rfl, fun earlier before => ?_, rfl⟩
    match earlier, before with
    | 0, _ => rfl
    | 1, _ => rfl
  have going : ¬IsOverAfter ⟨#[',', '.', '.'], _, .default, rfl, rfl⟩
      (Device.ofEnds .text .bytes).logged
      (Control.unraised ⟨some 2, fun _ world => 2 ≤ world.2.length⟩) 1 ((['a'], #[]), []) 2 := by
    intro isOver
    exact absurd (isOver _ _ rfl) (by decide)
  obtain ⟨session, after, log, reached, cancelled⟩ :=
    ((cancels_at_next_boundary _ (.ofEnds .text .bytes) _ 1 (['a'], #[])).2.1 2 raised).2.2 going
  exact ⟨raised, going, session, after, log, reached, fun count lt => (cancelled count lt).2⟩

end Program

end TapeMachine
