import TapeMachine.Device.Observed
import TapeMachine.Device.Text
import TapeMachine.Proofs.Advance

/-! # The calls of a session

A logged device answers like the device it wraps and keeps every call with its answer. A statement
about sessions on all logged devices therefore speaks of the calls and their order as well as of the
answers and of the states that the device goes through. The log of a session only grows.
-/

namespace TapeMachine

universe u

variable {n : Nat} {World : Type u}

/-- The device that keeps all its calls in order. -/
def Device.logged (device : Device World) : Device (World × CallLog) :=
  device.observed CallLog.add

/-- The device that reads a text, writes to a sink, and keeps its calls. -/
def Device.ofText {Out : Type u} (sink : Sink Out) : Device ((List Char × Out) × CallLog) :=
  (Device.ofEnds .text sink).logged

theorem Device.read_ofText {Out : Type u} (sink : Sink Out) (text : List Char) (out : Out)
    (log : CallLog) :
    (Device.ofText sink).read ((text, out), log) =
      ((Source.text.read text).1,
        (((Source.text.read text).2, out), log ++ [.read (Source.text.read text).1])) := rfl

/-- The bytes that were handed over and taken, in order. -/
def CallLog.output (log : CallLog) : List UInt8 :=
  log.filterMap fun
    | .write byte (.ok ()) => some byte
    | _ => none

@[simp] theorem CallLog.output_write (log : CallLog) (byte : UInt8) :
    output (log ++ [.write byte (.ok ())]) = output log ++ [byte] := by
  simp [output]

@[simp] theorem CallLog.output_read (log : CallLog) (answer : Except IoFailure (Option UInt8)) :
    output (log ++ [.read answer]) = output log := by
  simp [output]

/-- The final flush hands over no byte. -/
@[simp] theorem CallLog.output_flush (log : CallLog) (answer : Except IoFailure Unit) :
    output (log ++ [.flush answer]) = output log := by
  simp [output]

namespace Program

variable {program : Program} {device : Device World} {control : Control (World × CallLog)}

/-- The output of a session is what it had handed over before the flush. -/
theorem output_of_run? [HasCell n] {count : Nat} {world : World × CallLog}
    {report : Report n (World × CallLog)}
    (ran : program.run? device.logged control n count world = some report) :
    report.world.2.output =
      (program.advance device.logged control count (Session.start n) world).2.2.output := by
  obtain ⟨after, ended, closed⟩ := advance_of_run? ran
  rw [(Status.close?_eq_some_iff.mp closed).2.2, ended]
  exact CallLog.output_flush ..

/-- A session leaves the calls made before it at the front of the log. -/
theorem isPrefix_advance (count : Nat) (session : Session n) (world : World × CallLog) :
    world.2 <+: (program.advance device.logged control count session world).2.2 := by
  refine advance_world (R := fun first second : World × CallLog => first.2 <+: second.2)
    ?_ ?_ ?_ ?_ count
  · exact fun _ => List.prefix_rfl
  · exact fun first second => first.trans second
  · exact fun _ => List.prefix_append ..
  · exact fun _ _ => List.prefix_append ..

/-- What a session has handed over stays at the front of its output. -/
theorem output_isPrefix_of_running {first : Nat} {session next : Session n}
    {world after : World × CallLog}
    (reached : program.advance device.logged control first session world = (.running next, after))
    (more : Nat) :
    after.2.output <+:
      (program.advance device.logged control (first + more) session world).2.2.output := by
  rw [advance_add_of_running reached]
  exact (isPrefix_advance more next after).filterMap _

theorem output_isPrefix_of_run? [HasCell n] {first count : Nat} {next : Session n}
    {world after : World × CallLog} {report : Report n (World × CallLog)}
    (reached : program.advance device.logged control first (Session.start n) world =
      (.running next, after))
    (ran : program.run? device.logged control n count world = some report) :
    after.2.output <+: report.world.2.output := by
  rw [output_of_run? (run?_of_le ran (Nat.le_add_left count first))]
  exact output_isPrefix_of_running reached count

/-! ## Without the log -/

/-- Keeping a log changes nothing in a step. -/
theorem step_logged {controlToo : Control World}
    (same : ∀ steps (world : World × CallLog),
      controlToo.stop? steps world.1 = control.stop? steps world)
    (session : Session n) (world : World × CallLog) :
    program.step device controlToo session world.1 =
      ((program.step device.logged control session world).1,
        (program.step device.logged control session world).2.1) := by
  simp only [step, same]
  split
  · cases control.stop? session.steps world with
    | some error => rfl
    | none =>
      simp only [dispatch]
      cases program.action program.script[session.position] session <;> rfl
  · rfl

theorem advance_logged {controlToo : Control World}
    (same : ∀ steps (world : World × CallLog),
      controlToo.stop? steps world.1 = control.stop? steps world)
    (count : Nat) (session : Session n) (world : World × CallLog) :
    program.advance device controlToo count session world.1 =
      ((program.advance device.logged control count session world).1,
        (program.advance device.logged control count session world).2.1) := by
  induction count generalizing session world with
  | zero => rfl
  | succ count ih =>
    simp only [advance, step_logged same]
    rcases program.step device.logged control session world with ⟨next | last | last, after⟩
    · exact ih next after
    · rfl
    · rfl

/-- The report of a session is that of the logged session without the log. -/
theorem run?_logged [HasCell n] {controlToo : Control World}
    (same : ∀ steps (world : World × CallLog),
      controlToo.stop? steps world.1 = control.stop? steps world)
    (count : Nat) (world : World × CallLog) :
    program.run? device controlToo n count world.1 =
      (program.run? device.logged control n count world).map fun report =>
        ⟨report.result, report.status, report.world.1⟩ := by
  rw [run?_eq, run?_eq, advance_logged same, Status.close?_eq, Status.close?_eq, Option.map_map]
  rfl

end Program

end TapeMachine
