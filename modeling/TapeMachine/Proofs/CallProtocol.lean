import TapeMachine.Proofs.Acceptance
import TapeMachine.Proofs.Calls
import TapeMachine.Proofs.Ending

/-! # The calls that a session makes

A session reads and writes as long as its calls are served, and makes none behind one that is
refused. At its end it flushes once. The flush decides the result only where the script was executed
to its end: a refused call and a stop of the control are told whatever the flush answers. A refused
script has no session and makes no call.
-/

namespace TapeMachine

universe u

variable {n : Nat} {World : Type u}

/-- The call brought a byte, or handed one over. -/
inductive Call.Served : Call → Prop
  | read (byte : UInt8) : Served (.read (.ok (some byte)))
  | write (byte : UInt8) : Served (.write byte (.ok ()))

/-- All calls so far were served. -/
def CallLog.Served (log : CallLog) : Prop := ∀ call ∈ log, call.Served

theorem CallLog.Served.append {log : CallLog} {call : Call} (served : log.Served)
    (last : call.Served) : CallLog.Served (log ++ [call]) := by
  intro other member
  rcases List.mem_append.mp member with old | new
  · exact served other old
  · rw [List.mem_singleton.mp new]
    exact last

/-- If the session is running, all its calls were served. -/
def Status.ServedSoFar (log : CallLog) : Status n → Prop
  | running _ => log.Served
  | completed _ | aborted _ _ => True

/-- The instruction at the position makes this call, and the answer raises this error. -/
inductive Call.Refused (script : Script) (position : Nat) : Call → ExecError → Prop
  | exhausted (isInput : script[position]? = some ',') :
      Refused script position (.read (.ok none)) (.noMoreInput position)
  | readFailed (failure : IoFailure) (isInput : script[position]? = some ',') :
      Refused script position (.read (.error failure)) (.io position failure)
  | writeFailed (byte : UInt8) (failure : IoFailure) (isOutput : script[position]? = some '.') :
      Refused script position (.write byte (.error failure)) (.io position failure)

/-- How the calls of a session close behind those that were served, and its result then. The session
stands at `last`, and its flush is answered with `flushed`. -/
inductive Program.Closes (program : Program) (control : Control (World × CallLog))
    (last : Session n) (before : World) (served : CallLog) (flushed : Except IoFailure Unit) :
    CallLog → Except ExecError (Halted n) → Prop
  | refused {call : Call} {error : ExecError}
      (raises : call.Refused program.script last.position error) :
      Closes program control last before served flushed [call, .flush flushed] (.error error)
  | cancelled (inside : last.position < program.script.size)
      (raised : control.flag last.steps (before, served) = true) :
      Closes program control last before served flushed [.flush flushed] (.error .cancelled)
  | limited {limit : Nat} (inside : last.position < program.script.size)
      (down : control.flag last.steps (before, served) = false)
      (limit_eq : control.maxSteps = some limit) (used : limit ≤ last.steps) :
      Closes program control last before served flushed [.flush flushed]
        (.error (.stepLimitExceeded limit))
  | halted (atEnd : last.position = program.script.size) (success : flushed = .ok ()) :
      Closes program control last before served flushed [.flush flushed]
        (.ok ⟨last.tape, last.steps⟩)
  | flushFailed {failure : IoFailure} (atEnd : last.position = program.script.size)
      (failed : flushed = .error failure) :
      Closes program control last before served flushed [.flush flushed]
        (.error (.io program.script.size failure))

namespace Program

variable {program : Program} {device : Device World} {control : Control (World × CallLog)}

/-- A dispatch behind which the session goes on makes no call, or one that is served. -/
theorem servedSoFar_dispatched {character : Char} {session : Session n}
    {world after : World × CallLog} {status : Status n}
    (dispatched : Dispatched program device.logged character session world status after)
    (served : world.2.Served) : status.ServedSoFar after.2 := by
  cases dispatched with
  | proceed | jump => exact served
  | lost => trivial
  | read =>
    change (session.received (device.read world.1).1).ServedSoFar
      (world.2 ++ [.read (device.read world.1).1])
    rcases (device.read world.1).1 with failure | _ | byte
    · trivial
    · trivial
    · exact served.append (.read byte)
  | write =>
    change (session.delivered (device.write session.tape.read world.1).1).ServedSoFar
      (world.2 ++ [.write session.tape.read (device.write session.tape.read world.1).1])
    rcases (device.write session.tape.read world.1).1 with failure | _
    · trivial
    · exact served.append (.write session.tape.read)

/-- While a session is running all its calls have been served. -/
theorem servedSoFar_advance (count : Nat) {session : Session n} {world : World × CallLog}
    (served : world.2.Served) :
    (program.advance device.logged control count session world).1.ServedSoFar
      (program.advance device.logged control count session world).2.2 := by
  apply advance_induction
    (motive := fun (status : Status n) (world : World × CallLog) => status.ServedSoFar world.2)
    _ count served
  intro session world served
  apply step_induction
    (motive := fun (status : Status n) (world : World × CallLog) => status.ServedSoFar world.2)
  · exact fun _ => trivial
  · exact fun _ _ _ => trivial
  · exact fun _ _ _ _ dispatched => servedSoFar_dispatched dispatched served

theorem served_of_running [HasCell n] {first : Nat} {last : Session n} {world : World}
    {before : World × CallLog}
    (running : program.advance device.logged control first (Session.start n) (world, []) =
      (.running last, before)) : before.2.Served := by
  have noCalls : CallLog.Served ((world, []) : World × CallLog).2 := List.forall_mem_nil _
  have kept : (program.advance device.logged control first (Session.start n)
      (world, [])).1.ServedSoFar _ := servedSoFar_advance first noCalls
  rw [running] at kept
  exact kept

/-- A session that ends closes its calls in one of the listed ways. -/
theorem closes_of_endsIn {last : Session n} {before : World} {served : CallLog}
    {after : World × CallLog} {status : Status n} {result : Except ExecError (Halted n)}
    (ends : program.EndsIn device.logged control last (before, served) status after)
    (closed : status.result? (device.logged.flush after).1 = some result) :
    ∃ rest, (device.logged.flush after).2.2 = served ++ rest ∧
      program.Closes control last before served (device.flush after.1).1 rest result := by
  change status.result? (device.flush after.1).1 = some result at closed
  cases ends with
  | executed atEnd =>
    refine ⟨[.flush (device.flush before).1], rfl, ?_⟩
    rcases flushed : (device.flush before).1 with failure | _
    · rw [flushed] at closed
      cases closed
      rw [atEnd]
      exact .flushFailed atEnd rfl
    · rw [flushed] at closed
      cases closed
      exact .halted atEnd rfl
  | stopped inside stop =>
    cases closed
    refine ⟨[.flush (device.flush before).1], rfl, ?_⟩
    rcases Control.stop?_eq_some_iff.mp stop with ⟨raised, rfl⟩ | ⟨down, limit, limited, used, rfl⟩
    · exact .cancelled inside raised
    · exact .limited inside ((Bool.not_eq_true _).mp down) limited used
  | exhausted isInput answer =>
    cases closed
    change (device.read before).1 = .ok none at answer
    refine ⟨[.read (device.read before).1, .flush (device.flush (device.read before).2).1], ?_, ?_⟩
    · exact List.append_assoc ..
    · rw [answer]
      exact .refused (.exhausted isInput)
  | readFailed isInput answer =>
    cases closed
    change (device.read before).1 = .error _ at answer
    refine ⟨[.read (device.read before).1, .flush (device.flush (device.read before).2).1], ?_, ?_⟩
    · exact List.append_assoc ..
    · rw [answer]
      exact .refused (.readFailed _ isInput)
  | writeFailed isOutput answer =>
    cases closed
    change (device.write last.tape.read before).1 = .error _ at answer
    refine ⟨[.write last.tape.read (device.write last.tape.read before).1,
      .flush (device.flush (device.write last.tape.read before).2).1], ?_, ?_⟩
    · exact List.append_assoc ..
    · rw [answer]
      exact .refused (.writeFailed _ _ isOutput)

/-- A refused script makes no call, on whatever way it is run. In every session that ends the calls
are served one after the other, at most one is refused then, and one flush comes last. What was
refused, or what stopped the session, is its result, and the answer to the flush counts only at the
end of the script. -/
theorem calls_until_flush (script : Script) (device : Device World)
    (control : Control (World × CallLog)) (n : Nat) [HasCell n] (count : Nat) (world : World) :
    (∀ unmatched, script.check = .error unmatched →
      load script = .error unmatched ∧
        script.run? device.logged count (world, []) =
          some (.error (.script unmatched), (world, [])) ∧
        (∀ input, script.runText? count input = some (.error (.script unmatched))) ∧
        ∀ reader writer, script.runStream? count reader writer =
          some (.error (.script unmatched), reader, writer)) ∧
    ∀ (program : Program) report, program.script = script →
      program.run? device.logged control n count (world, []) = some report →
        ∃ first last before served flushed rest,
          program.advance device.logged control first (Session.start n) (world, []) =
              (.running last, (before, served)) ∧
            served.Served ∧ report.world.2 = served ++ rest ∧
              program.Closes control last before served flushed rest report.result := by
  constructor
  · intro unmatched refused
    refine ⟨load_eq_error_iff.mpr refused, ?_, fun input => ?_, fun reader writer => ?_⟩
    · exact (script.run?_eq_script_iff device.logged count).mpr ⟨refused, rfl⟩
    · exact (script.runText?_eq_script_iff count input).mpr refused
    · exact (script.runStream?_eq_script_iff count).mpr ⟨refused, rfl, rfl⟩
  · rintro program report rfl ran
    obtain ⟨first, last, ⟨before, served⟩, after, reached, ends, closed⟩ :=
      exists_endsIn_of_run? ran
    obtain ⟨result, -, same⟩ := Status.close?_eq_some_iff.mp closed
    obtain ⟨rest, log, closes⟩ := closes_of_endsIn ends result
    rw [← same] at log
    have allServed : served.Served := served_of_running reached
    exact ⟨first, last, before, served, _, rest, reached, allServed, log, closes⟩

/-- A stray bracket is refused without a call. A write that fails behind a read is the result of its
session, and the flush that fails then is not told. -/
theorem calls_until_flush_writeFailed :
    (Script.check #[']'] = .error ⟨0, .closing⟩ ∧
      Script.run? #[']'] (Device.ofEnds .stream .stream).logged 3
        ((.ofItems [.byte 7], .ofItems [.zero] [.interrupted]), []) =
          some (.error (.script ⟨0, .closing⟩),
            ((.ofItems [.byte 7], .ofItems [.zero] [.interrupted]), []))) ∧
    ∃ program report, load #[',', '.'] = .ok program ∧
      program.run? (Device.ofEnds .stream .stream).logged .none 1 3
        ((.ofItems [.byte 7], .ofItems [.zero] [.interrupted]), []) = some report ∧
      report.result = .error (.io 1 .writeZero) ∧
      ∃ first last before served flushed rest,
        program.advance (Device.ofEnds .stream .stream).logged .none first (Session.start 1)
          ((.ofItems [.byte 7], .ofItems [.zero] [.interrupted]), []) =
            (.running last, (before, served)) ∧
        served.Served ∧ report.world.2 = served ++ rest ∧
          program.Closes .none last before served flushed rest report.result := by
  constructor
  · have refused : Script.check #[']'] = .error ⟨0, .closing⟩ := rfl
    have protocol := calls_until_flush #[']'] (.ofEnds .stream .stream) .none 1 3
      (.ofItems [.byte 7], .ofItems [.zero] [.interrupted])
    exact ⟨refused, (protocol.1 _ refused).2.1⟩
  · refine ⟨⟨_, _, _, rfl, rfl⟩, _, rfl, rfl, rfl, ?_⟩
    exact (calls_until_flush #[',', '.'] (.ofEnds .stream .stream) .none 1 3
      (.ofItems [.byte 7], .ofItems [.zero] [.interrupted])).2 _ _ rfl rfl

end Program

end TapeMachine
