import TapeMachine.Proofs.CallProtocol

/-! # Sessions that keep their output

A sink that keeps every byte fails no write and no flush. So a session on it that nobody cancels
ends in four ways only, and the last call in front of its flush tells two of them. The bytes that
the sink has kept are those that the session has written, by its log.
-/

namespace TapeMachine

universe u

variable {n : Nat} {In : Type} {source : Source In}

/-- The result and the calls of a session that nobody cancels and whose sink keeps every byte, if it
may make as many dispatches. -/
inductive KeptEnding (maxSteps : Option Nat) : Except ExecError (Halted n) → CallLog → Prop
  | halted {served : CallLog} {halted : Halted n} (allServed : served.Served) :
      KeptEnding maxSteps (.ok halted) (served ++ [.flush (.ok ())])
  | limited {served : CallLog} {limit : Nat} (allServed : served.Served)
      (limit_eq : maxSteps = some limit) :
      KeptEnding maxSteps (.error (.stepLimitExceeded limit)) (served ++ [.flush (.ok ())])
  | exhausted {served : CallLog} {position : Nat} (allServed : served.Served) :
      KeptEnding maxSteps (.error (.noMoreInput position))
        (served ++ [.read (.ok none), .flush (.ok ())])
  | readFailed {served : CallLog} {position : Nat} {failure : IoFailure}
      (allServed : served.Served) :
      KeptEnding maxSteps (.error (.io position failure))
        (served ++ [.read (.error failure), .flush (.ok ())])

/-- A read that is among calls behind those that were served is one of these calls. -/
theorem CallLog.Served.read_mem_append_iff {served rest : CallLog} (allServed : served.Served)
    {answer : Except IoFailure (Option UInt8)} (refused : ∀ byte, answer ≠ .ok (some byte)) :
    .read answer ∈ served ++ rest ↔ .read answer ∈ rest := by
  have outside : .read answer ∉ served := by
    intro member
    cases allServed _ member
    exact refused _ rfl
  simp only [List.mem_append, outside, false_or]

namespace Program

variable {program : Program} {control : Control ((In × Array UInt8) × CallLog)} {input : In}
  {report : Report n ((In × Array UInt8) × CallLog)} {count : Nat}

/-- A session that nobody cancels ends in one of the four ways. -/
theorem keptEnding_of_run? [HasCell n] (down : ∀ steps world, control.flag steps world = false)
    (ran : program.run? (Device.ofEnds source .bytes).logged control n count
      ((input, #[]), []) = some report) :
    KeptEnding control.maxSteps report.result report.world.2 := by
  obtain ⟨first, last, ⟨before, served⟩, after, running, ends, closed⟩ := exists_endsIn_of_run? ran
  have allServed : served.Served := served_of_running running
  obtain ⟨result, -, left⟩ := Status.close?_eq_some_iff.mp closed
  rw [left]
  generalize report.status = status at ends result
  generalize report.result = told at result
  cases ends with
  | executed atEnd =>
    cases result
    exact .halted allServed
  | stopped inside stop =>
    cases result
    rcases Control.stop?_eq_some_iff.mp stop with ⟨raised, -⟩ | ⟨-, limit, limited, -, rfl⟩
    · rw [down] at raised
      cases raised
    · exact .limited allServed limited
  | exhausted isInput answer =>
    cases result
    change (source.read before.1).1 = .ok none at answer
    change KeptEnding control.maxSteps _ (served ++ [.read (source.read before.1).1] ++ [_])
    rw [answer, List.append_assoc]
    exact .exhausted allServed
  | readFailed isInput answer =>
    cases result
    change (source.read before.1).1 = .error _ at answer
    change KeptEnding control.maxSteps _ (served ++ [.read (source.read before.1).1] ++ [_])
    rw [answer, List.append_assoc]
    exact .readFailed allServed
  | writeFailed isOutput answer => cases answer

/-- What the sink has kept stays what the session has written. -/
theorem toList_kept_advance (count : Nat) {session : Session n}
    {world : (In × Array UInt8) × CallLog} (same : world.1.2.toList = world.2.output) :
    (program.advance (Device.ofEnds source .bytes).logged control count session
        world).2.1.2.toList =
      (program.advance (Device.ofEnds source .bytes).logged control count session
        world).2.2.output := by
  refine advance_world (R := fun first second : (In × Array UInt8) × CallLog =>
    first.1.2.toList = first.2.output → second.1.2.toList = second.2.output) ?_ ?_ ?_ ?_ count same
  · exact fun _ same => same
  · exact fun first second same => second (first same)
  · exact fun world same => Eq.trans same (CallLog.output_read ..).symm
  · intro byte world same
    refine Eq.trans ?_ (CallLog.output_write ..).symm
    rw [← same]
    exact Array.toList_push

/-- The bytes that the sink keeps are those that the session has written. -/
theorem toList_kept_of_run? [HasCell n]
    (ran : program.run? (Device.ofEnds source .bytes).logged control n count
      ((input, #[]), []) = some report) :
    report.world.1.2.toList = report.world.2.output := by
  rw [output_of_run? ran, ← toList_kept_advance count rfl]
  obtain ⟨after, ended, closed⟩ := advance_of_run? ran
  rw [ended, (Status.close?_eq_some_iff.mp closed).2.2]
  rfl

end Program

end TapeMachine
