import TapeMachine.Device.Scripted
import TapeMachine.Proofs.Ending
import TapeMachine.Proofs.Refusal
import TapeMachine.Proofs.Window

/-! # The character at fault

Every position that is reported names what went wrong there. A refused script has the bracket at the
position, and a session that failed was about to dispatch the input or output instruction at the
position, whose call failed, or had executed its script and failed to flush. When the error is
shown, the caret stands under that very character, or behind the script for the flush.
-/

namespace TapeMachine

universe u

variable {n : Nat} {World : Type u}

namespace Diagnostic

/-- The text ends in a line that shows a part of the script and in a line whose caret stands under
the character at `position`: in front of its column stands what the script has in front of the
position, and from its column on what the script has there, the character itself as it is. -/
def PointsAt (text : String) (script : Script) (position : Nat) : Prop :=
  ∃ (message : String) (before behind : List Char),
    text = message ++ "\n" ++ ("  " ++ String.ofList (before ++ behind) ++ "\n") ++
      ("  " ++ String.ofList (List.replicate before.length ' ' ++ ['^']) ++ "\n") ∧
    (∀ character ∈ before ++ behind, Text.breaksLine character = false) ∧
    before = (script.extract (position - 32) position).toList.map flattened ∧
    behind = (script.extract position (position + 33)).toList.map flattened ∧
    behind.head? = script[position]?

/-- The window is the part in front of the position and the part from there on. -/
theorem window_eq_append {script : Script} {position : Nat} (inside : position ≤ script.size) :
    window script position =
      (script.extract (position - 32) position).toList.map flattened ++
        (script.extract position (position + 33)).toList.map flattened := by
  have joined : script.extract (position - 32) (min script.size (position + 33)) =
      script.extract (position - 32) position ++ script.extract position (position + 33) := by
    rw [Array.extract_append_extract, Nat.min_eq_left (Nat.sub_le ..),
      Nat.max_eq_right (Nat.le_add_right ..)]
    exact Array.ext' (by simp [List.take_eq_take_iff]; omega)
  rw [window_eq, joined, Array.toList_append, List.map_append]

/-- The caret of an error stands under the character at its position, if that is no blank. -/
theorem pointsAt_render {error : RunError} {script : Script} {position : Nat}
    (placed : error.position? = some position) (inside : position ≤ script.size)
    (solid : ∀ character, script[position]? = some character → Text.isBlank character = false)
    (programName : Option String) :
    PointsAt (error.render programName script) script position := by
  have split := window_eq_append inside
  have indent : ((script.extract (position - 32) position).toList.map flattened).length =
      min position 32 := by
    rw [List.length_map, Array.length_toList, Array.size_extract]
    omega
  refine ⟨error.announcement programName ++ " at instruction " ++ toString position, _, _, ?_, ?_,
    rfl, rfl, ?_⟩
  · rw [RunError.render_of_placed placed, caret_eq, split, indent]
  · rw [← split]
    exact breaksLine_of_mem_window
  · have first : (script.extract position (position + 33)).toList.head? = script[position]? := by
      rw [List.head?_eq_getElem?, Array.getElem?_toList, Array.getElem?_extract, Nat.add_zero]
      split
      · rfl
      · exact (Array.getElem?_eq_none (by omega)).symm
    rw [List.head?_map, first]
    cases present : script[position]? with
    | none => rfl
    | some character => exact congrArg some (flattened_of_not_isBlank (solid character present))

end Diagnostic

namespace Program

/-- What went wrong in a session that stands at `last`, and the error that tells of it: the call of
the instruction at hand failed, or the flush behind the whole script. -/
inductive Fails (program : Program) (device : Device World) (control : Control World)
    (last : Session n) (before : World) : ExecError → Prop
  | exhausted (isInput : program.script[last.position]? = some ',')
      (free : control.stop? last.steps before = none)
      (answer : (device.read before).1 = .ok none) :
      Fails program device control last before (.noMoreInput last.position)
  | readFailed {failure : IoFailure} (isInput : program.script[last.position]? = some ',')
      (free : control.stop? last.steps before = none)
      (answer : (device.read before).1 = .error failure) :
      Fails program device control last before (.io last.position failure)
  | writeFailed {failure : IoFailure} (isOutput : program.script[last.position]? = some '.')
      (free : control.stop? last.steps before = none)
      (answer : (device.write last.tape.read before).1 = .error failure) :
      Fails program device control last before (.io last.position failure)
  | flushFailed {failure : IoFailure} (executed : last.position = program.script.size)
      (answer : (device.flush before).1 = .error failure) :
      Fails program device control last before (.io program.script.size failure)

variable {program : Program} {device : Device World} {control : Control World}

/-- A session fails at the position that its error names. -/
theorem Fails.position_eq {last : Session n} {before : World} {error : ExecError}
    (fails : program.Fails device control last before error) :
    error.position? = some last.position := by
  cases fails with
  | exhausted | readFailed | writeFailed => rfl
  | flushFailed executed => rw [executed]; rfl

/-- What a session fails at is in the script, or behind all of it, and is no blank. -/
theorem Fails.solid {last : Session n} {before : World} {error : ExecError}
    (fails : program.Fails device control last before error) :
    last.position ≤ program.script.size ∧
      ∀ character, program.script[last.position]? = some character →
        Text.isBlank character = false := by
  cases fails with
  | exhausted present | readFailed present | writeFailed present =>
    refine ⟨Nat.le_of_lt (Array.getElem?_eq_some_iff.mp present).1, fun character found => ?_⟩
    cases present.symm.trans found
    decide
  | flushFailed executed =>
    refine ⟨Nat.le_of_eq executed, fun character found => ?_⟩
    rw [executed, Array.getElem?_eq_none (Nat.le_refl _)] at found
    cases found

/-- An error that names a position is told by a session that failed there. -/
theorem exists_fails_of_run? [HasCell n] {count : Nat} {world : World} {report : Report n World}
    {error : ExecError} (ran : program.run? device control n count world = some report)
    (failed : report.result = .error error) (placed : error.position? ≠ none) :
    ∃ first last before,
      program.advance device control first (Session.start n) world = (.running last, before) ∧
        program.Fails device control last before error := by
  obtain ⟨first, last, before, after, running, ends, closed⟩ := exists_endsIn_of_run? ran
  refine ⟨first, last, before, running, ?_⟩
  have result := (Status.close?_eq_some_iff.mp closed).1
  rw [failed] at result
  generalize report.status = status at ends result
  cases ends with
  | executed atEnd =>
    obtain ⟨failure, answer, rfl⟩ := Status.error_of_completed result
    rw [atEnd]
    exact .flushFailed atEnd answer
  | stopped inside stop =>
    cases result
    exact absurd (Control.position?_of_stop stop) placed
  | exhausted isInput answer free =>
    cases result
    exact .exhausted isInput free answer
  | readFailed isInput answer free =>
    cases result
    exact .readFailed isInput free answer
  | writeFailed isOutput answer free =>
    cases result
    exact .writeFailed isOutput free answer

end Program

/-- Every position that is reported names what went wrong. A refusal names a bracket of the script
that is of the kind it tells, and an error of a session that names a position tells of the call that
failed for the instruction there, or of the flush behind the script. Whichever it is, it is shown
with the caret under that character. -/
theorem RunError.position_names_culprit (script : Script) (programName : Option String)
    (device : Device World) (control : Control World) (n : Nat) [HasCell n] (world : World) :
    (∀ unmatched, script.check = .error unmatched →
      script[unmatched.position]? = some unmatched.bracket.symbol ∧
        Diagnostic.PointsAt ((RunError.script unmatched).render programName script) script
          unmatched.position) ∧
    ∀ (program : Program) count report error position, program.script = script →
      program.run? device control n count world = some report → report.result = .error error →
        error.position? = some position →
          (∃ first last before,
            program.advance device control first (Session.start n) world =
                (.running last, before) ∧
              last.position = position ∧ program.Fails device control last before error) ∧
            Diagnostic.PointsAt ((RunError.exec error).render programName script) script
              position := by
  constructor
  · intro unmatched refused
    have present := (Script.mem_unmatched.mp (Script.mem_unmatched_of_check refused)).1
    refine ⟨present, Diagnostic.pointsAt_render rfl ?_ ?_ programName⟩
    · exact Nat.le_of_lt (Array.getElem?_eq_some_iff.mp present).1
    · intro character found
      cases present.symm.trans found
      cases unmatched.bracket <;> decide
  · rintro program count report error position rfl ran failed placed
    obtain ⟨first, last, before, running, fails⟩ :=
      Program.exists_fails_of_run? ran failed (by simp [placed])
    obtain rfl := Option.some.inj (fails.position_eq.symm.trans placed)
    have shownAt : (RunError.exec error).position? = some last.position := placed
    exact ⟨⟨first, last, before, running, rfl, fails⟩,
      Diagnostic.pointsAt_render shownAt fails.solid.1 fails.solid.2 programName⟩

/-- Positions count characters, whatever their width. A session that has gone round a loop runs out
of input behind it, and one that has executed its script fails to flush behind it. -/
theorem RunError.position_names_culprit_behind :
    let stray : Script := #['é', '\n', ']']
    let reading : Program := ⟨#['+', '[', '-', ']', ','], _, .table, rfl, rfl⟩
    let device := Device.ofEnds .stream .stream
    let world : ScriptedReader × ScriptedWriter := (.ofItems [], .ofItems [] [.interrupted])
    (stray.check = .error ⟨2, .closing⟩ ∧ stray[2]? = some ']' ∧
      Diagnostic.PointsAt ((RunError.script ⟨2, .closing⟩).render none stray) stray 2) ∧
    (∃ report, reading.run? device .none 1 6 world = some report ∧
      report.result = .error (.noMoreInput 4) ∧
      (∃ first last before, reading.advance device .none first (Session.start 1) world =
          (.running last, before) ∧ last.position = 4 ∧
        reading.Fails device .none last before (.noMoreInput 4)) ∧
      Diagnostic.PointsAt ((RunError.exec (.noMoreInput 4)).render none reading.script)
        reading.script 4) ∧
    ∃ report, Program.empty.run? device .none 1 1 world = some report ∧
      report.result = .error (.io 0 .interrupted) ∧
      Diagnostic.PointsAt ((RunError.exec (.io 0 .interrupted)).render none #[]) #[] 0 := by
  intro stray reading device world
  have refused : stray.check = .error ⟨2, .closing⟩ := rfl
  refine ⟨⟨refused, (position_names_culprit stray none device .none 1 world).1 _ refused⟩, ?_, ?_⟩
  · refine ⟨_, rfl, rfl, ?_⟩
    exact (position_names_culprit reading.script none device .none 1 world).2 reading 6 _ _ 4 rfl
      rfl rfl rfl
  · refine ⟨_, rfl, rfl, ?_⟩
    exact ((position_names_culprit #[] none device .none 1 world).2 .empty 1 _ _ 0 rfl rfl rfl
      rfl).2

end TapeMachine
