import TapeMachine.Proofs.Grammar
import TapeMachine.Proofs.Unmatched
import TapeMachine.Session.OneShot

/-! # One answer on every way in

A script can be counted, checked, loaded, or run in one go against a device, a text or a stream.
All of these accept and refuse the same scripts, and where a refusal is told in detail it names the
bracket that the check names. A script that is run in one go is refused without a call.
-/

namespace TapeMachine

universe u

variable {World : Type u}

/-- What is loaded is what the check accepts. -/
theorem Program.exists_load_iff (script : Script) :
    (∃ program, load script = .ok program) ↔ script.check = .ok () := by
  cases loaded : load script with
  | ok program =>
    have accepted := program.balanced
    rw [script_of_load loaded] at accepted
    simp [accepted]
  | error unmatched => simp [load_eq_error_iff.mp loaded]

namespace Script

theorem isBalanced_eq_true_iff (script : Script) :
    script.isBalanced = true ↔ script.check = .ok () := by
  rw [check_eq_ok_iff]
  exact beq_iff_eq

/-- A script is accepted if there is no bracket for which it is refused. -/
theorem check_eq_ok_iff_forall_ne_error (script : Script) :
    script.check = .ok () ↔ ∀ unmatched, script.check ≠ .error unmatched := by
  cases script.check <;> simp

/-- A run in one go is refused for the bracket that the check names, and leaves the world alone. -/
theorem run?_eq_script_iff (script : Script) (device : Device World) (count : Nat)
    {world after : World} {unmatched : UnmatchedBracket} :
    script.run? device count world = some (.error (.script unmatched), after) ↔
      script.check = .error unmatched ∧ after = world := by
  rw [← Program.load_eq_error_iff]
  unfold run?
  cases Program.load script with
  | error other => simp [eq_comm]
  | ok program =>
    simp only [Option.map_eq_some_iff, Prod.mk.injEq, reduceCtorEq, false_and, iff_false]
    rintro ⟨report, -, failed, -⟩
    cases result : report.result <;> simp [result, Except.mapError] at failed

theorem runText?_eq_script_iff (script : Script) (count : Nat) (input : List Char)
    {unmatched : UnmatchedBracket} :
    script.runText? count input = some (.error (.script unmatched)) ↔
      script.check = .error unmatched := by
  unfold runText?
  rw [Option.map_eq_some_iff]
  constructor
  · rintro ⟨⟨_ | _, ends⟩, ran, failed⟩
    · cases failed
      exact ((script.run?_eq_script_iff _ count).mp ran).1
    · cases failed
  · intro refused
    exact ⟨_, (script.run?_eq_script_iff _ count).mpr ⟨refused, rfl⟩, rfl⟩

theorem runStream?_eq_script_iff (script : Script) (count : Nat)
    {reader readerAfter : ScriptedReader} {writer writerAfter : ScriptedWriter} {unmatched : UnmatchedBracket} :
    script.runStream? count reader writer =
        some (.error (.script unmatched), readerAfter, writerAfter) ↔
      script.check = .error unmatched ∧ readerAfter = reader ∧ writerAfter = writer := by
  unfold runStream?
  rw [Option.map_eq_some_iff]
  constructor
  · rintro ⟨⟨_ | _, ends⟩, ran, failed⟩
    · cases failed
      obtain ⟨refused, same⟩ := (script.run?_eq_script_iff _ count).mp ran
      exact ⟨refused, congrArg Prod.fst same, congrArg Prod.snd same⟩
    · cases failed
  · rintro ⟨refused, rfl, rfl⟩
    exact ⟨_, (script.run?_eq_script_iff _ count).mpr ⟨refused, rfl⟩, rfl⟩

/-- The check accepts exactly the bracket words. Counting depth, loading (for a tape of any size)
and running in one go accept the same scripts, and these are the scripts whose every bracket has a
partner. When the check refuses a script, loading and running tell of the same bracket. -/
theorem accepts_exactly_bracketWords (script : Script) :
    (script.check = .ok () ↔ BracketWord script.toList) ∧
    (script.isBalanced = true ↔ script.check = .ok ()) ∧
    ((∃ program, Program.load script = .ok program) ↔ script.check = .ok ()) ∧
    (∀ count input,
      (∀ unmatched, script.runText? count input ≠ some (.error (.script unmatched))) ↔
        script.check = .ok ()) ∧
    (∀ count reader writer,
      (∀ unmatched ends,
        script.runStream? count reader writer ≠ some (.error (.script unmatched), ends)) ↔
          script.check = .ok ()) ∧
    (∀ unmatched, script.check = .error unmatched ↔ Program.load script = .error unmatched) ∧
    (∀ unmatched count input, script.check = .error unmatched ↔
      script.runText? count input = some (.error (.script unmatched))) ∧
    (∀ unmatched count reader writer, script.check = .error unmatched ↔
      script.runStream? count reader writer =
        some (.error (.script unmatched), reader, writer)) ∧
    (script.check = .ok () ↔
      ∀ position, script.IsBracketAt position → ∃ other, script.partner position = .ok other) := by
  have byPartner : script.check = .ok () ↔ ∀ position, script.IsBracketAt position →
      ∃ other, script.partner position = .ok other := by
    rw [check_eq_ok_iff_forall_isMatchedAt]
    exact forall₂_congr fun _ _ => isMatchedAt_iff
  refine ⟨script.check_eq_ok_iff_bracketWord, script.isBalanced_eq_true_iff,
    Program.exists_load_iff script, fun count input => ?_, fun count reader writer => ?_,
    fun unmatched => Program.load_eq_error_iff.symm,
    fun unmatched count input => (script.runText?_eq_script_iff count input).symm,
    fun unmatched count reader writer => ?_, byPartner⟩
  · rw [check_eq_ok_iff_forall_ne_error]
    exact forall_congr' fun _ => not_congr (script.runText?_eq_script_iff count input)
  · rw [check_eq_ok_iff_forall_ne_error]
    constructor
    · intro notRefused unmatched refused
      apply notRefused unmatched (reader, writer)
      exact (script.runStream?_eq_script_iff count).mpr ⟨refused, rfl, rfl⟩
    · rintro accepted unmatched ⟨readerAfter, writerAfter⟩ refused
      exact accepted unmatched ((script.runStream?_eq_script_iff count).mp refused).1
  · simp [runStream?_eq_script_iff]

end Script

end TapeMachine
