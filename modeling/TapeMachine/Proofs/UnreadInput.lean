import TapeMachine.Proofs.Ending
import TapeMachine.Proofs.Following
import TapeMachine.Session.OneShot

/-! # Input that is not read

A session cannot tell what stands behind the part of its input that it reads. With more input behind,
it ends as it did, and the new input is left behind what it has left before. Only a session that
found its input exhausted can tell: it comes to the same read in the same way, and goes on from there
with the new input, so what it had written by then is the beginning of what it writes now.
-/

namespace TapeMachine

universe u

variable {n : Nat} {World : Type u}

/-- The control that sees all of a world but its unread text. -/
def Control.blind {Out : Type u} (control : Control (Out × CallLog)) :
    Control ((List Char × Out) × CallLog) where
  maxSteps := control.maxSteps
  flag steps world := control.flag steps (world.1.2, world.2)

/-- In the world that `more` makes of a world there is more input behind. The control does not see
it, and neither does any call but a read for which the input was exhausted. -/
structure MoreInput (more : World → World) (device : Device World) (control : Control World) :
    Prop where
  stop : ∀ steps world, control.stop? steps (more world) = control.stop? steps world
  read : ∀ world, (device.read world).1 ≠ .ok none →
    device.read (more world) = ((device.read world).1, more (device.read world).2)
  write : ∀ byte world,
    device.write byte (more world) = ((device.write byte world).1, more (device.write byte world).2)
  flush : ∀ world,
    device.flush (more world) = ((device.flush world).1, more (device.flush world).2)

/-- Text that is put behind the unread text is more input. -/
theorem moreInput_text {Out : Type u} (sink : Sink Out) (behind : List Char) :
    MoreInput (fun world => (world.1 ++ behind, world.2)) (.ofEnds .text sink) .none where
  stop _ _ := rfl
  read := by
    rintro ⟨_ | ⟨character, rest⟩, output⟩ enough
    · exact absurd rfl enough
    · simp only [Device.ofEnds, Source.text, List.cons_append]
      split <;> rfl
  write _ _ := rfl
  flush _ := rfl

namespace MoreInput

variable {more : World → World} {device : Device World} {control : Control World}
  {program : Program}

/-- More input stays more input for a device that keeps its calls. -/
theorem logged (fed : MoreInput more device control) {watching : Control (World × CallLog)}
    (blind : ∀ steps world log, watching.stop? steps (more world, log) =
      watching.stop? steps (world, log)) :
    MoreInput (fun world => (more world.1, world.2)) device.logged watching where
  stop steps world := blind steps world.1 world.2
  read world enough := by
    simp only [Device.logged, Device.observed, fed.read world.1 enough]
  write byte world := by
    simp only [Device.logged, Device.observed, fed.write byte world.1]
  flush world := by
    simp only [Device.logged, Device.observed, fed.flush world.1]

variable (fed : MoreInput more device control)

include fed

theorem follows : Follows (fun world worldToo => worldToo = more world) device control device
    control where
  stop := by
    rintro world _ rfl steps
    exact fed.stop steps world
  read := by
    rintro world _ rfl byte served
    rw [fed.read world (by simp [served])]
    exact ⟨served, rfl⟩
  write := by
    rintro world _ rfl byte served
    rw [fed.write byte world]
    exact ⟨served, rfl⟩

/-- A session that is running goes through the same states. -/
theorem advance_of_running {count : Nat} {session next : Session n} {world after : World}
    (reached : program.advance device control count session world = (.running next, after)) :
    program.advance device control count session (more world) = (.running next, more after) := by
  obtain ⟨_, reachedToo, rfl⟩ := fed.follows.advance_of_running rfl reached
  exact reachedToo

/-- Every end but that of the input comes in the same way. -/
theorem endsIn {last : Session n} {before after : World} {status : Status n}
    (ends : program.EndsIn device control last before status after)
    (enough : status ≠ .aborted last (.noMoreInput last.position)) :
    program.EndsIn device control last (more before) status (more after) := by
  cases ends with
  | executed atEnd => exact .executed atEnd
  | stopped inside stop => exact .stopped inside ((fed.stop _ _).trans stop)
  | exhausted => exact absurd rfl enough
  | readFailed isInput answer free =>
    have same := fed.read before (by simp [answer])
    have left : (device.read (more before)).2 = more (device.read before).2 :=
      congrArg Prod.snd same
    exact left ▸ .readFailed isInput ((congrArg Prod.fst same).trans answer)
      ((fed.stop _ _).trans free)
  | writeFailed isOutput answer free =>
    have same := fed.write last.tape.read before
    have left : (device.write last.tape.read (more before)).2 =
        more (device.write last.tape.read before).2 := congrArg Prod.snd same
    exact left ▸ .writeFailed isOutput ((congrArg Prod.fst same).trans answer)
      ((fed.stop _ _).trans free)

/-- A session that did not run out of input has the same report. -/
theorem run?_of_enough [HasCell n] {count : Nat} {world : World} {report : Report n World}
    (ran : program.run? device control n count world = some report)
    (enough : ∀ position, report.result ≠ .error (.noMoreInput position)) :
    program.run? device control n count (more world) =
      some { report with world := more report.world } := by
  obtain ⟨first, last, before, after, running, ends, closed⟩ :=
    Program.exists_endsIn_of_run? ran
  obtain ⟨result, -, left⟩ := Status.close?_eq_some_iff.mp closed
  have notExhausted : report.status ≠ .aborted last (.noMoreInput last.position) := by
    intro exhausted
    rw [exhausted] at result
    exact enough last.position (Option.some.inj result).symm
  rw [(fed.endsIn ends notExhausted).run?_of_running (fed.advance_of_running running)
    (Program.lt_of_run? running ran), Status.close?_eq, fed.flush after, result, left]
  rfl

end MoreInput

/-- A text with more text behind it is read alike by devices that keep their calls. -/
theorem moreInput_ofText {Out : Type u} (sink : Sink Out) (control : Control (Out × CallLog))
    (behind : List Char) :
    MoreInput (fun world => ((world.1.1 ++ behind, world.1.2), world.2)) (.ofText sink)
      control.blind :=
  (moreInput_text sink behind).logged fun _ _ _ => rfl

/-- A text is exhausted when nothing of it is left unread. -/
theorem unread_eq_nil_of_read {text : List Char} (answer : (Source.text.read text).1 = .ok none) :
    text = [] := by
  cases text with
  | nil => rfl
  | cons character rest =>
    by_cases fits : character.toNat < UInt8.size
    · rw [Source.read_text_of_narrow fits] at answer
      cases answer
    · rw [Source.read_text_of_wide (Nat.not_lt.mp fits)] at answer
      cases answer

/-- A script that halts prints the same with more text behind. -/
theorem Script.runText?_append {script : Script} {text : List Char} {count : Nat} {printed : String}
    (ran : script.runText? count text = some (.ok printed)) (behind : List Char) :
    script.runText? count (text ++ behind) = some (.ok printed) := by
  simp only [runText?, run?] at ran ⊢
  cases loaded : Program.load script with
  | error unmatched =>
    rw [loaded] at ran
    cases ran
  | ok program =>
    simp only [loaded] at ran ⊢
    cases ended : program.run? (.ofEnds .text .bytes) .none defaultCells count (text, #[]) with
    | none =>
      rw [ended] at ran
      cases ran
    | some report =>
      rw [ended] at ran
      have halted (position : Nat) : report.result ≠ .error (.noMoreInput position) := by
        intro exhausted
        rw [Option.map_some, exhausted] at ran
        cases ran
      rw [(moreInput_text .bytes behind).run?_of_enough ended halted]
      exact ran

namespace Program

variable {Out : Type u}

/-- Input that is not read has no influence. If a session ends without running out of its text, then
with more text behind it ends with the same result, has made the same calls with the same answers,
and leaves the new text behind what it has left before. If it runs out of its text at some position,
then with more text behind it makes the same dispatches and calls up to the read there, so its output
then begins with the output that it has without. What a script prints it prints with any text behind,
also if that text cannot be read. -/
theorem unread_input_invisible (sink : Sink Out) (control : Control (Out × CallLog)) (n : Nat)
    [HasCell n] (text behind : List Char) (out : Out) (log : CallLog) (count : Nat) :
    (∀ (program : Program) report,
      program.run? (.ofText sink) control.blind n count ((text, out), log) = some report →
      ((∀ position, report.result ≠ .error (.noMoreInput position)) →
        program.run? (.ofText sink) control.blind n count ((text ++ behind, out), log) =
          some { report with
            world := ((report.world.1.1 ++ behind, report.world.1.2), report.world.2) }) ∧
      ∀ position, report.result = .error (.noMoreInput position) →
        ∃ first last left calls answer,
          program.advance (.ofText sink) control.blind first (Session.start n)
            ((text, out), log) = (.running last, (([], left), calls)) ∧
          program.advance (.ofText sink) control.blind first (Session.start n)
            ((text ++ behind, out), log) = (.running last, ((behind, left), calls)) ∧
          last.position = position ∧ program.script[position]? = some ',' ∧
          report.world.2 = calls ++ [.read (.ok none), .flush answer] ∧
          (program.record (.ofText sink) control.blind (first + 1) #[] (Session.start n)
              ((text ++ behind, out), log)).1 =
            (program.record (.ofText sink) control.blind (first + 1) #[] (Session.start n)
              ((text, out), log)).1 ∧
          (∀ more, report.world.2.output <+:
            (program.advance (.ofText sink) control.blind (first + more) (Session.start n)
              ((text ++ behind, out), log)).2.2.output) ∧
          ∀ countToo other,
            program.run? (.ofText sink) control.blind n countToo ((text ++ behind, out), log) =
              some other → report.world.2.output <+: other.world.2.output) ∧
    ∀ (script : Script) printed, script.runText? count text = some (.ok printed) →
      script.runText? count (text ++ behind) = some (.ok printed) := by
  have fed := moreInput_ofText sink control behind
  refine ⟨fun program report ran => ⟨fed.run?_of_enough ran, fun position exhausted => ?_⟩,
    fun script printed halted => script.runText?_append halted behind⟩
  obtain ⟨first, last, before, reached, same, isInput, answer, left⟩ :=
    exists_read_of_noMoreInput ran exhausted
  obtain ⟨⟨unread, output⟩, calls⟩ := before
  obtain rfl : unread = [] := unread_eq_nil_of_read answer
  have reachedToo := fed.advance_of_running reached
  have calls_eq : report.world.2 = calls ++ [.read (.ok none), .flush (sink.flush output).1] := by
    rw [left]
    exact List.append_assoc ..
  have output_eq : report.world.2.output = CallLog.output calls := by
    rw [calls_eq]
    simp [CallLog.output]
  rw [output_eq]
  exact ⟨first, last, output, calls, _, reached, reachedToo, same, isInput, calls_eq,
    fed.follows.record_succ_fst rfl reached, output_isPrefix_of_running reachedToo,
    fun countToo other ranToo => output_isPrefix_of_run? reachedToo ranToo⟩

/-- A character that no cell can hold is not met by the script that reads one character before it. A
script that reads on fails there, behind the output that it has without. -/
theorem unread_input_invisible_wide :
    (∃ program report, load #[',', '.'] = .ok program ∧
      program.run? (.ofText .bytes) (.blind .none) 1 3 ((['a'], #[]), []) = some report ∧
      (∀ position, report.result ≠ .error (.noMoreInput position)) ∧
      program.run? (.ofText .bytes) (.blind .none) 1 3 ((['a', 'λ'], #[]), []) =
        some { report with
          world := ((report.world.1.1 ++ ['λ'], report.world.1.2), report.world.2) }) ∧
    (∃ program report other, load #[',', '.', ','] = .ok program ∧
      program.run? (.ofText .bytes) (.blind .none) 1 4 ((['a'], #[]), []) = some report ∧
      report.result = .error (.noMoreInput 2) ∧
      program.run? (.ofText .bytes) (.blind .none) 1 4 ((['a', 'λ'], #[]), []) = some other ∧
      other.result = .error (.io 2 (.wideCharacter 'λ')) ∧
      report.world.2.output <+: other.world.2.output) ∧
    Script.runText? #[',', '.'] 3 ['a'] = some (.ok (latinText #[97])) ∧
    Script.runText? #[',', '.'] 3 ['a', 'λ'] = some (.ok (latinText #[97])) := by
  refine ⟨⟨⟨_, _, _, rfl, rfl⟩, _, rfl, rfl, nofun, ?_⟩,
    ⟨⟨_, _, _, rfl, rfl⟩, _, _, rfl, rfl, rfl, rfl, rfl, ?_⟩, rfl, ?_⟩
  · exact ((unread_input_invisible .bytes .none 1 ['a'] ['λ'] #[] [] 3).1 _ _ rfl).1 nofun
  · let program : Program := ⟨#[',', '.', ','], _, .default, rfl, rfl⟩
    have parts := (unread_input_invisible .bytes .none 1 ['a'] ['λ'] #[] [] 4).1 program _ rfl
    obtain ⟨first, last, left, calls, answer, -, -, -, -, -, -, -, begins⟩ := parts.2 2 rfl
    exact begins 4 _ rfl
  · exact (unread_input_invisible .bytes .none 1 ['a'] ['λ'] #[] [] 3).2 _ _ rfl

end Program

end TapeMachine
