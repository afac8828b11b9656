import TapeMachine.Device.Text
import TapeMachine.Proofs.Calls
import TapeMachine.Proofs.Simulation

/-! # A session does what its script means

An accepted script is the text of one block. Every block has an outcome, and a session only one end,
so that a session comes to what the block says makes the two equivalent. An outcome tells all that a
report needs but the answer to the flush.
-/

namespace TapeMachine

universe u

variable {n : Nat} {World : Type u}

/-- How a session of a script stands when the outcome has come, and the world then. -/
def Outcome.final? (size : Nat) : Outcome n World → Option (Status n × World)
  | finished last => some (.completed (last.session size), last.world)
  | failed last position error => some (.aborted (last.session position) error, last.world)
  | diverged => none

/-- The report of a session that comes to the outcome. -/
def Outcome.report? (device : Device World) (size : Nat) (outcome : Outcome n World) :
    Option (Report n World) :=
  (outcome.final? size).bind fun (status, world) => status.close? device world

theorem Outcome.final?_ne_running {size : Nat} {outcome : Outcome n World} {ended : Status n × World}
    (final : outcome.final? size = some ended) (next : Session n) : ended.1 ≠ .running next := by
  cases outcome <;> cases final <;> simp

/-- Different outcomes are told apart by how a session stands. -/
theorem Outcome.final?_inj {size : Nat} {outcome other : Outcome n World} :
    outcome.final? size = other.final? size ↔ outcome = other := by
  constructor
  · intro same
    cases outcome <;> cases other <;>
      simp [final?, Snapshot.session, Snapshot.ext_iff] at same ⊢ <;> grind
  · rintro rfl
    rfl

/-- An error that a read or a write at a position of the script can raise. -/
def Script.RaisesAt (script : Script) (position : Nat) (error : ExecError) : Prop :=
  (script[position]? = some ',' ∧ error = .noMoreInput position) ∨
    ((script[position]? = some ',' ∨ script[position]? = some '.') ∧
      ∃ failure, error = .io position failure)

/-- If the session was aborted, then for an error of the instruction at hand. -/
def Status.RaisedIn (script : Script) : Status n → Prop
  | running _ | completed _ => True
  | aborted last error => script.RaisesAt last.position error

namespace Program

variable {program : Program} {device : Device World} {start : Snapshot n World}
  {outcome : Outcome n World}

/-- Without a control nothing but a read or a write aborts a session. -/
theorem raisedIn_advance (program : Program) (device : Device World) (count : Nat)
    (session : Session n) (world : World) :
    (program.advance device .none count session world).1.RaisedIn program.script := by
  apply advance_induction (motive := fun status _ => status.RaisedIn program.script) _ count trivial
  intro session world _
  apply step_induction (motive := fun status _ => status.RaisedIn program.script)
  · exact fun _ => trivial
  · exact fun _ _ stop => by cases stop
  · intro inside _ status after dispatched
    have present := Array.getElem?_eq_getElem inside
    cases dispatched with
    | proceed | jump => trivial
    | lost jumps missing =>
      have bracket := Instruction.bracket_of_charJumpsOn jumps
      exact absurd missing (program.partner_ne_error present bracket _)
    | read isInput =>
      rw [Instruction.ofChar?_eq_some_iff.mp isInput] at present
      rcases (device.read world).1 with failure | _ | _
      · exact .inr ⟨.inl present, failure, rfl⟩
      · exact .inl ⟨present, rfl⟩
      · trivial
    | write isOutput =>
      rw [Instruction.ofChar?_eq_some_iff.mp isOutput] at present
      rcases (device.write session.tape.read world).1 with failure | _
      · exact .inr ⟨.inr present, failure, rfl⟩
      · trivial

/-- A session from the front of the script comes to what the outcome says. -/
def Ends (program : Program) (device : Device World) (start : Snapshot n World)
    (outcome : Outcome n World) : Prop :=
  match outcome.final? program.script.size with
  | some ended => ∃ count, program.advance device .none count (start.session 0) start.world = ended
  | none => ∀ count, ∃ next after,
      program.advance device .none count (start.session 0) start.world = (.running next, after)

theorem ends_of_meets (met : program.Meets device 0 program.script.size start outcome) :
    program.Ends device start outcome := by
  cases outcome with
  | finished last =>
    obtain ⟨count, reached⟩ := met
    refine ⟨count + 1, ?_⟩
    rw [advance_add_of_running reached, advance_one]
    exact step_of_outside (Nat.le_refl _)
  | failed | diverged => exact met

/-- What a session has ended in is told by its outcome. -/
theorem final?_eq_of_ends (ends : program.Ends device start outcome) {count : Nat}
    {ended : Status n × World}
    (reached : program.advance device .none count (start.session 0) start.world = ended)
    (notRunning : ∀ next, ended.1 ≠ .running next) :
    outcome.final? program.script.size = some ended := by
  unfold Ends at ends
  cases final : outcome.final? program.script.size with
  | none =>
    rw [final] at ends
    obtain ⟨next, after, ran⟩ := ends count
    have running := congrArg Prod.fst (reached.symm.trans ran)
    exact absurd running (notRunning next)
  | some other =>
    rw [final] at ends
    obtain ⟨countToo, reachedToo⟩ := ends
    have neverRunning := Outcome.final?_ne_running final
    exact congrArg some (advance_unique reachedToo reached neverRunning notRunning)

theorem exists_advance_of_final? (ends : program.Ends device start outcome)
    {ended : Status n × World} (final : outcome.final? program.script.size = some ended) :
    ∃ count, program.advance device .none count (start.session 0) start.world = ended := by
  unfold Ends at ends
  rw [final] at ends
  exact ends

/-- A session comes to one outcome only. -/
theorem ends_unique {other : Outcome n World} (ends : program.Ends device start outcome)
    (endsToo : program.Ends device start other) : outcome = other := by
  apply Outcome.final?_inj.mp (show outcome.final? program.script.size = other.final? _ from ?_)
  cases final : outcome.final? program.script.size with
  | some ended =>
    obtain ⟨count, reached⟩ := exists_advance_of_final? ends final
    exact (final?_eq_of_ends endsToo reached (Outcome.final?_ne_running final)).symm
  | none =>
    cases finalToo : other.final? program.script.size with
    | none => rfl
    | some ended =>
      obtain ⟨count, reached⟩ := exists_advance_of_final? endsToo finalToo
      rw [← final, final?_eq_of_ends ends reached (Outcome.final?_ne_running finalToo)]

/-- A session comes to exactly what the block of its script says. -/
theorem runs_iff_ends {block : Block} (read : program.script.block? = some block) :
    block.Runs device 0 start outcome ↔ program.Ends device start outcome := by
  have text := Script.block?_eq_some_iff.mp read
  have stands : block.StandsAt program.script.toList 0 := ⟨[], [], by simp [text], rfl⟩
  have size : 0 + block.text.length = program.script.size := by
    rw [Nat.zero_add, ← text, Array.length_toList]
  have ends (outcome : Outcome n World) (ran : block.Runs device 0 start outcome) :
      program.Ends device start outcome := by
    have met := meets_runs stands ran
    rw [size] at met
    exact ends_of_meets met
  constructor
  · exact ends outcome
  · intro ended
    obtain ⟨other, ran⟩ := block.exists_outcome device 0 start
    obtain rfl := ends_unique ended (ends other ran)
    exact ran

/-- The report of a session is the one of the outcome that it comes to. -/
theorem exists_run?_iff_of_ends [HasCell n] {world : World}
    (ends : program.Ends device (.start n world) outcome) (report : Report n World) :
    (∃ count, program.run? device .none n count world = some report) ↔
      outcome.report? device program.script.size = some report := by
  unfold Outcome.report?
  rw [Option.bind_eq_some_iff]
  constructor
  · rintro ⟨count, ran⟩
    obtain ⟨after, reached, closed⟩ := advance_of_run? ran
    have notRunning (next : Session n) : report.status ≠ .running next := by
      intro running
      rw [running] at closed
      cases closed
    exact ⟨_, final?_eq_of_ends ends reached notRunning, closed⟩
  · rintro ⟨ended, final, closed⟩
    obtain ⟨count, reached⟩ := exists_advance_of_final? ends final
    refine ⟨count, ?_⟩
    change program.advance device .none count (Session.start n) world = ended at reached
    rw [run?_eq, reached]
    exact closed

/-- An accepted script is read as one block, and a session does what the block means: it completes
its script, fails at the same position for the same error, or goes on forever, exactly as the
structured execution from the same start, with the same tape, the same number of steps, and the same
calls and states of the device. Only the flush is left to be reported. -/
theorem adequate (program : Program) (device : Device World) (n : Nat) [HasCell n]
    (world : World) :
    ∃ block, program.script.block? = some block ∧
      (∃! outcome, block.Runs device.logged 0 (.start n (world, [])) outcome) ∧
      (∀ last, block.Runs device.logged 0 (.start n (world, [])) (.finished last) ↔
        ∃ count, program.advance device.logged .none count (Session.start n) (world, []) =
          (.completed ⟨last.tape, program.script.size, last.steps⟩, last.world)) ∧
      (∀ last position error,
        block.Runs device.logged 0 (.start n (world, [])) (.failed last position error) ↔
          ∃ count, program.advance device.logged .none count (Session.start n) (world, []) =
            (.aborted ⟨last.tape, position, last.steps⟩ error, last.world)) ∧
      (∀ last position error,
        block.Runs device.logged 0 (.start n (world, [])) (.failed last position error) →
          program.script.RaisesAt position error) ∧
      (block.Runs device.logged 0 (.start n (world, [])) .diverged ↔
        ∀ count, program.run? device.logged .none n count (world, []) = none) ∧
      ∀ report, (∃ count, program.run? device.logged .none n count (world, []) = some report) ↔
        ∃ outcome, block.Runs device.logged 0 (.start n (world, [])) outcome ∧
          outcome.report? device.logged program.script.size = some report := by
  obtain ⟨block, read⟩ :=
    (Script.check_eq_ok_iff_exists_block? program.script).mp program.balanced
  have agree (outcome : Outcome n (World × CallLog)) :
      block.Runs device.logged 0 (.start n (world, [])) outcome ↔
        program.Ends device.logged (.start n (world, [])) outcome := runs_iff_ends read
  obtain ⟨outcome, ran⟩ := block.exists_outcome device.logged 0 (.start n (world, []))
  have ends := (agree outcome).mp ran
  refine ⟨block, read, ⟨outcome, ran, ?_⟩, fun last => agree _, fun last position error => agree _,
    ?_, ?_, ?_⟩
  · exact fun other ranToo => ends_unique ((agree other).mp ranToo) ends
  · intro last position error failed
    obtain ⟨count, reached⟩ := (agree _).mp failed
    have raised := program.raisedIn_advance device.logged count (Session.start n)
      (world, [])
    change program.advance device.logged .none count (Session.start n) (world, []) = _ at reached
    rw [reached] at raised
    exact raised
  · exact (agree .diverged).trans (forall_congr' fun _ => run?_eq_none_iff.symm)
  · intro report
    constructor
    · intro reported
      exact ⟨outcome, ran, (exists_run?_iff_of_ends ends report).mp reported⟩
    · rintro ⟨other, ranToo, reported⟩
      exact (exists_run?_iff_of_ends ((agree other).mp ranToo) report).mpr reported

/-- A loop that leaves its cell alone goes round forever, and so does its session. -/
theorem adequate_endless :
    ∃ program, load #['+', '[', ']'] = .ok program ∧
      ∀ count, program.run? (Device.ofEnds .text .bytes).logged .none 2 count
        (([], #[]), []) = none := by
  refine ⟨⟨_, _, _, rfl, rfl⟩, rfl, ?_⟩
  obtain ⟨block, read, -, -, -, -, diverges, -⟩ :=
    adequate ⟨#['+', '[', ']'], _, .default, rfl, rfl⟩ (.ofEnds .text .bytes) 2 ([], #[])
  obtain rfl : Block.item ⟨'+', by decide, by decide⟩ (.loop .done .done) = block :=
    Option.some.inj (by rw [← read]; rfl)
  let entered (index : Nat) : Snapshot 2 ((List Char × Array UInt8) × CallLog) :=
    ⟨⟨#v[1, 0], 0⟩, index + 2, (([], #[]), [])⟩
  have nonzero : (⟨#v[1, 0], 0⟩ : Tape 2).read ≠ 0 := by decide
  have rounds (index : Nat) :
      Round (Block.done.Runs (Device.ofEnds .text .bytes).logged 2) (entered index)
        (entered (index + 1)) := ⟨entered index, rfl, nonzero, rfl⟩
  exact diverges.mp ⟨.diverged, Rounds.forever entered rounds, rfl⟩

end Program

end TapeMachine
