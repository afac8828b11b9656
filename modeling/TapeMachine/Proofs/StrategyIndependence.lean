import TapeMachine.Device.Text
import TapeMachine.Proofs.Calls
import TapeMachine.Proofs.Partners
import TapeMachine.Session.Event

/-! # The strategy of a program does not show

A program asks for a partner only at a bracket of its script, and there both strategies answer
alike. So each step under one strategy is the step under the other, and whole sessions agree in all
that can be seen of them: events, calls, results and the states of the device.
-/

namespace TapeMachine

universe u

variable {n : Nat} {World : Type u}

namespace Program

/-- Off the jumps a dispatch does not look at the program. -/
theorem action_of_not_charJumpsOn (program other : Program) {character : Char}
    {session : Session n} (stays : ¬Instruction.charJumpsOn character session.tape.read) :
    program.action character session = other.action character session := by
  by_cases isOutput : Instruction.ofChar? character = some .output
  · simp only [action, isOutput]
  by_cases isInput : Instruction.ofChar? character = some .input
  · simp only [action, isInput]
  rw [program.action_of_plain stays isOutput isInput, other.action_of_plain stays isOutput isInput]

variable (program : Program) (strategy : Strategy)

theorem action_withStrategy {character : Char} {session : Session n}
    (present : program.script[session.position]? = some character) :
    (program.withStrategy strategy).action character session = program.action character session := by
  by_cases jumps : Instruction.charJumpsOn character session.tape.read
  · have bracket := Instruction.bracket_of_charJumpsOn jumps
    rw [action_of_charJumpsOn _ jumps, action_of_charJumpsOn _ jumps]
    simp only [jump, program.partner_withStrategy strategy present bracket]
  · exact action_of_not_charJumpsOn _ _ jumps

theorem dispatch_withStrategy (device : Device World) {character : Char} {session : Session n}
    (world : World) (present : program.script[session.position]? = some character) :
    (program.withStrategy strategy).dispatch device character session world =
      program.dispatch device character session world := by
  simp only [dispatch, program.action_withStrategy strategy present]

theorem jumpEvent?_withStrategy {character : Char} {session : Session n}
    (present : program.script[session.position]? = some character) :
    (program.withStrategy strategy).jumpEvent? character session =
      program.jumpEvent? character session := by
  unfold jumpEvent?
  split
  · rename_i jumps
    have bracket := Instruction.bracket_of_charJumpsOn jumps
    rw [program.partner_withStrategy strategy present bracket]
  · rfl

/-- One step is the same under every strategy. -/
theorem step_withStrategy (device : Device World) (control : Control World) (session : Session n)
    (world : World) :
    (program.withStrategy strategy).step device control session world =
      program.step device control session world := by
  by_cases inside : session.position < program.script.size
  · have insideToo : session.position < (program.withStrategy strategy).script.size := inside
    cases free : control.stop? session.steps world with
    | some error => rw [step_of_stop inside free, step_of_stop insideToo free]
    | none =>
      rw [step_of_inside inside free, step_of_inside insideToo free]
      exact program.dispatch_withStrategy strategy device world (Array.getElem?_eq_getElem inside)
  · have outside := Nat.not_lt.mp inside
    have outsideToo : (program.withStrategy strategy).script.size ≤ session.position := outside
    rw [step_of_outside outside, step_of_outside outsideToo]

/-- One step leaves the same events under every strategy. -/
theorem events_withStrategy (control : Control World) (session : Session n) (world : World) :
    (program.withStrategy strategy).events control session world =
      program.events control session world := by
  by_cases inside : session.position < program.script.size
  · have present := Array.getElem?_eq_getElem inside
    have same := program.jumpEvent?_withStrategy strategy present
    simp only [events, withStrategy] at same ⊢
    simp only [inside, ↓reduceDIte, same]
  · simp only [events, withStrategy, inside, ↓reduceDIte]

/-- Any number of steps is the same under every strategy, events included. -/
theorem record_withStrategy (device : Device World) (control : Control World) (count : Nat)
    (recorded : Array Event) (session : Session n) (world : World) :
    (program.withStrategy strategy).record device control count recorded session world =
      program.record device control count recorded session world := by
  induction count generalizing recorded session world with
  | zero => rfl
  | succ count ih =>
    simp only [record, step_withStrategy, events_withStrategy]
    rcases program.step device control session world with ⟨_ | _ | _, after⟩
    · exact ih _ _ _
    · rfl
    · rfl

theorem run?_withStrategy [HasCell n] (device : Device World) (control : Control World)
    (count : Nat) (world : World) :
    (program.withStrategy strategy).run? device control n count world =
      program.run? device control n count world := by
  have recorded := congrArg Prod.snd
    (program.record_withStrategy strategy device control count #[] (Session.start n) world)
  rw [record_snd, record_snd] at recorded
  simp only [run?, recorded]

/-- The walk and the table run the same sessions: after every number of steps the events, the calls
and the states of the device agree, and a session that ends has the same record and report. -/
theorem scan_eq_table (program : Program) (device : Device World)
    (control : Control (World × CallLog)) (n : Nat) [HasCell n] (count : Nat) (world : World) :
    (program.withStrategy .scan).record device.logged control count #[] (Session.start n) (world, []) =
        (program.withStrategy .table).record device.logged control count #[] (Session.start n)
          (world, []) ∧
      (program.withStrategy .scan).runRecorded? device.logged control n count (world, []) =
        (program.withStrategy .table).runRecorded? device.logged control n count (world, []) ∧
      (program.withStrategy .scan).run? device.logged control n count (world, []) =
        (program.withStrategy .table).run? device.logged control n count (world, []) := by
  have recorded := (program.record_withStrategy .scan device.logged control count #[]
    (Session.start n) (world, [])).trans
      (program.record_withStrategy .table device.logged control count #[] (Session.start n)
        (world, [])).symm
  refine ⟨recorded, ?_, ?_⟩
  · simp only [runRecorded?, recorded]
  · have advanced := congrArg Prod.snd recorded
    rw [record_snd, record_snd] at advanced
    simp only [run?, advanced]

/-- The two agree on a loop that moves an input byte, cut short in its second round. -/
theorem scan_eq_table_move :
    ∃ program, load #[',', '[', '>', '+', '<', '-', ']'] = .ok program ∧
      (program.withStrategy .scan).runRecorded? (Device.ofEnds .text .bytes).logged
          ⟨some 9, fun _ _ => false⟩ 2 10 ((['a'], #[]), []) =
        (program.withStrategy .table).runRecorded? (Device.ofEnds .text .bytes).logged
          ⟨some 9, fun _ _ => false⟩ 2 10 ((['a'], #[]), []) := by
  refine ⟨⟨_, _, _, rfl, rfl⟩, rfl, ?_⟩
  exact (scan_eq_table _ (.ofEnds .text .bytes) _ 2 10 _).2.1

end Program

end TapeMachine
