import Mathlib.Algebra.Group.Nat.Defs
import TapeMachine.Device.Text
import TapeMachine.Proofs.Advance
import TapeMachine.Proofs.Partners
import TapeMachine.Proofs.Record

/-! # Sessions stay within their bounds

The position of a session never leaves its script, its cursor never leaves the tape, and each jump
finds a partner inside the script. If the length of the script and the size of the tape are numbers
of a machine word, so is every number that a dispatch computes from them: no sum or difference
overflows. Hence no session ends with an internal fault.
-/

namespace TapeMachine

universe u

variable {n : Nat} {World : Type u}

/-- Every position and cursor that an event names lies inside the script and the tape. -/
def Event.InBounds (script : Script) (n : Nat) : Event → Prop
  | dispatch _ position cursor _ character => script[position]? = some character ∧ cursor < n
  | jump position target => position < script.size ∧ target < script.size
  | validated .. | halted .. | aborted .. => True

/-- A session is inside its script and its tape, and the next dispatch keeps to words of `width`
bits in all that it computes. -/
structure Program.InBounds (program : Program) (width : Nat) (session : Session n) : Prop where
  position_le : session.position ≤ program.script.size
  cursor_lt : session.tape.cursor.val < n
  size_cells : session.tape.cells.toArray.size = n
  /-- The position behind the character at hand. -/
  next : session.position < program.script.size →
    (BitVec.ofNat width session.position).uaddOverflow 1 = false
  /-- The partner of a bracket that jumps, and the position behind it. -/
  target : ∀ {character : Char}, program.script[session.position]? = some character →
    Instruction.charJumpsOn character session.tape.read →
      ∃ target, program.partner session.position = .ok target ∧ target < program.script.size ∧
        (BitVec.ofNat width target).uaddOverflow 1 = false
  /-- The last cell, where a move to the left from the first one goes. -/
  last : (BitVec.ofNat width n).usubOverflow 1 = false ∧
    (session.tape.cursor.val = 0 → session.tape.moveLeft.cursor.val = n - 1)
  /-- The cell to the right, when the cursor is not on the last one. -/
  right : session.tape.cursor.val ≠ n - 1 →
    (BitVec.ofNat width session.tape.cursor.val).uaddOverflow 1 = false ∧
      session.tape.moveRight.cursor.val = session.tape.cursor.val + 1
  /-- The cell to the left, when the cursor is not on the first one. -/
  left : session.tape.cursor.val ≠ 0 →
    (BitVec.ofNat width session.tape.cursor.val).usubOverflow 1 = false ∧
      session.tape.moveLeft.cursor.val = session.tape.cursor.val - 1

private theorem uaddOverflow_one {width value bound : Nat} (below : value < bound)
    (fits : bound < 2 ^ width) : (BitVec.ofNat width value).uaddOverflow 1 = false := by
  have one : (1 : BitVec width).toNat ≤ 1 := Nat.mod_le ..
  have same : (BitVec.ofNat width value).toNat = value := by
    rw [BitVec.toNat_ofNat, Nat.mod_eq_of_lt (by omega)]
  simp only [BitVec.uaddOverflow, same, decide_eq_false_iff_not]
  omega

private theorem usubOverflow_one {width value : Nat} (positive : 0 < value)
    (fits : value < 2 ^ width) : (BitVec.ofNat width value).usubOverflow 1 = false := by
  have one : (1 : BitVec width).toNat ≤ 1 := Nat.mod_le ..
  have same : (BitVec.ofNat width value).toNat = value := by
    rw [BitVec.toNat_ofNat, Nat.mod_eq_of_lt fits]
  simp only [BitVec.usubOverflow, same, decide_eq_false_iff_not]
  omega

/-- Only a dispatch that found no partner ends in an internal fault; a flush never does. -/
theorem Status.aborted_of_internal {status : Status n} {device : Device World} {after : World}
    {report : Report n World} {fault : LoopFault} (closed : status.close? device after = some report)
    (failed : report.result = .error (.internal fault)) :
    ∃ last, status = .aborted last (.internal fault) := by
  have result := (close?_eq_some_iff.mp closed).1
  rw [failed] at result
  cases status with
  | running next => cases result
  | completed last =>
    obtain ⟨failure, -, other⟩ := error_of_completed result
    cases other
  | aborted last error =>
    cases result
    exact ⟨last, rfl⟩

namespace Program

variable (program : Program)

/-- A session that is inside its script is within all bounds. -/
theorem inBounds_of_position_le {width : Nat} {session : Session n}
    (inside : session.position ≤ program.script.size) (scriptFits : program.script.size < 2 ^ width)
    (tapeFits : n < 2 ^ width) : program.InBounds width session where
  position_le := inside
  cursor_lt := session.tape.cursor.isLt
  size_cells := session.tape.cells.size_toArray
  next before := uaddOverflow_one before scriptFits
  target present jumps := by
    obtain ⟨target, found, before⟩ :=
      program.exists_partner present (Instruction.bracket_of_charJumpsOn jumps)
    exact ⟨target, found, before, uaddOverflow_one before scriptFits⟩
  last := by
    have positive := Nat.zero_lt_of_lt session.tape.cursor.isLt
    refine ⟨usubOverflow_one positive tapeFits, fun first => ?_⟩
    simp only [Tape.moveLeft, Tape.leftOf, first, ↓reduceIte]
  right notLast := by
    have bound := session.tape.cursor.isLt
    have before : session.tape.cursor.val + 1 < n := by omega
    refine ⟨uaddOverflow_one bound tapeFits, ?_⟩
    simp only [Tape.moveRight, Tape.rightOf, before, ↓reduceDIte]
  left notFirst := by
    have bound := session.tape.cursor.isLt
    refine ⟨usubOverflow_one (Nat.pos_of_ne_zero notFirst) (by omega), ?_⟩
    simp only [Tape.moveLeft, Tape.leftOf, notFirst, ↓reduceIte]

/-- A session is inside its script and did not fail for want of a partner. -/
def Sound (status : Status n) : Prop :=
  status.session.position ≤ program.script.size ∧
    ∀ session fault, status ≠ .aborted session (.internal fault)

theorem sound_received {session : Session n} (inside : session.position < program.script.size)
    (answer : Except IoFailure (Option UInt8)) : program.Sound (session.received answer) := by
  rcases answer with failure | _ | byte
  · exact ⟨Nat.le_of_lt inside, by simp [Session.received]⟩
  · exact ⟨Nat.le_of_lt inside, by simp [Session.received]⟩
  · exact ⟨inside, by simp [Session.received]⟩

theorem sound_delivered {session : Session n} (inside : session.position < program.script.size)
    (answer : Except IoFailure Unit) : program.Sound (session.delivered answer) := by
  rcases answer with failure | _
  · exact ⟨Nat.le_of_lt inside, by simp [Session.delivered]⟩
  · exact ⟨inside, by simp [Session.delivered]⟩

/-- A step from inside the script stays inside and finds the partners it needs. -/
theorem sound_step (device : Device World) (control : Control World) {session : Session n}
    (world : World) (inside : session.position ≤ program.script.size) :
    program.Sound (program.step device control session world).1 := by
  apply step_induction (motive := fun status _ => program.Sound status)
  · exact fun _ => ⟨inside, by simp⟩
  · intro error _ stop
    refine ⟨inside, fun stopped fault same => ?_⟩
    obtain ⟨-, rfl⟩ := Status.aborted.inj same
    simp [Control.stop?_eq_some_iff] at stop
  · intro before _ status after dispatched
    have present := Array.getElem?_eq_getElem before
    cases dispatched with
    | proceed => exact ⟨before, by simp⟩
    | jump jumps found =>
      obtain ⟨target, partner, targetInside⟩ :=
        program.exists_partner present (Instruction.bracket_of_charJumpsOn jumps)
      obtain rfl := Except.ok.inj (found.symm.trans partner)
      exact ⟨targetInside, by simp⟩
    | lost jumps missing =>
      have bracket := Instruction.bracket_of_charJumpsOn jumps
      exact absurd missing (program.partner_ne_error present bracket _)
    | read => exact program.sound_received before _
    | write => exact program.sound_delivered before _

/-- A session is sound after any number of steps. -/
theorem sound_advance (device : Device World) (control : Control World) (count : Nat)
    {session : Session n} (world : World) (inside : session.position ≤ program.script.size) :
    program.Sound (program.advance device control count session world).1 := by
  apply advance_induction (motive := fun status _ => program.Sound status)
  · exact fun session world sound => program.sound_step device control world sound.1
  · exact ⟨inside, by simp⟩

theorem position_le_of_running [HasCell n] {program : Program} {device : Device World}
    {control : Control World} {count : Nat} {world after : World} {next : Session n}
    (reached : program.advance device control count (Session.start n) world =
      (.running next, after)) : next.position ≤ program.script.size := by
  have sound := program.sound_advance device control count world
    (show (Session.start n).position ≤ program.script.size from Nat.zero_le _)
  rw [reached] at sound
  exact sound.1

/-- No session ends with an internal fault. -/
theorem result_ne_internal [HasCell n] {program : Program} {device : Device World}
    {control : Control World} {count : Nat} {world : World} {report : Report n World}
    (ran : program.run? device control n count world = some report) (fault : LoopFault) :
    report.result ≠ .error (.internal fault) := by
  intro failed
  obtain ⟨after, ended, closed⟩ := advance_of_run? ran
  have sound := program.sound_advance device control count world
    (show (Session.start n).position ≤ program.script.size from Nat.zero_le _)
  rw [ended] at sound
  obtain ⟨last, same⟩ := Status.aborted_of_internal closed failed
  exact sound.2 last fault same

theorem inBounds_of_mem_events (control : Control World) {session : Session n} {world : World}
    {event : Event} (left : event ∈ program.events control session world) :
    event.InBounds program.script n := by
  unfold events at left
  split at left
  · rename_i before
    cases free : control.stop? session.steps world with
    | some error => simp [free] at left
    | none =>
      simp only [free, List.mem_cons, Option.mem_toList] at left
      rcases left with rfl | jumped
      · exact ⟨Array.getElem?_eq_getElem before, session.tape.cursor.isLt⟩
      · unfold jumpEvent? at jumped
        split at jumped
        · rename_i jumps
          obtain ⟨target, found, inside⟩ := program.exists_partner
            (Array.getElem?_eq_getElem before) (Instruction.bracket_of_charJumpsOn jumps)
          simp only [found, Option.some.injEq] at jumped
          subst jumped
          exact ⟨before, inside⟩
        · simp at jumped
  · simp at left

/-- After any number of steps a session is within all bounds, all events so far were, and if it has
ended then not with an internal fault. -/
theorem session_inBounds (device : Device World) (control : Control World) (n : Nat) [HasCell n]
    (width count : Nat) (world : World) (scriptFits : program.script.size < 2 ^ width)
    (tapeFits : n < 2 ^ width) :
    program.InBounds width (program.advance device control count (Session.start n) world).1.session ∧
      (∀ event ∈ (program.record device control count #[] (Session.start n) world).1,
        event.InBounds program.script n) ∧
      ∀ report, program.run? device control n count world = some report →
        ∀ fault, report.result ≠ .error (.internal fault) := by
  have sound := program.sound_advance device control count world
    (show (Session.start n).position ≤ program.script.size from Nat.zero_le _)
  refine ⟨program.inBounds_of_position_le sound.1 scriptFits tapeFits, ?_, ?_⟩
  · exact forall_mem_record
      (fun _ _ _ left => program.inBounds_of_mem_events control left) count (by simp) _ _
  · intro report ran fault failed
    obtain ⟨after, ended, closed⟩ := advance_of_run? ran
    rw [ended] at sound
    obtain ⟨last, same⟩ := Status.aborted_of_internal closed failed
    exact sound.2 last fault same

/-- The bounds hold where a session has jumped over a loop in a loop and waits for input. -/
theorem session_inBounds_nested :
    ∃ program, load #['[', '+', '[', '>', ']', ']', ','] = .ok program ∧
      program.script.size < 2 ^ 64 ∧ 3 < 2 ^ 64 ∧
        (program.InBounds 64 (program.advance (.ofEnds .text .bytes) .none 1 (Session.start 3)
            ([], #[])).1.session ∧
          (∀ event ∈ (program.record (.ofEnds .text .bytes) .none 1 #[] (Session.start 3)
              ([], #[])).1, event.InBounds program.script 3) ∧
          ∀ report, program.run? (.ofEnds .text .bytes) .none 3 1 ([], #[]) = some report →
            ∀ fault, report.result ≠ .error (.internal fault)) := by
  refine ⟨⟨_, _, _, rfl, rfl⟩, rfl, ?_, ?_, ?_⟩
  · decide
  · decide
  · exact session_inBounds _ _ _ 3 64 1 _ (by decide) (by decide)

end Program

end TapeMachine
