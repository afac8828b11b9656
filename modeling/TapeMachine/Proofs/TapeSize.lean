import TapeMachine.Proofs.Parallel

/-! # The size of the tape

A session notices how long its tape is only when it moves around an end of it. One that never does
makes the same dispatches and the same calls on every longer tape, and comes to the same end. It is
enough to look at the dispatches of the session on the shorter tape; nothing is asked of the other
one. The cells that only the longer tape has stay zero.
-/

namespace TapeMachine

universe u

variable {n m : Nat}

/-- The other tape has the same cursor, the same cells in front, and zeros behind them. -/
structure Tape.ExtendedBy (tape : Tape n) (other : Tape m) : Prop where
  cursor : other.cursor.val = tape.cursor.val
  front : ∀ index (inside : index < n) (insideToo : index < m),
    other.cells[index] = tape.cells[index]
  behind : ∀ index (inside : index < m), n ≤ index → other.cells[index] = 0

/-- The dispatch of a character moves the cursor around an end of a tape with `n` cells. -/
def Tape.MovesAround (n : Nat) (character : Char) (cursor : Nat) : Prop :=
  (character = '>' ∧ cursor + 1 = n) ∨ (character = '<' ∧ cursor = 0)

/-- The event announces a move around an end of a tape with `n` cells. -/
def Event.Wraps (n : Nat) : Event → Prop
  | dispatch _ _ cursor _ character => Tape.MovesAround n character cursor
  | _ => False

instance (n : Nat) (character : Char) (cursor : Nat) :
    Decidable (Tape.MovesAround n character cursor) := inferInstanceAs (Decidable (_ ∨ _))

instance (n : Nat) : DecidablePred (Event.Wraps n)
  | .dispatch _ _ cursor _ character =>
    inferInstanceAs (Decidable (Tape.MovesAround n character cursor))
  | .validated .. | .jump .. | .halted .. | .aborted .. => isFalse id

namespace Tape.ExtendedBy

variable {tape : Tape n} {other : Tape m} (extended : tape.ExtendedBy other)

include extended

theorem read_eq : other.read = tape.read := by
  have inside := tape.cursor.isLt
  have insideToo := other.cursor.isLt
  have same := extended.front tape.cursor.val inside (extended.cursor ▸ insideToo)
  simp only [read, Fin.getElem_fin, extended.cursor, same]

theorem write (byte : UInt8) : (tape.write byte).ExtendedBy (other.write byte) where
  cursor := extended.cursor
  front index inside insideToo := by
    simp only [Tape.write, Vector.getElem_set, extended.cursor, extended.front index inside insideToo]
  behind index inside beyond := by
    have below := tape.cursor.isLt
    simp only [Tape.write, Vector.getElem_set, extended.cursor,
      extended.behind index inside beyond, ite_eq_right_iff]
    omega

/-- Away from its right end a tape moves to the right like a longer one. -/
theorem moveRight (le : n ≤ m) (inner : tape.cursor.val + 1 ≠ n) :
    tape.moveRight.ExtendedBy other.moveRight where
  cursor := by
    have below := tape.cursor.isLt
    have belowToo := other.cursor.isLt
    have same := extended.cursor
    have inside : tape.cursor.val + 1 < n := by omega
    have insideToo : tape.cursor.val + 1 < m := by omega
    simp only [Tape.moveRight, rightOf, same, inside, insideToo, ↓reduceDIte]
  front := extended.front
  behind := extended.behind

/-- Away from its left end a tape moves to the left like a longer one. -/
theorem moveLeft (inner : tape.cursor.val ≠ 0) : tape.moveLeft.ExtendedBy other.moveLeft where
  cursor := by
    simp only [Tape.moveLeft, leftOf, extended.cursor, inner, ↓reduceIte]
  front := extended.front
  behind := extended.behind

/-- A dispatch that does not move around an end does the same on a longer tape. -/
theorem effect (le : n ≤ m) {character : Char}
    (inner : ¬Tape.MovesAround n character tape.cursor) :
    (Tape.effect character tape).ExtendedBy (Tape.effect character other) := by
  have counted (change : UInt8 → UInt8) :
      (tape.write (change tape.read)).ExtendedBy (other.write (change other.read)) := by
    rw [extended.read_eq]
    exact extended.write _
  obtain ⟨notRight, notLeft⟩ := not_or.mp inner
  unfold Tape.effect
  cases read : Instruction.ofChar? character with
  | none => exact extended
  | some instruction =>
    obtain rfl := Instruction.ofChar?_eq_some_iff.mp read
    cases instruction with
    | increment => exact counted (· + 1)
    | decrement => exact counted (· - 1)
    | moveRight => exact extended.moveRight le fun last => notRight ⟨rfl, last⟩
    | moveLeft => exact extended.moveLeft fun first => notLeft ⟨rfl, first⟩
    | loopOpen | loopClose | output | input => exact extended

end Tape.ExtendedBy

theorem Tape.extendedBy_blank [HasCell n] [HasCell m] : (blank n).ExtendedBy (blank m) where
  cursor := rfl
  front := by simp [blank]
  behind := by simp [blank]

/-- A tape is read as a longer one, as far as nothing moves around its ends. -/
def Correspondence.longer (le : n ≤ m) : Correspondence n m where
  character := id
  byte := id
  cursor := id
  Like := Tape.ExtendedBy
  Covers character tape := ¬Tape.MovesAround n character tape.cursor
  character_eq_iff := character_id_iff
  byte_eq_zero_iff := byte_id_iff
  cursor_eq extended := extended.cursor
  read_eq extended := extended.read_eq
  write extended byte := extended.write byte
  effect extended inner := extended.effect le inner
  blank := Tape.extendedBy_blank

namespace Program

variable {World : Type u} {program : Program} {device : Device World}
  {control : Control World}

/-- A session that announces no move around an end makes none. -/
theorem coversRun_longer (le : n ≤ m) {count : Nat} {session : Session n} {world : World}
    (inner : ∀ event ∈ (program.record device control count #[] session world).1,
      ¬event.Wraps n) :
    (Correspondence.longer le).CoversRun program device control count session world :=
  fun _ lt _ _ reached _ present free => inner _ (dispatch_mem_record lt reached present free)

/-- The size of the tape does not matter to a session that never moves around an end of it. In any
number of steps without such a move it leaves the same events on every longer tape, makes the same
calls, goes as far, and ends in the same way or not at all either. At each boundary the longer tape
has the same cursor, the same cells in front and zeros behind them, and so it has behind a halt. -/
theorem tape_size_invisible (program : Program) (device : Device World)
    (control : Control (World × CallLog)) [HasCell n] [HasCell m] (le : n ≤ m)
    (world : World × CallLog) (count : Nat)
    (inner : ∀ event ∈
      (program.record device.logged control count #[] (Session.start n) world).1, ¬event.Wraps n) :
    RunsAlike id (Tape.ExtendedBy (n := n) (m := m)) Eq count
      program device.logged control world program device.logged control world := by
  have covers := coversRun_longer le inner
  have parallel : (Correspondence.longer le).Parallel Eq program device.logged control program
      device.logged control :=
    { script := (Array.map_id _).symm
      answers := .refl device.logged
      stop := by rintro world _ rfl steps; rfl }
  rw [← Event.map_id]
  exact parallel.runsAlike rfl covers

/-- A loop that carries a byte to the second of two cells does so on five. -/
theorem tape_size_invisible_loop :
    ∃ program, load #[',', '[', '-', '>', '+', '<', ']', '>', '.'] = .ok program ∧ 2 ≤ 5 ∧
      (∀ event ∈ (program.record (.ofText .bytes) .none 15 #[] (Session.start 2)
        (([Char.ofNat 2], #[]), [])).1, ¬event.Wraps 2) ∧
      (program.run? (.ofText .bytes) .none 2 15 (([Char.ofNat 2], #[]), [])).map (·.result) =
        some (.ok ⟨⟨#v[0, 2], 1⟩, 14⟩) ∧
      Option.Rel (Report.Alike Tape.ExtendedBy Eq)
        (program.run? (.ofText .bytes) .none 2 15 (([Char.ofNat 2], #[]), []))
        (program.run? (.ofText .bytes) .none 5 15 (([Char.ofNat 2], #[]), [])) := by
  refine ⟨⟨_, _, _, rfl, rfl⟩, rfl, by decide, ?_, rfl, ?_⟩
  · decide
  · exact (tape_size_invisible _ (.ofEnds .text .bytes) .none (by decide) _ 15 (by decide)).report

end Program

end TapeMachine
