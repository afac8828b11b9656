/-! # The tape

A tape of `n` cells is a ring: moving right from the last cell lands on the first, moving left from
the first lands on the last. A cell holds a byte, and counting up or down wraps modulo 256. The
cursor is part of the type as a position below `n`, so no operation can leave the ring, and a tape
that exists has at least one cell.
-/

namespace TapeMachine

/-- A ring of `n` byte cells with a cursor on one of them. -/
structure Tape (n : Nat) where
  cells : Vector UInt8 n
  cursor : Fin n
deriving DecidableEq, Repr

/-- A tape of `n` cells exists. The zero is written out, so that it is the same one in every scope. -/
abbrev HasCell (n : Nat) : Prop := @NeZero Nat Zero.ofOfNat0 n

namespace Tape

variable {n : Nat}

/-- The tape with every cell zero and the cursor on the first. -/
def blank (n : Nat) [HasCell n] : Tape n where
  cells := Vector.replicate n 0
  cursor := 0

/-- The cell under the cursor. -/
@[inline] def read (tape : Tape n) : UInt8 := tape.cells[tape.cursor]

@[inline] def write (tape : Tape n) (byte : UInt8) : Tape n :=
  { tape with cells := tape.cells.set tape.cursor byte }

@[inline] def increment (tape : Tape n) : Tape n := tape.write (tape.read + 1)

@[inline] def decrement (tape : Tape n) : Tape n := tape.write (tape.read - 1)

@[inline] def rightOf (position : Fin n) : Fin n :=
  if inside : position.val + 1 < n then ⟨position.val + 1, inside⟩
  else ⟨0, Nat.zero_lt_of_lt position.isLt⟩

@[inline] def leftOf (position : Fin n) : Fin n :=
  if position.val = 0 then ⟨n - 1, Nat.sub_one_lt_of_lt position.isLt⟩
  else ⟨position.val - 1, Nat.lt_of_le_of_lt (Nat.sub_le ..) position.isLt⟩

@[inline] def moveRight (tape : Tape n) : Tape n := { tape with cursor := rightOf tape.cursor }

@[inline] def moveLeft (tape : Tape n) : Tape n := { tape with cursor := leftOf tape.cursor }

@[simp] theorem leftOf_rightOf (position : Fin n) : leftOf (rightOf position) = position := by
  apply Fin.ext
  unfold leftOf rightOf
  by_cases inside : position.val + 1 < n
  · simp [inside]
  · have last : n - 1 = position.val := by omega
    simp [inside, last]

@[simp] theorem rightOf_leftOf (position : Fin n) : rightOf (leftOf position) = position := by
  apply Fin.ext
  have bound := position.isLt
  unfold leftOf rightOf
  by_cases first : position.val = 0
  · simp [first, show ¬n - 1 + 1 < n by omega]
  · simp [first, show position.val - 1 + 1 = position.val by omega]

@[simp] theorem read_write (tape : Tape n) (byte : UInt8) : (tape.write byte).read = byte := by
  simp [read, write]

@[simp] theorem cursor_write (tape : Tape n) (byte : UInt8) :
    (tape.write byte).cursor = tape.cursor := rfl

/-- Writing touches no cell but the one under the cursor. -/
theorem getElem_cells_write (tape : Tape n) (byte : UInt8) (position : Fin n) :
    (tape.write byte).cells[position] =
      if tape.cursor = position then byte else tape.cells[position] := by
  simp [write, Vector.getElem_set, Fin.ext_iff]

@[simp] theorem write_write (tape : Tape n) (first second : UInt8) :
    (tape.write first).write second = tape.write second := by
  simp [write]

@[simp] theorem write_read (tape : Tape n) : tape.write tape.read = tape := by
  simp [write, read]

/-- A step in one direction is undone by a step in the other. -/
@[simp] theorem moveLeft_moveRight (tape : Tape n) : tape.moveRight.moveLeft = tape := by
  simp [moveLeft, moveRight]

@[simp] theorem moveRight_moveLeft (tape : Tape n) : tape.moveLeft.moveRight = tape := by
  simp [moveLeft, moveRight]

/-- Counting up and counting down undo each other. -/
@[simp] theorem decrement_increment (tape : Tape n) : tape.increment.decrement = tape := by
  simp [increment, decrement]

@[simp] theorem increment_decrement (tape : Tape n) : tape.decrement.increment = tape := by
  simp [increment, decrement]

end Tape

end TapeMachine
