/-! # The eight instructions

A script is text. Eight characters of it are instructions, every other character is a comment
that keeps its place and does nothing. `Instruction.ofChar?` reads one character and
`Instruction.toChar` writes it back; the two are inverse to each other.
-/

namespace TapeMachine

inductive Instruction where
  | increment
  | decrement
  | moveRight
  | moveLeft
  | loopOpen
  | loopClose
  | output
  | input
deriving DecidableEq, Repr

namespace Instruction

/-- The instruction that a character stands for, or `none` for a comment. -/
def ofChar? : Char → Option Instruction
  | '+' => some .increment
  | '-' => some .decrement
  | '>' => some .moveRight
  | '<' => some .moveLeft
  | '[' => some .loopOpen
  | ']' => some .loopClose
  | '.' => some .output
  | ',' => some .input
  | _ => none

def toChar : Instruction → Char
  | increment => '+'
  | decrement => '-'
  | moveRight => '>'
  | moveLeft => '<'
  | loopOpen => '['
  | loopClose => ']'
  | output => '.'
  | input => ','

/-- Whether the instruction is one of the two ends of a loop. -/
def isBound : Instruction → Bool
  | loopOpen | loopClose => true
  | _ => false

/-- Whether the instruction jumps to its partner when it is dispatched on a cell of that value. -/
def jumpsOn : Instruction → UInt8 → Bool
  | loopOpen, cell => cell = 0
  | loopClose, cell => cell ≠ 0
  | _, _ => false

@[simp] theorem ofChar?_toChar (instruction : Instruction) :
    ofChar? instruction.toChar = some instruction := by
  cases instruction <;> rfl

/-- Only the character of an instruction reads as that instruction. -/
theorem ofChar?_eq_some_iff {character : Char} {instruction : Instruction} :
    ofChar? character = some instruction ↔ character = instruction.toChar := by
  constructor
  · intro read
    unfold ofChar? at read
    split at read <;> cases read <;> rfl
  · rintro rfl
    exact ofChar?_toChar instruction

end Instruction

end TapeMachine
