import Mathlib.Data.List.Basic
import TapeMachine.Proofs.Advance
import TapeMachine.Proofs.Loops

/-! # Words without effect

A quiet character neither bounds a loop nor calls the device, so a session goes through a word of
quiet characters from its front to its back and changes its tape only. A comment leaves the tape
alone, and so do two instructions that undo each other. Wherever such a word is put into a text, the
depth of the text stays what it was.
-/

namespace TapeMachine

universe u

variable {n : Nat} {World : Type u}

namespace Instruction

/-- A character that is no bracket and makes no call to the device. -/
def IsQuiet (character : Char) : Prop :=
  ∀ instruction, ofChar? character = some instruction →
    instruction.isBound = false ∧ instruction ≠ .output ∧ instruction ≠ .input

theorem IsQuiet.ne_bracket {character : Char} (quiet : IsQuiet character) :
    character ≠ '[' ∧ character ≠ ']' := by
  constructor
  · rintro rfl
    exact absurd (quiet .loopOpen rfl).1 (by decide)
  · rintro rfl
    exact absurd (quiet .loopClose rfl).1 (by decide)

end Instruction

/-- The words that do nothing: a comment of one character, and two instructions that undo each
other. -/
inductive NoOp : List Char → Prop
  | comment {character : Char} (isComment : Instruction.ofChar? character = none) :
      NoOp [character]
  | upDown : NoOp ['+', '-']
  | downUp : NoOp ['-', '+']
  | rightLeft : NoOp ['>', '<']
  | leftRight : NoOp ['<', '>']

namespace NoOp

variable {word : List Char}

theorem isQuiet (noOp : NoOp word) : ∀ character ∈ word, Instruction.IsQuiet character := by
  cases noOp with
  | comment isComment => simp [Instruction.IsQuiet, isComment]
  | upDown | downUp | rightLeft | leftRight =>
    simp [Instruction.IsQuiet, Instruction.ofChar?, Instruction.isBound]

/-- Behind the word every tape is as it was before. -/
theorem foldl_effect (noOp : NoOp word) (tape : Tape n) :
    word.foldl (fun tape character => Tape.effect character tape) tape = tape := by
  cases noOp with
  | comment isComment => simp [Tape.effect, isComment]
  | upDown => exact tape.decrement_increment
  | downUp => exact tape.increment_decrement
  | rightLeft => exact tape.moveLeft_moveRight
  | leftRight => exact tape.moveRight_moveLeft

end NoOp

namespace Program

variable {program : Program} {device : Device World}

/-- A session goes through a word of quiet characters in as many steps, without a call. -/
theorem advance_quiet {word : List Char} {position : Nat}
    (quiet : ∀ character ∈ word, Instruction.IsQuiet character)
    (present : ∀ index < word.length, program.script[position + index]? = word[index]?)
    (tape : Tape n) (steps : Nat) (world : World) :
    program.advance device .none word.length ⟨tape, position, steps⟩ world =
      (.running ⟨word.foldl (fun tape character => Tape.effect character tape) tape,
        position + word.length, steps + word.length⟩, world) := by
  induction word generalizing position tape steps with
  | nil => rfl
  | cons character rest ih =>
    have isQuiet := quiet character (List.mem_cons_self ..)
    have stays : ¬Instruction.charJumpsOn character tape.read := by
      intro jumps
      rcases Instruction.bracket_of_charJumpsOn jumps with isOpening | isClosing
      · exact isQuiet.ne_bracket.1 isOpening
      · exact isQuiet.ne_bracket.2 isClosing
    have acted : program.action character ⟨tape, position, steps⟩ =
        .proceed ⟨Tape.effect character tape, position + 1, steps + 1⟩ :=
      program.action_of_plain stays (fun isOutput => (isQuiet _ isOutput).2.1 rfl)
        (fun isInput => (isQuiet _ isInput).2.2 rfl)
    have stepped : program.step device .none ⟨tape, position, steps⟩ world =
        (.running ⟨Tape.effect character tape, position + 1, steps + 1⟩, world) :=
      (step_of_present (by simpa using present 0 (Nat.succ_pos _)) rfl).trans
        (dispatch_of_proceed acted)
    have behind : ∀ index < rest.length, program.script[position + 1 + index]? = rest[index]? := by
      intro index inside
      have next := present (index + 1) (Nat.succ_lt_succ inside)
      rwa [List.getElem?_cons_succ, ← Nat.add_assoc, Nat.add_right_comm] at next
    rw [List.length_cons, advance_succ_of_running stepped,
      ih (fun other member => quiet other (List.mem_cons_of_mem _ member)) behind]
    simp only [List.foldl_cons, Nat.add_right_comm _ 1, Nat.add_assoc]

/-- On its way through such a word a session leaves the world alone. -/
theorem world_of_advance_quiet {word : List Char} {position count : Nat}
    (quiet : ∀ character ∈ word, Instruction.IsQuiet character)
    (present : ∀ index < word.length, program.script[position + index]? = word[index]?)
    (tape : Tape n) (steps : Nat) (world : World) (within : count ≤ word.length) :
    (program.advance device .none count ⟨tape, position, steps⟩ world).2 = world := by
  have length : (word.take count).length = count := List.length_take_of_le within
  have front : ∀ index < (word.take count).length,
      program.script[position + index]? = (word.take count)[index]? := by
    intro index inside
    rw [length] at inside
    rw [List.getElem?_take_of_lt inside, present index (Nat.lt_of_lt_of_le inside within)]
  have passed : program.advance device .none (word.take count).length ⟨tape, position, steps⟩ world =
      _ := advance_quiet (fun character member => quiet character (List.mem_of_mem_take member)) front
    tape steps world
  rw [length] at passed
  rw [passed]

end Program

/-! ## Putting a word into a text -/

/-- The text with a word in front of the character at `index`. -/
def insertWord (index : Nat) (word characters : List Char) : List Char :=
  characters.take index ++ (word ++ characters.drop index)

/-- Where the characters of a text stand when `length` others have been put in at `index`. -/
def shifted (index length position : Nat) : Nat :=
  if position < index then position else position + length

theorem shifted_injective (index length : Nat) : Function.Injective (shifted index length) := by
  intro first second same
  unfold shifted at same
  split at same <;> split at same <;> omega

section InsertWord

variable {index : Nat} {word front behind characters : List Char}

theorem length_insertWord (index : Nat) (word characters : List Char) :
    (insertWord index word characters).length = characters.length + word.length := by
  simp only [insertWord, List.length_append, List.length_take, List.length_drop]
  omega

theorem insertWord_append_left (within : index ≤ front.length) :
    insertWord index word (front ++ behind) = insertWord index word front ++ behind := by
  simp [insertWord, List.take_append_of_le_length within, List.drop_append_of_le_length within]

theorem insertWord_append_right (beyond : front.length ≤ index) :
    insertWord index word (front ++ behind) =
      front ++ insertWord (index - front.length) word behind := by
  simp [insertWord, List.take_append, List.drop_append, List.take_of_length_le beyond,
    List.drop_of_length_le beyond]

@[simp] theorem insertWord_succ_cons (index : Nat) (word : List Char) (character : Char)
    (characters : List Char) :
    insertWord (index + 1) word (character :: characters) =
      character :: insertWord index word characters := rfl

theorem getElem?_insertWord_shifted (within : index ≤ characters.length) (position : Nat) :
    (insertWord index word characters)[shifted index word.length position]? =
      characters[position]? := by
  have length : (characters.take index).length = index := List.length_take_of_le within
  unfold insertWord shifted
  split
  · rw [List.getElem?_append_left (by omega), List.getElem?_take_of_lt ‹_›]
  · rw [List.getElem?_append_right (by omega), List.getElem?_append_right (by omega),
      List.getElem?_drop]
    congr 1
    omega

theorem getElem?_insertWord_word (within : index ≤ characters.length) {offset : Nat}
    (inside : offset < word.length) :
    (insertWord index word characters)[index + offset]? = word[offset]? := by
  have length : (characters.take index).length = index := List.length_take_of_le within
  unfold insertWord
  rw [List.getElem?_append_right (by omega), List.getElem?_append_left (by omega)]
  congr 1
  omega

end InsertWord

namespace Script

variable {index : Nat} {word characters : List Char}

theorem depthAfter?_quiet (quiet : ∀ character ∈ word, Instruction.IsQuiet character)
    (depth : Nat) : depthAfter? depth word = some depth := by
  induction word with
  | nil => rfl
  | cons character rest ih =>
    obtain ⟨notOpening, notClosing⟩ := (quiet character (List.mem_cons_self ..)).ne_bracket
    rw [depthAfter?_plain _ _ notOpening notClosing]
    exact ih fun other member => quiet other (List.mem_cons_of_mem _ member)

theorem depthAfter?_insertWord (quiet : ∀ character ∈ word, Instruction.IsQuiet character)
    (index depth : Nat) (characters : List Char) :
    depthAfter? depth (insertWord index word characters) = depthAfter? depth characters := by
  conv_rhs => rw [← List.take_append_drop index characters]
  simp only [insertWord, depthAfter?_append, depthAfter?_quiet quiet, Option.bind_some]

/-- The ends of a loop stay the ends of one loop, wherever they stand behind the insertion. -/
theorem IsLoop.insertWord {opening closing : Nat} (isLoop : IsLoop characters opening closing)
    (quiet : ∀ character ∈ word, Instruction.IsQuiet character) (index : Nat) :
    IsLoop (insertWord index word characters) (shifted index word.length opening)
      (shifted index word.length closing) := by
  obtain ⟨front, body, behind, rfl, balanced, rfl, rfl⟩ := isLoop
  rcases Nat.lt_or_ge front.length index with inside | before
  · obtain ⟨offset, rfl⟩ := Nat.exists_eq_add_of_lt inside
    rw [insertWord_append_right (by omega),
      show front.length + offset + 1 - front.length = offset + 1 by omega, insertWord_succ_cons]
    rcases Nat.lt_or_ge body.length offset with beyond | within
    · obtain ⟨outside, rfl⟩ := Nat.exists_eq_add_of_lt beyond
      rw [insertWord_append_right (by omega),
        show body.length + outside + 1 - body.length = outside + 1 by omega, insertWord_succ_cons]
      refine ⟨front, body, _, rfl, balanced, ?_, ?_⟩ <;> grind [shifted]
    · rw [insertWord_append_left within]
      refine ⟨front, _, behind, rfl, ?_, ?_, ?_⟩
      · rw [depthAfter?_insertWord quiet, balanced]
      · grind [shifted]
      · grind [shifted, length_insertWord]
  · rw [insertWord_append_left before]
    refine ⟨_, body, behind, rfl, balanced, ?_, ?_⟩ <;> grind [shifted, length_insertWord]

def insertAt (script : Script) (index : Nat) (word : List Char) : Script :=
  (insertWord index word script.toList).toArray

/-- With such a word in it a script is accepted as it was without. -/
theorem check_insertAt (script : Script)
    (quiet : ∀ character ∈ word, Instruction.IsQuiet character) (index : Nat) :
    (script.insertAt index word).check = .ok () ↔ script.check = .ok () := by
  simp only [check_eq_ok_iff, insertAt, depthAfter?_insertWord quiet]

end Script

end TapeMachine
