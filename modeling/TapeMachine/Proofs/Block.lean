import Mathlib.Data.List.Basic
import TapeMachine.Proofs.Balance

/-! # Scripts as trees of loops

The brackets of an accepted script make it a tree: a sequence of items, which are single characters,
and of loops with a body of the same kind. A block is such a sequence. Every accepted script is the
text of exactly one block, and `Script.block?` finds it.
-/

namespace TapeMachine

/-- A character that is no bracket, so an instruction that does not jump, or a comment. -/
structure Item where
  character : Char
  notOpening : character ≠ '['
  notClosing : character ≠ ']'
deriving DecidableEq, Repr

/-- A sequence of items and loops. -/
inductive Block where
  | done
  | item (head : Item) (rest : Block)
  | loop (body rest : Block)
deriving DecidableEq, Repr

namespace Block

def text : Block → List Char
  | done => []
  | item head rest => head.character :: rest.text
  | loop body rest => '[' :: (body.text ++ ']' :: rest.text)

/-- Read characters as the block in front of the first closing bracket that closes nothing among
them, and the blocks behind each bracket of that kind. -/
def read? : List Char → Option (Block × List Block)
  | [] => some (done, [])
  | character :: rest =>
    match read? rest with
    | none => none
    | some (block, outer) =>
      if isOpening : character = '[' then
        match outer with
        | [] => none
        | next :: outer => some (loop block next, outer)
      else if isClosing : character = ']' then some (done, block :: outer)
      else some (item ⟨character, isOpening, isClosing⟩ block, outer)

theorem depthAfter?_text (depth : Nat) (block : Block) :
    Script.depthAfter? depth block.text = some depth := by
  induction block generalizing depth with
  | done => rfl
  | item head rest ih =>
    rw [text, Script.depthAfter?_plain _ _ head.notOpening head.notClosing, ih]
  | loop body rest ihBody ihRest =>
    rw [text, Script.depthAfter?_opening, Script.depthAfter?_append, ihBody, Option.bind_some,
      Script.depthAfter?_succ_closing, ihRest]

/-- Every block in front of a place where a block ends is read back. -/
theorem read?_text_append (block : Block) {rest : List Char} {outer : List Block}
    (ended : read? rest = some (done, outer)) : read? (block.text ++ rest) = some (block, outer) := by
  induction block generalizing rest outer with
  | done => exact ended
  | item head next ih =>
    simp only [text, List.cons_append, read?, ih ended, head.notOpening, head.notClosing,
      ↓reduceDIte]
  | loop body next ihBody ihNext =>
    have closed : read? (']' :: (next.text ++ rest)) = some (done, next :: outer) := by
      simp only [read?, ihNext ended, Char.reduceEq, ↓reduceDIte]
    simp only [text, List.cons_append, List.append_assoc, read?, ihBody closed, ↓reduceDIte]

/-- The blocks that were read have the characters that were read. -/
theorem text_of_read? {characters : List Char} {block : Block} {outer : List Block}
    (success : read? characters = some (block, outer)) :
    characters = block.text ++ outer.flatMap fun next => ']' :: next.text := by
  induction characters generalizing block outer with
  | nil =>
    cases success
    rfl
  | cons character rest ih =>
    simp only [read?] at success
    cases ahead : read? rest with
    | none => simp [ahead] at success
    | some found =>
      obtain ⟨first, others⟩ := found
      simp only [ahead] at success
      split_ifs at success with isOpening isClosing
      · subst isOpening
        cases others with
        | nil => cases success
        | cons next others =>
          cases success
          simp [text, ih ahead]
      · subst isClosing
        cases success
        simp [text, ih ahead]
      · cases success
        simp [text, ih ahead]

/-- Characters that close all loops open before them can be read, with a block behind each. -/
theorem exists_read?_of_depthAfter? {characters : List Char} {depth : Nat}
    (counted : Script.depthAfter? depth characters = some 0) :
    ∃ block outer, read? characters = some (block, outer) ∧ outer.length = depth := by
  induction characters generalizing depth with
  | nil =>
    obtain rfl : depth = 0 := by simpa using counted
    exact ⟨done, [], rfl, rfl⟩
  | cons character rest ih =>
    by_cases isOpening : character = '['
    · subst isOpening
      obtain ⟨block, outer, success, length⟩ := ih counted
      cases outer with
      | nil => cases length
      | cons next outer =>
        exact ⟨loop block next, outer, by simp only [read?, success, ↓reduceDIte],
          Nat.succ.inj length⟩
    by_cases isClosing : character = ']'
    · subst isClosing
      cases depth with
      | zero => cases counted
      | succ depth =>
        obtain ⟨block, outer, success, length⟩ := ih counted
        refine ⟨done, block :: outer, ?_, congrArg Nat.succ length⟩
        simp only [read?, success, Char.reduceEq, ↓reduceDIte]
    · rw [Script.depthAfter?_plain _ _ isOpening isClosing] at counted
      obtain ⟨block, outer, success, length⟩ := ih counted
      refine ⟨item ⟨character, isOpening, isClosing⟩ block, outer, ?_, length⟩
      simp only [read?, success, isOpening, isClosing, ↓reduceDIte]

end Block

namespace Script

/-- The block that a script is the text of, if it is one. -/
def block? (script : Script) : Option Block :=
  match Block.read? script.toList with
  | some (block, []) => some block
  | _ => none

/-- A script is read as a block exactly when it is the text of that block. -/
theorem block?_eq_some_iff {script : Script} {block : Block} :
    script.block? = some block ↔ script.toList = block.text := by
  unfold block?
  constructor
  · intro success
    split at success
    · rename_i found read
      cases success
      simpa using Block.text_of_read? read
    · cases success
  · intro same
    have read : Block.read? (block.text ++ []) = some (block, []) := block.read?_text_append rfl
    rw [same, ← List.append_nil block.text, read]

example : block? #['[', 'a', '[', ']', ']', '.'] = some (.loop
    (.item ⟨'a', by decide, by decide⟩ (.loop .done .done)) (.item ⟨'.', by decide, by decide⟩ .done)) := by
  decide

/-- The accepted scripts are the texts of blocks. -/
theorem check_eq_ok_iff_exists_block? (script : Script) :
    script.check = .ok () ↔ ∃ block, script.block? = some block := by
  rw [check_eq_ok_iff]
  constructor
  · intro counted
    obtain ⟨block, outer, success, length⟩ := Block.exists_read?_of_depthAfter? counted
    obtain rfl := List.length_eq_zero_iff.mp length
    exact ⟨block, by simp only [block?, success]⟩
  · rintro ⟨block, success⟩
    rw [block?_eq_some_iff.mp success]
    exact block.depthAfter?_text 0

end Script

end TapeMachine
