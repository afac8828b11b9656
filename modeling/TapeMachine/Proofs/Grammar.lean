import TapeMachine.Proofs.Block

/-! # The grammar of accepted scripts

Bracket words are built from characters that are no brackets, by writing words one behind the other
and by putting a word in brackets. The check accepts exactly these: a bracket word leaves the depth
as it was, and the text of a block, which every accepted script is, can be built in this way.
-/

namespace TapeMachine

/-- The words of the bracket grammar. -/
inductive BracketWord : List Char → Prop
  | nil : BracketWord []
  | plain {character : Char} (notOpening : character ≠ '[') (notClosing : character ≠ ']') :
      BracketWord [character]
  | append {front behind : List Char} (first : BracketWord front) (second : BracketWord behind) :
      BracketWord (front ++ behind)
  | enclose {body : List Char} (inside : BracketWord body) : BracketWord ('[' :: (body ++ [']']))

/-- A bracket word can stand at any depth, and leaves it as it was. -/
theorem BracketWord.depthAfter? {characters : List Char} (word : BracketWord characters)
    (depth : Nat) : Script.depthAfter? depth characters = some depth := by
  induction word generalizing depth with
  | nil => rfl
  | plain notOpening notClosing => exact Script.depthAfter?_plain depth [] notOpening notClosing
  | append first second ihFirst ihSecond =>
    rw [Script.depthAfter?_append, ihFirst, Option.bind_some, ihSecond]
  | enclose inside ih =>
    rw [Script.depthAfter?_opening, Script.depthAfter?_append, ih, Option.bind_some,
      Script.depthAfter?_succ_closing, Script.depthAfter?_nil]

/-- The text of a block is built from its items and loops. -/
theorem Block.bracketWord_text (block : Block) : BracketWord block.text := by
  induction block with
  | done => exact .nil
  | item head rest ih =>
    have first : BracketWord [head.character] := .plain head.notOpening head.notClosing
    exact first.append ih
  | loop body rest ihBody ihRest =>
    have whole := ihBody.enclose.append ihRest
    rw [List.cons_append, List.append_assoc, List.singleton_append] at whole
    exact whole

/-- The check accepts the words of the bracket grammar and no other scripts. -/
theorem Script.check_eq_ok_iff_bracketWord (script : Script) :
    script.check = .ok () ↔ BracketWord script.toList := by
  constructor
  · intro accepted
    obtain ⟨block, read⟩ := script.check_eq_ok_iff_exists_block?.mp accepted
    rw [block?_eq_some_iff.mp read]
    exact block.bracketWord_text
  · intro word
    rw [check_eq_ok_iff]
    exact word.depthAfter? 0

end TapeMachine
