/-! # Classes of characters by ranges

A property of characters is a list of inclusive ranges of code points. `Text.inRanges` tests a
character against such a list.
-/

namespace TapeMachine.Text

/-- Whether a character lies in one of the ranges, ends included. -/
def inRanges (ranges : List (Nat × Nat)) (character : Char) : Bool :=
  ranges.any fun (first, last) => first ≤ character.toNat && character.toNat ≤ last

/-- A character lies in the ranges when it lies in one of them. -/
theorem inRanges_iff {ranges : List (Nat × Nat)} {character : Char} :
    inRanges ranges character = true ↔
      ∃ range ∈ ranges, range.1 ≤ character.toNat ∧ character.toNat ≤ range.2 := by
  simp [inRanges]

end TapeMachine.Text
