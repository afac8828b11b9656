import Mathlib.Tactic.ByContra
import TapeMachine.Proofs.Loops

/-! # Loops nest

The loops of a script do not cross, whether or not the script is balanced: of two different loops
one lies behind the other, or strictly inside it. For up to the end of a loop the loops that start in
it are all closed again, and none that starts in front of it is.
-/

namespace TapeMachine

namespace Script

/-- A part of a script can be cut at any position in it. -/
theorem extract_append_extract {characters : List Char} {first middle last : Nat}
    (le : first ≤ middle) (leToo : middle ≤ last) :
    characters.extract first middle ++ characters.extract middle last =
      characters.extract first last := by
  have start : middle = first + (middle - first) := by omega
  have size : last - first = (middle - first) + (last - middle) := by omega
  simp only [List.extract_eq_take_drop, size, List.take_add, List.drop_drop, ← start]

theorem extract_eq_cons {characters : List Char} {first last : Nat} {character : Char}
    (present : characters[first]? = some character) (lt : first < last) :
    characters.extract first last = character :: characters.extract (first + 1) last := by
  obtain ⟨inside, rfl⟩ := List.getElem?_eq_some_iff.mp present
  have size : last - first = last - (first + 1) + 1 := by omega
  simp only [List.extract_eq_take_drop, List.drop_eq_getElem_cons inside, size,
    List.take_succ_cons]

/-- The two ends of a loop are the brackets around a balanced part. -/
theorem isLoop_iff_extract {characters : List Char} {opening closing : Nat} :
    IsLoop characters opening closing ↔
      opening < closing ∧ characters[opening]? = some '[' ∧ characters[closing]? = some ']' ∧
        depthAfter? 0 (characters.extract (opening + 1) closing) = some 0 := by
  constructor
  · intro isLoop
    obtain ⟨opens, body, behind, split, balanced, rfl⟩ := isLoop_iff_closesAt.mp isLoop
    refine ⟨by omega, opens, isLoop.closes, ?_⟩
    rw [List.extract_eq_take_drop, split, Nat.add_sub_cancel_left, List.take_left, balanced]
  · rintro ⟨before, opens, closes, balanced⟩
    obtain ⟨inside, closes⟩ := List.getElem?_eq_some_iff.mp closes
    have start : opening + 1 + (closing - (opening + 1)) = closing := by omega
    refine isLoop_iff_closesAt.mpr ⟨opens, characters.extract (opening + 1) closing,
      characters.drop (closing + 1), ?_, balanced, ?_⟩
    · have split := List.take_append_drop (closing - (opening + 1)) (characters.drop (opening + 1))
      rw [List.drop_drop, start] at split
      rw [← closes, List.getElem_cons_drop, List.extract_eq_take_drop, split]
    · simp only [List.extract_eq_take_drop, List.length_take, List.length_drop]
      omega

namespace IsLoop

variable {characters : List Char} {opening closing inner other : Nat}

theorem opening_lt_closing (isLoop : IsLoop characters opening closing) : opening < closing :=
  (isLoop_iff_extract.mp isLoop).1

/-- A loop that starts inside of another one ends there, before the other one does. -/
theorem closing_lt_of_inside (outer : IsLoop characters opening closing)
    (isLoop : IsLoop characters inner other) (after : opening < inner) (before : inner < closing) :
    other < closing := by
  by_contra behind
  obtain ⟨-, -, -, balanced⟩ := isLoop_iff_extract.mp outer
  obtain ⟨-, -, -, balancedToo⟩ := isLoop_iff_extract.mp isLoop
  -- Where the outer loop ends, the inner one would be open in some depth, and with it that bracket.
  rw [← extract_append_extract before (Nat.not_lt.mp behind), depthAfter?_append,
    Option.bind_eq_some_iff] at balancedToo
  obtain ⟨depth, counted, -⟩ := balancedToo
  rw [← extract_append_extract after (Nat.le_of_lt before), extract_eq_cons isLoop.opens before,
    depthAfter?_append, Option.bind_eq_some_iff] at balanced
  obtain ⟨outside, -, balanced⟩ := balanced
  rw [depthAfter?_opening, ← Nat.add_zero (outside + 1), depthAfter?_add counted,
    Option.some.injEq] at balanced
  omega

/-- A bracket starts one loop at most. -/
theorem closing_unique (isLoop : IsLoop characters opening closing)
    (isLoopToo : IsLoop characters opening other) : closing = other := by
  have notBefore {first second : Nat} (isLoop : IsLoop characters opening first)
      (isLoopToo : IsLoop characters opening second) : ¬first < second := by
    intro before
    obtain ⟨after, -, -, balanced⟩ := isLoop_iff_extract.mp isLoop
    obtain ⟨-, -, -, balancedToo⟩ := isLoop_iff_extract.mp isLoopToo
    rw [← extract_append_extract after (Nat.le_of_lt before), depthAfter?_append, balanced,
      extract_eq_cons isLoop.closes before] at balancedToo
    cases balancedToo
  exact Nat.le_antisymm (Nat.not_lt.mp (notBefore isLoopToo isLoop))
    (Nat.not_lt.mp (notBefore isLoop isLoopToo))

/-- No bracket starts a loop and ends one. -/
theorem opening_ne_closing (isLoop : IsLoop characters opening closing)
    (isLoopToo : IsLoop characters inner other) : opening ≠ other := by
  rintro rfl
  cases isLoop.opens.symm.trans isLoopToo.closes

/-- Two loops are the same, or one lies behind the other, or one lies strictly inside the other. -/
theorem disjoint_or_nested (isLoop : IsLoop characters opening closing)
    (isLoopToo : IsLoop characters inner other) :
    (opening = inner ∧ closing = other) ∨ closing < inner ∨ other < opening ∨
      (opening < inner ∧ other < closing) ∨ (inner < opening ∧ closing < other) := by
  rcases Nat.lt_trichotomy opening inner with before | rfl | behind
  · rcases Nat.lt_or_ge inner closing with inside | outside
    · exact .inr (.inr (.inr (.inl
        ⟨before, isLoop.closing_lt_of_inside isLoopToo before inside⟩)))
    · have apart := (isLoopToo.opening_ne_closing isLoop).symm
      exact .inr (.inl (Nat.lt_of_le_of_ne outside apart))
  · exact .inl ⟨rfl, isLoop.closing_unique isLoopToo⟩
  · rcases Nat.lt_or_ge opening other with inside | outside
    · exact .inr (.inr (.inr (.inr
        ⟨behind, isLoopToo.closing_lt_of_inside isLoop behind inside⟩)))
    · have apart := (isLoop.opening_ne_closing isLoopToo).symm
      exact .inr (.inr (.inl (Nat.lt_of_le_of_ne outside apart)))

end IsLoop

end Script

end TapeMachine
