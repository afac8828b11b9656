import Mathlib.Data.List.Induction
import Mathlib.Tactic.SplitIfs
import TapeMachine.Script.Balance

/-! # Depth of a balanced script

The check of a script and the count of its depth see the same thing: a script is accepted exactly
when its depth never goes below zero and ends there. Depth is also where the partner of a bracket
comes from. A depth that falls by one passes a closing bracket with a balanced part before it, and
a depth of more than `i` leaves an opening bracket with a part of depth `i` behind it.
-/

namespace TapeMachine

namespace Script

@[simp] theorem depthAfter?_nil (depth : Nat) : depthAfter? depth [] = some depth := rfl

@[simp] theorem depthAfter?_opening (depth : Nat) (rest : List Char) :
    depthAfter? depth ('[' :: rest) = depthAfter? (depth + 1) rest := rfl

@[simp] theorem depthAfter?_zero_closing (rest : List Char) :
    depthAfter? 0 (']' :: rest) = none := rfl

@[simp] theorem depthAfter?_succ_closing (depth : Nat) (rest : List Char) :
    depthAfter? (depth + 1) (']' :: rest) = depthAfter? depth rest := rfl

theorem depthAfter?_plain {character : Char} (depth : Nat) (rest : List Char)
    (notOpening : character ≠ '[') (notClosing : character ≠ ']') :
    depthAfter? depth (character :: rest) = depthAfter? depth rest := by
  simp only [depthAfter?, notOpening, notClosing, ↓reduceIte]

/-- The depth is the number of loops still open, as long as nothing is refused. -/
theorem depthAfter?_length (position : Nat) (opened : List Nat) (characters : List Char) :
    depthAfter? opened.length characters =
      (openLoops position opened characters).toOption.map List.length := by
  induction characters generalizing position opened with
  | nil => rfl
  | cons character rest ih =>
    simp only [depthAfter?, openLoops]
    split_ifs with isOpening isClosing
    · exact ih (position + 1) (position :: opened)
    · cases opened with
      | nil => rfl
      | cons _ outer => exact ih (position + 1) outer
    · exact ih (position + 1) opened

/-- A script is accepted exactly when its depth ends at zero without going below. -/
theorem check_eq_ok_iff (script : Script) :
    script.check = .ok () ↔ depthAfter? 0 script.toList = some 0 := by
  rw [show 0 = ([] : List Nat).length from rfl, depthAfter?_length 0]
  unfold check
  cases openLoops 0 [] script.toList with
  | error unmatched => simp [Except.toOption]
  | ok opened => cases opened <;> simp [Except.toOption]

/-- Loops that are open around a part stay open behind it. -/
theorem depthAfter?_add {characters : List Char} {depth inner : Nat}
    (counted : depthAfter? depth characters = some inner) (outer : Nat) :
    depthAfter? (outer + depth) characters = some (outer + inner) := by
  induction characters generalizing depth with
  | nil =>
    cases counted
    rfl
  | cons character rest ih =>
    by_cases isOpening : character = '['
    · subst isOpening
      exact ih counted
    by_cases isClosing : character = ']'
    · subst isClosing
      cases depth with
      | zero => cases counted
      | succ depth => exact ih counted
    · rw [depthAfter?_plain _ _ isOpening isClosing] at counted ⊢
      exact ih counted

/-- Where the count breaks off, a closing bracket has nothing to close. -/
theorem exists_stray_of_depthAfter? {characters : List Char} {depth : Nat}
    (failed : depthAfter? depth characters = none) :
    ∃ front behind, characters = front ++ ']' :: behind ∧ depthAfter? depth front = some 0 := by
  induction characters generalizing depth with
  | nil => cases failed
  | cons character rest ih =>
    by_cases isOpening : character = '['
    · subst isOpening
      obtain ⟨front, behind, rfl, counted⟩ := ih failed
      exact ⟨'[' :: front, behind, rfl, counted⟩
    by_cases isClosing : character = ']'
    · subst isClosing
      cases depth with
      | zero => exact ⟨[], rest, rfl, rfl⟩
      | succ depth =>
        obtain ⟨front, behind, rfl, counted⟩ := ih failed
        exact ⟨']' :: front, behind, rfl, counted⟩
    · rw [depthAfter?_plain _ _ isOpening isClosing] at failed
      obtain ⟨front, behind, rfl, counted⟩ := ih failed
      refine ⟨character :: front, behind, rfl, ?_⟩
      rw [depthAfter?_plain _ _ isOpening isClosing, counted]

/-- A depth that falls below where it started passes the closing bracket that takes it there. -/
theorem exists_closing_of_depthAfter? {characters : List Char} {inner outer last : Nat}
    (counted : depthAfter? (inner + outer + 1) characters = some last) (fallen : last ≤ outer) :
    ∃ body behind, characters = body ++ ']' :: behind ∧ depthAfter? inner body = some 0 := by
  -- Of the loops that are open, `inner` have to be closed before the one that is looked for.
  induction characters generalizing inner with
  | nil =>
    cases counted
    omega
  | cons character rest ih =>
    by_cases isOpening : character = '['
    · subst isOpening
      rw [depthAfter?_opening, show inner + outer + 1 + 1 = (inner + 1) + outer + 1 by omega]
        at counted
      obtain ⟨body, behind, rfl, balanced⟩ := ih counted
      exact ⟨'[' :: body, behind, rfl, balanced⟩
    by_cases isClosing : character = ']'
    · subst isClosing
      cases inner with
      | zero => exact ⟨[], rest, rfl, rfl⟩
      | succ inner =>
        rw [depthAfter?_succ_closing, show inner + 1 + outer = inner + outer + 1 by omega]
          at counted
        obtain ⟨body, behind, rfl, balanced⟩ := ih counted
        exact ⟨']' :: body, behind, rfl, balanced⟩
    · rw [depthAfter?_plain _ _ isOpening isClosing] at counted
      obtain ⟨body, behind, rfl, balanced⟩ := ih counted
      exact ⟨character :: body, behind, rfl,
        by rw [depthAfter?_plain _ _ isOpening isClosing, balanced]⟩

/-- The depth behind one more character follows from the depth before it. -/
theorem depthAfter?_snoc (depth : Nat) (front : List Char) (character : Char) :
    depthAfter? depth (front ++ [character]) =
      (depthAfter? depth front).bind fun inner => depthAfter? inner [character] :=
  depthAfter?_append depth front [character]

/-- Each loop still open behind some characters starts with an opening bracket among them. -/
theorem exists_opening_of_depthAfter? {characters : List Char} {depth inner : Nat}
    (counted : depthAfter? 0 characters = some depth) (below : inner < depth) :
    ∃ front body, characters = front ++ '[' :: body ∧ depthAfter? 0 body = some inner := by
  induction characters using List.reverseRecOn generalizing depth inner with
  | nil =>
    cases counted
    omega
  | append_singleton front character ih =>
    rw [depthAfter?_snoc, Option.bind_eq_some_iff] at counted
    obtain ⟨before, counted, stepped⟩ := counted
    by_cases isOpening : character = '['
    · subst isOpening
      obtain rfl : before + 1 = depth := by simpa using stepped
      cases inner with
      | zero => exact ⟨front, [], rfl, rfl⟩
      | succ inner =>
        obtain ⟨outside, body, rfl, left⟩ := ih counted (Nat.lt_of_succ_lt_succ below)
        exact ⟨outside, body ++ ['['], by simp, by simp [depthAfter?_snoc, left]⟩
    by_cases isClosing : character = ']'
    · subst isClosing
      cases before with
      | zero => simp at stepped
      | succ before =>
        obtain rfl : before = depth := by simpa using stepped
        obtain ⟨outside, body, rfl, left⟩ := ih counted (Nat.succ_lt_succ below)
        exact ⟨outside, body ++ [']'], by simp, by simp [depthAfter?_snoc, left]⟩
    · obtain rfl : before = depth := by
        simpa [depthAfter?_plain _ _ isOpening isClosing] using stepped
      obtain ⟨outside, body, rfl, left⟩ := ih counted below
      exact ⟨outside, body ++ [character], by simp,
        by simp [depthAfter?_snoc, left, depthAfter?_plain _ _ isOpening isClosing]⟩

end Script

end TapeMachine
