/-! # Lines

A text is cut into lines at its line feeds, and a line into two parts at the first occurrence of a
separator. Nothing but the line feeds, or the one separator, is lost.
-/

namespace TapeMachine.Text

/-- The lines of a text. There is one more of them than there are line feeds. -/
def lines : List Char → List (List Char)
  | [] => [[]]
  | character :: rest =>
    if character = '\n' then [] :: lines rest
    else
      match lines rest with
      | [] => [[character]]
      | line :: others => (character :: line) :: others

/-- The parts of a text before and behind the first `separator`, if there is one. -/
def splitFirst? (separator : Char) : List Char → Option (List Char × List Char)
  | [] => none
  | character :: rest =>
    if character = separator then some ([], rest)
    else (splitFirst? separator rest).map fun (before, behind) => (character :: before, behind)

theorem lines_ne_nil (text : List Char) : lines text ≠ [] := by
  cases text with
  | nil => simp [lines]
  | cons character rest =>
    unfold lines
    split
    · simp
    · split <;> simp

/-- The lines of a text, joined by line feeds, are the text. -/
theorem intercalate_lines (text : List Char) : ['\n'].intercalate (lines text) = text := by
  induction text with
  | nil => rfl
  | cons character rest inner =>
    unfold lines
    split
    · rename_i feed
      cases found : lines rest with
      | nil => exact absurd found (lines_ne_nil rest)
      | cons line others =>
        rw [found] at inner
        simp [List.intercalate, List.intersperse, feed] at inner ⊢
        exact inner
    · cases found : lines rest with
      | nil => exact absurd found (lines_ne_nil rest)
      | cons line others =>
        rw [found] at inner
        cases others <;> simp_all [List.intercalate, List.intersperse]

/-- A text without line feeds is one line. -/
theorem lines_of_not_mem {line : List Char} (inside : '\n' ∉ line) : lines line = [line] := by
  induction line with
  | nil => rfl
  | cons character line inner =>
    rw [List.mem_cons, not_or] at inside
    simp [lines, inner inside.2, Ne.symm inside.1]

/-- A text goes on in a new line behind its first line feed. -/
theorem lines_append_feed {line : List Char} (inside : '\n' ∉ line) (rest : List Char) :
    lines (line ++ '\n' :: rest) = line :: lines rest := by
  induction line with
  | nil => simp [lines]
  | cons character line inner =>
    rw [List.mem_cons, not_or] at inside
    simp [lines, inner inside.2, Ne.symm inside.1]

/-- Lines with a line feed behind each of them are the lines of the text that they make, and behind
the last line feed there is nothing. -/
theorem lines_flatMap_feed {parts : List (List Char)} (inside : ∀ line ∈ parts, '\n' ∉ line) :
    lines (parts.flatMap (· ++ ['\n'])) = parts ++ [[]] := by
  induction parts with
  | nil => rfl
  | cons line parts inner =>
    rw [List.forall_mem_cons] at inside
    rw [List.flatMap_cons, List.append_assoc, List.singleton_append, lines_append_feed inside.1,
      inner inside.2, List.cons_append]

/-- The parts around the first separator, with it between them, are the text. -/
theorem eq_append_of_splitFirst? {separator : Char} {text before behind : List Char}
    (split : splitFirst? separator text = some (before, behind)) :
    text = before ++ separator :: behind ∧ separator ∉ before := by
  induction text generalizing before with
  | nil => simp [splitFirst?] at split
  | cons character rest inner =>
    unfold splitFirst? at split
    split at split
    · simp_all
    · obtain ⟨⟨front, back⟩, found, same⟩ := Option.map_eq_some_iff.mp split
      obtain ⟨joined, absent⟩ := inner (by rw [found, (Prod.mk.inj same).2])
      obtain rfl := (Prod.mk.inj same).1
      simp_all [eq_comm]

/-- A text is cut at the first separator. -/
theorem splitFirst?_append {separator : Char} {before : List Char} (absent : separator ∉ before)
    (behind : List Char) :
    splitFirst? separator (before ++ separator :: behind) = some (before, behind) := by
  induction before with
  | nil => simp [splitFirst?]
  | cons character before inner =>
    rw [List.mem_cons, not_or] at absent
    simp [splitFirst?, inner absent.2, Ne.symm absent.1]

/-- A text without the separator is not cut. -/
theorem splitFirst?_eq_none {separator : Char} {text : List Char} (absent : separator ∉ text) :
    splitFirst? separator text = none := by
  induction text with
  | nil => rfl
  | cons character rest inner =>
    rw [List.mem_cons, not_or] at absent
    simp [splitFirst?, inner absent.2, Ne.symm absent.1]

end TapeMachine.Text
