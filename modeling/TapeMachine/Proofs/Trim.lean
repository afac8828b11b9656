import Mathlib.Data.List.DropRight
import TapeMachine.Text.Blank

/-! # What trimming leaves

Trimming a text leaves the part of it that stands between blanks and has none at its own ends. That
part is unique, so blanks that are added at either end make no difference.
-/

namespace TapeMachine.Text

/-- A text stands in another with nothing but blanks around it, and has no blanks at its own
ends. -/
structure StandsIn (solid text : List Char) : Prop where
  around : ∃ before after, text = before ++ solid ++ after ∧
    (∀ character ∈ before, isBlank character) ∧ ∀ character ∈ after, isBlank character
  first : ∀ character, solid.head? = some character → isBlank character = false
  last : ∀ character, solid.getLast? = some character → isBlank character = false

/-- Blanks in front of a text are dropped, up to its first character. -/
theorem dropWhile_append_blank {before text : List Char}
    (blank : ∀ character ∈ before, isBlank character)
    (first : ∀ character, text.head? = some character → isBlank character = false) :
    (before ++ text).dropWhile isBlank = text := by
  rw [List.dropWhile_append_of_pos blank]
  cases text with
  | nil => rfl
  | cons character rest => simp [first character rfl]

theorem StandsIn.trim_eq {solid text : List Char} (stands : StandsIn solid text) :
    trim text = solid := by
  obtain ⟨⟨before, after, rfl, blankBefore, blankAfter⟩, first, last⟩ := stands
  cases solid with
  | nil =>
    have allBlank : trimLeft (before ++ [] ++ after) = [] := by
      rw [List.append_nil, trimLeft, List.dropWhile_append_of_pos blankBefore]
      exact List.dropWhile_eq_nil_iff.mpr blankAfter
    rw [trim, allBlank]
    rfl
  | cons character rest =>
    have left : trimLeft (before ++ (character :: rest) ++ after) = character :: rest ++ after := by
      rw [List.append_assoc]
      exact dropWhile_append_blank blankBefore first
    have right : (character :: rest ++ after).reverse.dropWhile isBlank =
        (character :: rest).reverse := by
      rw [List.reverse_append]
      apply dropWhile_append_blank
      · simpa using blankAfter
      · simpa only [List.head?_reverse] using last
    rw [trim, left, trimRight, right, List.reverse_reverse]

theorem isBlank_of_dropWhile {text : List Char} {character : Char}
    (found : (text.dropWhile isBlank).head? = some character) : isBlank character = false := by
  have first := List.head?_dropWhile_not isBlank text
  rw [found] at first
  exact first

theorem standsIn_trim (text : List Char) : StandsIn (trim text) text := by
  have front : text.takeWhile isBlank ++ trimLeft text = text := List.takeWhile_append_dropWhile
  have back : trim text ++ (trimLeft text).rtakeWhile isBlank = trimLeft text :=
    List.rdropWhile_append_rtakeWhile
  refine ⟨⟨text.takeWhile isBlank, (trimLeft text).rtakeWhile isBlank, ?_,
    fun character => List.mem_takeWhile_imp, fun character => List.mem_rtakeWhile_imp⟩, ?_, ?_⟩
  · rw [List.append_assoc, back, front]
  · intro character found
    obtain ⟨rest, split⟩ := List.head?_eq_some_iff.mp found
    have front : (trimLeft text).head? = some character := by
      rw [← back, split]
      rfl
    exact isBlank_of_dropWhile front
  · intro character found
    rw [trim, trimRight, List.getLast?_reverse] at found
    exact isBlank_of_dropWhile found

/-- Trimming leaves what stands between the blanks. -/
theorem trim_eq_iff {solid text : List Char} : trim text = solid ↔ StandsIn solid text :=
  ⟨fun trimmed => trimmed ▸ standsIn_trim text, StandsIn.trim_eq⟩

/-- A text that has no blanks stands between any. -/
theorem standsIn_of_forall {text before solid after : List Char}
    (split : text = before ++ solid ++ after)
    (blankBefore : ∀ character ∈ before, isBlank character)
    (blankAfter : ∀ character ∈ after, isBlank character)
    (noBlank : ∀ character ∈ solid, isBlank character = false) : StandsIn solid text :=
  ⟨⟨before, after, split, blankBefore, blankAfter⟩,
    fun character found => noBlank character (List.mem_of_head? found),
    fun character found => noBlank character (List.mem_of_getLast? found)⟩

/-- Blanks behind a text make no difference. -/
theorem trim_append_blank (text : List Char) {after : List Char}
    (blank : ∀ character ∈ after, isBlank character) : trim (text ++ after) = trim text := by
  obtain ⟨⟨before, behind, split, blankBefore, blankBehind⟩, first, last⟩ := standsIn_trim text
  refine StandsIn.trim_eq ⟨⟨before, behind ++ after, ?_, blankBefore, ?_⟩, first, last⟩
  · rw [← List.append_assoc, ← split]
  · simpa only [List.forall_mem_append] using ⟨blankBehind, blank⟩

end TapeMachine.Text
