import Mathlib.Algebra.Group.Nat.Defs
import TapeMachine.Diagnostic
import TapeMachine.Text.Lines

/-! # The window and the caret

The window that is shown of a script is the part of it from 32 characters in front of the position
to 32 characters behind, as far as the script goes there, with a space for every blank. Wherever the
position is, it has at most 65 characters and no line break, so an error is shown in three lines, or
in one if it names no position. No number that is computed on the way leaves a word.
-/

namespace TapeMachine

namespace Text

/-- Whether a line ends at a character: at a line feed, a vertical tab, a form feed, a carriage
return, a next line, or a separator of lines or paragraphs. -/
def breaksLine (character : Char) : Bool :=
  inRanges [(0x0A, 0x0D), (0x85, 0x85), (0x2028, 0x2029)] character

/-- Line breaks are blanks. -/
theorem isBlank_of_breaksLine {character : Char} (breaks : breaksLine character = true) :
    isBlank character = true := by
  simp only [breaksLine, isBlank, blankRanges, inRanges_iff, List.mem_cons, List.not_mem_nil,
    or_false, exists_eq_or_imp, exists_eq_left] at breaks ⊢
  omega

end Text

namespace Diagnostic

/-- A character as the window shows it. -/
def flattened (character : Char) : Char := if Text.isBlank character then ' ' else character

theorem flattened_of_not_isBlank {character : Char} (solid : Text.isBlank character = false) :
    flattened character = character := by
  simp only [flattened, solid, Bool.false_eq_true, ↓reduceIte]

/-- What is shown of a character never ends the line. -/
theorem breaksLine_flattened (character : Char) :
    Text.breaksLine (flattened character) = false := by
  unfold flattened
  split
  · decide
  · rename_i solid
    exact Bool.eq_false_iff.mpr fun breaks => solid (Text.isBlank_of_breaksLine breaks)

/-- The window shows a part of the script. -/
theorem window_eq (script : Script) (position : Nat) :
    window script position =
      (script.extract (position - 32) (min script.size (position + 33))).toList.map flattened := by
  rw [Array.toList_extract, List.extract_eq_take_drop]
  refine congrArg (List.map flattened) (List.take_eq_take_iff.mpr ?_)
  simp only [List.length_drop, Array.length_toList, windowStart, margin]
  omega

theorem length_window (script : Script) (position : Nat) :
    (window script position).length = min script.size (position + 33) - (position - 32) := by
  rw [window_eq, List.length_map, Array.length_toList, Array.size_extract]
  omega

/-- The window is one line. -/
theorem breaksLine_of_mem_window {script : Script} {position : Nat} :
    ∀ character ∈ window script position, Text.breaksLine character = false := by
  intro character member
  rw [window_eq, List.mem_map] at member
  obtain ⟨original, -, rfl⟩ := member
  exact breaksLine_flattened original

theorem caret_eq (position : Nat) :
    caret position = List.replicate (min position 32) ' ' ++ ['^'] := by
  simp only [caret, windowStart, margin, show position - (position - 32) = min position 32 by omega]

/-- With a position that is a word of `width` bits, so is every number that is computed from it. -/
structure WithinWord (width position : Nat) : Prop where
  /-- The number of characters in front of the position that are shown. -/
  before : (BitVec.ofNat width position).usubOverflow
    (BitVec.ofNat width (windowStart position)) = false
  /-- That number with the margin behind the position. -/
  behind : (BitVec.ofNat width (position - windowStart position)).uaddOverflow
    (BitVec.ofNat width margin) = false
  /-- The number of all characters shown, that at the position among them. -/
  all : (BitVec.ofNat width (position - windowStart position + margin)).uaddOverflow
    (BitVec.ofNat width 1) = false

theorem withinWord {width position : Nat} (positionFits : position < 2 ^ width)
    (windowFits : 65 < 2 ^ width) : WithinWord width position := by
  have toNat {value : Nat} (fits : value < 2 ^ width) : (BitVec.ofNat width value).toNat = value :=
    Nat.mod_eq_of_lt fits
  have shown : position - windowStart position ≤ 32 := by
    simp only [windowStart, margin]
    omega
  have start : windowStart position ≤ position := Nat.sub_le ..
  constructor
  · rw [BitVec.usubOverflow, toNat positionFits, toNat (by omega), decide_eq_false_iff_not]
    omega
  · rw [BitVec.uaddOverflow, toNat (by omega), toNat (by simp only [margin]; omega),
      decide_eq_false_iff_not]
    simp only [margin]
    omega
  · rw [BitVec.uaddOverflow, toNat (by simp only [margin]; omega), toNat (by omega),
      decide_eq_false_iff_not]
    simp only [margin]
    omega

end Diagnostic

namespace RunError

variable {error : RunError} {programName : Option String} {script : Script} {position : Nat}

/-- An error with a position is shown in a message, the window, and the caret. -/
theorem renderedLines_of_placed (placed : error.position? = some position) :
    error.renderedLines programName script =
      [error.announcement programName ++ " at instruction " ++ toString position,
        "  " ++ String.ofList (Diagnostic.window script position),
        "  " ++ String.ofList (Diagnostic.caret position)] := by
  simp only [renderedLines, placed, String.append_assoc]
  rfl

theorem render_of_placed (placed : error.position? = some position) :
    error.render programName script =
      error.announcement programName ++ " at instruction " ++ toString position ++ "\n" ++
        ("  " ++ String.ofList (Diagnostic.window script position) ++ "\n") ++
        ("  " ++ String.ofList (Diagnostic.caret position) ++ "\n") := by
  simp only [render, renderedLines_of_placed placed, List.map_cons, List.map_nil, String.join,
    List.foldl_cons, List.foldl_nil, String.empty_append]

theorem render_of_unplaced (unplaced : error.position? = none) :
    error.render programName script = error.announcement programName ++ "\n" := by
  simp only [render, renderedLines, unplaced, List.map_cons, List.map_nil, String.join,
    List.foldl_cons, List.foldl_nil, String.empty_append]

theorem feed_not_mem_toDigits (number : Nat) : '\n' ∉ Nat.toDigits 10 number := by
  intro member
  cases Nat.isDigit_of_mem_toDigits (by decide) (by decide) member

/-- Unless its message has more, an error with a position is shown in three lines. -/
theorem lines_render (placed : error.position? = some position)
    (single : '\n' ∉ (error.announcement programName).toList) :
    Text.lines (error.render programName script).toList =
      [(error.announcement programName ++ " at instruction " ++ toString position).toList,
        ' ' :: ' ' :: Diagnostic.window script position,
        ' ' :: ' ' :: Diagnostic.caret position, []] := by
  have inWindow : '\n' ∉ Diagnostic.window script position := by
    intro member
    cases Diagnostic.breaksLine_of_mem_window _ member
  have inCaret : '\n' ∉ Diagnostic.caret position := by
    simp [Diagnostic.caret]
  have joined : (error.render programName script).toList =
      ((error.renderedLines programName script).map String.toList).flatMap (· ++ ['\n']) := by
    simp [render, String.toList_join, List.flatMap_map]
  rw [joined, renderedLines_of_placed placed, Text.lines_flatMap_feed]
  · simp
  · simp [single, inWindow, inCaret, feed_not_mem_toDigits]

/-- Wherever the position of an error is, the error is shown as its message with the position, the
window and the caret, each with a line feed behind it. The window holds the characters of the script
from 32 in front of the position to 32 behind, with a space for each blank, so it is one line, and
the whole is three lines if the message is one. An error without a position is shown as its
message. -/
theorem shown_around_position (error : RunError) (programName : Option String) (script : Script) :
    (∀ name, error.announcement (some name) = name ++ ": " ++ error.announcement none) ∧
    (∀ position, error.position? = some position →
      ∃ window : List Char,
        error.render programName script =
          error.announcement programName ++ " at instruction " ++ toString position ++ "\n" ++
            ("  " ++ String.ofList window ++ "\n") ++
            ("  " ++ String.ofList (List.replicate (min position 32) ' ' ++ ['^']) ++ "\n") ∧
        window = (script.extract (position - 32) (min script.size (position + 33))).toList.map
          Diagnostic.flattened ∧
        window.length = min script.size (position + 33) - (position - 32) ∧
        window.length ≤ 65 ∧
        (∀ character ∈ window, Text.breaksLine character = false) ∧
        ('\n' ∉ (error.announcement programName).toList →
          Text.lines (error.render programName script).toList =
            [(error.announcement programName ++ " at instruction " ++ toString position).toList,
              ' ' :: ' ' :: window,
              ' ' :: ' ' :: (List.replicate (min position 32) ' ' ++ ['^']), []]) ∧
        ∀ width, position < 2 ^ width → 65 < 2 ^ width → Diagnostic.WithinWord width position) ∧
    (error.position? = none →
      error.render programName script = error.announcement programName ++ "\n") := by
  refine ⟨fun _ => rfl, fun position placed => ?_, render_of_unplaced⟩
  rw [← Diagnostic.caret_eq]
  have length := Diagnostic.length_window script position
  refine ⟨Diagnostic.window script position, render_of_placed placed,
    Diagnostic.window_eq script position, length, ?_, Diagnostic.breaksLine_of_mem_window,
    lines_render placed, fun width => Diagnostic.withinWord⟩
  omega

/-- A line feed next to the position is shown as a space. Nothing is shown around the largest
position of 64 bits, and the caret stands as far to the right as it can. -/
theorem shown_around_position_far :
    let script : Script := #['+', '\n', ',']
    let near : RunError := .exec (.noMoreInput 2)
    let far : RunError := .exec (.noMoreInput (2 ^ 64 - 1))
    (near.position? = some 2 ∧ near.render (some "tape") script =
      "tape: Runtime error: no more input at instruction 2\n  + ,\n    ^\n") ∧
    (far.position? = some (2 ^ 64 - 1) ∧ '\n' ∉ (far.announcement none).toList ∧
      Text.lines (far.render none script).toList =
        [(far.announcement none ++ " at instruction " ++ toString (2 ^ 64 - 1)).toList, [' ', ' '],
          List.replicate 34 ' ' ++ ['^'], []] ∧
      2 ^ 64 - 1 < 2 ^ 64 ∧ 65 < 2 ^ 64 ∧ Diagnostic.WithinWord 64 (2 ^ 64 - 1)) ∧
    RunError.position? (.exec .cancelled) = none ∧
      RunError.render (.exec .cancelled) none script = "Execution aborted: cancelled\n" := by
  intro script near far
  refine ⟨⟨rfl, ?_⟩, ⟨rfl, by decide, ?_, by decide, by decide, ?_⟩, rfl, ?_⟩
  · obtain ⟨window, shown, rfl, -⟩ := (shown_around_position near (some "tape") script).2.1 2 rfl
    exact shown.trans (by decide)
  · obtain ⟨window, -, -, length, -, -, lines, -⟩ :=
      (shown_around_position far none script).2.1 _ rfl
    obtain rfl : window = [] := List.length_eq_zero_iff.mp (length.trans (by decide))
    exact lines (by decide)
  · obtain ⟨window, -, -, -, -, -, -, within⟩ := (shown_around_position far none script).2.1 _ rfl
    exact within 64 (by decide) (by decide)
  · exact (shown_around_position (.exec .cancelled) none script).2.2 rfl

end RunError

end TapeMachine
