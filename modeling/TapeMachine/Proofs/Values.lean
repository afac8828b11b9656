import Mathlib.Data.Bool.AllAny
import Mathlib.Data.List.Forall2
import TapeMachine.Proofs.Setting
import TapeMachine.Proofs.Trim

/-! # How a value is written

A number is written in decimal digits, a strategy or a log level by its name, in any case of the
letters. Every value of a setting that is written so reads as that value.
-/

namespace TapeMachine

namespace Text

/-- Letters and digits are no blanks. -/
theorem isBlank_of_isAlphanum {character : Char} (isAlphanum : character.isAlphanum = true) :
    isBlank character = false := by
  rw [Bool.eq_false_iff]
  intro blank
  simp only [isBlank, blankRanges, inRanges_iff, List.mem_cons, List.not_mem_nil, or_false,
    exists_eq_or_imp, exists_eq_left] at blank
  have range : (decide (character.toNat ≥ 65 ∧ character.toNat ≤ 90) ||
      (decide (character.toNat ≥ 97) && decide (character.toNat ≤ 122)) ||
      (decide (character.toNat ≥ 48) && decide (character.toNat ≤ 57))) = true := isAlphanum
  simp only [Bool.or_eq_true, Bool.and_eq_true, decide_eq_true_eq] at range
  omega

namespace Decimal

/-- A text is a number in decimal digits. Zeros may stand in front. -/
structure Writes (text : List Char) (number : Nat) : Prop where
  ne_nil : text ≠ []
  isDigit : ∀ character ∈ text, character.isDigit = true
  value : Nat.ofDigitChars 10 text 0 = number

theorem Writes.isAlphanum {text : List Char} {number : Nat} (writes : Writes text number) :
    ∀ written ∈ text, written.isAlphanum = true := by
  intro written member
  rw [Char.isAlphanum, writes.isDigit written member, Bool.or_true]

/-- Digits behind a number do not make it smaller. -/
theorem le_ofDigitChars (text : List Char) (value : Nat) :
    value ≤ Nat.ofDigitChars 10 text value := by
  induction text generalizing value with
  | nil => exact Nat.le_refl value
  | cons character rest ih =>
    rw [Nat.ofDigitChars_cons]
    exact Nat.le_trans (by omega) (ih _)

theorem readDigits_eq {text : List Char} {value : Nat}
    (isDigit : ∀ character ∈ text, character.isDigit = true)
    (small : Nat.ofDigitChars 10 text value < UInt64.size) :
    readDigits value text = .ok (Nat.ofDigitChars 10 text value) := by
  induction text generalizing value with
  | nil => rfl
  | cons character rest ih =>
    have ⟨first, others⟩ := List.forall_mem_cons.mp isDigit
    rw [Nat.ofDigitChars_cons] at small ⊢
    have below := Nat.lt_of_le_of_lt (le_ofDigitChars rest _) small
    rw [Nat.mul_comm] at small below ⊢
    rw [readDigits, digit?, if_pos first]
    simp only [below, ↓reduceIte]
    exact ih others small

/-- A text that starts neither with a digit nor with a plus sign is no number. -/
theorem read_cons {first : Char} (noDigit : first.isDigit = false) (noPlus : first ≠ '+')
    (rest : List Char) : read (first :: rest) = .error .invalidDigit := by
  have failed : readDigits 0 (first :: rest) = .error .invalidDigit := by
    simp [readDigits, digit?, noDigit]
  unfold read
  split
  · rename_i empty
    cases empty
  · rfl
  · rename_i same
    exact absurd (List.cons.inj same).1 noPlus
  · rw [failed]
    rfl

theorem Writes.read?_eq {text : List Char} {number : UInt64} (writes : Writes text number.toNat) :
    read? text = some number := by
  obtain ⟨ne_nil, isDigit, value⟩ := writes
  have digits : readDigits 0 text = .ok number.toNat :=
    value ▸ readDigits_eq isDigit (value ▸ number.toNat_lt_size)
  have noPlus (rest : List Char) : text ≠ '+' :: rest := by
    rintro rfl
    cases isDigit '+' List.mem_cons_self
  have number_eq : read text = .ok number := by
    unfold read
    split
    · exact absurd rfl ne_nil
    · exact absurd rfl (noPlus [])
    · exact absurd rfl (noPlus _)
    · rw [digits]
      exact congrArg _ UInt64.ofNat_toNat
  rw [read?, number_eq]
  rfl

end Decimal

/-- A text without blanks is trimmed to itself. -/
theorem trim_of_forall {text : List Char}
    (noBlank : ∀ character ∈ text, isBlank character = false) : trim text = text :=
  (standsIn_of_forall (List.append_nil text).symm (List.forall_mem_nil _) (List.forall_mem_nil _)
    noBlank).trim_eq

/-- A text is a name with each letter in lower or in upper case. -/
def WritesName (text name : List Char) : Prop :=
  List.Forall₂ (fun written letter => written = letter.toLower ∨ written = letter.toUpper) text name

namespace WritesName

instance (text name : List Char) : Decidable (WritesName text name) :=
  inferInstanceAs (Decidable (List.Forall₂ _ _ _))

variable {text name : List Char} (writes : WritesName text name)

include writes

theorem forall_mem {p : Char → Prop}
    (both : ∀ letter ∈ name, p letter.toLower ∧ p letter.toUpper) :
    ∀ written ∈ text, p written := by
  induction writes with
  | nil => simp
  | cons same _ ih =>
    rw [List.forall_mem_cons] at both ⊢
    refine ⟨?_, ih both.2⟩
    rcases same with rfl | rfl
    · exact both.1.1
    · exact both.1.2

/-- Bringing all letters to the case of the name gives the name. -/
theorem map_eq {f : Char → Char}
    (both : ∀ letter ∈ name, f letter.toLower = letter ∧ f letter.toUpper = letter) :
    text.map f = name := by
  induction writes with
  | nil => rfl
  | cons same _ ih =>
    rw [List.forall_mem_cons] at both
    rw [List.map_cons, ih both.2]
    rcases same with rfl | rfl
    · rw [both.1.1]
    · rw [both.1.2]

end WritesName

end Text

theorem Strategy.isAlphanum_of_writes {text : List Char} {strategy : Strategy}
    (writes : Text.WritesName text strategy.name.toList) :
    ∀ written ∈ text, written.isAlphanum = true := by
  apply writes.forall_mem (p := (Char.isAlphanum · = true))
  cases strategy <;> exact List.all_iff_forall_prop.mp (by decide)

/-- The name of a strategy names it, in any case of the letters. -/
theorem Strategy.ofText?_eq {text : List Char} {strategy : Strategy}
    (writes : Text.WritesName text strategy.name.toList) : ofText? text = some strategy := by
  have solid : Text.trim text = text := Text.trim_of_forall fun written member =>
    Text.isBlank_of_isAlphanum (isAlphanum_of_writes writes written member)
  have lowered : text.map Char.toLower = strategy.name.toList := by
    apply writes.map_eq
    cases strategy <;> exact List.all_iff_forall_prop.mp (by decide)
  rw [ofText?, ofText, solid, lowered]
  cases strategy <;> decide

theorem LogLevel.isAlphanum_of_writes {text : List Char} {level : LogLevel}
    (writes : Text.WritesName text level.name.toList) :
    ∀ written ∈ text, written.isAlphanum = true := by
  apply writes.forall_mem (p := (Char.isAlphanum · = true))
  cases level <;> exact List.all_iff_forall_prop.mp (by decide)

/-- The name of a log level names it, in any case of the letters. -/
theorem LogLevel.ofText?_eq {text : List Char} {level : LogLevel}
    (writes : Text.WritesName text level.name.toList) : ofText? text = some level := by
  have letters : ∀ character ∈ text, character.isDigit = false ∧ character ≠ '+' := by
    apply writes.forall_mem (p := fun written => written.isDigit = false ∧ written ≠ '+')
    cases level <;> exact List.all_iff_forall_prop.mp (by decide)
  have raised : text.map Char.toUpper = level.name.toList := by
    apply writes.map_eq
    cases level <;> exact List.all_iff_forall_prop.mp (by decide)
  cases text with
  | nil => cases level <;> cases raised
  | cons first rest =>
    have ⟨noDigit, noPlus⟩ := letters first List.mem_cons_self
    rw [ofText?, Text.Decimal.read_cons noDigit noPlus]
    simp only [raised]
    cases level <;> decide

namespace Setting

/-- How a value of a setting is written. -/
def Writes : (setting : Setting) → List Char → setting.Value → Prop
  | timeoutMs, text, value => Text.Decimal.Writes text value.toNat
  | maxSteps, text, value => Text.Decimal.Writes text value.toNat
  | resolver, text, value => Text.WritesName text value.name.toList
  | logLevel, text, value => Text.WritesName text value.name.toList

theorem Writes.ne_nil {setting : Setting} {text : List Char} {value : setting.Value}
    (writes : setting.Writes text value) : text ≠ [] := by
  cases setting with
  | timeoutMs => exact Text.Decimal.Writes.ne_nil writes
  | maxSteps => exact Text.Decimal.Writes.ne_nil writes
  | resolver =>
    rintro rfl
    cases value <;> cases writes
  | logLevel =>
    rintro rfl
    cases value <;> cases writes

/-- A value is written in letters and digits. -/
theorem Writes.isAlphanum {setting : Setting} {text : List Char} {value : setting.Value}
    (writes : setting.Writes text value) : ∀ written ∈ text, written.isAlphanum = true := by
  cases setting with
  | timeoutMs => exact Text.Decimal.Writes.isAlphanum writes
  | maxSteps => exact Text.Decimal.Writes.isAlphanum writes
  | resolver => exact Strategy.isAlphanum_of_writes writes
  | logLevel => exact LogLevel.isAlphanum_of_writes writes

/-- A value that is written can be read. -/
theorem Writes.parse_eq {setting : Setting} {text : List Char} {value : setting.Value}
    (writes : setting.Writes text value) : setting.parse text = some value := by
  cases setting with
  | timeoutMs => exact Text.Decimal.Writes.read?_eq writes
  | maxSteps => exact Text.Decimal.Writes.read?_eq writes
  | resolver => exact Strategy.ofText?_eq writes
  | logLevel => exact LogLevel.ofText?_eq writes

end Setting

end TapeMachine
