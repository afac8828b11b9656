/-! # Decimal numbers

A number is written in decimal ASCII digits, after at most one plus sign, and has to fit in 64 bits.
Reading stops at the first character that makes the text wrong, so a text with two faults is refused
for the one on the left.
-/

namespace TapeMachine.Text

/-- Why a text is no number of 64 bits. -/
inductive NumberFault where
  | empty
  | invalidDigit
  | tooLarge
deriving DecidableEq, Repr

def NumberFault.message : NumberFault → String
  | empty => "cannot parse integer from empty string"
  | invalidDigit => "invalid digit found in string"
  | tooLarge => "number too large to fit in target type"

namespace Decimal

def digit? (character : Char) : Option Nat :=
  if character.isDigit then some (character.toNat - '0'.toNat) else none

/-- The number written by further digits behind the digits of `value`. -/
def readDigits (value : Nat) : List Char → Except NumberFault Nat
  | [] => .ok value
  | character :: rest =>
    match digit? character with
    | none => .error .invalidDigit
    | some digit =>
      if value * 10 + digit < UInt64.size then readDigits (value * 10 + digit) rest
      else .error .tooLarge

/-- Digits that are read stay below the size of the numbers of 64 bits. -/
theorem readDigits_lt {value number : Nat} {text : List Char} (small : value < UInt64.size)
    (success : readDigits value text = .ok number) : number < UInt64.size := by
  induction text generalizing value with
  | nil => cases success; exact small
  | cons character rest inner =>
    unfold readDigits at success
    split at success
    · cases success
    · split at success
      · exact inner ‹_› success
      · cases success

def read (text : List Char) : Except NumberFault UInt64 :=
  match text with
  | [] => .error .empty
  | ['+'] => .error .invalidDigit
  | '+' :: digits => (readDigits 0 digits).map UInt64.ofNat
  | digits => (readDigits 0 digits).map UInt64.ofNat

def read? (text : List Char) : Option UInt64 := (read text).toOption

end Decimal

end TapeMachine.Text
