/-! # Durations

A duration of whole milliseconds is written in seconds from one second on, with as many places as it
needs, and in milliseconds below that. No duration at all is written in nanoseconds.
-/

namespace TapeMachine.Text

/-- The decimal places of a number of thousandths, without zeros at the end. -/
def thousandths (count : Nat) : List Char :=
  let digits := Nat.toDigits 10 count
  let padded := List.replicate (3 - digits.length) '0' ++ digits
  (padded.reverse.dropWhile (· = '0')).reverse

def duration (milliseconds : Nat) : String :=
  let seconds := milliseconds / 1000
  let rest := milliseconds % 1000
  if milliseconds = 0 then "0ns"
  else if seconds = 0 then s!"{rest}ms"
  else if rest = 0 then s!"{seconds}s"
  else s!"{seconds}.{String.ofList (thousandths rest)}s"

end TapeMachine.Text
