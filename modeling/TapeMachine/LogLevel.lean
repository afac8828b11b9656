import TapeMachine.Text.Decimal

/-! # Log levels

A log shows the events up to a level. A level is named by a word, in any case of its letters, or by
its number from 1, the most severe, to 5.
-/

namespace TapeMachine

/-- How severe an event is, most severe first. -/
inductive LogLevel where
  | error
  | warn
  | info
  | debug
  | trace
deriving DecidableEq, Repr

namespace LogLevel

def number : LogLevel → Nat
  | error => 1
  | warn => 2
  | info => 3
  | debug => 4
  | trace => 5

def name : LogLevel → String
  | error => "ERROR"
  | warn => "WARN"
  | info => "INFO"
  | debug => "DEBUG"
  | trace => "TRACE"

def all : List LogLevel := [error, warn, info, debug, trace]

/-- Whether a log that goes up to `limit` shows events of `level`. -/
def isShown (limit level : LogLevel) : Bool := level.number ≤ limit.number

def ofText? (text : List Char) : Option LogLevel :=
  match Text.Decimal.read text with
  | .ok number => all.find? fun level => level.number = number.toNat
  | .error _ => all.find? fun level => text.map Char.toUpper = level.name.toList

end LogLevel

end TapeMachine
