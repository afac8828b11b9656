import TapeMachine.Error
import TapeMachine.Text.Blank

/-! # Diagnostics

An error is shown to a person as a message. If the error names a position, a window of the script
around that position follows in a line of its own, and below it a caret under the character at the
position. Blanks of all kinds are shown as spaces, so the window stays on one line and the caret
under its character.
-/

namespace TapeMachine

namespace Diagnostic

/-- The number of characters shown on either side of the position. -/
def margin : Nat := 32

def windowStart (position : Nat) : Nat := position - margin

/-- The characters of a script around a position, each blank as a space. -/
def window (script : Script) (position : Nat) : List Char :=
  let shown := (script.toList.drop (windowStart position)).take
    (position - windowStart position + margin + 1)
  shown.map fun character => if Text.isBlank character then ' ' else character

/-- The line that marks the character at a position of the window. -/
def caret (position : Nat) : List Char :=
  List.replicate (position - windowStart position) ' ' ++ ['^']

/-- What an error says to a person, without its position. -/
def headline : RunError → String
  | .script unmatched => s!"Parse error: unmatched bracket '{unmatched.bracket.symbol}'"
  | .exec (.noMoreInput _) => "Runtime error: no more input"
  | .exec (.io _ failure) => s!"I/O error: {failure.text}"
  | .exec (.internal fault) => s!"Internal error: {fault.message}"
  | .exec error => error.message

end Diagnostic

def RunError.position? : RunError → Option Nat
  | script unmatched => some unmatched.position
  | exec error => error.position?

namespace RunError

/-- What an error says to a person, behind the name of the program if one is given. -/
def announcement (error : RunError) (programName : Option String) : String :=
  match programName with
  | some name => name ++ ": " ++ Diagnostic.headline error
  | none => Diagnostic.headline error

def renderedLines (error : RunError) (programName : Option String) (script : Script) :
    List String :=
  match error.position? with
  | some position =>
    [error.announcement programName ++ s!" at instruction {position}",
      "  " ++ String.ofList (Diagnostic.window script position),
      "  " ++ String.ofList (Diagnostic.caret position)]
  | none => [error.announcement programName]

/-- An error as it is shown to a person, each of its lines with a line feed behind it. -/
def render (error : RunError) (programName : Option String) (script : Script) : String :=
  String.join ((error.renderedLines programName script).map fun line => line ++ "\n")

end RunError

end TapeMachine
