import TapeMachine.Device.Scripted
import TapeMachine.Device.Text
import TapeMachine.Session.Run

/-! # A script in one go

A script is accepted and run at once, without a control, on a tape of the usual size. A refused
script makes no call to its device.
-/

namespace TapeMachine

universe u

/-- The number of cells of a tape whose size nobody chose. -/
def defaultCells : Nat := 30000

/-- The usual tape has a cell. -/
instance : HasCell defaultCells := ⟨by decide⟩

namespace Script

variable {World : Type u}

/-- Run a script against a device for at most `count` steps. There is no answer if its session is
still running then. -/
def run? (script : Script) (device : Device World) (count : Nat) (world : World) :
    Option (Except RunError (Halted defaultCells) × World) :=
  match Program.load script with
  | .error unmatched => some (.error (.script unmatched), world)
  | .ok program =>
    (program.run? device .none defaultCells count world).map fun report =>
      (report.result.mapError .exec, report.world)

/-- Run a script against a text; the answer is what it printed, one character for each byte. What
it printed before an error is dropped. -/
def runText? (script : Script) (count : Nat) (input : List Char) :
    Option (Except RunError String) :=
  (script.run? (.ofEnds .text .bytes) count (input, #[])).map fun (result, _, printed) =>
    result.map fun _ => latinText printed

/-- Run a script between a reader and a writer. -/
def runStream? (script : Script) (count : Nat) (reader : ScriptedReader) (writer : ScriptedWriter) :
    Option (Except RunError Unit × ScriptedReader × ScriptedWriter) :=
  (script.run? (.ofEnds .stream .stream) count (reader, writer)).map fun (result, ends) =>
    (result.map fun _ => (), ends)

end Script

end TapeMachine
