import TapeMachine.Script.JumpTable
import TapeMachine.Strategy

/-! # Programs

A program is a script that has been accepted, with its table of partners and a strategy. It carries
the evidence of both, so whoever holds a program holds a balanced script and the right table.
A program does not change when it runs, and it can run any number of times.
-/

namespace TapeMachine

/-- An accepted script, ready to run. -/
structure Program where
  script : Script
  table : JumpTable
  strategy : Strategy
  balanced : script.check = .ok ()
  table_eq : table = JumpTable.ofScript script

namespace Program

/-- Accept a script, or name the bracket for which it is refused. -/
def load (script : Script) : Except UnmatchedBracket Program :=
  match accepted : script.check with
  | .error unmatched => .error unmatched
  | .ok () =>
    .ok {
      script
      table := .ofScript script
      strategy := .default
      balanced := accepted
      table_eq := rfl }

/-- A script is refused for the bracket that the check names, and for nothing else. -/
theorem load_eq_error_iff {script : Script} {unmatched : UnmatchedBracket} :
    load script = .error unmatched ↔ script.check = .error unmatched := by
  unfold load
  split <;> simp_all

/-- The program of an accepted script runs that script. -/
theorem script_of_load {script : Script} {program : Program} (loaded : load script = .ok program) :
    program.script = script := by
  unfold load at loaded
  split at loaded
  · cases loaded
  · cases loaded
    rfl

def withStrategy (program : Program) (strategy : Strategy) : Program := { program with strategy }

def empty : Program where
  script := #[]
  table := .ofScript #[]
  strategy := .default
  balanced := rfl
  table_eq := rfl

/-- The partner of a bracket, found by the strategy of the program. -/
def partner (program : Program) (position : Nat) : Except LoopFault Nat :=
  match program.strategy with
  | .scan => program.script.partner position
  | .table => program.table.partner position

end Program

end TapeMachine
