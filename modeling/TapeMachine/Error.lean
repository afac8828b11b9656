import TapeMachine.Device.Basic
import TapeMachine.Script.Partner

/-! # Errors and exit codes

A script can be refused before it runs, and a session can stop before the end of its script. Each
cause is a constructor here, with its message and the position it names, if it names one. Each
kind of error has an exit code of its own.
-/

namespace TapeMachine

/-- Why a session stopped before the end of its script. -/
inductive ExecError where
  /-- The input instruction at the position found the input exhausted. -/
  | noMoreInput (position : Nat)
  /-- The transport failed for the instruction at the position, or for the flush at the end. -/
  | io (position : Nat) (failure : IoFailure)
  /-- A bracket of an accepted script had no partner. -/
  | internal (fault : LoopFault)
  /-- The session was about to exceed its step limit. -/
  | stepLimitExceeded (limit : Nat)
  /-- The cancel flag was up. -/
  | cancelled
deriving DecidableEq, Repr

namespace ExecError

def position? : ExecError → Option Nat
  | noMoreInput position => some position
  | io position _ => some position
  | internal fault => some fault.position
  | stepLimitExceeded _ => none
  | cancelled => none

def message : ExecError → String
  | noMoreInput position => s!"No more input at instruction {position}"
  | io position failure => s!"I/O error at instruction {position}: {failure.text}"
  | internal fault => s!"Internal invariant violated: {fault.message}"
  | stepLimitExceeded limit => s!"Execution aborted: step limit exceeded ({limit})"
  | cancelled => "Execution aborted: cancelled"

end ExecError

/-- Why a script did not run to its end: it was refused, or its session stopped. -/
inductive RunError where
  | script (unmatched : UnmatchedBracket)
  | exec (error : ExecError)
deriving DecidableEq, Repr

/-- The outcomes of the command that have an exit code. -/
inductive ExitCode where
  | ok
  | aborted
  | usage
  | noMoreInput
  | ioFailure
  | invalidScript
  | internal
deriving DecidableEq, Repr

/-- The number that a process ends with. -/
def ExitCode.toNat : ExitCode → Nat
  | ok => 0
  | aborted => 1
  | usage => 2
  | noMoreInput => 3
  | ioFailure => 4
  | invalidScript => 5
  | internal => 70

namespace RunError

def message : RunError → String
  | script unmatched => unmatched.message
  | exec error => error.message

def exitCode : RunError → ExitCode
  | script _ => .invalidScript
  | exec (.noMoreInput _) => .noMoreInput
  | exec (.io _ _) => .ioFailure
  | exec (.internal _) => .internal
  | exec (.stepLimitExceeded _) => .aborted
  | exec .cancelled => .aborted

end RunError

end TapeMachine
