import TapeMachine.Device.Basic

/-! # Observed devices

An observed device answers like the device it wraps, and its world also holds what an observer made
of the calls and their answers so far. One observer keeps the calls in order, another counts them.
-/

namespace TapeMachine

universe u v

/-- A call of a session to its device, with the answer. -/
inductive Call where
  | read (answer : Except IoFailure (Option UInt8))
  | write (byte : UInt8) (answer : Except IoFailure Unit)
  | flush (answer : Except IoFailure Unit)

/-- The device that answers like `device` while `observe` takes note of every call. -/
def Device.observed {World : Type u} {Notes : Type v} (device : Device World)
    (observe : Notes → Call → Notes) : Device (World × Notes) where
  read observed :=
    let (answer, world) := device.read observed.1
    (answer, (world, observe observed.2 (.read answer)))
  write byte observed :=
    let (answer, world) := device.write byte observed.1
    (answer, (world, observe observed.2 (.write byte answer)))
  flush observed :=
    let (answer, world) := device.flush observed.1
    (answer, (world, observe observed.2 (.flush answer)))

/-- The calls made so far, oldest first. -/
abbrev CallLog := List Call

/-- Keep a call behind those made before. -/
def CallLog.add (log : CallLog) (call : Call) : CallLog := log ++ [call]

/-- The numbers of calls made so far, failed ones included. -/
structure CallCount where
  reads : Nat
  writes : Nat
  flushes : Nat
deriving DecidableEq, Repr

namespace CallCount

def zero : CallCount := ⟨0, 0, 0⟩

def add (count : CallCount) : Call → CallCount
  | .read _ => { count with reads := count.reads + 1 }
  | .write _ _ => { count with writes := count.writes + 1 }
  | .flush _ => { count with flushes := count.flushes + 1 }

end CallCount

end TapeMachine
