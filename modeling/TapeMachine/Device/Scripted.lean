import TapeMachine.Device.Basic

/-! # Scripted streams

A scripted reader answers its calls from a list of prepared items, and so does a scripted writer.
The stream source turns calls of a reader into bytes: an interrupted call is made again, and a call
that delivers nothing means that the input is exhausted for now. The stream sink writes each byte
whole: an interrupted write is made again, a write that takes nothing fails. A flush is made once.
A call is interrupted also if it fails with a failure of that kind.
-/

namespace TapeMachine

/-- A prepared answer to one call of a reader. -/
inductive ReadItem where
  | byte (value : UInt8)
  | endOfFile
  | interrupted
  | fail (failure : IoFailure)
deriving DecidableEq, Repr

/-- A reader with the answers it still has, and the number of calls made. -/
structure ScriptedReader where
  items : List ReadItem
  calls : Nat
deriving DecidableEq, Repr

inductive WriteItem where
  | ok
  | zero
  | interrupted
  | fail (failure : IoFailure)
deriving DecidableEq, Repr

inductive FlushItem where
  | ok
  | interrupted
  | fail (failure : IoFailure)
deriving DecidableEq, Repr

/-- A writer with the answers it still has, the bytes it took, and the numbers of calls made. When
its answers are used up it takes everything. -/
structure ScriptedWriter where
  writes : List WriteItem
  flushes : List FlushItem
  taken : Array UInt8
  writeCalls : Nat
  flushCalls : Nat
deriving DecidableEq, Repr

/-- The failure of a write that takes nothing. -/
def IoFailure.writeZero : IoFailure := ⟨.writeZero, "failed to write whole buffer"⟩

/-- The failure of a flush that a signal interrupts. -/
def IoFailure.interrupted : IoFailure := ⟨.interrupted, "signal"⟩

namespace ScriptedReader

def ofItems (items : List ReadItem) : ScriptedReader := ⟨items, 0⟩

/-- Ask for a byte, as often as the call is interrupted, with `calls` calls made before. -/
def readFrom (calls : Nat) : List ReadItem → Except IoFailure (Option UInt8) × ScriptedReader
  | [] => (.ok none, ⟨[], calls + 1⟩)
  | .byte value :: rest => (.ok (some value), ⟨rest, calls + 1⟩)
  | .endOfFile :: rest => (.ok none, ⟨rest, calls + 1⟩)
  | .interrupted :: rest => readFrom (calls + 1) rest
  | .fail failure :: rest =>
    if failure.kind = .interrupted then readFrom (calls + 1) rest
    else (.error failure, ⟨rest, calls + 1⟩)

end ScriptedReader

namespace ScriptedWriter

def ofItems (writes : List WriteItem) (flushes : List FlushItem) : ScriptedWriter :=
  ⟨writes, flushes, #[], 0, 0⟩

/-- Offer a byte, as often as the call is interrupted, to a writer that has the answers `items`. -/
def writeTo (writer : ScriptedWriter) (value : UInt8) :
    List WriteItem → Except IoFailure Unit × ScriptedWriter
  | [] =>
    (.ok (), { writer with
      writes := [], taken := writer.taken.push value, writeCalls := writer.writeCalls + 1 })
  | .ok :: rest =>
    (.ok (), { writer with
      writes := rest, taken := writer.taken.push value, writeCalls := writer.writeCalls + 1 })
  | .zero :: rest =>
    (.error .writeZero, { writer with writes := rest, writeCalls := writer.writeCalls + 1 })
  | .interrupted :: rest =>
    writeTo { writer with writeCalls := writer.writeCalls + 1 } value rest
  | .fail failure :: rest =>
    if failure.kind = .interrupted then
      writeTo { writer with writeCalls := writer.writeCalls + 1 } value rest
    else (.error failure, { writer with writes := rest, writeCalls := writer.writeCalls + 1 })

def flush (writer : ScriptedWriter) : Except IoFailure Unit × ScriptedWriter :=
  let called := { writer with
    flushes := writer.flushes.tail, flushCalls := writer.flushCalls + 1 }
  match writer.flushes with
  | [] | .ok :: _ => (.ok (), called)
  | .interrupted :: _ => (.error .interrupted, called)
  | .fail failure :: _ => (.error failure, called)

end ScriptedWriter

def Source.stream : Source ScriptedReader where
  read reader := ScriptedReader.readFrom reader.calls reader.items

def Sink.stream : Sink ScriptedWriter where
  write value writer := writer.writeTo value writer.writes
  flush writer := writer.flush

end TapeMachine
