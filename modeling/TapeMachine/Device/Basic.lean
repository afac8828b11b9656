/-! # Devices

A session talks to the world through a device: it asks for a byte, hands over a byte, and flushes
once at its end. A device is any state machine that answers these three calls. An input that is
exhausted answers `none`; failure of the transport is a different answer.
-/

namespace TapeMachine

universe u v

inductive FailureKind where
  | brokenPipe
  | connectionReset
  | interrupted
  | invalidData
  | permissionDenied
  | timedOut
  | unexpectedEof
  | wouldBlock
  | writeZero
  | other
deriving DecidableEq, Repr

/-- A failure of a transport, with the text that explains it. -/
structure IoFailure where
  kind : FailureKind
  text : String
deriving DecidableEq, Repr

/-- A world that answers the calls of a session, and changes by them. -/
structure Device (World : Type u) where
  /-- The next byte, or `none` when the input is exhausted. -/
  read : World → Except IoFailure (Option UInt8) × World
  /-- Take a byte. -/
  write : UInt8 → World → Except IoFailure Unit × World
  /-- Pass on the bytes taken so far. -/
  flush : World → Except IoFailure Unit × World

/-- The input half of a device. -/
structure Source (World : Type u) where
  read : World → Except IoFailure (Option UInt8) × World

/-- The output half of a device. -/
structure Sink (World : Type u) where
  write : UInt8 → World → Except IoFailure Unit × World
  flush : World → Except IoFailure Unit × World

/-- The device made of a source and a sink that do not touch each other. -/
def Device.ofEnds {In : Type u} {Out : Type v} (source : Source In) (sink : Sink Out) :
    Device (In × Out) where
  read world :=
    let (answer, input) := source.read world.1
    (answer, (input, world.2))
  write byte world :=
    let (answer, output) := sink.write byte world.2
    (answer, (world.1, output))
  flush world :=
    let (answer, output) := sink.flush world.2
    (answer, (world.1, output))

end TapeMachine
