import TapeMachine.Main
import TapeMachine.Proofs.Adequacy
import TapeMachine.Proofs.Bounds
import TapeMachine.Proofs.StrategyIndependence
import TapeMachine.Proofs.StepLimit
import TapeMachine.Proofs.Unmatched
import TapeMachine.Proofs.Acceptance
import TapeMachine.Proofs.Ending
import TapeMachine.Proofs.Cancellation
import TapeMachine.Proofs.CallProtocol
import TapeMachine.Proofs.Insertion
import TapeMachine.Proofs.EntryPoints
import TapeMachine.Proofs.Conservation
import TapeMachine.Proofs.UnreadInput
import TapeMachine.Proofs.Walk
import TapeMachine.Proofs.Refusal
import TapeMachine.Proofs.Guards
import TapeMachine.Proofs.KeptOutput
import TapeMachine.Proofs.CommandOutcome
import TapeMachine.Proofs.Counters
import TapeMachine.Proofs.Parallel
import TapeMachine.Proofs.TapeSize
import TapeMachine.Proofs.Symmetry
import TapeMachine.Proofs.Interruptions
import TapeMachine.Proofs.Culprit
import TapeMachine.Proofs.Trace
import TapeMachine.Proofs.Echo
import TapeMachine.Proofs.Layers
import TapeMachine.Proofs.WrittenConfig
import TapeMachine.Proofs.Unreadable
