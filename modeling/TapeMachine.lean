import TapeMachine.Expectation
import TapeMachine.Main
import TapeMachine.Program.Reading
import TapeMachine.Proofs.Bounds
import TapeMachine.Proofs.Causality
import TapeMachine.Proofs.CommandGrammar
import TapeMachine.Proofs.ControlFlow
import TapeMachine.Proofs.Displacement
import TapeMachine.Proofs.EntryPoints
import TapeMachine.Proofs.Faults
import TapeMachine.Proofs.FirstBytes
import TapeMachine.Proofs.JumpMarks
import TapeMachine.Proofs.PendingLoops
import TapeMachine.Proofs.Sequencing
import TapeMachine.Proofs.Sessions
import TapeMachine.Proofs.SymbolStream
import TapeMachine.Proofs.Unfolding
import TapeMachine.Proofs.Unrolling
