import TapeMachine.Main
import TapeMachine.Session
import TapeMachine.Proofs.Atomicity
import TapeMachine.Proofs.Bounds
import TapeMachine.Proofs.Clearing
import TapeMachine.Proofs.CommandReport
import TapeMachine.Proofs.Copying
import TapeMachine.Proofs.DumpRows
import TapeMachine.Proofs.InputUnits
import TapeMachine.Proofs.Location
import TapeMachine.Proofs.Markup
import TapeMachine.Proofs.Multiplication
import TapeMachine.Proofs.Pairing
import TapeMachine.Proofs.Prefix
import TapeMachine.Proofs.Printing
import TapeMachine.Proofs.RoundTrip
import TapeMachine.Proofs.SessionHistory
import TapeMachine.Proofs.StoredScript
import TapeMachine.Proofs.StreamBytes
import TapeMachine.Proofs.Strip
import TapeMachine.Proofs.TapeThreshold
import TapeMachine.Proofs.Translation
import TapeMachine.Proofs.WidgetHistory
