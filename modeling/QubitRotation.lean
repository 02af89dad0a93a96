import QubitRotation.Angle
import QubitRotation.Axis
import QubitRotation.Capped
import QubitRotation.Circuit
import QubitRotation.Decimal.Shortest
import QubitRotation.Fault
import QubitRotation.Files
import QubitRotation.Gate
import QubitRotation.Gate.Algebra
import QubitRotation.Hardware.Costs
import QubitRotation.Hardware.Timing
import QubitRotation.Journal
import QubitRotation.Json.Fault
import QubitRotation.Json.Model
import QubitRotation.Json.Number
import QubitRotation.Json.Reader
import QubitRotation.Json.Record
import QubitRotation.Json.Skip
import QubitRotation.Json.Text
import QubitRotation.Json.Value
import QubitRotation.Main
import QubitRotation.Notation
import QubitRotation.Numeral
import QubitRotation.Optimization
import QubitRotation.Proofs.Capped
import QubitRotation.Proofs.Gate.Algebra
import QubitRotation.Proofs.Hardware.RunningTime
import QubitRotation.Proofs.Json.Containers
import QubitRotation.Proofs.Json.Grammar
import QubitRotation.Proofs.Json.Number
import QubitRotation.Proofs.Json.Reading
import QubitRotation.Proofs.Json.RoundTrip
import QubitRotation.Proofs.Json.Settings
import QubitRotation.Proofs.Json.Text
import QubitRotation.Proofs.Lists
import QubitRotation.Proofs.Notation
import QubitRotation.Proofs.Notation.Faults
import QubitRotation.Proofs.Numeral
import QubitRotation.Proofs.Optimization.HalfTurns
import QubitRotation.Proofs.Optimization.Idempotence
import QubitRotation.Proofs.Optimization.Independence
import QubitRotation.Proofs.Optimization.LoneTurn
import QubitRotation.Proofs.Optimization.NativeForm
import QubitRotation.Proofs.Optimization.Outcome
import QubitRotation.Proofs.Optimization.Report
import QubitRotation.Proofs.Optimization.Savings
import QubitRotation.Proofs.Random.Generator
import QubitRotation.Proofs.Reduction.Accounting
import QubitRotation.Proofs.Reduction.Budget
import QubitRotation.Proofs.Reduction.Convergence
import QubitRotation.Proofs.Reduction.Cutoff
import QubitRotation.Proofs.Reduction.FixedPoint
import QubitRotation.Proofs.Reduction.Merging
import QubitRotation.Proofs.Reduction.Passes
import QubitRotation.Proofs.Reduction.Provenance
import QubitRotation.Proofs.Reduction.Reflection
import QubitRotation.Proofs.Reduction.Replacement
import QubitRotation.Proofs.Reduction.Rewriting
import QubitRotation.Proofs.Reduction.Runs
import QubitRotation.Proofs.Reduction.Symmetry
import QubitRotation.Proofs.Results
import QubitRotation.Proofs.Rotation.Native
import QubitRotation.Proofs.Rotation.Preservation
import QubitRotation.Proofs.Rotation.Space
import QubitRotation.Proofs.Rotation.Spin
import QubitRotation.Proofs.Rotation.System
import QubitRotation.Proofs.Shell.Answers
import QubitRotation.Proofs.Shell.Lines
import QubitRotation.Proofs.Shell.Printing
import QubitRotation.Proofs.Shell.Recovery
import QubitRotation.Proofs.Shell.Session
import QubitRotation.Proofs.Text.Blank
import QubitRotation.Random.Draw
import QubitRotation.Random.Generator
import QubitRotation.Random.Stream
import QubitRotation.Reduction.Budget
import QubitRotation.Reduction.Native
import QubitRotation.Reduction.Rule
import QubitRotation.Reduction.Run
import QubitRotation.Reduction.Tally
import QubitRotation.Release
import QubitRotation.Settings
import QubitRotation.Shell.Arguments
import QubitRotation.Shell.Command
import QubitRotation.Shell.Session
import QubitRotation.Text.Blank
import QubitRotation.Text.Printable
import QubitRotation.Text.Quoted
