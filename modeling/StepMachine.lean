import StepMachine.Machine
import StepMachine.Proofs.Context.Ownership
import StepMachine.Proofs.Eval.EarlyReturn
import StepMachine.Proofs.Machine.Stepping
import StepMachine.Proofs.Stack.Discipline
import StepMachine.Worker.Handshake
import StepMachine.Proofs.Eval.Suspension
import StepMachine.Proofs.Machine.Cancellation
import StepMachine.Proofs.Context.Housing
import StepMachine.Proofs.Exec.Growth
import StepMachine.Proofs.Heap.Bytes
import StepMachine.Proofs.Lexical.Interpreter
import StepMachine.Proofs.Lexical.Numbers
import StepMachine.Proofs.Lexical.Refinement
import StepMachine.Proofs.Machine.Limits
import StepMachine.Proofs.Machine.ScalarPrograms
import StepMachine.Proofs.Eval.Interpreter
import StepMachine.Proofs.Eval.Metered
import StepMachine.Proofs.Machine.Progress
import StepMachine.Proofs.Eval.Traced
import StepMachine.Proofs.Context.Reachable
import StepMachine.Proofs.Machine.Faults
import StepMachine.Proofs.Worker.Calls
import StepMachine.Proofs.Context.Stores
import StepMachine.Proofs.Heap.Custody
import StepMachine.Proofs.Machine.Lifecycle
import StepMachine.Proofs.Wary.Basic
import StepMachine.Proofs.Wary.Heap
import StepMachine.Proofs.Wary.Objects
import StepMachine.Proofs.Context.Shape
import StepMachine.Proofs.Wary.Interpreter
import StepMachine.Proofs.Wary.Safety
import StepMachine.Proofs.Wary.Steps
import StepMachine.Proofs.Wary.Agreement
import StepMachine.Proofs.Machine.Crashes
import StepMachine.Proofs.Eval.Ordinary
import StepMachine.Proofs.Machine.OwnRules
import StepMachine.Proofs.Heap.FirstFit
import StepMachine.Proofs.Heap.Liveness
import StepMachine.Proofs.Context.Account
import StepMachine.Proofs.Context.Dynamic
import StepMachine.Proofs.Eval.Departure
import StepMachine.Proofs.Eval.Operands
import StepMachine.Proofs.Context.StructResults
import StepMachine.Proofs.Eval.Places
import StepMachine.Proofs.Heap.RoundTrip
import StepMachine.Proofs.Eval.Arithmetic
import StepMachine.Proofs.Context.Declaration
import StepMachine.Proofs.Eval.Members
import StepMachine.Proofs.Context.StringTable
import StepMachine.Proofs.Eval.Formatting
import StepMachine.Proofs.Machine.Output
import StepMachine.Proofs.Heap.Scalars
import StepMachine.Proofs.Heap.Scan
import StepMachine.Proofs.Heap.Slices
import StepMachine.Proofs.Heap.Release
import StepMachine.Proofs.Context.Reordered
import StepMachine.Proofs.Exec.Unordered
import StepMachine.Proofs.Context.Teardown
import StepMachine.Worker.Task
import StepMachine.Worker.Hosted
import StepMachine.Heap.Packed
import StepMachine.Proofs.Heap.Packed
import StepMachine.Proofs.Worker.Settling
import StepMachine.Proofs.Worker.AtRest
import StepMachine.Proofs.Worker.Course
