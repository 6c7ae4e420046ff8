import StepMachine.Config
import StepMachine.Eval.Statement
import StepMachine.Worker.Thread

/-! Machines that run one program, all at once or statement by statement. -/

namespace StepMachine

/-- A thread that runs a program. -/
abbrev ProgramThread := Thread View Int32 Fault

namespace Program

/-- Runs the program from a fresh state until it ends or may not go on. Whatever it holds in the
end is freed. -/
def runFrom (start : Context) (entryPoint : String) : Rest View Int32 Fault :=
  match Exec.runProgram entryPoint start with
  | .ok status context =>
    .ended context.tearDown.view (.finished status) (start.grants - context.grants)
  | .error (.fault error) context =>
    .ended context.tearDown.view (.failed ⟨error, context.location⟩)
      (start.grants - context.grants)
  -- A program that is called off while it waits frees what it holds as well.
  | .error (.suspended view) context => .parked view context.tearDown.view

/-- The program as a worker, for which a step is a statement. A short record of the statements
is kept while it is held back. -/
def worker (program : Program) (heap : Heap) (config : Config) : Worker View Int32 Fault where
  idle := { heap }
  paced grants :=
    -- Every grant runs the program from its start, which always goes the same way.
    let start := Context.start program heap config.maxCallDepth grants
    runFrom { start with journal := .brief [] } config.entryPoint
  free patience :=
    runFrom (Context.start program heap config.maxCallDepth patience) config.entryPoint

/-- The program on a thread of its own; `spawns` says for which stacks the host can make one. -/
def thread (program : Program) (heap : Heap) (config : Config) (spawns : Nat → Bool) :
    ProgramThread where
  worker := program.worker heap config
  spawnable := spawns config.workerStack

end Program

/-- Misuse of a machine. -/
inductive MachineError where
  | alreadyStarted
  | notStarted
  | notRunning
  | notFinished
  | config (cause : ConfigError)
  | thread (cause : ThreadError)
  | memory (cause : MemoryError)
  deriving DecidableEq

namespace MachineError

/-- The wording of a machine error. -/
def message : MachineError → String
  | alreadyStarted => "virtual machine has already been started"
  | notStarted => "virtual machine has not been started"
  | notRunning => "virtual machine is not running"
  | notFinished => "program has not finished normally"
  | config cause => "invalid configuration: " ++ cause.message
  | thread cause => cause.message
  | memory cause => cause.message

end MachineError

namespace Thread

/-- The exit status of a program that ended normally. -/
def exitStatus (thread : ProgramThread) : Except MachineError Int32 :=
  match thread.outcome? with
  | some (.finished status) => .ok status
  | _ => .error .notFinished

/-- The fault that ended a program. -/
def fault? (thread : ProgramThread) : Option Fault :=
  match thread.outcome? with
  | some (.failed fault) => some fault
  | _ => none

end Thread

/-- How far a machine has come. -/
inductive Phase where
  | notStarted
  | running
  | terminated
  deriving DecidableEq

/-- A machine that runs one program once. -/
structure Machine where
  thread : ProgramThread
  phase : Phase := .notStarted

namespace Machine

/-- Calls of the host; one that fails may still have changed the machine. -/
abbrev Call := EStateM MachineError Machine

/-- A machine for a program, if the settings can be honoured. Whether the host can make a thread for
it shows only when it is started. -/
def create (program : Program) (config : Config) (spawns : Nat → Bool) :
    Except MachineError Machine := do
  -- Settings are refused before any memory is set aside.
  config.validate.mapError .config
  let heap ← (Heap.create config.heapSize config.unitSize).mapError .memory
  return { thread := program.thread heap config spawns }

/-- Whether the program was started and has not ended. -/
def isRunning (machine : Machine) : Bool :=
  machine.phase = .running && machine.thread.isRunning

/-- What the host can see of the program. -/
def view (machine : Machine) : View := machine.thread.view

/-- Makes a call on the machine's thread. -/
def onThread (call : Thread.Call View Int32 Fault Unit) : Call Unit := fun machine =>
  match call machine.thread with
  | .ok _ thread => .ok () { machine with thread }
  | .error cause thread => .error (.thread cause) { machine with thread }

/-- Leaves the initial phase, which can be done once. -/
def start : Call Unit := do
  if (← get).phase = .notStarted then modify fun machine => { machine with phase := .running }
  else throw .alreadyStarted

/-- Enters the last phase once the program has ended. -/
def settle : Call Unit :=
  modify fun machine =>
    if machine.thread.isRunning then machine else { machine with phase := .terminated }

/-- Runs the whole program. -/
def runAll (patience : Nat) : Call Unit := do
  start
  -- A thread that cannot be made leaves a machine that was started and never ran.
  onThread (Thread.startFree patience)
  settle

/-- Starts the program, which waits before its first statement. -/
def startStepping : Call Unit := do
  start
  onThread Thread.startStepping

/-- Runs one statement. -/
def step : Call Unit := do
  match (← get).phase with
  | .notStarted => throw .notStarted
  | .terminated => throw .notRunning
  | .running =>
    -- The program may have ended since the phase was last looked at.
    if (← get).thread.isRunning then
      onThread Thread.grant
      settle
    else
      modify fun machine => { machine with phase := .terminated }
      throw .notRunning

/-- Runs statements one after the other while the program is running, at most `limit` of them;
returns how many. -/
def advance (limit : Nat) : Call Nat := do
  if (← get).isRunning then
    let (steps, thread) := (← get).thread.advance limit
    modify fun machine => { machine with thread }
    settle
    return steps
  else return 0

/-- Stops the program for good. -/
def terminate (machine : Machine) : Machine :=
  { thread := machine.thread.terminate, phase := .terminated }

/-- The exit status of a program that ended normally. -/
def exitCode (machine : Machine) : Except MachineError Int32 := machine.thread.exitStatus

/-- The fault that ended the program. -/
def fault? (machine : Machine) : Option Fault := machine.thread.fault?

end Machine

end StepMachine
