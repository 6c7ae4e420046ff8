import StepMachine.Worker.Handshake
import StepMachine.Worker.Task

/-! A worker and its host section by section: what the host holds of the worker, what each side does
without interruption, and where a call of the host waits for the worker. -/

namespace StepMachine

/-- A thread of its own that runs a task. -/
structure Runner (μ α ε : Type) where
  task : Task μ α ε
  /-- Steps that the task has taken. -/
  taken : Nat := 0
  /-- What the thread leaves behind, once it has ended. -/
  exit? : Option (Exit α ε) := none

/-- A worker, and all that its host holds of it. -/
structure Hosted (μ α ε : Type) where
  /-- Whether the host is able to make a thread. -/
  spawnable : Bool
  /-- The task, until a thread is made for it or it is dropped. -/
  task? : Option (Task μ α ε)
  /-- The thread that runs the task, until it is joined. -/
  runner? : Option (Runner μ α ε) := none
  /-- How the worker ended, once its thread has been joined. -/
  outcome? : Option (Outcome α ε) := none
  /-- The record that the two share, and where each of them is. -/
  shake : Handshake := { signals := { mode := .free } }
  /-- What can be seen of the worker. -/
  memory : μ

/-- The sections of a worker. -/
inductive WorkerEvent where
  /-- It takes the step that it was let into. -/
  | work
  /-- It comes to its cooperation point and asks. -/
  | cooperate
  /-- It wakes at its cooperation point, with or without reason, and asks again. -/
  | wake
  /-- It ends, by itself or because it was called off. -/
  | finish
  deriving DecidableEq

namespace Hosted

/-- A task that no thread was made for. -/
def fresh (task : Task μ α ε) (spawnable : Bool) : Hosted μ α ε where
  spawnable
  task? := some task
  memory := task.initial

/-- The thread of a worker ends. -/
def leave? (hosted : Hosted μ α ε) (runner : Runner μ α ε) (exit : Exit α ε) :
    Option (Hosted μ α ε) :=
  (hosted.shake.step? .finish).map fun shake =>
    { hosted with shake, runner? := some { runner with exit? := some exit } }

/-- Runs a section of the worker, where it has come to it. -/
def turn? (hosted : Hosted μ α ε) (event : WorkerEvent) : Option (Hosted μ α ε) := do
  let runner ← hosted.runner?
  match event with
  | .work =>
    -- A step is taken only after the worker was let into it.
    if hosted.shake.worker = .working ∧ runner.taken < hosted.shake.begun then
      match runner.task.turn runner.taken with
      | .asks effect => some { hosted with
          memory := effect hosted.memory
          runner? := some { runner with taken := runner.taken + 1 } }
      | .ends _ => none
    else none
  | .cooperate =>
    match runner.task.turn runner.taken with
    | .asks _ =>
      if runner.taken = hosted.shake.begun then
        (hosted.shake.step? .cooperate).map fun shake => { hosted with shake }
      else none
    | .ends _ => none
  | .wake => (hosted.shake.step? .wake).map fun shake => { hosted with shake }
  | .finish =>
    match hosted.shake.worker with
    -- Told to give up, the worker returns at once.
    | .leaving => hosted.leave? runner (.returned .cancelled)
    | .working =>
      match runner.task.turn runner.taken with
      | .asks _ => none
      | .ends ending =>
        if runner.taken = hosted.shake.begun then hosted.leave? runner ending.exit else none
    | .parked | .ended => none

/-- Calls of the host; one that fails may still have changed something. -/
abbrev Call (μ α ε : Type) := EStateM ThreadError (Hosted μ α ε)

/-- Whether the worker was started. -/
def isStarted (hosted : Hosted μ α ε) : Bool := hosted.runner?.isSome || hosted.outcome?.isSome

/-- Whether the worker was started and has not finished. -/
def isRunning (hosted : Hosted μ α ε) : Bool :=
  hosted.runner?.isSome && !hosted.shake.signals.finished

/-- Runs a section of the host on the record; out of turn it does nothing. -/
def onRecord (event : HandshakeEvent) : Call μ α ε Unit :=
  modify fun hosted => { hosted with shake := (hosted.shake.step? event).getD hosted.shake }

/-- Makes a thread for the task, which is used up even if that fails. -/
def spawn (mode : Mode) : Call μ α ε Unit := fun hosted =>
  if hosted.isStarted then .error .alreadyStarted hosted
  else
    match hosted.task? with
    | none => .error .terminated hosted
    | some task =>
      let signals := { hosted.shake.signals with mode }
      if hosted.spawnable then
        .ok () { hosted with
          task? := none, runner? := some { task }, shake := { hosted.shake with signals } }
      else
        -- The task is dropped with its guard, which says that the worker has finished.
        .error .spawn { hosted with
          task? := none
          shake := { hosted.shake with
            signals := { signals with finished := true }, worker := .ended } }

/-- Refuses to step a worker that is not stepped. -/
def ensureStepping : Call μ α ε Unit := fun hosted =>
  if hosted.isStarted then
    match hosted.shake.signals.mode with
    | .stepping => .ok () hosted
    | .free => .error .notStepping hosted
    | .terminating => .error .terminated hosted
  else .error .notStarted hosted

/-- The host joins the thread, if there is one that was not joined, as soon as it has ended. -/
def join? (hosted : Hosted μ α ε) : Option (Hosted μ α ε) :=
  match hosted.runner? with
  | none => some hosted
  | some runner => runner.exit?.map fun exit =>
    { hosted with runner? := none, outcome? := some exit.outcome }

/-- The wait of a cycle ends, and a thread that has finished is joined. -/
def endCycle? (hosted : Hosted μ α ε) : Option (Hosted μ α ε) := do
  let shake ←
    match hosted.shake.host with
    -- There was nothing to wait for.
    | .idle => some hosted.shake
    | .waiting _ => hosted.shake.step? .endCycle
  let hosted := { hosted with shake }
  if shake.signals.finished then hosted.join? else some hosted

/-- A thread that has finished is joined. -/
def reap? (hosted : Hosted μ α ε) : Option (Hosted μ α ε) :=
  if hosted.shake.signals.finished then hosted.join? else some hosted

/-- What the host is told when it asks how the worker ended. -/
def answer? (hosted : Hosted μ α ε) : Option (Outcome α ε) := hosted.reap?.bind (·.outcome?)

end Hosted

/-- What a host can ask of a worker. -/
inductive HostCall where
  /-- Runs the worker to its end. -/
  | runBlocking
  | startFree
  | startStepping
  /-- Grants a step. -/
  | resume
  /-- Grants a step and waits for it. -/
  | cycle
  | terminate
  /-- Asks how the worker ended. -/
  | outcome
  deriving DecidableEq

namespace HostCall

open Hosted (spawn ensureStepping onRecord)

/-- What the host does before it waits for the worker. -/
def opening : HostCall → Hosted.Call μ α ε Unit
  | runBlocking | startFree => spawn .free
  | startStepping => spawn .stepping
  | resume => do
    ensureStepping
    onRecord .resume
  | cycle => do
    ensureStepping
    onRecord .beginCycle
  | terminate => do
    onRecord .terminate
    modify fun hosted => { hosted with task? := none }
  | outcome => pure ()

/-- What the host does after its wait, which ends as soon as this is possible. -/
def closing? : HostCall → Hosted μ α ε → Option (Hosted μ α ε)
  | startFree | startStepping | resume => some
  | runBlocking | terminate => Hosted.join?
  | cycle => Hosted.endCycle?
  | outcome => Hosted.reap?

end HostCall

namespace Hosted

/-- The section that the worker is due to run. -/
def due (hosted : Hosted μ α ε) (runner : Runner μ α ε) : WorkerEvent :=
  match hosted.shake.worker with
  | .parked => .wake
  | .leaving | .ended => .finish
  | .working =>
    if runner.taken < hosted.shake.begun then .work
    else
      match runner.task.turn runner.taken with
      | .asks _ => .cooperate
      | .ends _ => .finish

/-- Runs the section that the worker is due to run, unless it would wake without reason. -/
def next? (hosted : Hosted μ α ε) : Option (Hosted μ α ε) := do
  let runner ← hosted.runner?
  if hosted.shake.worker = .parked ∧ hosted.shake.signals.consult.1 = .wait then none
  else hosted.turn? (hosted.due runner)

/-- Lets the worker run until it has nothing to do, for so many sections at most. -/
def settle : (patience : Nat) → Hosted μ α ε → Hosted μ α ε
  | 0, hosted => hosted
  | patience + 1, hosted =>
    match hosted.next? with
    | none => hosted
    | some next => next.settle patience

end Hosted

/-- Makes a call and lets the worker run until it has nothing to do. There is no answer if the host
still waits then. -/
def HostCall.make? (patience : Nat) (call : HostCall) (hosted : Hosted μ α ε) :
    Option (Except ThreadError Unit × Hosted μ α ε) :=
  match call.opening hosted with
  | .error cause hosted => some (.error cause, hosted.settle patience)
  | .ok _ hosted => (call.closing? (hosted.settle patience)).map fun hosted => (.ok (), hosted)

end StepMachine
