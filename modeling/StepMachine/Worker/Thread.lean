import StepMachine.Worker.Basic

/-! A worker on a thread of its own, controlled by its host. -/

namespace StepMachine

/-- Misuse of a thread. -/
inductive ThreadError where
  | alreadyStarted
  | notStarted
  | notStepping
  | terminated
  /-- The host could not start the worker. -/
  | spawn
  deriving DecidableEq

namespace ThreadError

/-- The wording of a thread error. -/
def message : ThreadError → String
  | alreadyStarted => "worker has already been started"
  | notStarted => "worker has not been started"
  | notStepping => "worker is not in step mode"
  | terminated => "worker has been terminated"
  | spawn => "failed to spawn worker thread"

end ThreadError

/-- What holds for a started worker at its next step. -/
inductive Mode where
  /-- It goes on at once. -/
  | free
  /-- It waits for a grant. -/
  | stepping
  /-- It gives up. -/
  | terminating
  deriving DecidableEq

/-- How far a thread has come. -/
inductive ThreadStatus (ν α ε : Type) where
  | unstarted
  /-- The worker is gone and never ran. -/
  | discarded
  /-- The worker was started; it has been granted so many steps and has come to rest. -/
  | started (mode : Mode) (granted : Nat) (rest : Rest ν α ε)

/-- A worker and how far it has come. -/
structure Thread (ν α ε : Type) where
  worker : Worker ν α ε
  /-- Whether the host is able to start the worker. -/
  spawnable : Bool
  status : ThreadStatus ν α ε := .unstarted

namespace Thread

/-- Calls of the host; one that fails may still have changed the thread. -/
abbrev Call (ν α ε : Type) := EStateM ThreadError (Thread ν α ε)

/-- Whether the worker was started. -/
def isStarted (thread : Thread ν α ε) : Bool :=
  match thread.status with
  | .started _ _ _ => true
  | _ => false

/-- Whether the worker was started and has not ended. -/
def isRunning (thread : Thread ν α ε) : Bool :=
  match thread.status with
  | .started _ _ rest => !rest.isEnded
  | _ => false

/-- How the worker ended, if it has. -/
def outcome? (thread : Thread ν α ε) : Option (Outcome α ε) :=
  match thread.status with
  | .started _ _ rest => rest.outcome?
  | _ => none

/-- What can be seen of the worker. -/
def view (thread : Thread ν α ε) : ν :=
  match thread.status with
  | .started _ _ rest => rest.view
  | _ => thread.worker.idle

/-- Starts the worker, which is used up even if that fails. -/
def spawn (mode : Mode) (rest : Worker ν α ε → Rest ν α ε) : Call ν α ε Unit := fun thread =>
  match thread.status with
  | .started _ _ _ => .error .alreadyStarted thread
  | .discarded => .error .terminated thread
  | .unstarted =>
    -- A worker that cannot be started is lost, and the thread with it.
    if thread.spawnable then .ok () { thread with status := .started mode 0 (rest thread.worker) }
    else .error .spawn { thread with status := .discarded }

/-- Starts the worker without holding it back. -/
def startFree (patience : Nat) : Call ν α ε Unit := spawn .free (·.free patience)

/-- Starts the worker, which waits before its first step. -/
def startStepping : Call ν α ε Unit := spawn .stepping (·.paced 0)

/-- Grants one step. A worker that has ended makes no use of it. -/
def grant : Call ν α ε Unit := fun thread =>
  match thread.status with
  | .unstarted | .discarded => .error .notStarted thread
  | .started .free _ _ => .error .notStepping thread
  | .started .terminating _ _ => .error .terminated thread
  | .started .stepping granted rest =>
    -- Being granted one more step is being granted all of them from the start on.
    let rest := if rest.isEnded then rest else thread.worker.paced (granted + 1)
    .ok () { thread with status := .started .stepping (granted + 1) rest }

/-- Grants steps one after the other while the worker is running, at most `limit` of them; returns
how many. -/
def advance (limit : Nat) (thread : Thread ν α ε) : Nat × Thread ν α ε :=
  match thread.status with
  | .started .stepping granted (.parked _ _) =>
    match thread.worker.paced (granted + limit) with
    | .parked view abandoned =>
      (limit, { thread with
        status := .started .stepping (granted + limit) (.parked view abandoned) })
    | .ended view outcome steps =>
      (steps - granted, { thread with
        status := .started .stepping steps (.ended view outcome steps) })
  | _ => (0, thread)

/-- Cancels the worker unless it has ended; one that was not started will never be. -/
def terminate (thread : Thread ν α ε) : Thread ν α ε :=
  match thread.status with
  | .unstarted | .discarded => { thread with status := .discarded }
  -- What remains of a worker that waits is known beforehand.
  | .started _ granted (.parked _ abandoned) =>
    { thread with status := .started .terminating granted (.ended abandoned .cancelled granted) }
  | .started _ _ (.ended _ _ _) => thread

end Thread

end StepMachine
