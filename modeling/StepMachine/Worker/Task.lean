import StepMachine.Worker.Basic

/-! Tasks that ask before each of their steps, and where such a task comes to rest when it is
granted a number of them. -/

namespace StepMachine

/-- What a thread leaves to the one who joins it. -/
inductive Exit (α ε : Type) where
  /-- The worker came to its end, or gave up as it was told to. -/
  | returned (outcome : Outcome α ε)
  | crashed (crash : Crash)
  deriving DecidableEq

/-- How the worker ended, as the one who joins its thread tells it. -/
def Exit.outcome : Exit α ε → Outcome α ε
  | returned outcome => outcome
  | crashed crash => .crashed crash

/-- How a task ends by itself. -/
inductive Ending (α ε : Type) where
  | finishes (result : α)
  | fails (error : ε)
  | crashes (crash : Crash)

namespace Ending

/-- What the thread leaves behind of a task that ended by itself. -/
def exit : Ending α ε → Exit α ε
  | finishes result => .returned (.finished result)
  | fails error => .returned (.failed error)
  | crashes crash => .crashed crash

/-- How a worker ended that ended by itself. -/
def outcome (ending : Ending α ε) : Outcome α ε := ending.exit.outcome

/-- A worker that ends by itself was not called off. -/
theorem outcome_ne_cancelled (ending : Ending α ε) : ending.outcome ≠ .cancelled := by
  -- Each of the three ways to end has an outcome of its own.
  cases ending <;> nofun

end Ending

/-- What a task comes to when it has taken a number of steps. -/
inductive Turn (μ α ε : Type) where
  /-- It asks for one more step, which then changes what can be seen. -/
  | asks (effect : μ → μ)
  | ends (ending : Ending α ε)

/-- A loop that asks before each of its steps; `μ` is what can be seen of it. -/
structure Task (μ α ε : Type) where
  /-- What can be seen before the first step. -/
  initial : μ
  /-- What comes after so many steps. -/
  turn : (taken : Nat) → Turn μ α ε

namespace Task

/-- A task that writes down the numbers below `steps`, one a step, and then ends. -/
def counting (steps : Nat) (ending : Ending Nat String) : Task (List Nat) Nat String where
  initial := []
  turn taken := if taken < steps then .asks (· ++ [taken]) else .ends ending

/-- A task that goes on for ever and writes nothing down. -/
def endless : Task (List Nat) Nat String where
  initial := []
  turn _ := .asks id

/-- Where the task comes to rest from some step on, with so many grants left. -/
def rest (task : Task μ α ε) (taken : Nat) (memory : μ) : (grants : Nat) → Rest μ α ε
  | 0 =>
    match task.turn taken with
    | .asks _ => .parked memory memory
    | .ends ending => .ended memory ending.outcome taken
  | grants + 1 =>
    match task.turn taken with
    | .asks effect => task.rest (taken + 1) (effect memory) grants
    | .ends ending => .ended memory ending.outcome taken

/-- The task as a worker. One that is called off leaves behind what it has done, and one that
nothing holds back takes its steps as if they were granted. -/
def worker (task : Task μ α ε) : Worker μ α ε where
  idle := task.initial
  paced := task.rest 0 task.initial
  free := task.rest 0 task.initial

end Task

end StepMachine
