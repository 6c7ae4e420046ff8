import StepMachine.Worker.Thread

/-! The record through which a worker and its host keep pace, and the sections of code that each
of them runs on it without interruption. -/

namespace StepMachine

/-- What a worker and its host share. The counters only grow. -/
structure Signals where
  mode : Mode
  /-- Steps that the host has granted. -/
  requested : Nat := 0
  /-- Grants that the worker has used. -/
  consumed : Nat := 0
  /-- How often the worker has stopped to ask. -/
  arrivals : Nat := 0
  finished : Bool := false
  deriving DecidableEq

/-- What a worker that asks to go on is told. -/
inductive Verdict where
  | proceed
  | wait
  | giveUp
  deriving DecidableEq

namespace Signals

/-- The host grants a step. -/
def request (signals : Signals) : Signals := { signals with requested := signals.requested + 1 }

/-- The host calls the worker off, unless that has finished. -/
def cancel (signals : Signals) : Signals :=
  if signals.finished then signals else { signals with mode := .terminating }

/-- The worker reports that it has stopped to ask, which it does only when it is stepped. -/
def arrive (signals : Signals) : Signals :=
  if signals.mode = .stepping then { signals with arrivals := signals.arrivals + 1 } else signals

/-- The worker looks whether it may go on, and then uses up a grant. -/
def consult (signals : Signals) : Verdict × Signals :=
  match signals.mode with
  | .free => (.proceed, signals)
  | .terminating => (.giveUp, signals)
  | .stepping =>
    -- Grants may be given ahead, and are used one by one.
    if signals.consumed < signals.requested then
      (.proceed, { signals with consumed := signals.consumed + 1 })
    else (.wait, signals)

end Signals

/-- Where the worker is. -/
inductive WorkerPlace where
  /-- Between two cooperation points. -/
  | working
  /-- At a cooperation point, waiting for a grant. -/
  | parked
  /-- On its way out after it was called off. -/
  | leaving
  | ended
  deriving DecidableEq

/-- Where the host is. -/
inductive HostPlace where
  | idle
  /-- Waiting for the worker to have arrived so many times. -/
  | waiting (target : Nat)
  deriving DecidableEq

/-- A worker and its host at some moment. -/
structure Handshake where
  signals : Signals
  worker : WorkerPlace := .working
  host : HostPlace := .idle
  /-- Steps that the worker has been let into. -/
  begun : Nat := 0
  deriving DecidableEq

/-- The sections of code that run without interruption. -/
inductive HandshakeEvent where
  /-- The host grants a step and goes on. -/
  | resume
  /-- The host grants a step and begins to wait for it. -/
  | beginCycle
  /-- The host sees that its wait is over. -/
  | endCycle
  | terminate
  /-- The worker reaches a cooperation point. -/
  | cooperate
  /-- The worker wakes at its cooperation point, with or without reason. -/
  | wake
  | finish
  deriving DecidableEq

namespace Handshake

/-- A worker that has just been started to be stepped. -/
def stepping : Handshake := { signals := { mode := .stepping } }

/-- The worker asks to go on and does as it is told. -/
def ask (shake : Handshake) (signals : Signals) : Handshake :=
  match signals.consult with
  | (.proceed, signals) => { shake with signals, worker := .working, begun := shake.begun + 1 }
  | (.wait, signals) => { shake with signals, worker := .parked }
  | (.giveUp, signals) => { shake with signals, worker := .leaving }

/-- Runs one section, where the one whose section it is has come to it. -/
def step? (shake : Handshake) : HandshakeEvent → Option Handshake
  | .resume =>
    if shake.host = .idle ∧ shake.signals.mode = .stepping then
      some { shake with signals := shake.signals.request }
    else none
  | .beginCycle =>
    if shake.host = .idle ∧ shake.signals.mode = .stepping then
      -- A worker that has finished is granted nothing, and there is nothing to wait for.
      if shake.signals.finished then some shake
      else
        let signals := shake.signals.request
        some { shake with signals, host := .waiting (signals.requested + 1) }
    else none
  -- The host waits for the arrival after the step, or for the end of the worker.
  | .endCycle =>
    match shake.host with
    | .waiting target =>
      if target ≤ shake.signals.arrivals ∨ shake.signals.finished then
        some { shake with host := .idle }
      else none
    | .idle => none
  | .terminate =>
    if shake.host = .idle then some { shake with signals := shake.signals.cancel } else none
  | .cooperate =>
    if shake.worker = .working then some (shake.ask shake.signals.arrive) else none
  -- Waking without reason asks again and changes nothing else.
  | .wake => if shake.worker = .parked then some (shake.ask shake.signals) else none
  | .finish =>
    if shake.worker = .working ∨ shake.worker = .leaving then
      some { shake with signals := { shake.signals with finished := true }, worker := .ended }
    else none

/-- Runs sections one after the other, in any order in which each has its turn. -/
def run? (shake : Handshake) (events : List HandshakeEvent) : Option Handshake :=
  events.foldlM step? shake

end Handshake

end StepMachine
