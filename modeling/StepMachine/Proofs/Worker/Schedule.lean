import StepMachine.Proofs.Worker.Counters

/-! In whatever order a worker and its host have their turns: when a step of the host is over, the
worker has used every grant and waits for the next one, or it has ended. -/

namespace StepMachine

/-- Whether the host grants a step by this section. -/
def HandshakeEvent.grants : HandshakeEvent → Bool
  | .resume | .beginCycle => true
  | _ => false

namespace Handshake

/-- A worker that keeps to its own course, and a host that does not call it off, have run sections
from the start on, latest first. The worker asks to go on just where its course does not end. -/
inductive Played (worker : Worker ν α ε) : List HandshakeEvent → Handshake → Prop where
  | start : Played worker [] stepping
  | turn {events : List HandshakeEvent} {shake next : Handshake} {event : HandshakeEvent}
    (played : Played worker events shake) (done : shake.step? event = some next)
    (kept : event ≠ .terminate)
    (asks : event = .cooperate → (worker.paced shake.begun).isEnded = false)
    (ends : event = .finish → (worker.paced shake.begun).isEnded = true) :
    Played worker (event :: events) next

/-- How many steps the host has granted. -/
def granted (events : List HandshakeEvent) : Nat := events.countP (·.grants)

/-- What holds between any two sections, after so many grants. -/
structure InStep (worker : Worker ν α ε) (grants : Nat) (shake : Handshake) : Prop where
  mode : shake.signals.mode = .stepping
  consumed : shake.signals.consumed = shake.begun
  /-- Nothing is used that was not granted. -/
  used : shake.begun ≤ shake.signals.requested
  /-- A worker that has finished is granted nothing more, although the host may ask. -/
  requested : shake.signals.requested ≤ grants
  counted : shake.signals.finished = false → shake.signals.requested = grants
  finished : shake.signals.finished = true ↔ shake.worker = .ended
  /-- A worker at work came once for each statement that it has begun. -/
  working : shake.worker = .working → shake.signals.arrivals = shake.begun
  /-- A worker that waits came once more, and its course goes on from there. -/
  parked : shake.worker = .parked →
    shake.signals.arrivals = shake.begun + 1 ∧ (worker.paced shake.begun).isEnded = false
  remains : shake.worker ≠ .leaving
  ended : shake.worker = .ended → (worker.paced shake.begun).isEnded = true
  /-- The host waits for the arrival after the last grant. -/
  waiting : ∀ target, shake.host = .waiting target → target = shake.signals.requested + 1

namespace InStep

variable {worker : Worker ν α ε} {grants : Nat} {shake next : Handshake}

/-- A worker that has just been started is in step. -/
theorem stepping : InStep worker 0 Handshake.stepping := by
  -- Nothing has been granted, used or finished at the start.
  constructor <;> simp [Handshake.stepping]

/-- A worker that asks after it has arrived is let in just if a grant is left. -/
theorem ask (held : InStep worker grants shake) (alive : shake.signals.finished = false)
    (asks : (worker.paced shake.begun).isEnded = false) (signals : Signals)
    (arrived : signals = { shake.signals with arrivals := shake.begun + 1 }) :
    InStep worker grants (shake.ask signals) := by
  -- Nothing but the arrival has changed since the two were in step.
  have mode : signals.mode = .stepping := by rw [arrived]; exact held.mode
  have consumed : signals.consumed = shake.begun := by rw [arrived]; exact held.consumed
  have requested : signals.requested = shake.signals.requested := by rw [arrived]
  have arrivals : signals.arrivals = shake.begun + 1 := by rw [arrived]
  have finished : signals.finished = false := by rw [arrived]; exact alive
  have count := held.counted alive
  have used := held.used
  unfold Handshake.ask Signals.consult
  simp only [mode]
  by_cases left : signals.consumed < signals.requested
  · -- A grant is left: the worker uses it up and is at work again.
    rw [if_pos left]
    exact {
      mode := rfl
      consumed := congrArg (· + 1) consumed
      used := by
        show shake.begun + 1 ≤ signals.requested
        omega
      requested := by
        show signals.requested ≤ grants
        omega
      counted := fun _ => by
        show signals.requested = grants
        omega
      finished := by
        show signals.finished = true ↔ WorkerPlace.working = .ended
        simp [finished]
      working := fun _ => arrivals
      parked := nofun
      remains := nofun
      ended := nofun
      waiting := fun target waits => by
        show target = signals.requested + 1
        rw [requested]
        exact held.waiting target waits }
  · -- No grant is left: the worker stays where it came to.
    rw [if_neg left]
    exact {
      mode := mode
      consumed := consumed
      used := by
        show shake.begun ≤ signals.requested
        omega
      requested := by
        show signals.requested ≤ grants
        omega
      counted := fun _ => by
        show signals.requested = grants
        omega
      finished := by
        show signals.finished = true ↔ WorkerPlace.parked = .ended
        simp [finished]
      working := nofun
      parked := fun _ => ⟨arrivals, asks⟩
      remains := nofun
      ended := nofun
      waiting := fun target waits => by
        show target = signals.requested + 1
        rw [requested]
        exact held.waiting target waits }

/-- A worker that has not ended has not finished. -/
theorem unfinished (held : InStep worker grants shake) (place : shake.worker ≠ .ended) :
    shake.signals.finished = false := by
  -- Only a worker that has ended says that it has finished.
  cases finished : shake.signals.finished with
  | false => rfl
  | true => exact absurd (held.finished.mp finished) place

/-- The host grants a step, and waits for it or not. -/
theorem request (held : InStep worker grants shake) (host : HostPlace)
    (waits : ∀ target, host = .waiting target → target = shake.signals.requested + 1 + 1) :
    InStep worker (grants + 1) { shake with signals := shake.signals.request, host } where
  mode := held.mode
  consumed := held.consumed
  used := Nat.le_succ_of_le held.used
  requested := Nat.succ_le_succ held.requested
  counted alive := congrArg (· + 1) (held.counted alive)
  finished := held.finished
  working := held.working
  parked := held.parked
  remains := held.remains
  ended := held.ended
  waiting := waits

/-- The host asks for a step of a worker that has finished, and gets none. -/
theorem spare (held : InStep worker grants shake) (finished : shake.signals.finished = true) :
    InStep worker (grants + 1) shake :=
  -- Nothing is requested of a worker that has finished, so only the count of grants moves.
  { held with
    requested := Nat.le_succ_of_le held.requested
    counted := fun alive => by simp [finished] at alive }

/-- The host looks up from its wait. -/
theorem idle (held : InStep worker grants shake) :
    InStep worker grants { shake with host := .idle } :=
  { held with waiting := nofun }

/-- The worker finishes where its course ends. -/
theorem finish (held : InStep worker grants shake)
    (ends : (worker.paced shake.begun).isEnded = true) :
    InStep worker grants { shake with
      signals := { shake.signals with finished := true }, worker := .ended } :=
  -- Only the place of the worker changes, and with it what is asked of each place.
  { held with
    counted := nofun
    finished := by simp
    working := nofun
    parked := nofun
    remains := nofun
    ended := fun _ => ends }

/-- Every section leaves the two in step. -/
theorem step (held : InStep worker grants shake) {event : HandshakeEvent}
    (done : shake.step? event = some next) (kept : event ≠ .terminate)
    (asks : event = .cooperate → (worker.paced shake.begun).isEnded = false)
    (ends : event = .finish → (worker.paced shake.begun).isEnded = true) :
    InStep worker (grants + if event.grants then 1 else 0) next := by
  -- One case for each section that can be run, with what it does.
  have did := step?_eq_some done
  cases event with
  | resume =>
    obtain ⟨idle, -, rfl⟩ := did
    exact held.request shake.host fun target waits => by simp [idle] at waits
  | beginCycle =>
    obtain ⟨-, -, ⟨finished, rfl⟩ | ⟨-, rfl⟩⟩ := did
    · -- A worker that has finished gets nothing, and the host does not even wait.
      exact held.spare finished
    · refine held.request _ fun target waits => ?_
      cases waits
      rfl
  | endCycle =>
    obtain ⟨target, -, -, rfl⟩ := did
    exact held.idle
  | terminate => exact absurd rfl kept
  | cooperate =>
    obtain ⟨working, rfl⟩ := did
    -- Who is at work has not finished, and comes once more than before.
    have alive := held.unfinished (by simp [working])
    refine held.ask alive (asks rfl) _ ?_
    unfold Signals.arrive
    rw [if_pos held.mode, held.working working]
  | wake =>
    obtain ⟨parked, rfl⟩ := did
    have alive := held.unfinished (by simp [parked])
    -- Who waits has come already, so asking again counts no arrival.
    obtain ⟨arrivals, goesOn⟩ := held.parked parked
    refine held.ask alive goesOn _ ?_
    rw [← arrivals]
  | finish =>
    obtain ⟨-, rfl⟩ := did
    exact held.finish (ends rfl)

/-- A worker that has come once more than it was let in waits; one that has finished has ended. -/
theorem settled (held : InStep worker grants shake)
    (arrived : shake.signals.requested + 1 ≤ shake.signals.arrivals ∨
      shake.signals.finished = true) :
    (shake.worker = .parked ∧ shake.begun = grants ∧ (worker.paced shake.begun).isEnded = false) ∨
    (shake.worker = .ended ∧ shake.begun ≤ grants ∧ (worker.paced shake.begun).isEnded = true) := by
  -- Where the worker stands decides the rest.
  have used := held.used
  have requested := held.requested
  cases place : shake.worker with
  | ended => exact .inr ⟨rfl, Nat.le_trans used requested, held.ended place⟩
  | leaving => exact absurd place held.remains
  | working =>
    -- A worker at work has come just as often as it was let in, and has not finished.
    have arrivals := held.working place
    rcases arrived with arrived | finished
    · omega
    · simp [held.finished.mp finished] at place
  | parked =>
    -- A worker that waits came once more than it was let in: as often as was granted.
    have alive := held.unfinished (by simp [place])
    obtain ⟨arrivals, goesOn⟩ := held.parked place
    have counted := held.counted alive
    rcases arrived with arrived | finished
    · exact .inl ⟨rfl, by omega, goesOn⟩
    · simp [alive] at finished

end InStep

/-- Whatever has been run, the two are in step. -/
theorem Played.inStep {worker : Worker ν α ε} {events : List HandshakeEvent} {shake : Handshake}
    (played : Played worker events shake) : InStep worker (granted events) shake := by
  -- The two start in step, and every section leaves them so.
  induction played with
  | start => exact InStep.stepping
  | turn played done kept asks ends ih =>
    have held := ih.step done kept asks ends
    rw [granted, List.countP_cons]
    exact held

/-- The last section ended a step of the host: a wait is over, or there was nothing to wait for. -/
def stepIsOver (events : List HandshakeEvent) (shake : Handshake) : Prop :=
  events.head? = some .endCycle ∨ events.head? = some .beginCycle ∧ shake.host = .idle

/-- When a step of the host is over, the worker has used every grant and waits for the next one,
or its course has ended with no more than these. -/
theorem Played.rests {worker : Worker ν α ε} {events : List HandshakeEvent} {shake : Handshake}
    (played : Played worker events shake) (stopped : stepIsOver events shake) :
    (shake.worker = .parked ∧ shake.begun = granted events ∧
      (worker.paced shake.begun).isEnded = false) ∨
    (shake.worker = .ended ∧ shake.begun ≤ granted events ∧
      (worker.paced shake.begun).isEnded = true) := by
  have held := played.inStep
  refine held.settled ?_
  -- The last section decides: it ended a wait, or found that there was nothing to wait for.
  cases played with
  | start => simp [stepIsOver] at stopped
  | turn played done kept asks ends =>
    rename_i earlier before event
    simp only [stepIsOver, List.head?_cons, Option.some.injEq] at stopped
    rcases stopped with rfl | ⟨rfl, idle⟩
    · -- The host saw that the worker had come, or had finished, and neither has changed since.
      obtain ⟨target, waits, arrived, rfl⟩ := step?_eq_some done
      have aimed := played.inStep.waiting target waits
      exact aimed ▸ arrived
    · -- A host that does not wait has found a worker that has finished.
      obtain ⟨-, -, ⟨finished, rfl⟩ | ⟨-, rfl⟩⟩ := step?_eq_some done
      · exact .inr finished
      · cases idle

end Handshake

end StepMachine
