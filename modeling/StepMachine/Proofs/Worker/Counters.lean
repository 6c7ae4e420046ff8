import StepMachine.Worker.Handshake

/-! The counters through which a worker and its host keep pace: how they stand to each other after
sections in any order, a call to give up among them, and why neither side waits in vain. -/

namespace StepMachine

namespace Handshake

variable {shake next : Handshake}

/-- What a single section can do, and what it needs to be run. -/
theorem step?_eq_some {event : HandshakeEvent} (done : shake.step? event = some next) :
    match event with
    | .resume => shake.host = .idle ∧ shake.signals.mode = .stepping ∧
        next = { shake with signals := shake.signals.request }
    | .beginCycle => shake.host = .idle ∧ shake.signals.mode = .stepping ∧
        (shake.signals.finished = true ∧ next = shake ∨
          shake.signals.finished = false ∧ next = { shake with
            signals := shake.signals.request
            host := .waiting (shake.signals.requested + 1 + 1) })
    | .endCycle => ∃ target, shake.host = .waiting target ∧
        (target ≤ shake.signals.arrivals ∨ shake.signals.finished = true) ∧
        next = { shake with host := .idle }
    | .terminate => shake.host = .idle ∧ next = { shake with signals := shake.signals.cancel }
    | .cooperate => shake.worker = .working ∧ next = shake.ask shake.signals.arrive
    | .wake => shake.worker = .parked ∧ next = shake.ask shake.signals
    | .finish => (shake.worker = .working ∨ shake.worker = .leaving) ∧
        next = { shake with
          signals := { shake.signals with finished := true }, worker := .ended } := by
  -- Each section has one guard, and a cycle looks in addition whether the worker has finished.
  cases event with
  | resume =>
    simp only [step?] at done
    split at done
    · rename_i free
      cases done
      exact ⟨free.1, free.2, rfl⟩
    · cases done
  | beginCycle =>
    simp only [step?] at done
    split at done
    -- A cycle is begun by asking once more, unless the worker has finished already.
    · rename_i free
      refine ⟨free.1, free.2, ?_⟩
      split at done
      · rename_i finished
        cases done
        exact .inl ⟨finished, rfl⟩
      · rename_i alive
        cases done
        exact .inr ⟨by simpa using alive, rfl⟩
    · cases done
  | endCycle =>
    simp only [step?] at done
    split at done
    · rename_i target waits
      split at done
      · rename_i woken
        cases done
        exact ⟨target, waits, woken, rfl⟩
      · cases done
    · cases done
  | terminate =>
    simp only [step?] at done
    split at done
    · rename_i free
      cases done
      exact ⟨free, rfl⟩
    · cases done
  | cooperate =>
    simp only [step?] at done
    split at done
    · rename_i working
      cases done
      exact ⟨working, rfl⟩
    · cases done
  | wake =>
    simp only [step?] at done
    split at done
    · rename_i parked
      cases done
      exact ⟨parked, rfl⟩
    · cases done
  | finish =>
    simp only [step?] at done
    split at done
    · rename_i place
      cases done
      exact ⟨place, rfl⟩
    · cases done

/-- What every section keeps, every run keeps. -/
theorem run?_keeps {invariant : Handshake → Prop}
    (keeps : ∀ {shake next event}, invariant shake → shake.step? event = some next →
      invariant next) {events : List HandshakeEvent} (holds : invariant shake)
    (ran : shake.run? events = some next) : invariant next := by
  unfold run? at ran
  -- The first section is run first, and the others go on from where it leads.
  induction events generalizing shake with
  | nil =>
    cases ran
    exact holds
  | cons event events ih =>
    rw [List.foldlM_cons] at ran
    obtain ⟨middle, done, ran⟩ := Option.bind_eq_some_iff.mp ran
    exact ih (keeps holds done) ran

/-- How the counters stand to each other, and to the places of worker and host, between any two
sections of a worker that was started to be stepped. -/
structure Counted (shake : Handshake) : Prop where
  /-- A worker that was started to be stepped is never let go. -/
  held : shake.signals.mode ≠ .free
  begun : shake.begun = shake.signals.consumed
  used : shake.signals.consumed ≤ shake.signals.requested
  /-- A worker between two cooperation points has come once for each grant that it used. -/
  working : shake.worker = .working → shake.signals.arrivals = shake.signals.consumed
  /-- A worker that waits has come once more. -/
  parked : shake.worker = .parked → shake.signals.arrivals = shake.signals.consumed + 1
  leaving : shake.worker = .leaving → shake.signals.mode = .terminating
  /-- A worker that was not called off ended between two cooperation points. -/
  ended : shake.worker = .ended → shake.signals.mode = .stepping →
    shake.signals.arrivals = shake.signals.consumed
  finished : shake.signals.finished = true ↔ shake.worker = .ended
  /-- The host waits for the arrival after its last grant, and calls nobody off meanwhile. -/
  waiting : ∀ target, shake.host = .waiting target →
    target = shake.signals.requested + 1 ∧ shake.signals.mode = .stepping

namespace Counted

/-- A worker that has just been started is counted. -/
theorem stepping : Counted Handshake.stepping := by
  -- All counters are zero, and neither side waits.
  constructor <;> simp [Handshake.stepping]

/-- A grant moves the host's own counter only. -/
theorem request (counted : shake.Counted) (mode : shake.signals.mode = .stepping) (host : HostPlace)
    (waits : ∀ target, host = .waiting target → target = shake.signals.requested + 1 + 1) :
    Counted { shake with signals := shake.signals.request, host } where
  held := counted.held
  begun := counted.begun
  used := Nat.le_succ_of_le counted.used
  working := counted.working
  parked := counted.parked
  leaving := counted.leaving
  ended := counted.ended
  finished := counted.finished
  waiting target waiting := ⟨waits target waiting, mode⟩

/-- The host looks up from its wait. -/
theorem idle (counted : shake.Counted) : Counted { shake with host := .idle } :=
  { counted with waiting := nofun }

/-- Calling a worker off moves no counter; one that has finished is not called off. -/
theorem cancel (counted : shake.Counted) (idle : shake.host = .idle) :
    Counted { shake with signals := shake.signals.cancel } := by
  -- A worker that has finished is left alone, and any other one is told to give up.
  unfold Signals.cancel
  cases finished : shake.signals.finished with
  | true => exact counted
  | false =>
    -- A worker that has ended has finished, so it is not the one that is called off.
    have alive : shake.worker ≠ .ended := by
      intro ended
      simp [counted.finished.mpr ended] at finished
    exact { counted with
      held := nofun
      leaving := fun _ => rfl
      ended := fun ended => absurd ended alive
      finished := by simp [alive]
      waiting := fun target waiting => by simp [idle] at waiting }

/-- A worker that has come to a cooperation point and asks is let in just if a grant is left, and
gives up just if it was called off. -/
theorem ask (counted : shake.Counted) (alive : shake.signals.finished = false) {signals : Signals}
    (same : signals = { shake.signals with arrivals := signals.arrivals })
    (arrived : signals.mode = .stepping → signals.arrivals = signals.consumed + 1) :
    Counted (shake.ask signals) := by
  -- Nothing but the number of arrivals has changed.
  have mode : signals.mode = shake.signals.mode := by rw [same]
  have consumed : signals.consumed = shake.signals.consumed := by rw [same]
  have requested : signals.requested = shake.signals.requested := by rw [same]
  have finished : signals.finished = false := by rw [same]; exact alive
  have used := counted.used
  have waits : ∀ target, shake.host = .waiting target →
      target = signals.requested + 1 ∧ signals.mode = .stepping := by
    rw [requested, mode]
    exact counted.waiting
  -- The mode decides what a worker is told that asks.
  unfold Handshake.ask Signals.consult
  cases stands : signals.mode with
  | free => exact absurd (mode.symm.trans stands) counted.held
  | terminating =>
    -- Called off: the worker is on its way out, and no counter moves.
    exact {
      held := by simp [stands]
      begun := by rw [counted.begun, consumed]
      used := by rw [consumed, requested]; exact used
      working := nofun
      parked := nofun
      leaving := fun _ => stands
      ended := nofun
      finished := by simp [finished]
      waiting := waits }
  | stepping =>
    have arrived := arrived stands
    by_cases left : signals.consumed < signals.requested
    · -- A grant is left: the worker uses it up and goes on.
      simp only [if_pos left]
      exact {
        held := nofun
        begun := by rw [counted.begun, consumed]
        used := left
        working := fun _ => arrived
        parked := nofun
        leaving := nofun
        ended := nofun
        finished := by simp [finished]
        waiting := fun target waiting => ⟨(waits target waiting).1, rfl⟩ }
    · -- No grant is left: the worker stays where it came to.
      simp only [if_neg left]
      exact {
        held := by simp [stands]
        begun := by rw [counted.begun, consumed]
        used := by rw [consumed, requested]; exact used
        working := nofun
        parked := fun _ => arrived
        leaving := nofun
        ended := nofun
        finished := by simp [finished]
        waiting := waits }

/-- A worker ends between two cooperation points, or after it was called off. -/
theorem finish (counted : shake.Counted)
    (place : shake.worker = .working ∨ shake.worker = .leaving) :
    Counted { shake with
      signals := { shake.signals with finished := true }, worker := .ended } :=
  { counted with
    working := nofun
    parked := nofun
    leaving := nofun
    ended := fun _ mode => by
      rcases place with working | leaving
      · exact counted.working working
      · -- Who is on the way out was called off.
        have called := counted.leaving leaving
        exact absurd (mode.symm.trans called) (by simp)
    finished := by simp }

/-- A worker that has not ended has not finished. -/
theorem unfinished (counted : shake.Counted) (place : shake.worker ≠ .ended) :
    shake.signals.finished = false := by
  -- Only a worker that has ended says that it has finished.
  cases finished : shake.signals.finished with
  | false => rfl
  | true => exact absurd (counted.finished.mp finished) place

/-- Every section leaves the counters in order. -/
theorem step (counted : shake.Counted) {event : HandshakeEvent}
    (done : shake.step? event = some next) : next.Counted := by
  -- Each section does one of the things that it can do.
  have did := step?_eq_some done
  cases event with
  | resume =>
    obtain ⟨idle, mode, rfl⟩ := did
    exact counted.request mode shake.host fun target waits => by simp [idle] at waits
  | beginCycle =>
    obtain ⟨idle, mode, ⟨-, rfl⟩ | ⟨-, rfl⟩⟩ := did
    · exact counted
    · refine counted.request mode _ fun target waits => ?_
      cases waits
      rfl
  | endCycle =>
    obtain ⟨target, waits, woken, rfl⟩ := did
    exact counted.idle
  | terminate =>
    obtain ⟨idle, rfl⟩ := did
    exact counted.cancel idle
  | cooperate =>
    obtain ⟨working, rfl⟩ := did
    -- The worker comes once more than it was let in, unless it was called off.
    have arrivals := counted.working working
    refine counted.ask (counted.unfinished (by simp [working])) ?_ fun mode => ?_
    · unfold Signals.arrive
      split <;> rfl
    · unfold Signals.arrive at mode ⊢
      split
      · exact congrArg (· + 1) arrivals
      · rename_i other
        rw [if_neg other] at mode
        exact absurd mode other
  | wake =>
    obtain ⟨parked, rfl⟩ := did
    -- Who waits has come already, so asking again counts no arrival.
    exact counted.ask (counted.unfinished (by simp [parked])) rfl fun _ => counted.parked parked
  | finish =>
    obtain ⟨place, rfl⟩ := did
    exact counted.finish place

/-- Sections in any order leave the counters in order. -/
theorem run {events : List HandshakeEvent} (ran : Handshake.stepping.run? events = some shake) :
    shake.Counted :=
  run?_keeps (fun counted done => counted.step done) stepping ran

/-- As long as a worker is not called off, it has come once more than it was let in just while it
waits. -/
theorem arrivals (counted : shake.Counted) (mode : shake.signals.mode = .stepping) :
    shake.signals.consumed ≤ shake.signals.arrivals ∧
      shake.signals.arrivals ≤ shake.signals.consumed + 1 ∧
      (shake.signals.arrivals = shake.signals.consumed + 1 ↔ shake.worker = .parked) := by
  -- The place of the worker tells how often it has come.
  cases place : shake.worker with
  | working =>
    have came := counted.working place
    refine ⟨by omega, by omega, fun once => by omega, nofun⟩
  | parked =>
    have came := counted.parked place
    exact ⟨by omega, by omega, fun _ => rfl, fun _ => came⟩
  | leaving => exact absurd (mode.symm.trans (counted.leaving place)) (by simp)
  | ended =>
    have came := counted.ended place mode
    refine ⟨by omega, by omega, fun once => by omega, nofun⟩

/-- When a wait of the host is over and the worker has not finished, all grants are used and the
worker waits before the next statement. -/
theorem quiescent (counted : shake.Counted) (done : shake.step? .endCycle = some next)
    (alive : next.signals.finished = false) :
    next.signals.requested = next.signals.consumed ∧
      next.signals.arrivals = next.signals.requested + 1 ∧ next.worker = .parked ∧
      next.begun = next.signals.requested := by
  -- The wait was over, and the host knew what it was waiting for.
  obtain ⟨target, waits, woken, rfl⟩ := step?_eq_some done
  obtain ⟨aim, mode⟩ := counted.waiting target waits
  have alive : shake.signals.finished = false := alive
  -- The worker has not finished, so the host saw the arrival that it was waiting for.
  have arrived : shake.signals.requested + 1 ≤ shake.signals.arrivals := by
    rcases woken with arrived | finished
    · exact aim ▸ arrived
    · simp [alive] at finished
  -- It cannot have come more than once beyond what it used, and it used no more than it got.
  obtain ⟨-, atMost, once⟩ := counted.arrivals mode
  have used := counted.used
  have begun := counted.begun
  have all : shake.signals.requested = shake.signals.consumed := by omega
  have came : shake.signals.arrivals = shake.signals.consumed + 1 := by omega
  exact ⟨all, by rw [all]; exact came, once.mp came, by rw [all]; exact begun⟩

/-- While the host waits for an arrival that is still to come, the worker is at work, or it wakes to
a grant and goes to work. -/
theorem goesOn (counted : shake.Counted) {target : Nat} (waits : shake.host = .waiting target)
    (early : shake.signals.arrivals < shake.signals.requested + 1)
    (alive : shake.signals.finished = false) :
    shake.worker = .working ∨
      shake.worker = .parked ∧ shake.signals.consumed < shake.signals.requested ∧
        ∃ next, shake.step? .wake = some next ∧ next.worker = .working ∧
          next.begun = shake.begun + 1 := by
  -- While the host waits nobody has called the worker off, so it is stepped.
  obtain ⟨-, mode⟩ := counted.waiting target waits
  -- The place of the worker decides; it is neither on its way out nor gone.
  cases place : shake.worker with
  | working => exact .inl rfl
  | leaving => exact absurd (mode.symm.trans (counted.leaving place)) (by simp)
  | ended => simp [counted.finished.mpr place] at alive
  | parked =>
    -- A worker that waits came once for each grant that it used and once more.
    have came := counted.parked place
    have left : shake.signals.consumed < shake.signals.requested := by omega
    exact .inr ⟨rfl, left, _, by simp only [step?, place, if_true]; rfl,
      by simp [Handshake.ask, Signals.consult, mode, left],
      by simp [Handshake.ask, Signals.consult, mode, left]⟩

end Counted

/-- A worker that has been called off at a cooperation point, after so many statements: it is let
into none any more. -/
structure CalledOff (begun : Nat) (shake : Handshake) : Prop where
  mode : shake.signals.mode = .terminating
  begun : shake.begun = begun
  resting : shake.worker ≠ .working

namespace CalledOff

/-- A worker that waits and has not finished can be called off. -/
theorem of_terminate (parked : shake.worker = .parked) (alive : shake.signals.finished = false)
    (done : shake.step? .terminate = some next) : next.CalledOff shake.begun := by
  -- Nothing is changed by the call but the mode.
  obtain ⟨-, rfl⟩ := step?_eq_some done
  exact ⟨by simp [Signals.cancel, alive], rfl, by simp [parked]⟩

/-- Every section leaves a worker called off that is. -/
theorem step {begun : Nat} (off : shake.CalledOff begun) {event : HandshakeEvent}
    (done : shake.step? event = some next) : next.CalledOff begun := by
  -- What the section does, and that the worker is called off, is put together case by case.
  have did := step?_eq_some done
  obtain ⟨mode, count, resting⟩ := off
  -- Grants need a worker that is stepped, and only one at work comes to a cooperation point.
  cases event with
  | resume => exact absurd (mode.symm.trans did.2.1) (by simp)
  | beginCycle => exact absurd (mode.symm.trans did.2.1) (by simp)
  | endCycle =>
    obtain ⟨target, -, -, rfl⟩ := did
    exact ⟨mode, count, resting⟩
  | terminate =>
    obtain ⟨-, rfl⟩ := did
    refine ⟨?_, count, resting⟩
    unfold Signals.cancel
    split
    · exact mode
    · rfl
  | cooperate => exact absurd did.1 resting
  | wake =>
    -- Who wakes is told to give up.
    obtain ⟨-, rfl⟩ := did
    simp only [Handshake.ask, Signals.consult, mode]
    exact ⟨mode, count, by simp⟩
  | finish =>
    obtain ⟨-, rfl⟩ := did
    exact ⟨mode, count, by simp⟩

/-- Whatever sections follow, a worker that is called off stays so. -/
theorem run {begun : Nat} (off : shake.CalledOff begun) {events : List HandshakeEvent}
    (ran : shake.run? events = some next) : next.CalledOff begun :=
  run?_keeps (fun off done => step off done) off ran

end CalledOff

/-- The handshake is safe in whatever order worker and host have their turns, from the moment at
which the worker is started to be stepped. No more grants are used than were given, and a worker
has been let into as many statements as it used grants. Until it is called off it has come as often
as it was let in, and once more just while it waits. A cycle that is over while the worker has not
finished leaves no grant over and the worker waiting before the next statement; one that has nothing
to wait for found a worker that has finished. And while the host waits for an arrival that is still
to come, the worker is not blocked. -/
theorem handshake_is_safe {events : List HandshakeEvent} {shake : Handshake}
    (ran : stepping.run? events = some shake) :
    shake.signals.consumed ≤ shake.signals.requested ∧
    shake.begun = shake.signals.consumed ∧
    (shake.signals.mode = .stepping →
      shake.signals.consumed ≤ shake.signals.arrivals ∧
      shake.signals.arrivals ≤ shake.signals.consumed + 1 ∧
      (shake.signals.arrivals = shake.signals.consumed + 1 ↔ shake.worker = .parked)) ∧
    (∀ next, shake.step? .endCycle = some next → next.signals.finished = false →
      next.signals.requested = next.signals.consumed ∧
      next.signals.arrivals = next.signals.requested + 1 ∧ next.worker = .parked ∧
      next.begun = next.signals.requested) ∧
    (∀ next, shake.step? .beginCycle = some next → next.host = .idle →
      next.signals.finished = true) ∧
    (∀ target, shake.host = .waiting target →
      shake.signals.arrivals < shake.signals.requested + 1 → shake.signals.finished = false →
      shake.worker = .working ∨
        shake.worker = .parked ∧ shake.signals.consumed < shake.signals.requested ∧
          ∃ next, shake.step? .wake = some next ∧ next.worker = .working ∧
            next.begun = shake.begun + 1) := by
  -- The counters are in order after any sections.
  have counted : shake.Counted := .run ran
  refine ⟨counted.used, counted.begun, counted.arrivals,
    fun next done alive => counted.quiescent done alive, fun next done idle => ?_,
    fun target waits early alive => counted.goesOn waits early alive⟩
  -- A cycle that does not wait has seen that the worker is finished.
  obtain ⟨-, -, ⟨finished, rfl⟩ | ⟨-, rfl⟩⟩ := step?_eq_some done
  · exact finished
  · cases idle

/-- Two grants are given before the worker first comes, and a cycle gives a third: when the cycle is
over, the worker has been let into three statements and waits. -/
theorem handshake_is_safe_after_piled_grants :
    ∃ shake next, stepping.run? [.resume, .resume, .beginCycle, .cooperate, .cooperate, .cooperate,
        .cooperate, .wake] = some shake ∧
      shake.step? .endCycle = some next ∧ next.begun = 3 ∧ next.worker = .parked := by
  have ran : stepping.run? [.resume, .resume, .beginCycle, .cooperate, .cooperate, .cooperate,
    .cooperate, .wake] = some _ := rfl
  obtain ⟨-, -, -, answered, -⟩ := handshake_is_safe ran
  obtain ⟨-, -, parked, begun⟩ := answered _ rfl rfl
  exact ⟨_, _, ran, rfl, begun, parked⟩

end Handshake

end StepMachine
