import StepMachine.Proofs.Eval.Metered
import StepMachine.Proofs.Machine.Cancellation

/-! A program that is granted a statement comes to the next one or to its end, a host that waits for
that is served, and so is one that stops the program for good. -/

namespace StepMachine

namespace HandshakeEvent

/-- Whether a section belongs to the worker. -/
def isOfWorker : HandshakeEvent → Bool
  | cooperate | wake | finish => true
  | _ => false

end HandshakeEvent

/-- How far a worker at a place is from its end. -/
def WorkerPlace.distance : WorkerPlace → Nat
  | .working => 3
  | .parked => 2
  | .leaving => 1
  | .ended => 0

namespace Handshake

variable {shake next : Handshake}

/-- How much the worker can still do without a further grant. -/
def pending (shake : Handshake) : Nat :=
  2 * (shake.signals.requested - shake.signals.consumed) + shake.worker.distance

/-- A worker that is called off gives up when it asks. -/
theorem ask_off {signals : Signals} (off : signals.mode = .terminating) :
    shake.ask signals = { shake with signals, worker := .leaving } := by
  simp only [ask, Signals.consult, off]

/-- A worker that asks to go on, and is not let go for good, comes nearer to its rest, unless it
waits already and goes on waiting. -/
theorem ask_pending {signals : Signals} (held : signals.mode ≠ .free)
    (requested : signals.requested = shake.signals.requested)
    (consumed : signals.consumed = shake.signals.consumed)
    (place : shake.worker = .working ∨ shake.worker = .parked) :
    (shake.ask signals).pending < shake.pending ∨
      shake.worker = .parked ∧ shake.ask signals = { shake with signals } := by
  -- Neither a worker that works nor one that waits is near its end.
  have distance : 2 ≤ shake.worker.distance := by
    rcases place with place | place <;> simp [place, WorkerPlace.distance]
  -- What the signals say decides, and they say what they did before but for the arrival.
  cases mode : signals.mode with
  | free => exact absurd mode held
  | terminating =>
    -- A worker that is told to give up is on its way out.
    left
    have leaving : WorkerPlace.distance .leaving = 1 := rfl
    simp only [ask_off mode, pending, requested, consumed]
    omega
  | stepping =>
    by_cases more : signals.consumed < signals.requested
    · -- A grant is used up, which outweighs that the worker is at work.
      left
      have goes : shake.ask signals = { shake with
          signals := { signals with consumed := signals.consumed + 1 }
          worker := .working, begun := shake.begun + 1 } := by
        simp [ask, Signals.consult, mode, more]
      have working : WorkerPlace.distance .working = 3 := rfl
      simp only [goes, pending]
      omega
    · -- With no grant left it waits, which is progress only if it worked before.
      have waits : shake.ask signals = { shake with signals, worker := .parked } := by
        simp only [ask, Signals.consult, mode, if_neg more]
      rcases place with working | parked
      · left
        have came : WorkerPlace.distance .working = 3 := rfl
        have stays : WorkerPlace.distance .parked = 2 := rfl
        simp only [waits, pending, working, requested, consumed]
        omega
      · right
        rw [waits]
        exact ⟨parked, by rw [← parked]⟩

/-- Every section of the worker brings it nearer to its rest, apart from waking for nothing. -/
theorem worker_pending (held : shake.signals.mode ≠ .free) {event : HandshakeEvent}
    (own : event.isOfWorker = true) (done : shake.step? event = some next) :
    next.pending < shake.pending ∨ shake.worker = .parked ∧ next = shake := by
  -- What a section changes is known by its kind.
  have did := step?_eq_some done
  -- Only the first two sections can leave the worker where it is, and the first starts at work.
  cases event with
  | cooperate =>
    obtain ⟨working, rfl⟩ := did
    -- The arrival leaves the counters of grants alone.
    have arrives : shake.signals.arrive.mode ≠ .free ∧
        shake.signals.arrive.requested = shake.signals.requested ∧
        shake.signals.arrive.consumed = shake.signals.consumed := by
      unfold Signals.arrive
      split <;> exact ⟨held, rfl, rfl⟩
    rcases ask_pending arrives.1 arrives.2.1 arrives.2.2 (.inl working) with
      lower | ⟨parked, -⟩
    · exact .inl lower
    · -- It worked, so it did not wait.
      rw [working] at parked
      cases parked
  | wake =>
    obtain ⟨parked, rfl⟩ := did
    exact ask_pending held rfl rfl (.inr parked)
  | finish =>
    obtain ⟨place, rfl⟩ := did
    -- An end is nearer than any other place.
    refine .inl ?_
    unfold pending
    have ended : WorkerPlace.distance .ended = 0 := rfl
    have further : 0 < shake.worker.distance := by
      rcases place with place | place <;> simp [place, WorkerPlace.distance]
    simp only
    omega
  | resume | beginCycle | endCycle | terminate => cases own

/-- Whether the worker can come nearer to its rest by a section of its own. -/
def WorkerMoves (shake : Handshake) : Prop :=
  ∃ event next, event.isOfWorker = true ∧ shake.step? event = some next ∧
    next.pending < shake.pending

/-- A worker that is at work can go on. -/
theorem moves_of_working (held : shake.signals.mode ≠ .free) (working : shake.worker = .working) :
    shake.WorkerMoves := by
  have done : shake.step? .cooperate = some (shake.ask shake.signals.arrive) := by
    simp only [step?, working, if_true]
  rcases worker_pending held rfl done with lower | ⟨parked, -⟩
  · exact ⟨.cooperate, _, rfl, done, lower⟩
  · rw [working] at parked
    cases parked

/-- A host that waits is served, or the worker can go on. -/
theorem Counted.serves (counted : shake.Counted) {target : Nat}
    (waits : shake.host = .waiting target) :
    (∃ next, shake.step? .endCycle = some next) ∨ shake.WorkerMoves := by
  -- Either the host is served already, or there is a grant that the worker has not used up.
  obtain ⟨aim, -⟩ := counted.waiting target waits
  by_cases served : target ≤ shake.signals.arrivals ∨ shake.signals.finished = true
  · exact .inl ⟨{ shake with host := .idle }, by simp only [step?, waits, if_pos served]⟩
  · have alive : shake.signals.finished = false := by
      cases finished : shake.signals.finished with
      | false => rfl
      | true => exact absurd (.inr finished) served
    refine .inr ?_
    rcases counted.goesOn waits (by omega) alive with working | ⟨parked, -, next, woke, working, -⟩
    · exact moves_of_working counted.held working
    · -- The worker wakes to a grant, and so it does not go on waiting.
      rcases worker_pending counted.held rfl woke with lower | ⟨-, same⟩
      · exact ⟨.wake, next, rfl, woke, lower⟩
      · rw [same, parked] at working
        cases working

/-- A worker that is called off can go on until it has ended. -/
theorem Counted.leaves (counted : shake.Counted) (off : shake.signals.mode = .terminating)
    (alive : shake.worker ≠ .ended) : shake.WorkerMoves := by
  -- Nothing but to leave is left for a worker that is called off, from wherever it is.
  cases place : shake.worker with
  | working => exact moves_of_working counted.held place
  | parked =>
    have woke : shake.step? .wake = some (shake.ask shake.signals) := by
      simp only [step?, place, if_true]
    rcases worker_pending counted.held rfl woke with lower | ⟨-, same⟩
    · exact ⟨.wake, _, rfl, woke, lower⟩
    · -- A worker that wakes when it is called off gives up.
      have leaving := congrArg Handshake.worker same
      rw [ask_off off, place] at leaving
      cases leaving
  | leaving =>
    -- The last section only says that it has finished.
    have done : shake.step? .finish = some { shake with
        signals := { shake.signals with finished := true }, worker := .ended } := by
      simp only [step?, place, or_true, if_true]
    rcases worker_pending counted.held rfl done with lower | ⟨parked, -⟩
    · exact ⟨.finish, _, rfl, done, lower⟩
    · rw [place] at parked
      cases parked
  | ended => exact absurd place alive

end Handshake

open Metered (interpreter calling FiniteStep EndsAt)

namespace Program

variable (program : Program) (heap : Heap) (config : Config)

/-- The program that is granted so many statements comes to this rest, with its steps counted. -/
def ComesToRest (grants : Nat) (rest : Rest View Int32 Fault) : Prop :=
  ∃ outcome, rest = restOf grants outcome ∧
    EndsAt (interpreter.runProgram (calling (config.maxCallDepth + 1)) config.entryPoint)
      ((Context.start program heap config.maxCallDepth 0).repaced grants (.brief [])) outcome

/-- A program that is held back comes to its rest after finitely many steps. -/
theorem paced_comes (grants : Nat) :
    program.ComesToRest heap config grants ((program.worker heap config).paced grants) := by
  -- The machine and the unbounded run end alike, once the bound on the calls is above the room.
  refine ⟨program.course heap config grants (.brief []), program.paced_eq heap config grants, ?_⟩
  exact (Metered.runProgram_executed (Nat.lt_succ_self _) config.entryPoint).2 _ rfl

end Program

namespace Machine

/-- Every step is finite. From every state and with every number of grants, a statement, an
expression, a place, a call and a whole program come after finitely many steps to the entry of the
one statement more or to their end; their loops, their texts and their calls have no bound but those
that the program itself comes to. So a machine that is running is stepped from one rest to the next,
and stopped for good where it is. A host that waits for the worker is served, or the worker can come
nearer to its rest, which it does by all that it can do but waking for nothing; and a worker that is
called off comes to its end in the same way. -/
theorem every_step_is_finite :
    (∀ (context : Context) (grants depth : Nat), context.stack.room < depth →
      (∀ statement, FiniteStep (interpreter.exec (calling depth) statement)
        (Exec.runStatement statement) context grants) ∧
      (∀ expression, FiniteStep (interpreter.eval (calling depth) expression)
        (Exec.evaluate expression) context grants) ∧
      (∀ expression, FiniteStep (interpreter.place (calling depth) expression)
        (Exec.placeOf expression) context grants) ∧
      (∀ (callee : Callable) arguments buffer,
        FiniteStep (interpreter.call (calling depth) arguments buffer callee)
          (do callee.call (← Exec.invoker) arguments buffer) context grants) ∧
      (∀ entryPoint, FiniteStep (interpreter.runProgram (calling depth) entryPoint)
        (Exec.runProgram entryPoint) context grants)) ∧
    (∀ program config spawns machine, create program config spawns = .ok machine →
      ∃ heap, Heap.create config.heapSize config.unitSize = .ok heap ∧
      ∀ started count last, startStepping machine = .ok () started →
        stepTimes count started = .ok () last → last.isRunning = true →
        (∃ next rest, step last = .ok () next ∧ next.view = rest.view ∧
          next.isRunning = !rest.isEnded ∧ program.ComesToRest heap config (count + 1) rest) ∧
        (∃ view abandoned, last.terminate.view = abandoned ∧ last.terminate.isRunning = false ∧
          program.ComesToRest heap config count (.parked view abandoned))) ∧
    (∀ events shake, Handshake.stepping.run? events = some shake →
      (∀ target, shake.host = .waiting target →
        (∃ next, shake.step? .endCycle = some next) ∨ shake.WorkerMoves) ∧
      (shake.signals.mode = .terminating → shake.worker ≠ .ended → shake.WorkerMoves) ∧
      (∀ event next, event.isOfWorker = true → shake.step? event = some next →
        next.pending < shake.pending ∨ shake.worker = .parked ∧ next = shake)) := by
  refine ⟨fun context grants depth fits => ?_, fun program config spawns machine created => ?_,
    fun events shake ran => ?_⟩
  · -- Each kind of computation ends within some bound, and so does it with any number of grants.
    exact ⟨fun statement => (Metered.exec_executed fits statement).finite grants,
      fun expression => (Metered.eval_executed fits expression).finite grants,
      fun expression => (Metered.place_executed fits expression).finite grants,
      fun callee arguments buffer =>
        (Metered.call_executed fits callee arguments buffer).finite grants,
      fun entryPoint => (Metered.runProgram_executed fits entryPoint).finite grants⟩
  · obtain ⟨heap, made, rfl⟩ := create_eq created
    refine ⟨heap, made, fun started count last began ran running => ?_⟩
    have stepped := (startStepping_stepped began).of_times ran
    rw [stepped.isRunning] at running
    cases rest : (program.thread heap config spawns).worker.paced count with
    | ended view outcome steps =>
      rw [rest] at running
      cases running
    | parked view abandoned =>
      have alive : ((program.thread heap config spawns).worker.paced count).isEnded = false := by
        rw [rest]
        rfl
      -- A step goes on to the rest after one statement more.
      obtain ⟨next, done, further⟩ := stepped.step alive
      refine ⟨⟨next, _, done, further.view, further.isRunning,
        program.paced_comes heap config (count + 1)⟩, view, abandoned, ?_⟩
      -- A worker that waits is already known to leave nothing running.
      rw [terminate_parked stepped rest, ← rest]
      exact ⟨rfl, rfl, program.paced_comes heap config count⟩
  · -- The counters bound what the worker can still do, in every order of the turns.
    have counted : shake.Counted := .run ran
    exact ⟨fun target waits => counted.serves waits, counted.leaves,
      fun event next own done => Handshake.worker_pending counted.held own done⟩

/-- A program that turns for ever in a loop, and calls itself in its condition. -/
def turningForEver : Program where
  functions := [{
    name := "main"
    result := .int
    parameters := []
    body := [.loop (.binary (.connective .or) (.int 1) (.call "main" []))
      (.block [] (.startOfLine 2)) (.startOfLine 1)] }]

/-- The program that turns for ever comes to its fourth statement after finitely many steps. -/
theorem every_step_is_finite_in_turningForEver :
    ∃ steps enough view last, ∀ bound ≥ enough,
      interpreter.runProgram (calling 2) "main" bound
        (Context.start turningForEver Heap.empty 1 3) =
          some (steps, .error (.suspended view) last) ∧
      view.location = some (.startOfLine 2) := by
  -- The theorem is applied to the call of the entry point, with room for the one activation.
  obtain ⟨-, -, -, -, programs⟩ :=
    every_step_is_finite.1 (Context.start turningForEver Heap.empty 1 3) 3 2 (by decide)
  obtain ⟨steps, enough, ends⟩ := (programs "main").ends .off
  -- On the machine the program waits before the body of its loop.
  have waits : (match Exec.runProgram "main" (Context.start turningForEver Heap.empty 1 3) with
      | .error (.suspended view) _ => view.location
      | _ => none) = some (.startOfLine 2) := by
    decide +kernel
  split at waits
  · rename_i view last ran
    refine ⟨steps, enough, view, last, fun bound large => ⟨?_, waits⟩⟩
    rw [← ran]
    exact ends bound large
  · cases waits

end Machine

end StepMachine
