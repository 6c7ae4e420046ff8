import StepMachine.Proofs.Context.Ownership
import StepMachine.Proofs.Eval.Suspension
import StepMachine.Proofs.Machine.Stepping
import StepMachine.Proofs.Worker.Counters

/-! Stopping a program for good while it waits: nothing more is done, nothing is reported, and
nothing stays in use. -/

namespace StepMachine

namespace Program

variable {program : Program} {heap : Heap} {config : Config}

/-- A program that waits shows what will remain of it if it is called off, apart from the heap. -/
theorem paced_shows {count : Nat} {view abandoned : View}
    (parked : (program.worker heap config).paced count = .parked view abandoned) :
    abandoned.terminal = view.terminal ∧ abandoned.location = view.location ∧
      abandoned.entries = view.entries := by
  rw [paced_eq] at parked
  unfold restAt restOf course at parked
  -- The freezing is known of whole runs, wherever they are suspended.
  have freezes := Exec.executes_freezes.runProgram config.entryPoint
    ((Context.start program heap config.maxCallDepth 0).repaced count (.brief []))
  split at parked
  · cases parked
  · cases parked
  · -- The run was suspended; tearing down what it left frees memory only.
    rename_i seen last ran
    cases parked
    obtain ⟨terminal, location, entries⟩ := freezes view last ran
    exact ⟨terminal, location, entries⟩

/-- Whatever a program held while it waited is free once it is called off. -/
theorem paced_frees (created : Heap.create config.heapSize config.unitSize = .ok heap)
    (fits : heapBase + config.heapSize ≤ UInt64.size) {count : Nat} {view abandoned : View}
    (parked : (program.worker heap config).paced count = .parked view abandoned) :
    abandoned.heap.usedBytes = 0 := by
  -- Where a program waits, its run was suspended, and what it left then is what is torn down.
  rw [paced_eq] at parked
  unfold restAt restOf course at parked
  -- A fresh program holds its own, and so it does wherever it is suspended.
  have fresh := Context.start_owns created fits program config.maxCallDepth count
  have started : Context.Owns
      ((Context.start program heap config.maxCallDepth 0).repaced count (.brief [])) :=
    ⟨fresh.holds, fresh.globals, fresh.frames⟩
  have owns := (Exec.steps_own.executes.runProgram config.entryPoint).keeps started
  unfold Exec.after at owns
  split at parked
  · cases parked
  · cases parked
  · rename_i seen last ran
    cases parked
    rw [ran] at owns
    exact owns.tearDown_used

end Program

namespace Machine

/-- A machine that waits is stopped for good by leaving its program what remains of it. -/
theorem terminate_parked {thread : ProgramThread} {count : Nat} {machine : Machine}
    (stepped : Stepped thread count machine) {view abandoned : View}
    (parked : thread.worker.paced count = .parked view abandoned) :
    machine.terminate = {
      thread := { thread with
        status := .started .terminating count (.ended abandoned .cancelled count) }
      phase := .terminated } := by
  unfold terminate Thread.terminate
  -- At a pause the thread was started and waits, which is the case that gives up.
  rw [stepped.came]
  simp only [parked]

/-- Stopping a program for good at a pause is clean, whatever the program and however many
statements were run. Nothing more is printed, reached or let in; the worker has ended because it was
called off, which is neither a fault nor an exit status; the machine is not running, and no memory
is in use. A worker that is called off while it waits is let into no statement any more, in whatever
order the turns are. And no statement, expression, place or call keeps a suspension to itself or
turns it into a failure, however deep inside it the pause is.
All that is asked of the memory is that each of its bytes has an address of 64 bits, as in every
arena that a host can make. -/
theorem cancellation_is_clean {program : Program} {config : Config} {spawns : Nat → Bool}
    {machine : Machine}
    (created : create program config spawns = .ok machine)
    (fits : heapBase + config.heapSize ≤ UInt64.size) :
    (∀ started count last, startStepping machine = .ok () started →
      stepTimes count started = .ok () last → last.isRunning = true →
      last.terminate.view.terminal = last.view.terminal ∧
      last.terminate.view.location = last.view.location ∧
      last.terminate.view.entries = last.view.entries ∧
      last.terminate.thread.outcome? = some .cancelled ∧
      last.terminate.fault? = none ∧
      last.terminate.exitCode = .error .notFinished ∧
      last.terminate.isRunning = false ∧
      last.terminate.view.heap.usedBytes = 0) ∧
    (∀ (shake next : Handshake), shake.worker = .parked → shake.signals.finished = false →
      shake.step? .terminate = some next → ∀ events after, next.run? events = some after →
      after.begun = shake.begun ∧ after.worker ≠ .working) ∧
    (∀ statement, Exec.Yields (Exec.runStatement statement)) ∧
    (∀ expression, Exec.Yields (Exec.evaluate expression) ∧
      Exec.Yields (Exec.placeOf expression)) ∧
    (∀ (callee : Callable) arguments buffer,
      Exec.Yields (do callee.call (← Exec.invoker) arguments buffer)) := by
  have executes := Exec.executes_paced
  refine ⟨fun started count last began ran running => ?_,
    fun shake next parked alive done events after ran => ?_, fun statement => ?_,
    fun expression => ⟨?_, ?_⟩, fun callee arguments buffer => ?_⟩
  · -- A machine that is running is at a pause, and is torn down from there.
    obtain ⟨heap, made, rfl⟩ := create_eq created
    have stepped := (startStepping_stepped began).of_times ran
    -- A machine that is running has a program that waits.
    rw [stepped.isRunning] at running
    cases rest : (program.thread heap config spawns).worker.paced count with
    | ended view outcome steps =>
      rw [rest] at running
      cases running
    | parked view abandoned =>
      have shown : last.view = view := by
        rw [stepped.view, rest]
        rfl
      obtain ⟨terminal, location, entries⟩ := Program.paced_shows rest
      rw [terminate_parked stepped rest, shown]
      exact ⟨terminal, location, entries, rfl, rfl, rfl, rfl, Program.paced_frees made fits rest⟩
  · -- What counts the statements is not changed by any turn of a worker that is called off.
    have off := (Handshake.CalledOff.of_terminate parked alive done).run ran
    exact ⟨off.begun, off.resting⟩
  -- The rest goes the same way however far it may go, and so it holds no suspension back.
  · -- A statement is suspended by those that it enters, and passes it on.
    have whole : Exec.PacedExecution (Exec.runStatement statement) := by
      refine executes.invoked fun room => ?_
      obtain ⟨effect, same, paced⟩ := (executes.statements (executes.invoke room)).1 statement
      rw [same]
      exact executes.statement statement.location paced
    exact whole.2.yields
  · have whole : Exec.PacedExecution (Exec.evaluate expression) := executes.invoked fun room =>
      executes.weaken ((executes.expressions (executes.invoke room)).1 expression)
    exact whole.2.yields
  · have whole : Exec.PacedExecution (Exec.placeOf expression) := executes.invoked fun room =>
      executes.weaken ((executes.expressions (executes.invoke room)).2.2 expression)
    exact whole.2.yields
  · have whole : Exec.PacedExecution (do callee.call (← Exec.invoker) arguments buffer) := by
      refine executes.invoked fun room => executes.weaken ?_
      cases callee with
      | function function => exact executes.invoke room function arguments buffer
      | builtin builtin => exact executes.builtin builtin arguments
    exact whole.2.yields

/-- A program that waits inside a call in the condition of a loop, with a variable of its own. -/
def loopingOverCalls : Program where
  functions := [{
    name := "main"
    result := .int
    parameters := []
    body := [
      .declare "x" .int (some (.int 1)) (.startOfLine 1),
      .loop (.call "check" []) (.block [] (.startOfLine 3)) (.startOfLine 2)] }, {
    name := "check"
    result := .int
    parameters := []
    body := [.ret (some (.int 1)) (.startOfLine 4)] }]

/-- A machine for that program is stepped twice and then stopped in the condition: it was in use and
is not any more. -/
theorem cancellation_inside_a_condition :
    ∃ machine started last,
      create loopingOverCalls { heapSize := 64 } (fun _ => true) = .ok machine ∧
      startStepping machine = .ok () started ∧ stepTimes 2 started = .ok () last ∧
      (last.view.location, last.view.heap.usedBytes) = (some (.startOfLine 4), 8) ∧
      last.terminate.thread.outcome? = some .cancelled ∧
      last.terminate.view.heap.usedBytes = 0 := by
  let heap : Heap := { Heap.empty with unit := 8, units := 8, unit_pos := by decide }
  have created : create loopingOverCalls { heapSize := 64 } (fun _ => true) =
    .ok { thread := loopingOverCalls.thread heap { heapSize := 64 } fun _ => true } := rfl
  -- The heap is small, so the bound holds by computation.
  have fits : heapBase + 64 ≤ UInt64.size := by decide
  obtain ⟨stops, -⟩ := cancellation_is_clean created fits
  -- Two statements are run and leave the machine waiting, as running the program shows.
  have began := @startStepping_run loopingOverCalls heap { heapSize := 64 } fun _ => true
  rw [if_pos (by decide)] at began
  obtain ⟨last, stepped, reached⟩ := (startStepping_stepped began).times 2 (by decide +kernel)
  have running : last.isRunning = true := by
    rw [reached.isRunning]
    decide +kernel
  -- The rest is read off the state that was reached.
  obtain ⟨-, -, -, outcome, -, -, -, freed⟩ := stops _ 2 last began stepped running
  refine ⟨_, _, last, created, began, stepped, ?_, outcome, freed⟩
  rw [reached.view]
  decide +kernel

end Machine

end StepMachine
