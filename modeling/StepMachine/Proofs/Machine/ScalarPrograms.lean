import StepMachine.Proofs.Lexical.Refinement
import StepMachine.Proofs.Machine.Stepping

/-! A machine shows of a program on numbers what a run without memory ends with. -/

namespace StepMachine

/-- A program that has done nothing binds numbers only, which are none. -/
theorem Context.start_plain {heap : Heap} {size unit : Nat}
    (created : Heap.create size unit = .ok heap) (fits : heapBase + size ≤ UInt64.size)
    (program : Program) (depthLimit grants : Nat) :
    (Context.start program heap depthLimit grants).Plain program depthLimit where
  owns := start_owns created fits program depthLimit grants
  program := rfl
  room := rfl
  globals := nofun
  frames := nofun

/-- How the program ends that is run without memory, with the entry point and the call depth limit
of some settings, where so many statements may be run. -/
def Program.withoutMemory (program : Program) (config : Config) (patience : Nat) :
    EStateM.Result Lexical.Stop Lexical.State Int32 :=
  Lexical.runProgram config.entryPoint config.maxCallDepth { program, grants := patience }

namespace Machine

/-- A machine shows how a run without memory ended: its exit status, or its fault with the statement
that failed, and its output. A run that may not go on is one that the host still waits for. -/
inductive Shows (machine : Machine) : EStateM.Result Lexical.Stop Lexical.State Int32 → Prop where
  | exited {status : Int32} {state : Lexical.State} (stopped : machine.isRunning = false)
    (exit : machine.exitCode = .ok status) (fault : machine.fault? = none)
    (output : machine.view.terminal = state.terminal) : machine.Shows (.ok status state)
  | failed {cause : RuntimeError} {state : Lexical.State} (stopped : machine.isRunning = false)
    (exit : machine.exitCode = .error .notFinished)
    (fault : machine.fault? = some ⟨cause, state.active.head?⟩)
    (output : machine.view.terminal = state.terminal) : machine.Shows (.error (.fault cause) state)
  | waiting {state : Lexical.State} (running : machine.isRunning = true)
    (output : machine.view.terminal = state.terminal) : machine.Shows (.error .suspended state)

section Ended

variable {machine : Machine}

/-- A thread that has finished has the exit status for an exit code. -/
theorem exitCode_finished {status : Int32}
    (outcome : machine.thread.outcome? = some (.finished status)) :
    machine.exitCode = .ok status := by
  rw [exitCode, Thread.exitStatus, outcome]

/-- A thread that has finished has no fault. -/
theorem fault?_finished {status : Int32}
    (outcome : machine.thread.outcome? = some (.finished status)) : machine.fault? = none := by
  rw [fault?, Thread.fault?, outcome]

/-- A thread that has failed has no exit code, however much it has run. -/
theorem exitCode_failed {fault : Fault}
    (outcome : machine.thread.outcome? = some (.failed fault)) :
    machine.exitCode = .error .notFinished := by
  rw [exitCode, Thread.exitStatus, outcome]

/-- A thread that has failed has that fault. -/
theorem fault?_failed {fault : Fault}
    (outcome : machine.thread.outcome? = some (.failed fault)) : machine.fault? = some fault := by
  rw [fault?, Thread.fault?, outcome]

end Ended

/-- A program on numbers needs no memory to be understood.

Its types are numbers, its expressions take no address, follow none and name no literal, and it
calls only its own functions and the one that prints a character. Unless memory runs out, a machine
that runs it shows what a run with the same call depth limit ends with in which each scope is a map
from names to types and values: a name is looked up in the scopes of the current function, innermost
first, then globally, never in a caller, and a declaration replaces what its name was bound to in
the innermost scope only.
The one thing that memory adds is that an empty literal cannot be laid out, even where nothing names
it: a program that has one fails before its first statement.
All that is asked of the heap is that each of its bytes has an address of 64 bits, as in every arena
that a host can make. -/
theorem scalar_programs_need_no_memory {program : Program} {config : Config} {spawns : Nat → Bool}
    {machine : Machine}
    (created : create program config spawns = .ok machine)
    (fits : heapBase + config.heapSize ≤ UInt64.size) (scalar : program.isScalar = true)
    {patience : Nat} {blocked : Machine} (ran : runAll patience machine = .ok () blocked)
    (roomy : ∀ fault, blocked.fault? = some fault → fault.error.isOutOfMemory = false) :
    ("" ∉ program.strings → blocked.Shows (program.withoutMemory config patience)) ∧
      ("" ∈ program.strings → ∃ address,
        blocked.fault? = some ⟨.memory (.invalidAccess address 0), none⟩) := by
  -- The machine holds where the program comes to rest, and its view is the one from there.
  obtain ⟨heap, made, rfl⟩ := create_eq created
  obtain ⟨-, running, thread⟩ := runAll_ok ran
  let start := Context.start program heap config.maxCallDepth patience
  have plain : start.Plain program config.maxCallDepth := Context.start_plain made fits ..
  -- The worker runs freely from the state in which nothing has happened yet.
  have free : (program.worker heap config).free patience =
    Program.runFrom start config.entryPoint := rfl
  have outcome : blocked.thread.outcome? = (Program.runFrom start config.entryPoint).outcome? := by
    rw [thread]
    rfl
  have view : blocked.view = (Program.runFrom start config.entryPoint).view := by
    unfold Machine.view
    rw [thread]
    rfl
  rw [free] at running
  unfold Program.runFrom at running outcome view
  -- What the machine shows is now said of the run itself.
  refine ⟨fun proper => ?_, fun empty => ?_⟩
  · -- With no empty literal, the run without memory goes along with it to the end.
    have simulates := Lexical.runProgram_simulates scalar
      (fun member => proper (Array.mem_toList_iff.mp member)) config.entryPoint start plain
    change Lexical.Mirrors _ _ _ (program.withoutMemory config patience) at simulates
    -- How the run ended is one of three things, and the machine shows each of them.
    match came : Exec.runProgram config.entryPoint start with
    | .ok status last =>
      rw [came] at simulates running outcome view
      rw [simulates.1]
      exact .exited running (exitCode_finished outcome) (fault?_finished outcome)
        (by rw [view]; rfl)
    | .error (.fault cause) last =>
      rw [came] at simulates running outcome view
      have fault := fault?_failed outcome
      -- A lack of memory is excluded, so the failure is one that needs no memory.
      rcases simulates with lacking | ⟨state, ended, active, terminal⟩
      · exact absurd lacking (by rw [roomy _ fault]; decide)
      · rw [ended]
        refine .failed running (exitCode_failed outcome) ?_ (by rw [view, terminal]; rfl)
        rw [fault, active]
        rfl
    | .error (.suspended seen) last =>
      rw [came] at simulates running view
      obtain ⟨state, ended, terminal⟩ := simulates
      rw [ended]
      exact .waiting running (by rw [view, terminal]; rfl)
  · -- An empty literal is what the program fails at first, with no statement under way.
    obtain ⟨cause, last, came, failure⟩ := Lexical.runProgram_empty
      (Array.mem_toList_iff.mpr empty) config.entryPoint plain
    rw [came] at outcome
    have fault := fault?_failed outcome
    rcases failure with lacking | ⟨active, address, rfl⟩
    · exact absurd lacking (by rw [roomy _ fault]; decide)
    · have location : last.location = none := by
        rw [Context.location, active]
        rfl
      exact ⟨address, by rw [fault, location]⟩

/-- A program with a global number that a block hides, a function that binds its parameter anew, and
a character that is cut down before it is printed. -/
def countingDown : Program where
  globals := [.declare "g" .int (some (.int 3)) (.startOfLine 1)]
  functions := [
    { name := "count"
      result := .int
      parameters := [("n", .int)]
      body := [
        .branch (.binary (.comparison .eq) (.var "n") (.int 0))
          (.ret (some (.var "g")) (.startOfLine 3)) none (.startOfLine 3),
        .declare "n" .int (some (.binary (.arithmetic .sub) (.var "n") (.int 1))) (.startOfLine 4),
        .ret (some (.binary (.arithmetic .add) (.call "count" [.var "n"]) (.int 1)))
          (.startOfLine 5)] },
    { name := "main"
      result := .int
      parameters := []
      body := [
        .block [
          .declare "g" .char (some (.char 120)) (.startOfLine 8),
          .expression (.assign (.var "g") (.binary (.arithmetic .add) (.var "g") (.int 201)))
            (.startOfLine 9),
          .expression (.call "putchar" [.var "g"]) (.startOfLine 10)] (.startOfLine 7),
        .ret (some (.call "count" [.int 2])) (.startOfLine 11)] }]

/-- Without memory the program prints a letter and exits with the global number and one for each
call, and so it does on a machine. -/
theorem scalar_programs_need_no_memory_countingDown :
    ∃ machine blocked, create countingDown { heapSize := 256 } (fun _ => true) = .ok machine ∧
      runAll 40 machine = .ok () blocked ∧ blocked.exitCode = .ok 5 ∧
      blocked.view.terminal.contents = "A" := by
  let heap : Heap := { Heap.empty with unit := 8, units := 32, unit_pos := by decide }
  have created : create countingDown { heapSize := 256 } (fun _ => true) =
    .ok { thread := countingDown.thread heap { heapSize := 256 } fun _ => true } := rfl
  obtain ⟨blocked, ran, -, thread⟩ := @runAll_ends countingDown heap { heapSize := 256 }
    (fun _ => true) 40 rfl (by decide +kernel)
  -- The program ends without a fault, as running it tells.
  have fault : blocked.fault? = none := by
    unfold fault? Thread.fault?
    rw [thread]
    decide +kernel
  -- Since nothing fails, memory is not lacking, and the two runs agree.
  obtain ⟨agrees, -⟩ := scalar_programs_need_no_memory created (by decide) (by decide +kernel) ran
    fun found failed => by
      rw [fault] at failed
      cases failed
  have shows : blocked.Shows (countingDown.withoutMemory { heapSize := 256 } 40) :=
    agrees (Array.not_mem_empty _)
  -- Without memory the program is small enough to be run here.
  have ended : (match countingDown.withoutMemory { heapSize := 256 } 40 with
      | .ok status state => decide (status = 5 ∧ state.terminal.contents = "A")
      | .error _ _ => false) = true := by
    decide +kernel
  generalize countingDown.withoutMemory { heapSize := 256 } 40 = outcome at shows ended
  cases outcome with
  | error reason last => cases ended
  | ok status last =>
    -- The run without memory has ended with the status that the machine shows.
    obtain ⟨rfl, printed⟩ := of_decide_eq_true ended
    cases shows with
    | exited stopped exit fault output =>
      exact ⟨_, blocked, created, ran, exit, by rw [output, printed]⟩

/-- A program that does nothing, with an empty literal that nothing names. -/
def idleLiteral : Program where
  strings := #[""]
  functions := [{ name := "main", result := .int, parameters := [], body := [] }]

/-- Without memory the program exits with zero, but a machine that runs it fails. -/
theorem idleLiteral_fails :
    idleLiteral.isScalar = true ∧
      (match idleLiteral.withoutMemory { heapSize := 4096 } 5 with
        | .ok status _ => status = 0
        | .error _ _ => False) ∧
      ∃ machine blocked, create idleLiteral { heapSize := 4096 } (fun _ => true) = .ok machine ∧
        runAll 5 machine = .ok () blocked ∧
        blocked.fault? = some ⟨.memory (.invalidAccess 0x1000 0), none⟩ := by
  let heap : Heap := { Heap.empty with unit := 8, units := 512, unit_pos := by decide }
  have created : create idleLiteral { heapSize := 4096 } (fun _ => true) =
    .ok { thread := idleLiteral.thread heap { heapSize := 4096 } fun _ => true } := rfl
  -- The program is run to its end in this heap.
  obtain ⟨blocked, ran, -, thread⟩ := @runAll_ends idleLiteral heap { heapSize := 4096 }
    (fun _ => true) 5 rfl (by decide +kernel)
  refine ⟨by decide +kernel, ?_, _, blocked, created, ran, ?_⟩
  · -- Without memory the literal plays no part.
    have ended : (match idleLiteral.withoutMemory { heapSize := 4096 } 5 with
        | .ok status _ => decide (status = 0)
        | .error _ _ => false) = true := by
      decide +kernel
    generalize idleLiteral.withoutMemory { heapSize := 4096 } 5 = outcome at ended ⊢
    cases outcome with
    | ok status state => exact of_decide_eq_true ended
    | error reason state => cases ended
  · -- In a heap it cannot be laid out.
    unfold fault? Thread.fault?
    rw [thread]
    decide +kernel

end Machine

end StepMachine
