import StepMachine.Proofs.Machine.Lifecycle
import StepMachine.Proofs.Wary.Agreement

/-! No program crashes its worker. A machine whose worker looks before every operation that is not
always possible, and crashes where one is not, is the same machine. -/

namespace StepMachine

open Wary (Ends)

section Definitions

/-- Frees everything that the program holds, if that is possible. -/
def Context.tearDown? (context : Context) : Option Context := do
  let heap ← context.heap.releaseAll? context.owned
  return { context.tearDown with heap }

namespace Program

/-- Where a program comes to rest from how its run ended, if what it holds can be freed. -/
def restOf? (grants : Nat) : EStateM.Result Unwind Context Int32 → Option (Rest View Int32 Fault)
  | .ok status context => do
    return .ended (← context.tearDown?).view (.finished status) (grants - context.grants)
  | .error (.fault error) context => do
    return .ended (← context.tearDown?).view (.failed ⟨error, context.location⟩)
      (grants - context.grants)
  | .error (.suspended view) context => do return .parked view (← context.tearDown?).view

/-- Runs the program warily from a fresh state until it ends, may not go on or crashes. -/
def runFrom? (start : Context) (entryPoint : String) : Rest View Int32 Fault :=
  match Exec.runProgram? entryPoint start >>= restOf? start.grants with
  | some rest => rest
  | none => .ended start.view (.crashed .other) 0

/-- The program as a worker that crashes where an operation is not possible. -/
def waryWorker (program : Program) (heap : Heap) (config : Config) : Worker View Int32 Fault where
  idle := { heap }
  paced grants :=
    let start := Context.start program heap config.maxCallDepth grants
    runFrom? { start with journal := .brief [] } config.entryPoint
  free patience :=
    runFrom? (Context.start program heap config.maxCallDepth patience) config.entryPoint

end Program

/-- A machine for a program, whose worker crashes where an operation is not possible. -/
def Machine.createWary (program : Program) (config : Config) (spawns : Nat → Bool) :
    Except MachineError Machine := do
  config.validate.mapError .config
  let heap ← (Heap.create config.heapSize config.unitSize).mapError .memory
  return { thread := {
    worker := program.waryWorker heap config
    spawnable := spawns config.workerStack } }

end Definitions

/-- What a program holds in a safe state can be freed. -/
theorem Setting.Safe.tearDown?_eq {setting : Setting} {context : Context}
    (safe : setting.Safe context) : context.tearDown? = some context.tearDown := by
  -- Everything that is held lies in the arena, and no two parts of it share a unit.
  unfold Context.tearDown?
  rw [taken (Heap.releaseAll?_eq safe.tidy fun block held => safe.inside held)]
  rfl

/-- A fresh heap has the size that was asked for. -/
theorem Heap.create_size {size unit : Nat} {heap : Heap} (created : create size unit = .ok heap) :
    heap.size = size := by
  -- The number of units is exact, since the unit divides the size.
  unfold create at created
  split at created
  · rename_i fits
    cases created
    show size / unit * unit = size
    exact Nat.div_mul_cancel (Nat.dvd_of_mod_eq_zero fits.2.2)
  · cases created

namespace Setting

variable (setting : Setting)

/-- A program that has done nothing is in a safe state, however it is watched. -/
theorem start_safe {heap : Heap} {unit : Nat}
    (created : Heap.create setting.size unit = .ok heap) (depthLimit grants : Nat)
    (journal : Journal) :
    setting.Safe
      { Context.start setting.program heap depthLimit grants with journal := journal } := by
  -- It owns nothing, binds nothing and has entered nothing.
  have owns := Context.start_owns created (Nat.le_of_lt setting.room) setting.program depthLimit
    grants
  have sized : (Context.start setting.program heap depthLimit grants).Sized := by
    intro scope member
    -- There are only the global names, of which there are none.
    cases List.mem_singleton.mp member
    exact .empty
  exact {
    sound := ⟨⟨owns.holds, owns.globals, owns.frames⟩, sized⟩
    program := rfl
    size := Heap.create_size created
    frames := nofun }

/-- A program that is run warily from a safe state comes to rest where it does without a look. -/
theorem runFrom?_eq {start : Context} (safe : setting.Safe start) (entryPoint : String) :
    Program.runFrom? start entryPoint = Program.runFrom start entryPoint := by
  -- The wary run goes as the plain one does, and ends in a safe state if it ends.
  obtain ⟨agrees, ends⟩ := Exec.runProgram_tracks entryPoint start safe
  unfold Program.runFrom? Program.runFrom
  rw [taken agrees]
  -- However the run ends, what is held then can be freed.
  cases ran : Exec.runProgram entryPoint start with
  | ok status context =>
    rw [ran] at ends
    simp only [Program.restOf?]
    rw [taken ends.1.tearDown?_eq]
    rfl
  | error reason context =>
    rw [ran] at ends
    have freed := Safe.tearDown?_eq ends
    -- A fault and a suspension free alike, and differ in what is shown of them.
    cases reason with
    | fault error =>
      simp only [Program.restOf?]
      rw [taken freed]
      rfl
    | suspended view =>
      simp only [Program.restOf?]
      rw [taken freed]
      rfl

/-- The worker that crashes where an operation is not possible is the worker of the program. -/
theorem waryWorker_eq {config : Config} (size : config.heapSize = setting.size) {heap : Heap}
    (created : Heap.create config.heapSize config.unitSize = .ok heap) :
    setting.program.waryWorker heap config = setting.program.worker heap config := by
  -- The two sizes are one, so that the safe state is about this heap.
  rw [size] at created
  -- Both runs of the worker start from a safe state, and so they are the same functions.
  have safe := setting.start_safe created config.maxCallDepth
  have paced : (setting.program.waryWorker heap config).paced =
      (setting.program.worker heap config).paced :=
    funext fun grants => setting.runFrom?_eq (safe grants (.brief [])) config.entryPoint
  have free : (setting.program.waryWorker heap config).free =
      (setting.program.worker heap config).free :=
    funext fun patience => setting.runFrom?_eq (safe patience .off) config.entryPoint
  have both := congr (congrArg (Worker.mk { heap }) paced) free
  exact both

end Setting

/-- A worker at rest that has not crashed. -/
def Rest.Uncrashed {ν α ε : Type} (rest : Rest ν α ε) : Prop :=
  ∀ crash, rest.outcome? ≠ some (.crashed crash)

/-- However a program is run, it finishes, fails or waits. -/
theorem Program.runFrom_uncrashed (start : Context) (entryPoint : String) :
    (runFrom start entryPoint).Uncrashed := by
  intro crash
  -- No case of the definition is a crash.
  unfold runFrom
  split <;> nofun

namespace Thread

/-- A thread whose worker does not crash, however far it goes, and has not crashed. -/
structure Uncrashed {ν α ε : Type} (thread : Thread ν α ε) : Prop where
  paced : ∀ grants, (thread.worker.paced grants).Uncrashed
  free : ∀ patience, (thread.worker.free patience).Uncrashed
  now : ∀ crash, thread.outcome? ≠ some (.crashed crash)

namespace Uncrashed

variable {ν α ε : Type} {thread : Thread ν α ε}

/-- Starting the worker keeps it so. -/
theorem spawn (uncrashed : thread.Uncrashed) (mode : Mode) {rest : Worker ν α ε → Rest ν α ε}
    (sure : (rest thread.worker).Uncrashed) :
    Ends Uncrashed (fun _ => True) (Thread.spawn mode rest thread) := by
  unfold Thread.spawn
  -- A worker that was started or called off is not started again.
  split
  · exact uncrashed
  · exact uncrashed
  · split
    · exact ⟨⟨uncrashed.paced, uncrashed.free, sure⟩, trivial⟩
    · exact ⟨uncrashed.paced, uncrashed.free, nofun⟩

/-- Granting a step keeps it so. -/
theorem grant (uncrashed : thread.Uncrashed) :
    Ends Uncrashed (fun _ => True) (Thread.grant thread) := by
  -- That the thread shows no crash is known before the grant.
  have now := uncrashed.now
  unfold Thread.outcome? at now
  unfold Thread.grant
  -- In all other states the grant changes nothing that a crash could be in.
  split
  case h_5 granted rest status =>
    rw [status] at now
    refine ⟨⟨uncrashed.paced, uncrashed.free, fun crash => ?_⟩, trivial⟩
    -- A worker that has ended stays what it is, and one that waits goes on.
    show Rest.outcome? (if rest.isEnded then rest else _) ≠ _
    split
    · exact now crash
    · exact uncrashed.paced (granted + 1) crash
  all_goals exact uncrashed

/-- A worker that is called off has not crashed. -/
theorem terminate (uncrashed : thread.Uncrashed) : thread.terminate.Uncrashed := by
  unfold Thread.terminate
  -- A worker that waits is cancelled, and one that has ended keeps its outcome.
  split
  · exact ⟨uncrashed.paced, uncrashed.free, nofun⟩
  · exact ⟨uncrashed.paced, uncrashed.free, nofun⟩
  · exact ⟨uncrashed.paced, uncrashed.free, nofun⟩
  · exact uncrashed

end Uncrashed

end Thread

namespace Machine

/-- A machine whose worker does not crash and has not crashed. -/
def Uncrashed (machine : Machine) : Prop := machine.thread.Uncrashed

namespace Uncrashed

variable {machine : Machine}

/-- Looking at the machine keeps it so. -/
theorem look (uncrashed : machine.Uncrashed) :
    Ends Uncrashed (fun _ => True) ((get : Call Machine) machine) :=
  ⟨uncrashed, trivial⟩

/-- A call on the thread that keeps it so. -/
theorem onThread {call : Thread.Call View Int32 Fault Unit}
    (ends : Ends Thread.Uncrashed (fun _ => True) (call machine.thread)) :
    Ends Uncrashed (fun _ => True) (Machine.onThread call machine) := by
  -- The call sees nothing of the machine but its thread.
  unfold Machine.onThread
  cases ran : call machine.thread with
  | ok _ thread =>
    rw [ran] at ends
    exact ends
  | error cause thread =>
    rw [ran] at ends
    exact ends

/-- Starting the machine keeps it so, and so does a start that is refused. -/
theorem start (uncrashed : machine.Uncrashed) :
    Ends Uncrashed (fun _ => True) (Machine.start machine) := by
  refine uncrashed.look.bind fun _ _ uncrashed _ => ?_
  split
  · exact ⟨uncrashed, trivial⟩
  · exact uncrashed

/-- Noticing that the program has ended keeps it so. -/
theorem settle (uncrashed : machine.Uncrashed) :
    Ends Uncrashed (fun _ => True) (Machine.settle machine) := by
  refine ⟨?_, trivial⟩
  show Uncrashed (if machine.thread.isRunning then machine else _)
  split <;> exact uncrashed

/-- Whatever a host asks of the machine keeps it so. -/
theorem make (uncrashed : machine.Uncrashed) (call : MachineCall) :
    Ends Uncrashed (fun _ => True) (call.make machine) := by
  -- Each call is made of steps on the thread and looks at the machine, which all keep it so.
  cases call with
  | runAll patience =>
    -- The thread is made before the program runs to its end.
    refine uncrashed.start.bind fun _ _ uncrashed _ => ?_
    refine (onThread (uncrashed.spawn .free (uncrashed.free patience))).bind
      fun _ _ uncrashed _ => uncrashed.settle
  | startStepping =>
    refine uncrashed.start.bind fun _ _ uncrashed _ => ?_
    exact onThread (uncrashed.spawn .stepping (uncrashed.paced 0))
  | step =>
    refine uncrashed.look.bind fun now _ uncrashed _ => ?_
    -- Only a program that is running is granted a statement.
    cases now.phase with
    | notStarted => exact uncrashed
    | terminated => exact uncrashed
    | running =>
      refine uncrashed.look.bind fun now _ uncrashed _ => ?_
      split
      · exact (onThread uncrashed.grant).bind fun _ _ uncrashed _ => uncrashed.settle
      · exact uncrashed
  | terminate => exact ⟨Thread.Uncrashed.terminate uncrashed, trivial⟩
  | exitCode | fault | look => exact ⟨uncrashed, trivial⟩

/-- An answer is given only by a call that was made, which keeps it so. -/
theorem answer (uncrashed : machine.Uncrashed) {call : MachineCall}
    {answer : Except MachineError Unit} {after : Machine}
    (answered : call.answer? machine = some (answer, after)) : after.Uncrashed := by
  have ends := uncrashed.make call
  unfold MachineCall.answer? at answered
  -- What was answered is what the call did, with an error or without one.
  cases made : call.make machine with
  | error cause last =>
    rw [made] at ends answered
    cases answered
    exact ends
  | ok _ last =>
    -- Of the calls, only the blocking one may have no answer yet.
    rw [made] at ends answered
    cases call with
    | runAll patience =>
      -- The answer is there only if the program has ended.
      dsimp only at answered
      split at answered
      · cases answered
      · cases answered
        exact ends.1
    | _ =>
      cases answered
      exact ends.1

end Uncrashed

end Machine

/-- Whatever a host asks of a machine one after the other keeps it so. -/
theorem Session.run_uncrashed {session after : Session} (uncrashed : session.machine.Uncrashed)
    {calls : List MachineCall} (ran : session.run? calls = some after) :
    after.machine.Uncrashed := by
  -- One call after the other, each on what the one before it has left.
  induction calls generalizing session with
  | nil =>
    cases ran
    exact uncrashed
  | cons call calls ih =>
    obtain ⟨middle, called, further⟩ := Option.bind_eq_some_iff.mp ran
    -- The first call leaves a machine of which the others are asked.
    unfold call? at called
    split at called
    · rename_i answered
      cases called
      exact ih (uncrashed.answer answered) further
    · cases called

namespace Machine

/--
No program crashes its worker, whatever pointers it makes up and however its host runs it.

The machine whose worker looks first is the same machine, so that every operation is possible that
the worker comes to: each bit that it looks up or changes belongs to a unit of the arena, and each
range of bytes that it takes lies in the arena; no more units are freed than are used, and no more
are used than there are; no address that it adds up is past the last one of 64 bits, be it that of
a block, of a part of a block or of a member; a function of the machine finds the argument that it
takes; no connective is left to the operators that evaluate both sides; and the activation that was
entered for a call is there to be left.
So no outcome is a crash, neither where the program comes to rest, held back or running freely, nor
after any sequence of calls of the host.
The types of the program, and its literals with a zero byte behind, have sizes of 64 bits, and the
arena ends before the last address of 64 bits, like every arena that a host can make.
-/
theorem no_program_crashes_its_worker {program : Program} {config : Config} {spawns : Nat → Bool}
    {machine : Machine}
    (created : create program config spawns = .ok machine) (fits : program.Fits)
    (room : heapBase + config.heapSize < UInt64.size) :
    createWary program config spawns = .ok machine ∧
    (∀ grants crash, (machine.thread.worker.paced grants).outcome? ≠ some (.crashed crash)) ∧
    (∀ patience crash, (machine.thread.worker.free patience).outcome? ≠ some (.crashed crash)) ∧
    ∀ calls session crash, Session.run? { machine } calls = some session →
      session.machine.thread.outcome? ≠ some (.crashed crash) := by
  -- The bounds of the program and the arena are known from here on.
  let setting : Setting := { program, size := config.heapSize, fits, room }
  obtain ⟨heap, made, rfl⟩ := create_eq created
  have same : program.waryWorker heap config = program.worker heap config :=
    setting.waryWorker_eq rfl made
  have uncrashed : Uncrashed { thread := program.thread heap config spawns } :=
    ⟨fun _ => Program.runFrom_uncrashed _ _, fun _ => Program.runFrom_uncrashed _ _, nofun⟩
  refine ⟨?_, uncrashed.paced, uncrashed.free,
    fun calls session crash ran => (Session.run_uncrashed uncrashed ran).now crash⟩
  -- Both machines are refused for the same settings, and are made around the same heap.
  unfold create at created
  unfold createWary
  cases valid : config.validate with
  | error cause =>
    rw [valid] at created
    cases created
  | ok _ =>
    -- The settings are valid and the heap is the same, so only the workers are compared.
    rw [made]
    show Except.ok _ = Except.ok _
    rw [same]
    rfl

/-- A program that prints a member of a structure which a function returns. -/
def printingMember : Program where
  strings := #["%d"]
  functions := [
    { name := "main"
      result := .int
      parameters := []
      body := [
        .expression (.call "printf" [.string 0, .member (.call "pair" []) "b"]) (.startOfLine 1),
        .ret (some (.int 0)) (.startOfLine 2)] },
    { name := "pair"
      result := pair
      parameters := []
      body := [
        .declare "p" pair none (.startOfLine 3),
        .expression (.assign (.member (.var "p") "b") (.int 5)) (.startOfLine 4),
        .ret (some (.var "p")) (.startOfLine 5)] }]
where
  pair : CType := .struct "Pair" (.ofList [("a", .int), ("b", .int)])

/-- It does so without a crash, and exits with zero. -/
theorem no_program_crashes_its_worker_printing_a_member :
    ∃ machine session, create printingMember { heapSize := 64 } (fun _ => true) = .ok machine ∧
      createWary printingMember { heapSize := 64 } (fun _ => true) = .ok machine ∧
      Session.run? { machine } [.runAll 9] = some session ∧
      session.machine.thread.outcome? = some (.finished 0) ∧
      ∀ crash, session.machine.thread.outcome? ≠ some (.crashed crash) := by
  let heap : Heap := { Heap.empty with unit := 8, units := 8, unit_pos := by decide }
  let machine : Machine :=
    { thread := printingMember.thread heap { heapSize := 64 } fun _ => true }
  have created : create printingMember { heapSize := 64 } (fun _ => true) = .ok machine := rfl
  -- That the program fits is a computation on its text.
  have fits : printingMember.Fits := ⟨by unfold Fit; decide, by decide⟩
  obtain ⟨wary, -, -, never⟩ := no_program_crashes_its_worker created fits (by decide)
  -- The program is run to its end, and the run has an outcome.
  have ended : (Session.run? { machine } [.runAll 9]).bind (·.machine.thread.outcome?) =
      some (.finished 0) := by
    decide +kernel
  obtain ⟨session, ran, outcome⟩ := Option.bind_eq_some_iff.mp ended
  exact ⟨machine, session, created, wary, ran, outcome, fun crash => never _ _ crash ran⟩

end Machine

end StepMachine
