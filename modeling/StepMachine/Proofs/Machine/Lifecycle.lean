import StepMachine.Proofs.Machine.Cancellation

/-! A machine under every sequence of calls of its host: it runs its program once at most, and once
it has stopped nothing about it changes any more. -/

namespace StepMachine

/-- What remains of a worker at rest once it is over, if no more is granted to it. -/
def Rest.remains {ν α ε : Type} : Rest ν α ε → ν
  | parked _ abandoned => abandoned
  | ended view _ _ => view

namespace Program

variable {heap : Heap} {config : Config}

/-- However far a program goes and however it is watched, nothing is in use once it is over. -/
theorem restAt_frees (program : Program)
    (created : Heap.create config.heapSize config.unitSize = .ok heap)
    (fits : heapBase + config.heapSize ≤ UInt64.size) (grants : Nat) (journal : Journal) :
    (program.restAt heap config grants journal).remains.heap.usedBytes = 0 := by
  -- A fresh program holds its own, and so it does wherever its run ends.
  have fresh := Context.start_owns created fits program config.maxCallDepth grants
  have started : Context.Owns
      ((Context.start program heap config.maxCallDepth 0).repaced grants journal) :=
    ⟨fresh.holds, fresh.globals, fresh.frames⟩
  have owns := (Exec.steps_own.executes.runProgram config.entryPoint).keeps started
  unfold Exec.after at owns
  -- However the run ends, what was left is given up.
  unfold restAt restOf course
  split
  all_goals
    rename_i ran
    rw [ran] at owns
    exact owns.tearDown_used

/-- A fresh heap has nothing in use. -/
theorem create_unused (created : Heap.create config.heapSize config.unitSize = .ok heap) :
    heap.usedBytes = 0 := by
  -- Only the block that was taken for an empty arena is there to count.
  unfold Heap.create at created
  split at created
  · cases created
    exact Nat.zero_mul _
  · cases created

end Program

/-- What a host can ask of a machine. -/
inductive MachineCall where
  /-- Runs the whole program, for which the host waits for so many statements. -/
  | runAll (patience : Nat)
  | startStepping
  | step
  | terminate
  | exitCode
  | fault
  /-- Looks at the output, at the memory or at the statement under way, or asks whether the program
  is running. -/
  | look
  deriving DecidableEq

namespace MachineCall

/-- Whether a call is an attempt to start the program. -/
def starts : MachineCall → Bool
  | runAll _ | startStepping => true
  | _ => false

/-- Whether a call uses the machine up: an attempt to start it, or to stop it for good. -/
def spends (call : MachineCall) : Bool := call.starts || call = .terminate

/-- Makes the call. Whoever only asks changes nothing. -/
def make : MachineCall → Machine.Call Unit
  | runAll patience => Machine.runAll patience
  | startStepping => Machine.startStepping
  | step => Machine.step
  | terminate => modify Machine.terminate
  | exitCode | fault | look => pure ()

/-- The answer to a call, and the machine after it. A host that runs a whole program has its answer
when the program has ended, and not before. -/
def answer? (call : MachineCall) (machine : Machine) :
    Option (Except MachineError Unit × Machine) :=
  match call, call.make machine with
  | _, .error cause after => some (.error cause, after)
  | runAll _, .ok _ after => if after.isRunning then none else some (.ok (), after)
  | _, .ok _ after => some (.ok (), after)

end MachineCall

/-- A machine, and the calls that were made on it with their answers, latest first. -/
structure Session where
  machine : Machine
  past : List (MachineCall × Except MachineError Unit) := []

namespace Session

/-- Makes a call, if it is answered. -/
def call? (session : Session) (call : MachineCall) : Option Session :=
  match call.answer? session.machine with
  | some (answer, machine) => some { machine, past := (call, answer) :: session.past }
  | none => none

/-- Makes calls one after the other, if all of them are answered. -/
def run? (session : Session) : List MachineCall → Option Session
  | [] => some session
  | call :: calls => (session.call? call).bind (·.run? calls)

/-- The answer that a call would get now. -/
def answer? (session : Session) (call : MachineCall) : Option (Except MachineError Unit) :=
  (call.answer? session.machine).map (·.1)

/-- Whether the host has tried to start the machine or stopped it for good. -/
def spent (session : Session) : Bool := session.past.any (·.1.spends)

/-- How often the machine was started. -/
def startCount (session : Session) : Nat :=
  session.past.countP fun (call, answer) => call.starts && answer.isOk

end Session

namespace Machine

variable {program : Program} {heap : Heap} {config : Config} {spawns : Nat → Bool}
  {machine : Machine}

/-- Where a machine can have come to. -/
inductive Course (program : Program) (heap : Heap) (config : Config) (spawns : Nat → Bool) :
    Machine → Prop where
  | unstarted : Course program heap config spawns { thread := program.thread heap config spawns }
  /-- The program is gone and never ran. -/
  | lost (phase : Phase) (spent : phase ≠ .notStarted) : Course program heap config spawns {
      thread := { program.thread heap config spawns with status := .discarded }
      phase }
  | waiting (granted : Nat) (view abandoned : View)
      (parked : (program.worker heap config).paced granted = .parked view abandoned) :
      Course program heap config spawns {
        thread := { program.thread heap config spawns with
          status := .started .stepping granted (.parked view abandoned) }
        phase := .running }
  /-- The program has ended, by itself or because it was called off; the machine may not have
  noticed yet. -/
  | ended (mode : Mode) (granted : Nat) (view : View) (outcome : Outcome Int32 Fault) (steps : Nat)
      (phase : Phase) (spent : phase ≠ .notStarted) (unused : view.heap.usedBytes = 0) :
      Course program heap config spawns {
        thread := { program.thread heap config spawns with
          status := .started mode granted (.ended view outcome steps) }
        phase }

namespace Course

/-- A program that was granted so many statements waits for another one, or is over. -/
theorem of_paced (created : Heap.create config.heapSize config.unitSize = .ok heap)
    (fits : heapBase + config.heapSize ≤ UInt64.size) (granted : Nat) (phase : Phase)
    (spent : phase ≠ .notStarted)
    (running : ((program.worker heap config).paced granted).isEnded = false → phase = .running) :
    Course program heap config spawns {
      thread := { program.thread heap config spawns with
        status := .started .stepping granted ((program.worker heap config).paced granted) }
      phase } := by
  -- Where the grants have led decides which of the two it is.
  cases rest : (program.worker heap config).paced granted with
  -- A worker that waits is still running.
  | parked view abandoned =>
    rw [rest] at running
    rw [running rfl]
    exact .waiting granted view abandoned rest
  -- One that has ended has given everything up.
  | ended view outcome steps =>
    have unused := program.restAt_frees created fits granted (.brief [])
    rw [← Program.paced_eq, rest] at unused
    exact .ended .stepping granted view outcome steps phase spent unused

/-- A program that has run freely to its end is over. -/
theorem of_free (created : Heap.create config.heapSize config.unitSize = .ok heap)
    (fits : heapBase + config.heapSize ≤ UInt64.size) {patience : Nat}
    (ended : ((program.worker heap config).free patience).isEnded = true) :
    Course program heap config spawns (settled {
      thread := { program.thread heap config spawns with
        status := .started .free 0 ((program.worker heap config).free patience) }
      phase := .running }) := by
  -- The host had its answer, so the program has ended.
  cases rest : (program.worker heap config).free patience with
  | parked view abandoned =>
    rw [rest] at ended
    cases ended
  | ended view outcome steps =>
    have unused := program.restAt_frees created fits patience .off
    rw [← Program.free_eq, rest] at unused
    exact .ended .free 0 view outcome steps .terminated nofun unused

end Course

/-- A machine that has been used up is not started again. -/
theorem answer?_start {call : MachineCall} (starts : call.starts = true)
    (spent : machine.phase ≠ .notStarted) :
    call.answer? machine = some (.error .alreadyStarted, machine) := by
  have refused : start machine = .error .alreadyStarted machine := by
    have looked : (get : Call Machine) machine = .ok machine machine := rfl
    -- Being used up is all that the start looks at.
    simp only [start, bind_run, looked, if_neg spent]
    rfl
  -- Both ways to start a machine leave the initial phase first.
  cases call with
  | runAll patience =>
    have refused : runAll patience machine = .error .alreadyStarted machine := by
      simp only [runAll, bind_run, refused]
    simp only [MachineCall.answer?, MachineCall.make, refused]
  | startStepping =>
    have refused : startStepping machine = .error .alreadyStarted machine := by
      simp only [startStepping, bind_run, refused]
    simp only [MachineCall.answer?, MachineCall.make, refused]
  | step | terminate | exitCode | fault | look => cases starts

/-- A machine that is not started answers an attempt to start it as the settings allow. -/
theorem answer?_unstarted_start {call : MachineCall} (starts : call.starts = true) :
    call.answer? { thread := program.thread heap config spawns } =
      if spawns config.workerStack then
        match call with
        | .runAll patience =>
          if ((program.worker heap config).free patience).isEnded then
            some (.ok (), settled {
              thread := { program.thread heap config spawns with
                status := .started .free 0 ((program.worker heap config).free patience) }
              phase := .running })
          else none
        | _ => some (.ok (), {
            thread := { program.thread heap config spawns with
              status := .started .stepping 0 ((program.worker heap config).paced 0) }
            phase := .running })
      else some (.error (.thread .spawn), {
        thread := { program.thread heap config spawns with status := .discarded }
        phase := .running }) := by
  -- The two attempts differ in how long the host waits, and in nothing else.
  cases call with
  | runAll patience =>
    simp only [MachineCall.answer?, MachineCall.make, runAll_run]
    -- Without a thread the phase is entered all the same.
    cases spawns config.workerStack with
    | false => rfl
    | true =>
      cases ended : ((program.worker heap config).free patience).isEnded <;>
        simp [settled, isRunning, Thread.isRunning, ended]
  | startStepping =>
    simp only [MachineCall.answer?, MachineCall.make, startStepping_run]
    cases spawns config.workerStack <;> rfl
  | step | terminate | exitCode | fault | look => cases starts

/-- A machine that has been used up and has no program that is running. -/
structure Stopped (machine : Machine) : Prop where
  spent : machine.phase ≠ .notStarted
  resting : machine.thread.isRunning = false
  final : machine.thread.terminate = machine.thread

namespace Stopped

/-- A machine that has stopped is not running. -/
theorem isRunning (stopped : machine.Stopped) : machine.isRunning = false := by
  simp [Machine.isRunning, stopped.resting]

/-- Running a statement on a machine that has stopped is refused. -/
theorem answer?_step (stopped : machine.Stopped) :
    MachineCall.step.answer? machine =
      some (.error .notRunning, { machine with phase := .terminated }) := by
  have refused : step machine = .error .notRunning { machine with phase := .terminated } := by
    obtain ⟨thread, phase⟩ := machine
    -- In the initial phase the answer would be another one, but that phase is past.
    have resting : thread.isRunning = false := stopped.resting
    rw [step_run]
    cases phase with
    | notStarted => exact absurd rfl stopped.spent
    | terminated => rfl
    | running => simp [resting]
  simp only [MachineCall.answer?, MachineCall.make, refused]

/-- No call changes anything about the thread of a machine that has stopped. -/
theorem answer (stopped : machine.Stopped) {call : MachineCall} {answer : Except MachineError Unit}
    {after : Machine} (answered : call.answer? machine = some (answer, after)) :
    after.Stopped ∧ after.thread = machine.thread := by
  -- Starting is refused, stepping notices the end at most, and stopping has nothing left to stop.
  cases call with
  -- A second start is refused in every phase but the first.
  | runAll _ | startStepping =>
    rw [answer?_start rfl stopped.spent] at answered
    cases answered
    exact ⟨stopped, rfl⟩
  | step =>
    rw [stopped.answer?_step] at answered
    cases answered
    exact ⟨⟨nofun, stopped.resting, stopped.final⟩, rfl⟩
  -- To stop it changes the phase, and the thread is as it was.
  | terminate =>
    cases answered
    have same : machine.terminate.thread = machine.thread := stopped.final
    refine ⟨⟨nofun, ?_, ?_⟩, same⟩
    · rw [same]
      exact stopped.resting
    · rw [same]
      exact stopped.final
  | exitCode | fault | look =>
    cases answered
    exact ⟨stopped, rfl⟩

end Stopped

namespace Course

/-- A machine that has been used up and is not running has stopped, with nothing in use. -/
theorem stopped (created : Heap.create config.heapSize config.unitSize = .ok heap)
    (course : Course program heap config spawns machine) (spent : machine.phase ≠ .notStarted)
    (resting : machine.isRunning = false) :
    machine.Stopped ∧ machine.view.heap.usedBytes = 0 := by
  -- A machine that waits is running, so it is one whose program is gone or has ended.
  cases course with
  | unstarted => exact absurd rfl spent
  | lost phase spent => exact ⟨⟨spent, rfl, rfl⟩, Program.create_unused created⟩
  | waiting granted view abandoned parked => cases resting
  | ended mode granted view outcome steps phase spent unused =>
    exact ⟨⟨spent, rfl, rfl⟩, unused⟩

/-- Running a statement on a machine that waits succeeds, and grants its program one more. -/
theorem answer?_step_waiting {granted : Nat} {view abandoned : View} :
    MachineCall.step.answer? {
        thread := { program.thread heap config spawns with
          status := .started .stepping granted (.parked view abandoned) }
        phase := .running } =
      some (.ok (), settled {
        thread := { program.thread heap config spawns with
          status := .started .stepping (granted + 1)
            ((program.worker heap config).paced (granted + 1)) }
        phase := .running }) := by
  simp only [MachineCall.answer?, MachineCall.make, step_run]
  rfl

/-- A machine whose program was just granted a statement waits again, or its program is over. -/
theorem of_granted (created : Heap.create config.heapSize config.unitSize = .ok heap)
    (fits : heapBase + config.heapSize ≤ UInt64.size) (granted : Nat) :
    Course program heap config spawns (settled {
      thread := { program.thread heap config spawns with
        status := .started .stepping granted ((program.worker heap config).paced granted) }
      phase := .running }) := by
  unfold settled
  split
  · exact of_paced created fits granted .running nofun fun _ => rfl
  · -- A program that is not running has ended.
    rename_i resting
    refine of_paced created fits granted .terminated nofun fun alive => absurd ?_ resting
    simp [Thread.isRunning, alive]

/-- Every call that is answered leads from one such place to another one. -/
theorem answer (created : Heap.create config.heapSize config.unitSize = .ok heap)
    (fits : heapBase + config.heapSize ≤ UInt64.size)
    (course : Course program heap config spawns machine)
    {call : MachineCall} {answer : Except MachineError Unit} {after : Machine}
    (answered : call.answer? machine = some (answer, after)) :
    Course program heap config spawns after := by
  -- Only a machine that is not started or that waits can change; the others have stopped.
  cases course with
  | unstarted =>
    -- A start finds its worker or it does not, and a free run has ended before it is answered.
    cases call with
    | runAll patience =>
      rw [answer?_unstarted_start rfl] at answered
      split at answered
      · dsimp only at answered
        split at answered
        · rename_i ended
          cases answered
          exact of_free created fits ended
        · cases answered
      · cases answered
        exact .lost .running nofun
    | startStepping =>
      rw [answer?_unstarted_start rfl] at answered
      split at answered
      · cases answered
        exact of_paced created fits 0 .running nofun fun _ => rfl
      · cases answered
        exact .lost .running nofun
    | terminate =>
      cases answered
      exact .lost .terminated nofun
    | step | exitCode | fault | look =>
      cases answered
      exact .unstarted
  | lost phase spent =>
    -- What has stopped keeps its thread, whatever phase it is in.
    have stopped : Stopped {
        thread := { program.thread heap config spawns with status := .discarded }
        phase } := ⟨spent, rfl, rfl⟩
    obtain ⟨still, same⟩ := stopped.answer answered
    obtain ⟨thread, phase⟩ := after
    cases same
    exact .lost phase still.spent
  | ended mode granted view outcome steps phase spent unused =>
    have stopped : Stopped {
        thread := { program.thread heap config spawns with
          status := .started mode granted (.ended view outcome steps) }
        phase } := ⟨spent, rfl, rfl⟩
    obtain ⟨still, same⟩ := stopped.answer answered
    obtain ⟨thread, phase⟩ := after
    cases same
    exact .ended mode granted view outcome steps phase still.spent unused
  | waiting granted view abandoned parked =>
    -- A step leads to wherever one more statement leads, and a stop to the end of what was
    -- abandoned.
    cases call with
    | runAll _ | startStepping =>
      cases answered.symm.trans (answer?_start rfl nofun)
      exact .waiting granted view abandoned parked
    | step =>
      rw [answer?_step_waiting] at answered
      cases answered
      exact of_granted created fits (granted + 1)
    -- To stop it leads to the end that was kept for this.
    | terminate =>
      cases answered
      -- What was abandoned gives up all it had taken.
      have unused := program.restAt_frees created fits granted (.brief [])
      rw [← Program.paced_eq, parked] at unused
      exact .ended .terminating granted abandoned .cancelled granted .terminated nofun unused
    | exitCode | fault | look =>
      cases answered
      exact .waiting granted view abandoned parked

/-- A machine that has not been used up is as it was created. -/
theorem unspent (course : Course program heap config spawns machine)
    (unspent : machine.phase = .notStarted) :
    machine = { thread := program.thread heap config spawns } := by
  -- Past the initial phase, being used up is part of the place.
  cases course with
  | unstarted => rfl
  | lost phase spent => exact absurd unspent spent
  | waiting granted view abandoned parked => cases unspent
  | ended mode granted view outcome steps phase spent unused => exact absurd unspent spent

/-- A machine that is running has a program that waits for a grant. -/
theorem waits (course : Course program heap config spawns machine)
    (running : machine.isRunning = true) :
    ∃ granted view abandoned,
      (program.worker heap config).paced granted = .parked view abandoned ∧
      machine = {
        thread := { program.thread heap config spawns with
          status := .started .stepping granted (.parked view abandoned) }
        phase := .running } := by
  -- The others are not running, whatever phase they are in.
  cases course with
  | unstarted => cases running
  | lost phase spent => simp [isRunning, Thread.isRunning] at running
  | waiting granted view abandoned parked => exact ⟨granted, view, abandoned, parked, rfl⟩
  | ended mode granted view outcome steps phase spent unused =>
    simp [isRunning, Thread.isRunning, Rest.isEnded] at running

/-- A machine runs a statement just if it is running, and says that it was not started just if it
has not been used up. -/
theorem answer?_step (created : Heap.create config.heapSize config.unitSize = .ok heap)
    (course : Course program heap config spawns machine) :
    ∃ answer after, MachineCall.step.answer? machine = some (answer, after) ∧
      (answer = .error .notStarted ↔ machine.phase = .notStarted) ∧
      (answer = .ok () ↔ machine.isRunning = true) := by
  -- The three answers go with the three situations: not used up, stopped, and waiting.
  by_cases spent : machine.phase = .notStarted
  · rw [course.unspent spent]
    exact ⟨_, _, rfl, ⟨fun _ => rfl, fun _ => rfl⟩, ⟨nofun, nofun⟩⟩
  · cases running : machine.isRunning with
    | false =>
      obtain ⟨stopped, -⟩ := course.stopped created spent running
      exact ⟨_, _, stopped.answer?_step, ⟨nofun, fun fresh => absurd fresh spent⟩, ⟨nofun, nofun⟩⟩
    | true =>
      obtain ⟨granted, view, abandoned, -, rfl⟩ := course.waits running
      exact ⟨_, _, answer?_step_waiting, ⟨nofun, nofun⟩, ⟨fun _ => rfl, fun _ => rfl⟩⟩

/-- An attempt to start a machine that is answered succeeds just if the host has room for it and the
machine has not been used up. -/
theorem start_ok_iff (course : Course program heap config spawns machine) {call : MachineCall}
    (starts : call.starts = true) {answer : Except MachineError Unit} {after : Machine}
    (answered : call.answer? machine = some (answer, after)) :
    answer = .ok () ↔ spawns config.workerStack = true ∧ machine.phase = .notStarted := by
  -- On a machine that has been used up an attempt is refused; on any other only the room decides.
  by_cases spent : machine.phase = .notStarted
  · have fresh := course.unspent spent
    subst fresh
    rw [answer?_unstarted_start starts] at answered
    split at answered
    · rename_i room
      -- Whichever way the machine is started, there is no other answer.
      have started : answer = .ok () := by
        split at answered
        · split at answered
          · cases answered
            rfl
          · cases answered
        · cases answered
          rfl
      exact ⟨fun _ => ⟨room, rfl⟩, fun _ => started⟩
    · -- Without it, every attempt fails.
      rename_i room
      cases answered
      exact ⟨nofun, fun may => absurd may.1 room⟩
  · -- A machine that has been used up refuses the attempt.
    rw [answer?_start starts spent] at answered
    cases answered
    exact ⟨nofun, fun may => absurd may.2 spent⟩

/-- Only a call that runs a program which does not end gets no answer. -/
theorem answer?_eq_none_iff (created : Heap.create config.heapSize config.unitSize = .ok heap)
    (course : Course program heap config spawns machine) (call : MachineCall) :
    call.answer? machine = none ↔ spawns config.workerStack = true ∧ machine.phase = .notStarted ∧
      ∃ patience, call = .runAll patience ∧
        ((program.worker heap config).free patience).isEnded = false := by
  -- All other calls are answered at once.
  cases call with
  | runAll patience =>
    by_cases spent : machine.phase = .notStarted
    · have fresh := course.unspent spent
      subst fresh
      rw [answer?_unstarted_start rfl]
      cases room : spawns config.workerStack with
      | false => exact ⟨nofun, nofun⟩
      | true =>
        cases ended : ((program.worker heap config).free patience).isEnded with
        | false =>
          exact ⟨fun _ => ⟨rfl, rfl, patience, rfl, ended⟩, fun _ => by simp [ended]⟩
        | true =>
          refine ⟨fun unanswered => by simp [ended] at unanswered, ?_⟩
          rintro ⟨-, -, _, ⟨⟩, further⟩
          rw [ended] at further
          cases further
    · rw [answer?_start rfl spent]
      exact ⟨nofun, fun may => absurd may.2.1 spent⟩
  -- A start that does not wait is answered in any case.
  | startStepping =>
    refine ⟨fun unanswered => ?_, nofun⟩
    simp only [MachineCall.answer?] at unanswered
    -- The outcome of the start does not matter, as either is an answer.
    cases made : MachineCall.startStepping.make machine <;> rw [made] at unanswered <;>
      cases unanswered
  -- A step has one of three answers.
  | step =>
    obtain ⟨answer, after, answered, -⟩ := course.answer?_step created
    rw [answered]
    exact ⟨nofun, nofun⟩
  | terminate | exitCode | fault | look => exact ⟨nofun, nofun⟩

/-- A machine that has been used up stays so. -/
theorem answer_spent (created : Heap.create config.heapSize config.unitSize = .ok heap)
    (course : Course program heap config spawns machine) (spent : machine.phase ≠ .notStarted)
    {call : MachineCall} {answer : Except MachineError Unit} {after : Machine}
    (answered : call.answer? machine = some (answer, after)) : after.phase ≠ .notStarted := by
  -- A machine that has stopped keeps its phase; one that waits is running, so it has left the
  -- first.
  cases running : machine.isRunning with
  | false => exact ((course.stopped created spent running).1.answer answered).1.spent
  | true =>
    obtain ⟨granted, view, abandoned, -, rfl⟩ := course.waits running
    cases call with
    | runAll _ | startStepping =>
      cases answered.symm.trans (answer?_start rfl nofun)
      nofun
    | step =>
      rw [answer?_step_waiting] at answered
      cases answered
      unfold settled
      split <;> nofun
    | terminate | exitCode | fault | look =>
      cases answered
      nofun

/-- A machine is used up by an attempt to start it and by being stopped for good, and by nothing
else. -/
theorem answer_unspent_iff (created : Heap.create config.heapSize config.unitSize = .ok heap)
    (course : Course program heap config spawns machine) {call : MachineCall}
    {answer : Except MachineError Unit} {after : Machine}
    (answered : call.answer? machine = some (answer, after)) :
    after.phase = .notStarted ↔ machine.phase = .notStarted ∧ call.spends = false := by
  by_cases spent : machine.phase = .notStarted
  · have fresh := course.unspent spent
    subst fresh
    -- Attempts to start it and the stop leave the initial phase, and those that only ask do not.
    cases call with
    | runAll patience =>
      rw [answer?_unstarted_start rfl] at answered
      refine ⟨fun fresh => ?_, fun unspent => by cases unspent.2⟩
      split at answered
      · dsimp only at answered
        split at answered
        · rename_i ended
          cases answered
          simp [settled, Thread.isRunning, ended] at fresh
        · cases answered
      · cases answered
        cases fresh
    | startStepping =>
      rw [answer?_unstarted_start rfl] at answered
      refine ⟨fun fresh => ?_, fun unspent => by cases unspent.2⟩
      split at answered <;> cases answered <;> cases fresh
    | terminate =>
      cases answered
      refine ⟨fun fresh => ?_, fun unspent => ?_⟩
      · cases fresh
      · cases unspent.2
    | step | exitCode | fault | look =>
      cases answered
      exact ⟨fun _ => ⟨rfl, rfl⟩, fun _ => rfl⟩
  · -- A machine that was used up stays so.
    have still := course.answer_spent created spent answered
    exact ⟨fun fresh => absurd fresh still, fun fresh => absurd fresh.1 spent⟩

end Course

end Machine

namespace Session

variable {program : Program} {heap : Heap} {config : Config} {spawns : Nat → Bool}
  {session : Session}

/-- What a host remembers of its calls agrees with where the machine has come to. -/
structure Agrees (program : Program) (heap : Heap) (config : Config) (spawns : Nat → Bool)
    (session : Session) : Prop where
  course : Machine.Course program heap config spawns session.machine
  spent : session.spent = false ↔ session.machine.phase = .notStarted
  unstarted : session.spent = false → session.startCount = 0
  once : session.startCount ≤ 1

namespace Agrees

/-- A call that is answered keeps it so. -/
theorem call (created : Heap.create config.heapSize config.unitSize = .ok heap)
    (fits : heapBase + config.heapSize ≤ UInt64.size)
    (agrees : Agrees program heap config spawns session)
    {call : MachineCall} {after : Session} (called : session.call? call = some after) :
    Agrees program heap config spawns after := by
  unfold call? at called
  split at called
  · -- The call was answered, and the books are kept with its answer.
    rename_i answer machine answered
    cases called
    have course := agrees.course
    have spends := course.answer_unspent_iff created answered
    have spent : Session.spent ⟨machine, (call, answer) :: session.past⟩ = false ↔
        call.spends = false ∧ session.spent = false := by
      simp [Session.spent]
    refine ⟨course.answer created fits answered, ?_, fun unspent => ?_, ?_⟩
    · -- The session is spent once a call has spent the machine, so both sides change together.
      rw [spent, agrees.spent, spends]
      exact and_comm
    · -- No call that starts the machine leaves it as it was.
      obtain ⟨idle, before⟩ := spent.mp unspent
      have quiet : call.starts = false := by
        unfold MachineCall.spends at idle
        simp_all
      have none := agrees.unstarted before
      unfold startCount at none ⊢
      simp [quiet, none]
    · -- Only a start that succeeds counts, and it needs a machine that was not used up.
      have counted : startCount ⟨machine, (call, answer) :: session.past⟩ =
          session.startCount + if call.starts && answer.isOk then 1 else 0 := by
        simp [startCount, List.countP_cons]
      rw [counted]
      split
      · -- A machine that is started now was not used up, and so it was not started before.
        rename_i started
        obtain ⟨starts, isOk⟩ := Bool.and_eq_true_iff.mp started
        have succeeded : answer = .ok () := by
          cases answer with
          | ok _ => rfl
          | error _ => cases isOk
        have fresh := ((course.start_ok_iff starts answered).mp succeeded).2
        have none := agrees.unstarted (agrees.spent.mpr fresh)
        omega
      · exact agrees.once
  · cases called

/-- So do calls one after the other. -/
theorem run (created : Heap.create config.heapSize config.unitSize = .ok heap)
    (fits : heapBase + config.heapSize ≤ UInt64.size)
    (agrees : Agrees program heap config spawns session)
    {calls : List MachineCall} {after : Session} (ran : session.run? calls = some after) :
    Agrees program heap config spawns after := by
  -- The calls are made in order, each from where the one before it has led.
  induction calls generalizing session with
  | nil =>
    cases ran
    exact agrees
  | cons call calls ih =>
    obtain ⟨middle, called, further⟩ := Option.bind_eq_some_iff.mp ran
    exact ih (agrees.call created fits called) further

end Agrees

/-- Whatever a host asks of a machine that has stopped, its thread stays as it is. -/
theorem run_stopped (stopped : session.machine.Stopped) {calls : List MachineCall} {after : Session}
    (ran : session.run? calls = some after) :
    after.machine.Stopped ∧ after.machine.thread = session.machine.thread := by
  -- Each call finds the machine stopped, and leaves it so.
  induction calls generalizing session with
  | nil =>
    cases ran
    exact ⟨stopped, rfl⟩
  | cons call calls ih =>
    -- The first call keeps the machine stopped, and so do all that follow.
    obtain ⟨middle, called, further⟩ := Option.bind_eq_some_iff.mp ran
    unfold call? at called
    split at called
    · rename_i answered
      cases called
      obtain ⟨next, same⟩ := stopped.answer answered
      obtain ⟨last, thread⟩ := ih next further
      exact ⟨last, thread.trans same⟩
    · cases called

end Session

/-- A program does not end with an exit status and with a fault. -/
theorem Machine.fault?_of_exitCode {machine : Machine} {status : Int32}
    (exited : machine.exitCode = .ok status) : machine.fault? = none := by
  -- Both answers are read off the outcome of the thread, which is one or the other.
  unfold exitCode Thread.exitStatus at exited
  unfold fault? Thread.fault?
  split at exited
  · rename_i outcome
    rw [outcome]
  · cases exited

/--
A machine lives once, whatever its host asks of it and in whatever order.

It is started once at most, and it can be started just if the host has room for its worker and has
neither tried to start it nor stopped it for good before.
Each call is answered, except that a host waits without an answer for a program that it runs as a
whole and that does not end.
Running one statement is refused as not started just if the host has neither tried to start the
machine nor stopped it for good, and it succeeds just if the machine is running.
There is never an exit status together with a fault.
Once the host has started the machine or stopped it for good and it is not running, no memory is in
use; and whatever is asked of it then, it never runs again and shows the same exit status, fault,
output, memory and location for ever.
All that is asked of the memory is that each of its bytes has an address of 64 bits, as in every
arena that a host can make.
-/
theorem Session.machine_lives_once {program : Program} {config : Config} {spawns : Nat → Bool}
    {machine : Machine}
    (created : Machine.create program config spawns = .ok machine)
    (fits : heapBase + config.heapSize ≤ UInt64.size) {calls : List MachineCall}
    {session : Session} (ran : Session.run? { machine } calls = some session) :
    session.startCount ≤ 1 ∧
    (∀ call answer, call.starts = true → session.answer? call = some answer →
      (answer = .ok () ↔ spawns config.workerStack = true ∧ session.spent = false)) ∧
    (∀ call, session.answer? call = none ↔ spawns config.workerStack = true ∧ session.spent = false ∧
      ∃ patience, call = .runAll patience ∧
        (machine.thread.worker.free patience).isEnded = false) ∧
    (session.answer? .step = some (.error .notStarted) ↔ session.spent = false) ∧
    (session.answer? .step = some (.ok ()) ↔ session.machine.isRunning = true) ∧
    ¬ (session.machine.exitCode.isOk = true ∧ session.machine.fault?.isSome = true) ∧
    (session.spent = true → session.machine.isRunning = false →
      session.machine.view.heap.usedBytes = 0 ∧
      ∀ more last, session.run? more = some last →
        last.machine.isRunning = false ∧ last.machine.exitCode = session.machine.exitCode ∧
        last.machine.fault? = session.machine.fault? ∧
        last.machine.view = session.machine.view) := by
  obtain ⟨heap, made, rfl⟩ := Machine.create_eq created
  -- A machine that was just created has not been used up, and every call keeps the books.
  have fresh : Session.Agrees program heap config spawns
      { machine := { thread := program.thread heap config spawns } } :=
    ⟨.unstarted, ⟨fun _ => rfl, fun _ => rfl⟩, fun _ => rfl, Nat.zero_le 1⟩
  have agrees := fresh.run made fits ran
  have course := agrees.course
  obtain ⟨answer, after, answered, early, running⟩ := course.answer?_step made
  have stepped : session.answer? .step = some answer := by
    rw [Session.answer?, answered]
    rfl
  refine ⟨agrees.once, fun call answer starts replied => ?_, fun call => ?_, ?_, ?_,
    fun both => ?_, fun spent resting => ?_⟩
  · -- A start is answered as the room and the past of the machine decide.
    obtain ⟨⟨_, after⟩, began, rfl⟩ := Option.map_eq_some_iff.mp replied
    rw [agrees.spent]
    exact course.start_ok_iff starts began
  · -- Only a free run without an end is not answered.
    rw [agrees.spent, Session.answer?, Option.map_eq_none_iff]
    exact course.answer?_eq_none_iff made call
  · rw [stepped, agrees.spent, Option.some_inj]
    exact early
  · rw [stepped, Option.some_inj]
    exact running
  · -- A program that has an exit status has no fault to tell.
    cases exited : session.machine.exitCode with
    | ok status =>
      rw [Machine.fault?_of_exitCode exited] at both
      exact absurd both.2 Bool.false_ne_true
    | error cause =>
      rw [exited] at both
      exact absurd both.1 Bool.false_ne_true
  · -- Used up and at rest, the machine has stopped, and no call changes its thread.
    have spent : session.machine.phase ≠ .notStarted := fun unspent => by
      rw [agrees.spent.mpr unspent] at spent
      cases spent
    obtain ⟨stopped, unused⟩ := course.stopped made spent resting
    refine ⟨unused, fun more last further => ?_⟩
    -- Exit status, fault and view are read off the thread, which stays as it is.
    obtain ⟨still, same⟩ := Session.run_stopped stopped further
    unfold Machine.exitCode Machine.fault? Machine.view
    rw [same]
    exact ⟨still.isRunning, rfl, rfl, rfl⟩

/-- A machine is stepped too early, started, looked at, stepped to its end and asked to start again:
from then on its exit status is seven, whatever else is asked of it. -/
theorem Session.machine_lives_once_returning_seven :
    ∃ machine session,
      Machine.create Machine.returningSeven { heapSize := 64 } (fun _ => true) = .ok machine ∧
      Session.run? { machine } [.step, .startStepping, .look, .step, .runAll 9] = some session ∧
      session.startCount = 1 ∧ session.machine.exitCode = .ok 7 ∧
      ∀ more last, session.run? more = some last →
        last.machine.isRunning = false ∧ last.machine.exitCode = .ok 7 := by
  let heap : Heap := { Heap.empty with unit := 8, units := 8, unit_pos := by decide }
  let machine : Machine :=
    { thread := Machine.returningSeven.thread heap { heapSize := 64 } fun _ => true }
  -- The machine is made of this program and heap.
  have created :
    Machine.create Machine.returningSeven { heapSize := 64 } (fun _ => true) = .ok machine := rfl
  have ran : Session.run? { machine } [.step, .startStepping, .look, .step, .runAll 9] =
    some _ := rfl
  -- The machine has stopped after these calls, so the theorem says what any others do.
  obtain ⟨-, -, -, -, -, -, final⟩ := Session.machine_lives_once created (by decide) ran
  refine ⟨machine, _, created, ran, rfl, rfl, fun more last further => ?_⟩
  obtain ⟨resting, exited, -⟩ := (final rfl rfl).2 more last further
  exact ⟨resting, exited⟩

end StepMachine
