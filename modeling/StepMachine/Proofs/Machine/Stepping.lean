import StepMachine.Machine
import StepMachine.Proofs.Eval.Follow
import StepMachine.Proofs.Worker.Schedule

/-! Stepping through a program shows at every pause what running it freely passes through, and ends
where that ends. -/

namespace StepMachine

namespace Program

/-- Where a program comes to rest that was granted so many statements, from how its run ended. -/
def restOf (grants : Nat) : EStateM.Result Unwind Context Int32 → Rest View Int32 Fault
  | .ok status context => .ended context.tearDown.view (.finished status) (grants - context.grants)
  | .error (.fault error) context =>
    .ended context.tearDown.view (.failed ⟨error, context.location⟩) (grants - context.grants)
  | .error (.suspended view) context => .parked view context.tearDown.view

/-- What a host sees of a program at rest: its doing, and whether it is running. -/
def sight (rest : Rest View Int32 Fault) : Scene × Bool := (rest.view.toScene, !rest.isEnded)

/-- Two programs at rest have ended alike after the same number of statements. -/
def SameEnd (one two : Rest View Int32 Fault) (steps : Nat) : Prop :=
  ∃ view seen outcome, one = .ended view outcome steps ∧ two = .ended seen outcome steps ∧
    view.toScene = seen.toScene

/-- Programs that have ended like a third one have ended alike. -/
theorem SameEnd.join {one two common : Rest View Int32 Fault} {steps others : Nat}
    (first : SameEnd one common steps) (second : SameEnd two common others) :
    SameEnd one two steps := by
  -- The third one has one ending only, and both share it.
  obtain ⟨view, seen, outcome, ended, rfl, scene⟩ := first
  obtain ⟨other, again, also, ended', same, scene'⟩ := second
  cases same
  exact ⟨view, other, outcome, ended, ended', scene.trans scene'.symm⟩

/-- Two runs that belong together, one of them with `extra` more grants, end alike, or the first one
is parked where the other one is parked or passes through. -/
theorem restOf_follows {extra granted : Nat} {short long : EStateM.Result Unwind Context Int32}
    (follows : Exec.Follows extra granted [] short long) :
    (∃ steps ≤ granted, SameEnd (restOf granted short) (restOf (granted + extra) long) steps ∧
      (stateOf long).journal.moments.length = steps) ∨
    (∃ view abandoned, restOf granted short = .parked view abandoned ∧
      (extra = 0 → ∃ seen left, restOf (granted + extra) long = .parked seen left ∧
        (stateOf long).journal.moments.length = granted) ∧
      (0 < extra → ∃ moment, moment.scene = view.toScene ∧
        (stateOf long).journal.moments.reverse[granted]? = some moment)) := by
  -- A run that ends does so alike; one that is suspended is parked.
  match short, follows with
  | .ok status last, ⟨newer, count, same⟩ =>
    subst same
    refine .inl ⟨newer.length, by omega, ?_, by simp [Context.repaced, Journal.moments]⟩
    -- As many statements were let in as grants were used, on either side.
    have steps : granted - last.grants = newer.length := by omega
    have also : granted + extra - (last.grants + extra) = newer.length := by omega
    simp only [restOf, Context.repaced, steps, also]
    exact ⟨_, _, _, rfl, rfl, rfl⟩
  | .error (.fault cause) last, ⟨newer, count, same⟩ =>
    subst same
    refine .inl ⟨newer.length, by omega, ?_, by simp [Context.repaced, Journal.moments]⟩
    have steps : granted - last.grants = newer.length := by omega
    have also : granted + extra - (last.grants + extra) = newer.length := by omega
    simp only [restOf, Context.repaced, steps, also]
    exact ⟨_, _, _, rfl, rfl, rfl⟩
  | .error (.suspended view) last, ⟨spent, newer, count, passes⟩ =>
    refine .inr ⟨view, last.tearDown.view, rfl, fun stops => ?_, fun goes => ?_⟩
    · obtain ⟨seen, scene, same⟩ := passes.stops stops
      subst same
      exact ⟨seen, _, rfl, by simp [Context.repaced, Journal.moments, count]⟩
    · -- The moment after as many others is the one at which the first run was parked.
      obtain ⟨later, moment, scene, recorded⟩ := passes.goesOn goes
      refine ⟨moment, scene, ?_⟩
      rw [recorded]
      simp [Journal.moments, ← count]

section Course

variable (program : Program) (heap : Heap) (config : Config)

/-- How the program runs that is granted so many statements, with a record of them. -/
def course (grants : Nat) (journal : Journal) : EStateM.Result Unwind Context Int32 :=
  Exec.runProgram config.entryPoint
    ((Context.start program heap config.maxCallDepth 0).repaced grants journal)

/-- Where the program comes to rest that is granted so many statements, with a record of them. -/
def restAt (grants : Nat) (journal : Journal) : Rest View Int32 Fault :=
  restOf grants (course program heap config grants journal)

/-- The moments at which the program, run freely, is let into its statements, in order, as far as a
host can tell that waits for so many of them. -/
def moments (patience : Nat) : List Moment :=
  (stateOf (course program heap config patience (.full []))).journal.moments.reverse

/-- What a host would see of the program, run freely, when it is let into the statement after
`count` others, or in the end if it is let into no more than these. -/
def passage (patience count : Nat) : Scene × Bool :=
  match (program.moments heap config patience)[count]? with
  | some moment => (moment.scene, true)
  | none => (((program.worker heap config).free patience).view.toScene, false)

/-- A program that is held back is a course with a short record. -/
theorem paced_eq (grants : Nat) :
    (program.worker heap config).paced grants = program.restAt heap config grants (.brief []) := by
  show runFrom _ _ = _
  unfold runFrom restAt restOf course
  rfl

/-- A program that runs freely is a course without a record. -/
theorem free_eq (patience : Nat) :
    (program.worker heap config).free patience = program.restAt heap config patience .off := by
  show runFrom _ _ = _
  unfold runFrom restAt restOf course
  rfl

variable {program heap config}

/-- A course and one that is granted more belong together. -/
theorem course_follows (grants extra : Nat) (journal : Journal) :
    Exec.Follows extra grants [] (program.course heap config grants journal)
      (program.course heap config (grants + extra) (.full [])) := by
  -- Whole programs go the same way however far they may go.
  have whole := Exec.executes_paced.runProgram config.entryPoint
  exact whole.2.tracks extra []
    ((Context.start program heap config.maxCallDepth 0).repaced grants journal)

/-- A course that has ended is the same with more grants and with another record, and it was let
into as many statements as it took. -/
theorem restAt_ended {grants more : Nat} {journal : Journal} (le : grants ≤ more)
    (ended : (program.restAt heap config grants journal).isEnded = true) (record : Journal) :
    ∃ steps ≤ grants, SameEnd (program.restAt heap config grants journal)
        (program.restAt heap config more record) steps ∧
      (program.moments heap config more).length = steps := by
  -- Compare with the run that is granted more and keeps a full record.
  obtain ⟨extra, rfl⟩ := Nat.exists_eq_add_of_le le
  rcases restOf_follows (course_follows grants extra journal) with
    ⟨steps, few, same, length⟩ | ⟨view, abandoned, parked, -⟩
  · -- The one with more grants ended; without a full record it does so as well.
    rcases restOf_follows (course_follows (grants + extra) 0 record) with
      ⟨others, -, also, -⟩ | ⟨view, abandoned, parked, stops, -⟩
    · refine ⟨steps, few, same.join also, ?_⟩
      simpa [moments] using length
    · obtain ⟨seen, left, also, -⟩ := stops rfl
      obtain ⟨_, _, _, _, ended, _⟩ := same
      rw [Nat.add_zero, ended] at also
      cases also
  · have parked : program.restAt heap config grants journal = .parked view abandoned := parked
    rw [parked] at ended
    cases ended

/-- A course that is held back, and what the same program is let into when it is granted more. -/
theorem restAt_cases {count patience : Nat} (lt : count < patience) (journal : Journal) :
    (∃ steps ≤ count, SameEnd (program.restAt heap config count journal)
        (program.restAt heap config patience .off) steps ∧
      (program.moments heap config patience).length = steps) ∨
    (∃ view abandoned moment, program.restAt heap config count journal = .parked view abandoned ∧
      (program.moments heap config patience)[count]? = some moment ∧
      moment.scene = view.toScene) := by
  obtain ⟨extra, rfl⟩ := Nat.exists_eq_add_of_lt lt
  -- Either the course has ended by then, and stays so, or it is parked before the next statement.
  cases rest : program.restAt heap config count journal with
  | ended view outcome steps =>
    have ended : (program.restAt heap config count journal).isEnded = true := by rw [rest]; rfl
    rw [← rest]
    exact .inl (restAt_ended (by omega) ended .off)
  | parked view abandoned =>
    rcases restOf_follows (course_follows count (extra + 1) journal) with
      ⟨steps, few, ⟨_, _, _, ended, _⟩, length⟩ | ⟨seen, left, parked, -, goesOn⟩
    · have ended : program.restAt heap config count journal = .ended _ _ _ := ended
      rw [rest] at ended
      cases ended
    · have parked : program.restAt heap config count journal = .parked seen left := parked
      rw [rest] at parked
      cases parked
      obtain ⟨moment, scene, found⟩ := goesOn (Nat.succ_pos extra)
      exact .inr ⟨view, abandoned, moment, rfl, found, scene⟩

/-- A program that is held back shows what the same program passes through when it runs freely. -/
theorem sight_paced {count patience : Nat} (lt : count < patience) :
    sight ((program.worker heap config).paced count) =
      program.passage heap config patience count := by
  unfold passage
  rw [paced_eq, free_eq]
  -- The full record has a moment there just if the course is parked there.
  rcases @restAt_cases program heap config _ _ lt (.brief []) with
    ⟨steps, few, ⟨view, seen, outcome, held, free, scene⟩, length⟩ |
    ⟨view, abandoned, moment, held, found, scene⟩
  · -- The course has ended by then, and the record holds no moment for it.
    have none : (program.moments heap config patience)[count]? = none := by
      rw [List.getElem?_eq_none_iff]
      omega
    rw [held, free, none]
    exact congrArg (·, false) scene
  · rw [held, found]
    exact congrArg (·, true) scene.symm

/-- A program that is let into fewer statements than a host waits for has ended. -/
theorem free_ended {count patience : Nat} (lt : count < patience)
    (none : (program.moments heap config patience)[count]? = none) :
    ((program.worker heap config).free patience).isEnded = true := by
  rw [free_eq]
  -- A course that is parked would have a moment in the record.
  rcases @restAt_cases program heap config _ _ lt .off with
    ⟨steps, few, ⟨view, seen, outcome, held, free, scene⟩, length⟩ |
    ⟨view, abandoned, moment, held, found, scene⟩
  · rw [free]
    rfl
  · rw [none] at found
    cases found

/-- However the turns of the program and of its host are mixed: when a step of the host is over,
what it sees is what the same program passes through when it runs freely. -/
theorem sight_played {events : List HandshakeEvent} {shake : Handshake} {patience : Nat}
    (played : Handshake.Played (program.worker heap config) events shake)
    (stopped : Handshake.stepIsOver events shake) (lt : Handshake.granted events < patience) :
    sight ((program.worker heap config).paced shake.begun) =
      program.passage heap config patience (Handshake.granted events) ∧
    (shake.worker = .ended ↔
      (program.passage heap config patience (Handshake.granted events)).2 = false) := by
  rcases played.rests stopped with ⟨place, begun, alive⟩ | ⟨place, few, ended⟩
  · -- Every grant has been used, so that the pause is the one after as many statements.
    rw [← sight_paced lt, ← begun]
    exact ⟨rfl, by simp [sight, alive, place]⟩
  · -- The program has ended with the grants that it used, and more would not have changed that.
    rw [paced_eq] at ended
    obtain ⟨steps, -, ⟨view, seen, outcome, held, more, scene⟩, -⟩ :=
      restAt_ended few ended (.brief [])
    rw [← sight_paced lt, paced_eq, paced_eq, held, more]
    exact ⟨congrArg (·, false) scene, by simp [sight, Rest.isEnded, place]⟩

/-- If the program ends when it runs freely, then it pauses before each statement that it is let
into, and ends after the last one as it does when it runs freely. -/
theorem paced_ends {patience : Nat}
    (ended : ((program.worker heap config).free patience).isEnded = true) :
    (∀ count < (program.moments heap config patience).length,
      ((program.worker heap config).paced count).isEnded = false) ∧
    SameEnd ((program.worker heap config).paced (program.moments heap config patience).length)
      ((program.worker heap config).free patience)
      (program.moments heap config patience).length := by
  rw [free_eq] at ended
  -- A pause shows in the record only if one more grant is allowed, so that record is asked as well.
  obtain ⟨steps, few, same, length⟩ := restAt_ended (Nat.le_refl patience) ended .off
  obtain ⟨others, -, further, also⟩ := restAt_ended (Nat.le_add_right patience 1) ended .off
  -- The run with one more grant ends alike, so it was let into as many statements.
  have steps_eq : steps = others := by
    obtain ⟨_, _, _, one, -⟩ := same
    obtain ⟨_, _, _, two, -⟩ := further
    rw [one] at two
    cases two
    rfl
  subst steps_eq
  rw [length]
  refine ⟨fun count lt => ?_, ?_⟩
  · rw [paced_eq]
    rcases @restAt_cases program heap config count (patience + 1) (by omega) (.brief []) with
      ⟨shorter, le, -, again⟩ | ⟨view, abandoned, moment, parked, -⟩
    · omega
    · rw [parked]
      rfl
  · -- After the last statement there is no further moment, so the course has ended.
    rw [paced_eq, free_eq]
    rcases @restAt_cases program heap config steps (patience + 1) (by omega) (.brief []) with
      ⟨shorter, le, ends, again⟩ | ⟨view, abandoned, moment, -, found, -⟩
    · have shorter_eq : shorter = steps := again.symm.trans also
      subst shorter_eq
      exact ends.join further
    · have inside := (List.getElem?_eq_some_iff.mp found).1
      omega

end Course

end Program

namespace Machine

/-- Runs so many statements one after the other, and fails where one of them cannot be run. -/
def stepTimes : (count : Nat) → Call Unit
  | 0 => pure ()
  | count + 1 => do
    stepTimes count
    step

/-- A machine whose program may have ended just now. -/
def settled (machine : Machine) : Machine :=
  if machine.thread.isRunning then machine else { machine with phase := .terminated }

/-- A machine runs a statement only while it is running. -/
theorem step_run (machine : Machine) :
    step machine = match machine.phase with
      | .notStarted => .error .notStarted machine
      | .terminated => .error .notRunning machine
      | .running =>
        if machine.thread.isRunning then
          match Thread.grant machine.thread with
          | .ok _ thread => .ok () (settled { machine with thread })
          | .error cause thread => .error (.thread cause) { machine with thread }
        else .error .notRunning { machine with phase := .terminated } := by
  -- What is looked at is the machine itself.
  have looked : (get : Call Machine) machine = .ok machine machine := rfl
  simp only [step, bind_run, looked]
  -- Only a machine that was started and has not ended looks at its thread.
  cases phase : machine.phase with
  | notStarted => rfl
  | terminated => rfl
  | running =>
    simp only [bind_run, looked]
    -- A program that has ended is noticed by the step that finds it so.
    cases running : machine.thread.isRunning with
    | false =>
      simp only [Bool.false_eq_true, if_false, bind_run]
      rfl
    | true =>
      simp only [if_true, bind_run, onThread]
      cases Thread.grant machine.thread with
      | ok _ thread =>
        simp only [phase]
        rfl
      | error cause thread =>
        simp only [phase]

/-- A machine that was started to be stepped and has run so many statements. -/
structure Stepped (thread : ProgramThread) (count : Nat) (machine : Machine) : Prop where
  came : machine.thread =
    { thread with status := .started .stepping count (thread.worker.paced count) }
  phase : (thread.worker.paced count).isEnded = false → machine.phase = .running

namespace Stepped

variable {thread : ProgramThread} {count : Nat} {machine : Machine}

/-- The machine is running just if its program has not ended. -/
theorem isRunning (stepped : Stepped thread count machine) :
    machine.isRunning = !(thread.worker.paced count).isEnded := by
  -- The thread is running as long as its program has not ended.
  have running : machine.thread.isRunning = !(thread.worker.paced count).isEnded := by
    rw [stepped.came]
    rfl
  unfold Machine.isRunning
  rw [running]
  -- A machine whose program has ended is not running in any phase.
  cases ended : (thread.worker.paced count).isEnded with
  | true => simp
  | false => simp [stepped.phase ended]

/-- What the host sees of the machine is what it sees of the program. -/
theorem view (stepped : Stepped thread count machine) :
    machine.view = (thread.worker.paced count).view := by
  unfold Machine.view
  rw [stepped.came]
  rfl

/-- How the machine ended is how its program ended. -/
theorem outcome? (stepped : Stepped thread count machine) :
    machine.thread.outcome? = (thread.worker.paced count).outcome? := by
  rw [stepped.came]
  rfl

/-- A step of a machine that is running succeeds. -/
theorem step (stepped : Stepped thread count machine)
    (alive : (thread.worker.paced count).isEnded = false) :
    ∃ last, Machine.step machine = .ok () last ∧ Stepped thread (count + 1) last := by
  -- The program waits at a pause, so its thread is running.
  have running : machine.thread.isRunning = true := by
    rw [stepped.came]
    simp [Thread.isRunning, alive]
  -- A grant makes the worker run up to the next pause.
  have granted : Thread.grant machine.thread = .ok () { thread with
      status := .started .stepping (count + 1) (thread.worker.paced (count + 1)) } := by
    rw [stepped.came]
    simp [Thread.grant, alive]
  rw [step_run, stepped.phase alive]
  simp only [running, if_true, granted]
  refine ⟨_, rfl, ?_, fun further => ?_⟩
  · -- Whether the program has ended just now or not, the thread is the one that was granted.
    unfold settled
    split <;> rfl
  · simp [settled, Thread.isRunning, further]

/-- A step of a machine that is not running fails. -/
theorem step_ended (stepped : Stepped thread count machine)
    (ended : (thread.worker.paced count).isEnded = true) (last : Machine) :
    Machine.step machine ≠ .ok () last := by
  -- A program that has ended is not running any more.
  have running : machine.thread.isRunning = false := by
    rw [stepped.came]
    simp [Thread.isRunning, ended]
  rw [step_run, running]
  -- In no phase does a step succeed without a thread that is running.
  cases machine.phase <;> nofun

/-- A machine whose program does not end before can be stepped so many times. -/
theorem times (started : Stepped thread 0 machine) (count : Nat)
    (alive : ∀ before < count, (thread.worker.paced before).isEnded = false) :
    ∃ last, stepTimes count machine = .ok () last ∧ Stepped thread count last := by
  -- Each step leads from one pause to the next.
  induction count with
  | zero => exact ⟨machine, rfl, started⟩
  | succ count ih =>
    obtain ⟨middle, ran, stepped⟩ := ih fun before lt => alive before (Nat.lt_succ_of_lt lt)
    obtain ⟨last, further, stepped⟩ := stepped.step (alive count (Nat.lt_succ_self count))
    refine ⟨last, ?_, stepped⟩
    rw [stepTimes, bind_run, ran]
    exact further

/-- Where a machine comes to that has been stepped so many times without failure. -/
theorem of_times (started : Stepped thread 0 machine) {count : Nat} {last : Machine}
    (ran : stepTimes count machine = .ok () last) : Stepped thread count last := by
  -- All calls succeeded, and the last one came after the others.
  induction count generalizing last with
  | zero =>
    cases ran
    exact started
  | succ count ih =>
    rw [stepTimes, bind_run] at ran
    -- If an earlier call had failed, the last one would not have been made.
    cases before : stepTimes count machine with
    | error cause middle =>
      rw [before] at ran
      cases ran
    | ok _ middle =>
      rw [before] at ran
      have stepped := ih before
      -- The last step succeeded, so the program had not ended before it.
      cases ended : (thread.worker.paced count).isEnded with
      | true => exact absurd ran (stepped.step_ended ended last)
      | false =>
        obtain ⟨final, further, stepped⟩ := stepped.step ended
        have ran : Machine.step middle = .ok () last := ran
        rw [further] at ran
        cases ran
        exact stepped

end Stepped

/-- A machine is created around a fresh heap, and has not started. -/
theorem create_eq {program : Program} {config : Config} {spawns : Nat → Bool} {machine : Machine}
    (created : create program config spawns = .ok machine) :
    ∃ heap, Heap.create config.heapSize config.unitSize = .ok heap ∧
      machine = { thread := program.thread heap config spawns } := by
  unfold create at created
  -- The settings are checked before the heap is made.
  cases valid : config.validate with
  | error cause =>
    rw [valid] at created
    cases created
  | ok _ =>
    rw [valid] at created
    cases made : Heap.create config.heapSize config.unitSize with
    | error cause =>
      rw [made] at created
      cases created
    | ok heap =>
      rw [made] at created
      cases created
      exact ⟨heap, rfl, rfl⟩

section Started

variable {program : Program} {heap : Heap} {config : Config} {spawns : Nat → Bool}

/-- A machine that the host is able to start waits before its first statement. -/
theorem startStepping_run :
    startStepping { thread := program.thread heap config spawns } =
      if spawns config.workerStack then .ok ()
        { thread := { program.thread heap config spawns with
            status := .started .stepping 0 ((program.worker heap config).paced 0) }
          phase := .running }
      else .error (.thread .spawn)
        { thread := { program.thread heap config spawns with status := .discarded }
          phase := .running } := by
  -- Whether a thread can be made depends on the settings only.
  have spawned : (program.thread heap config spawns).spawnable = spawns config.workerStack := rfl
  have status : (program.thread heap config spawns).status = .unstarted := rfl
  have begun : start { thread := program.thread heap config spawns } =
    .ok () { thread := program.thread heap config spawns, phase := .running } := rfl
  simp only [startStepping, bind_run, begun, onThread, Thread.startStepping, Thread.spawn, spawned,
    status]
  cases spawns config.workerStack <;> rfl

/-- A machine that the host is able to start runs its whole program. -/
theorem runAll_run (patience : Nat) :
    runAll patience { thread := program.thread heap config spawns } =
      if spawns config.workerStack then .ok () (settled
        { thread := { program.thread heap config spawns with
            status := .started .free 0 ((program.worker heap config).free patience) }
          phase := .running })
      else .error (.thread .spawn)
        { thread := { program.thread heap config spawns with status := .discarded }
          phase := .running } := by
  -- Whether a thread can be made depends on the settings only.
  have spawned : (program.thread heap config spawns).spawnable = spawns config.workerStack := rfl
  have status : (program.thread heap config spawns).status = .unstarted := rfl
  have begun : start { thread := program.thread heap config spawns } =
    .ok () { thread := program.thread heap config spawns, phase := .running } := rfl
  simp only [runAll, bind_run, begun, onThread, Thread.startFree, Thread.spawn, spawned, status]
  cases spawns config.workerStack <;> rfl

/-- A machine that was started has not been stepped yet. -/
theorem startStepping_stepped {started : Machine}
    (ran : startStepping { thread := program.thread heap config spawns } = .ok () started) :
    Stepped (program.thread heap config spawns) 0 started := by
  rw [startStepping_run] at ran
  -- A machine that could not be started did not succeed.
  split at ran
  · cases ran
    exact ⟨rfl, fun _ => rfl⟩
  · cases ran

/-- A machine that was started to run its whole program is where the program comes to rest that runs
freely. -/
theorem runAll_ok {patience : Nat} {blocked : Machine}
    (ran : runAll patience { thread := program.thread heap config spawns } = .ok () blocked) :
    spawns config.workerStack = true ∧
      blocked.isRunning = !((program.worker heap config).free patience).isEnded ∧
      blocked.thread = { program.thread heap config spawns with
        status := .started .free 0 ((program.worker heap config).free patience) } := by
  rw [runAll_run] at ran
  -- A machine that could not be started did not succeed.
  split at ran
  · rename_i spawnable
    cases ran
    refine ⟨spawnable, ?_⟩
    -- A machine whose program has ended leaves the running phase.
    unfold settled Machine.isRunning Thread.isRunning
    cases ended : ((program.worker heap config).free patience).isEnded <;> simp [ended]
  · cases ran

/-- A machine that has run its whole program has ended where the program ends that runs freely, and
could have been stepped instead. -/
theorem runAll_ended {patience : Nat} {blocked : Machine}
    (ran : runAll patience { thread := program.thread heap config spawns } = .ok () blocked)
    (stopped : blocked.isRunning = false) :
    spawns config.workerStack = true ∧ ((program.worker heap config).free patience).isEnded = true ∧
      blocked.thread = { program.thread heap config spawns with
        status := .started .free 0 ((program.worker heap config).free patience) } := by
  obtain ⟨spawnable, running, thread⟩ := runAll_ok ran
  rw [running] at stopped
  exact ⟨spawnable, by simpa using stopped, thread⟩

/-- A machine whose program ends when it runs freely runs it to its end. -/
theorem runAll_ends {patience : Nat}
    (spawnable : spawns config.workerStack = true)
    (ended : ((program.worker heap config).free patience).isEnded = true) :
    ∃ blocked, runAll patience { thread := program.thread heap config spawns } = .ok () blocked ∧
      blocked.isRunning = false ∧ blocked.thread = { program.thread heap config spawns with
        status := .started .free 0 ((program.worker heap config).free patience) } := by
  rw [runAll_run, if_pos spawnable]
  refine ⟨_, rfl, ?_, ?_⟩ <;> simp [settled, isRunning, Thread.isRunning, ended]

end Started

/-- Stepping through a program agrees with running it freely. In whatever order the turns of the
program and of its host are mixed, when a step is over the host sees what the free run passes
through after as many statements as were granted, or its end if that comes before; so it does after
each call that runs one statement. Whenever the free run ends, calling for one statement after the
other while the machine is running ends as well, after just as many calls as the free run is let
into statements, with the same exit status, the same fault and the same scene. -/
theorem stepping_agrees_with_running_freely {program : Program} {config : Config}
    {spawns : Nat → Bool}
    {machine : Machine} (created : create program config spawns = .ok machine) :
    ∃ heap, Heap.create config.heapSize config.unitSize = .ok heap ∧
      (∀ events shake patience, Handshake.Played machine.thread.worker events shake →
        Handshake.stepIsOver events shake → Handshake.granted events < patience →
        Program.sight (machine.thread.worker.paced shake.begun) =
            program.passage heap config patience (Handshake.granted events) ∧
          (shake.worker = .ended ↔
            (program.passage heap config patience (Handshake.granted events)).2 = false)) ∧
      (∀ started count last patience, startStepping machine = .ok () started →
        stepTimes count started = .ok () last → count < patience →
        (last.view.toScene, last.isRunning) = program.passage heap config patience count) ∧
      (∀ count patience, count < patience →
        (program.moments heap config patience)[count]? = none →
        (machine.thread.worker.free patience).isEnded = true) ∧
      (∀ patience blocked, runAll patience machine = .ok () blocked → blocked.isRunning = false →
        ∃ started last, startStepping machine = .ok () started ∧
          (∀ count < (program.moments heap config patience).length,
            ∃ middle, stepTimes count started = .ok () middle ∧ middle.isRunning = true) ∧
          stepTimes (program.moments heap config patience).length started = .ok () last ∧
          last.isRunning = false ∧ last.exitCode = blocked.exitCode ∧
          last.fault? = blocked.fault? ∧ last.view.toScene = blocked.view.toScene) := by
  obtain ⟨heap, made, rfl⟩ := create_eq created
  refine ⟨heap, made,
    fun events shake patience played stopped lt => Program.sight_played played stopped lt,
    fun started count last patience began ran lt => ?_,
    fun count patience lt none => Program.free_ended lt none,
    fun patience blocked ran stopped => ?_⟩
  · -- A machine that has made so many calls stands at the pause after as many statements.
    have stepped := (startStepping_stepped began).of_times ran
    rw [stepped.view, stepped.isRunning]
    exact Program.sight_paced lt
  · -- The free run has ended, so stepping ends after as many statements.
    obtain ⟨spawnable, ended, thread⟩ := runAll_ended ran stopped
    obtain ⟨alive, view, seen, outcome, held, free, scene⟩ := Program.paced_ends ended
    have began := @startStepping_run program heap config spawns
    rw [if_pos spawnable] at began
    have started := startStepping_stepped began
    obtain ⟨last, stepped, reached⟩ := started.times _ alive
    have stopped : last.isRunning = false := by
      rw [reached.isRunning]
      exact congrArg (fun rest => !rest.isEnded) held
    have outcomes : last.thread.outcome? = blocked.thread.outcome? := by
      rw [reached.outcome?, thread]
      show Rest.outcome? ((program.worker heap config).paced _) = Rest.outcome? _
      rw [held, free]
      rfl
    have scenes : ((program.worker heap config).paced
        (program.moments heap config patience).length).view.toScene = blocked.view.toScene := by
      rw [held]
      show view.toScene = blocked.thread.view.toScene
      rw [thread, scene]
      exact (congrArg (·.view.toScene) free).symm
    refine ⟨_, last, began, fun count lt => ?_, stepped, stopped, ?_, ?_, ?_⟩
    · -- Before the last statement every call succeeds and leaves a machine that is running.
      obtain ⟨middle, ran, reached⟩ := started.times count
        fun before earlier => alive before (Nat.lt_trans earlier lt)
      refine ⟨middle, ran, ?_⟩
      rw [reached.isRunning]
      exact congrArg (fun ended => !ended) (alive count lt)
    · -- Exit status and fault are read off the outcome, which is the same.
      unfold exitCode Thread.exitStatus
      rw [outcomes]
    · unfold fault? Thread.fault?
      rw [outcomes]
    · rw [reached.view]
      exact scenes

/-- A program whose entry point returns seven at once. -/
def returningSeven : Program where
  functions := [{
    name := "main"
    result := .int
    parameters := []
    body := [.ret (some (.int 7)) (.startOfLine 1)] }]

/-- A machine for that program is stepped once, and then it has ended with seven. -/
theorem stepping_agrees_on_returningSeven :
    ∃ machine started last, create returningSeven { heapSize := 64 } (fun _ => true) = .ok machine ∧
      startStepping machine = .ok () started ∧ stepTimes 1 started = .ok () last ∧
      last.isRunning = false ∧ last.exitCode = .ok 7 := by
  have created : create returningSeven { heapSize := 64 } (fun _ => true) = .ok _ := rfl
  obtain ⟨heap, made, -, -, -, ends⟩ := stepping_agrees_with_running_freely created
  have fresh : Heap.create 64 8 = .ok _ := rfl
  rw [fresh] at made
  cases made
  obtain ⟨started, last, began, -, stepped, stopped, exit, -⟩ := ends 5 _ rfl rfl
  exact ⟨_, started, last, created, began, stepped, stopped, exit⟩

end Machine

end StepMachine
