import StepMachine.Proofs.Eval.Traced
import StepMachine.Proofs.Machine.Stepping

/-! The location of a fault: it is that of the first statement that the failure leaves, and there is
none just if the program fails where no statement is under way. -/

namespace StepMachine

namespace Exec

/-- A program has come to the call of its entry point. -/
structure Ready (entryPoint : String) (context : Context) (entry : Function) (ready : Context) :
    Prop where
  begun : ∃ loaded, loadStrings context = .ok () loaded ∧
    loaded.program.function? entryPoint = some entry ∧
    Stmt.execAll (Function.invoke context.stack.room) loaded.program.globals loaded = .ok () ready

/-- How a program fails where no statement is under way: its literals cannot be laid out, its entry
point is missing, takes arguments, does not fit on the stack, or returns what it should not. -/
inductive FailsOutside (entryPoint : String) (context : Context) : RuntimeError → Prop where
  | literals {cause : RuntimeError} {last : Context}
    (fails : loadStrings context = .error (.fault cause) last) :
    FailsOutside entryPoint context cause
  | entryPoint {loaded : Context} (loads : loadStrings context = .ok () loaded)
    (missing : loaded.program.function? entryPoint = none) :
    FailsOutside entryPoint context (.noEntryPoint entryPoint)
  | arity {entry : Function} {ready : Context} (comes : Ready entryPoint context entry ready)
    (takes : entry.parameters.length ≠ 0) :
    FailsOutside entryPoint context (.argumentCount entry.name entry.parameters.length 0)
  | depth {entry : Function} {ready : Context} (comes : Ready entryPoint context entry ready)
    (takes : entry.parameters.length = 0) (full : context.stack.room = 0) :
    FailsOutside entryPoint context (.stack (.overflow ready.stack.limit))
  | result {entry : Function} {ready last : Context} {room : Nat} {frame : Frame}
    {cause : RuntimeError} (comes : Ready entryPoint context entry ready)
    (takes : entry.parameters.length = 0) (fits : context.stack.room = room + 1)
    (runs : activation entry.name none (Stmt.execAll (Function.invoke room) entry.body) ready =
      .ok frame last)
    (some : frame.result ≠ .void) (fails : frame.result.coerce entry.result = .error cause) :
    FailsOutside entryPoint context cause

/-- Laying out the literals leaves the statements under way alone, even if it fails. -/
theorem loadStrings_level : Obeys Effect.evaluation.whole loadStrings := by
  -- One literal after the other is laid out, and none is a statement.
  have each (literals : List String) :
      Obeys Effect.evaluation.whole (literals.forM loadString) := by
    induction literals with
    | nil => exact Obeys.pure ()
    | cons literal literals ih => exact Obeys.bind (loadString_undisturbed literal) fun _ => ih
  exact Obeys.bind Obeys.get fun context => each context.program.strings.toList

/-- A statement that fails stays under way, in front of those that were. -/
theorem exec_fails_inside {room : Nat} {statement : Stmt} {context last : Context} {reason : Unwind}
    (ran : statement.exec (Function.invoke room) context = .error reason last) :
    context.active.length < last.active.length := by
  -- A statement is an effect under the protocol that all statements share.
  obtain ⟨effect, same, obeys⟩ :=
    (executes_confined.statements (executes_confined.invoke room)).1 statement
  -- A statement of a function that has returned does not fail; any other one enters first.
  rw [same] at ran
  cases returned : context.hasReturned with
  | true =>
    rw [statement_run, returned] at ran
    cases ran
  | false =>
    -- The protocol leaves a statement that fails under way.
    have outcome := statement_outcome obeys statement.location context returned
    rw [ran] at outcome
    exact outcome.2.2.length_le

/-- A statement that succeeds leaves the statements under way as they were. -/
theorem exec_active {room : Nat} {statement : Stmt} {context last : Context}
    (ran : statement.exec (Function.invoke room) context = .ok () last) :
    last.active = context.active := by
  obtain ⟨effect, same, obeys⟩ :=
    (executes_confined.statements (executes_confined.invoke room)).1 statement
  have confined := executes_confined.statement statement.location obeys context
  -- Success takes off the stack of statements whatever was put on it.
  rw [← same, ran] at confined
  exact confined.2

/-- If statements fail, the one that fails stays under way. -/
theorem execAll_fails_inside {room : Nat} {statements : List Stmt} {context last : Context}
    {reason : Unwind}
    (ran : Stmt.execAll (Function.invoke room) statements context = .error reason last) :
    context.active.length < last.active.length := by
  -- Those in front of the one that fails have left the statements under way alone.
  induction statements generalizing context with
  | nil =>
    rw [Stmt.execAll] at ran
    cases ran
  | cons statement rest ih =>
    rw [Stmt.execAll, bind_run] at ran
    cases first : statement.exec (Function.invoke room) context with
    | error reason middle =>
      -- The first statement fails, or it ends and the rest does.
      rw [first] at ran
      cases ran
      exact exec_fails_inside first
    | ok _ middle =>
      rw [first] at ran
      have further := ih ran
      rwa [exec_active first] at further

/-- The body of an activation that fails leaves a statement of its own under way. -/
theorem activation_fails_inside {room : Nat} {name : String} {body : List Stmt}
    {context last : Context} {reason : Unwind} (fits : context.stack.room = room + 1)
    (ran : activation name none (Stmt.execAll (Function.invoke room) body) context =
      .error reason last) :
    context.active.length < last.active.length := by
  have obeys := (executes_confined.statements (executes_confined.invoke room)).2 body
    { context with stack := { frames := { function := name } :: context.stack.frames, room } }
  rw [activation_run, pushFrame_run, fits] at ran
  simp only at ran
  -- However the body goes, its activation is there to be left.
  cases inner : Stmt.execAll (Function.invoke room) body { context with
      stack := { frames := { function := name } :: context.stack.frames, room } } with
  | ok _ middle =>
    -- A body that succeeds leaves its activation to be left.
    rw [inner] at ran obeys
    obtain ⟨frame, after, closed, -⟩ := popFrame_closes fits obeys.1
    simp only [closed] at ran
    cases ran
  -- A body that fails does so below a statement of its own.
  | error cause middle =>
    rw [inner] at ran obeys
    obtain ⟨frame, after, closed, -, -, same⟩ := popFrame_closes fits obeys.1
    simp only [closed] at ran
    cases ran
    have inside := execAll_fails_inside inner
    rwa [same]

/-- From where a program has come to the call of its entry point it does nothing else. -/
theorem Ready.runProgram {entryPoint : String} {context ready : Context} {entry : Function}
    (comes : Ready entryPoint context entry ready) :
    runProgram entryPoint context =
      (do return (← Function.invoke context.stack.room entry [] none).exitStatus : Exec Int32)
        ready := by
  -- All of the run up to there has succeeded, so it can be left out.
  obtain ⟨loaded, loads, found, runs⟩ := comes.begun
  have room := executes_confined.loadStrings context
  rw [loads] at room
  have room : loaded.stack.room = context.stack.room := room.1.room
  unfold Exec.runProgram
  rw [bind_run, loads]
  simp only [bind_run, get_run, found, invoker, pure_run, room, runs]

/-- The call of an entry point that takes no arguments is its activation, whose result has to be of
the declared type unless there is none. -/
theorem invoke_entry {entry : Function} (takes : entry.parameters.length = 0) (room : Nat)
    (ready : Context) :
    Function.invoke (room + 1) entry [] none ready =
      match activation entry.name none (Stmt.execAll (Function.invoke room) entry.body) ready with
      | .error reason last => .error reason last
      | .ok frame last =>
        if frame.result = .void then .ok .void last
        else match frame.result.coerce entry.result with
          | .ok value => .ok value last
          | .error cause => .error (.fault cause) last := by
  have nothing : entry.parameters = [] := List.eq_nil_of_length_eq_zero takes
  have counted : entry.checkCount [] ready = .ok () ready := by
    unfold Function.checkCount
    rw [nothing]
    rfl
  rw [Function.invoke, bind_run, counted]
  -- There is no parameter to bind in front of the body.
  have body : (do
      Function.bindAll entry.parameters []
      Stmt.execAll (Function.invoke room) entry.body) =
        Stmt.execAll (Function.invoke room) entry.body := by
    rw [nothing]
    rfl
  simp only [body, bind_run]
  -- A body that fails fails for the call.
  cases activation entry.name none (Stmt.execAll (Function.invoke room) entry.body) ready with
  | error reason last => rfl
  | ok frame last =>
    simp only
    -- Only nothing is yielded as it is.
    cases frame.result with
    | void => rfl
    | int _ | char _ | pointer _ | struct _ _ =>
      simp only [reduceCtorEq, if_false]
      split <;> simp [*]

/-- When a program comes to the call of its entry point, the statements under way and the room on
the stack are those that were. -/
theorem Ready.kept {entryPoint : String} {context ready : Context} {entry : Function}
    (comes : Ready entryPoint context entry ready) :
    ready.active = context.active ∧ ready.stack.room = context.stack.room := by
  obtain ⟨loaded, loads, -, runs⟩ := comes.begun
  have first := executes_confined.loadStrings context
  have globals := (executes_confined.statements (executes_confined.invoke context.stack.room)).2
    loaded.program.globals loaded
  rw [loads] at first
  rw [runs] at globals
  exact ⟨globals.2.trans first.2, globals.1.room.trans first.1.room⟩

/-- A call with too few arguments fails, whatever room there is. -/
theorem invoke_miscounts {entry : Function} (takes : entry.parameters.length ≠ 0) (room : Nat)
    (context : Context) :
    Function.invoke room entry [] none context =
      .error (.fault (.argumentCount entry.name entry.parameters.length 0)) context := by
  -- The numbers differ, so the check throws before the activation is entered.
  have refused : entry.checkCount [] =
      fail (.argumentCount entry.name entry.parameters.length 0) := by
    rw [Function.checkCount, if_neg]
    · rfl
    · exact fun same => takes same.symm
  -- The arguments are counted first, where there is room and where there is none.
  cases room with
  | zero => rw [Function.invoke, refused, bind_run, fail_run]
  | succ room => rw [Function.invoke, refused, bind_run, fail_run]

/-- A program that fails where no statement is under way ends so, without a location. -/
theorem FailsOutside.ends {entryPoint : String} {context : Context} {cause : RuntimeError}
    (fresh : context.active = []) (fails : FailsOutside entryPoint context cause) :
    ∃ last, runProgram entryPoint context = .error (.fault cause) last ∧
      last.location = none := by
  -- No location is reported where no statement is under way.
  have unlocated {last : Context} (same : last.active = context.active) : last.location = none := by
    rw [Context.location, same, fresh]
    rfl
  -- Each way of failing is reached with the statements under way as they were at the start.
  cases fails with
  | @literals cause last fails =>
    have level := loadStrings_level context
    rw [fails] at level
    refine ⟨last, ?_, unlocated level.2⟩
    unfold runProgram
    rw [bind_run, fails]
  | @entryPoint loaded loads missing =>
    have level := loadStrings_level context
    rw [loads] at level
    refine ⟨loaded, ?_, unlocated level.2⟩
    unfold runProgram
    rw [bind_run, loads]
    simp only [bind_run, get_run, missing, fail_run]
  | @arity entry ready comes takes =>
    refine ⟨ready, ?_, unlocated comes.kept.1⟩
    rw [comes.runProgram, bind_run, invoke_miscounts takes]
  | @depth entry ready comes takes full =>
    refine ⟨ready, ?_, unlocated comes.kept.1⟩
    rw [comes.runProgram, bind_run, full]
    have none : entry.parameters = [] := List.eq_nil_of_length_eq_zero takes
    rw [Function.invoke, Function.checkCount, none]
    rfl
  -- The body has ended, and what it returned cannot be converted.
  | @result entry ready last room frame cause comes takes fits runs some fails =>
    have obeys := executes_confined.activation entry.name none
      ((executes_confined.statements (executes_confined.invoke room)).2 entry.body) ready
    rw [runs] at obeys
    refine ⟨last, ?_, unlocated (obeys.2.trans comes.kept.1)⟩
    rw [comes.runProgram, bind_run, fits, invoke_entry takes, runs]
    simp only [if_neg some, fails]

/-- A call of an entry point that fails with no statement under way fails where none is. -/
theorem Ready.failsOutside {entryPoint : String} {context ready last : Context} {entry : Function}
    {cause : RuntimeError} (comes : Ready entryPoint context entry ready)
    (ran : Function.invoke context.stack.room entry [] none ready = .error (.fault cause) last)
    (empty : last.active.length = 0) : FailsOutside entryPoint context cause := by
  -- Whoever has no room or the wrong arguments fails at once; else the body or its result does.
  by_cases takes : entry.parameters.length = 0
  · -- With no room for an activation the call fails before its body.
    cases left : context.stack.room with
    | zero =>
      have none : entry.parameters = [] := List.eq_nil_of_length_eq_zero takes
      rw [left, Function.invoke, Function.checkCount, none] at ran
      cases ran
      exact .depth comes takes left
    | succ room =>
      rw [left, invoke_entry takes] at ran
      cases runs : activation entry.name none (Stmt.execAll (Function.invoke room) entry.body)
          ready with
      | error reason middle =>
        -- A statement of the body that fails is still under way.
        rw [runs] at ran
        cases ran
        have inside := activation_fails_inside (comes.kept.2.trans left) runs
        omega
      | ok frame middle =>
        rw [runs] at ran
        simp only at ran
        split at ran
        · cases ran
        · rename_i some
          split at ran
          · cases ran
          · rename_i cause fails
            cases ran
            exact .result comes takes left runs some fails
  · -- The entry function takes arguments, and is given none.
    rw [invoke_miscounts takes] at ran
    cases ran
    exact .arity comes takes

/-- A program that fails without a location fails where no statement is under way. -/
theorem failsOutside_of_location {entryPoint : String} {context last : Context}
    {cause : RuntimeError} (ran : runProgram entryPoint context = .error (.fault cause) last)
    (unlocated : last.location = none) : FailsOutside entryPoint context cause := by
  -- No location means that the list of statements under way is empty at the end.
  have empty : last.active.length = 0 := by
    rw [Context.location, List.head?_eq_none_iff] at unlocated
    rw [unlocated]
    rfl
  -- The run is followed part by part: literals, entry point, globals, call.
  cases loads : loadStrings context with
  -- The literals do not fit, so that nothing else is run.
  | error reason middle =>
    unfold runProgram at ran
    rw [bind_run, loads] at ran
    cases ran
    exact .literals loads
  | ok _ loaded =>
    cases found : loaded.program.function? entryPoint with
    -- The program has no function of that name.
    | none =>
      unfold runProgram at ran
      rw [bind_run, loads] at ran
      simp only [bind_run, get_run, found, fail_run] at ran
      cases ran
      exact .entryPoint loads found
    | some entry =>
      have room := executes_confined.loadStrings context
      rw [loads] at room
      have room : loaded.stack.room = context.stack.room := room.1.room
      cases runs : Stmt.execAll (Function.invoke context.stack.room) loaded.program.globals
          loaded with
      | error reason middle =>
        -- A global statement that fails is still under way.
        have inside := execAll_fails_inside runs
        unfold runProgram at ran
        rw [bind_run, loads] at ran
        simp only [bind_run, get_run, found, invoker, pure_run, room, runs] at ran
        cases ran
        omega
      | ok _ ready =>
        have comes : Ready entryPoint context entry ready := ⟨loaded, loads, found, runs⟩
        rw [comes.runProgram, bind_run] at ran
        cases called : Function.invoke context.stack.room entry [] none ready with
        -- A run that ends does not fail.
        | ok value middle =>
          rw [called] at ran
          cases ran
        | error reason middle =>
          rw [called] at ran
          cases ran
          exact comes.failsOutside called empty

/-- A program that is started with no statement under way fails without a location just if it fails
where none is. -/
theorem location_eq_none_iff {entryPoint : String} {context last : Context} {cause : RuntimeError}
    (fresh : context.active = [])
    (ran : runProgram entryPoint context = .error (.fault cause) last) :
    last.location = none ↔ FailsOutside entryPoint context cause := by
  -- One direction tells which way the failure took, the other that this way leads to it.
  refine ⟨failsOutside_of_location ran, fun fails => ?_⟩
  obtain ⟨left, same, unlocated⟩ := fails.ends fresh
  rw [ran] at same
  cases same
  exact unlocated

end Exec

namespace Program

variable (program : Program) (heap : Heap) (config : Config)

/-- A program that is granted so many statements, before it starts. -/
def unstarted (grants : Nat) (journal : Journal) : Context :=
  (Context.start program heap config.maxCallDepth 0).repaced grants journal

/-- How the program runs that is granted so many statements, with its failure laid to a
statement. -/
def traced (grants : Nat) (journal : Journal) : EStateM.Result Blame Context Int32 :=
  Traced.interpreter.runProgram (Traced.calling config.maxCallDepth) config.entryPoint
    (program.unstarted heap config grants journal)

variable {program heap config}

/-- A program has failed at rest just if its run fails so, laid to the location of the fault. -/
theorem failed_iff {grants : Nat} {journal : Journal} {fault : Fault} :
    (program.restAt heap config grants journal).outcome? = some (.failed fault) ↔
      ∃ last, program.traced heap config grants journal =
        .error ⟨.fault fault.error, fault.location⟩ last := by
  -- The traced run is the plain one, with each failure laid to a statement.
  have same : program.traced heap config grants journal =
      Traced.blamed [] (program.course heap config grants journal) :=
    Traced.runProgram_blamed config.entryPoint (program.unstarted heap config grants journal)
  have innermost (last : Context) : Traced.latest [] last.active = last.location := by
    simp [Traced.latest, Context.location]
  -- Both sides look at how the same run ended, and nothing is compared but its failure.
  rw [same, restAt]
  cases program.course heap config grants journal with
  | ok status last => simp [restOf, Rest.outcome?, Traced.blamed]
  | error reason last =>
    cases reason with
    | suspended view => simp [restOf, Rest.outcome?, Traced.blamed]
    | fault cause =>
      simp only [restOf, Rest.outcome?, Traced.blamed, innermost]
      -- The location that is reported is the one that the failure is laid to.
      constructor
      · intro failed
        cases failed
        exact ⟨last, rfl⟩
      · rintro ⟨left, laid⟩
        cases fault
        cases laid
        rfl

/-- A failure is laid to nothing just if the program fails where no statement is under way. -/
theorem traced_location {grants : Nat} {journal : Journal} {cause : RuntimeError}
    {location : Option Location} {last : Context}
    (ran : program.traced heap config grants journal = .error ⟨.fault cause, location⟩ last) :
    location = none ↔
      Exec.FailsOutside config.entryPoint (program.unstarted heap config grants journal) cause := by
  have failed : (program.restAt heap config grants journal).outcome? =
      some (.failed ⟨cause, location⟩) := failed_iff.mpr ⟨last, ran⟩
  -- The failure that was laid to the location is the one the program comes to rest with.
  unfold restAt at failed
  cases course : program.course heap config grants journal with
  -- A run that ends has no fault.
  | ok status left =>
    rw [course] at failed
    cases failed
  | error reason left =>
    rw [course] at failed
    cases reason with
    -- One that waits has none either.
    | suspended view => cases failed
    | fault error =>
      cases failed
      exact Exec.location_eq_none_iff rfl course

end Program

namespace Machine

/-- A machine reports a fault just if its thread has failed so. -/
theorem fault?_eq_some_iff {machine : Machine} {fault : Fault} :
    machine.fault? = some fault ↔ machine.thread.outcome? = some (.failed fault) := by
  unfold fault? Thread.fault?
  -- The machine shows the outcome of its thread, and only a failure is a fault.
  split
  · rename_i known same
    simp [same]
  · rename_i other
    exact ⟨nofun, fun same => absurd same (other fault)⟩

/-- Every fault is located. Whether a program is run at once or stepped, the machine reports a fault
just if the program, run with its failure laid to the first statement that it leaves, fails for the
same cause at the same location, however deep in calls it comes up and whichever statements have
been run in the meantime. There is no location just if the program fails where no statement is under
way: its literals cannot be laid out, its entry point is missing, takes arguments, does not fit on
the stack, or returns what it should not. -/
theorem faults_are_located {program : Program} {config : Config} {spawns : Nat → Bool}
    {machine : Machine}
    (created : create program config spawns = .ok machine) :
    ∃ heap, Heap.create config.heapSize config.unitSize = .ok heap ∧
      (∀ patience blocked, runAll patience machine = .ok () blocked →
        ∀ fault, blocked.fault? = some fault ↔
          ∃ last, program.traced heap config patience .off =
            .error ⟨.fault fault.error, fault.location⟩ last) ∧
      (∀ started count stopped, startStepping machine = .ok () started →
        stepTimes count started = .ok () stopped →
        ∀ fault, stopped.fault? = some fault ↔
          ∃ last, program.traced heap config count (.brief []) =
            .error ⟨.fault fault.error, fault.location⟩ last) ∧
      (∀ grants journal cause location last, program.traced heap config grants journal =
          .error ⟨.fault cause, location⟩ last →
        (location = none ↔ Exec.FailsOutside config.entryPoint
          (program.unstarted heap config grants journal) cause)) := by
  obtain ⟨heap, made, rfl⟩ := create_eq created
  refine ⟨heap, made, fun patience blocked ran fault => ?_,
    fun started count stopped began ran fault => ?_,
    fun grants journal cause location last ran => Program.traced_location ran⟩
  · -- The free run is the one that the thread holds.
    obtain ⟨-, -, thread⟩ := runAll_ok ran
    have outcome : blocked.thread.outcome? =
        (program.restAt heap config patience .off).outcome? := by
      rw [thread, ← Program.free_eq]
      rfl
    rw [fault?_eq_some_iff, outcome, Program.failed_iff]
  · -- After so many steps the thread holds the run with as many grants.
    have stepped := (startStepping_stepped began).of_times ran
    have outcome : stopped.thread.outcome? =
        (program.restAt heap config count (.brief [])).outcome? := by
      rw [stepped.outcome?, ← Program.paced_eq]
      rfl
    rw [fault?_eq_some_iff, outcome, Program.failed_iff]

/-- A program that divides by zero after a call in the same expression. -/
def dividingAfterCall : Program where
  functions := [{
    name := "main"
    result := .int
    parameters := []
    body := [.expression
      (.binary (.arithmetic .div) (.call "one" []) (.int 0)) (.startOfLine 1)] }, {
    name := "one"
    result := .int
    parameters := []
    body := [.ret (some (.int 1)) (.startOfLine 9)] }]

/-- The fault of that program is laid to the statement that divides, while the one that was entered
last is in the function that it calls. -/
theorem faults_are_located_after_a_call :
    ∃ machine heap blocked last,
      create dividingAfterCall { heapSize := 64 } (fun _ => true) = .ok machine ∧
      runAll 5 machine = .ok () blocked ∧ blocked.view.location = some (.startOfLine 9) ∧
      dividingAfterCall.traced heap { heapSize := 64 } 5 .off =
        .error ⟨.fault (.divisionByZero (.binary .div)), some (.startOfLine 1)⟩ last := by
  let heap : Heap := { Heap.empty with unit := 8, units := 8, unit_pos := by decide }
  have created : create dividingAfterCall { heapSize := 64 } (fun _ => true) =
    .ok { thread := dividingAfterCall.thread heap { heapSize := 64 } fun _ => true } := rfl
  obtain ⟨same, made, blocking, -⟩ := faults_are_located created
  -- The heap that the machine was made with is this one.
  have fresh : Heap.create 64 8 = .ok heap := rfl
  rw [fresh] at made
  cases made
  have ran := @runAll_run dividingAfterCall heap { heapSize := 64 } (fun _ => true) 5
  -- The run is computed once, and the theorem says where its fault is laid.
  rw [if_pos (by decide)] at ran
  obtain ⟨last, laid⟩ := (blocking 5 _ ran
    ⟨.divisionByZero (.binary .div), some (.startOfLine 1)⟩).mp (by decide +kernel)
  exact ⟨_, heap, _, last, created, ran, by decide +kernel, laid⟩

end Machine

end StepMachine
