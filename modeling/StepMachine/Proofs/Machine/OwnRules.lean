import StepMachine.Proofs.Eval.EarlyReturn
import StepMachine.Proofs.Eval.Ordinary
import StepMachine.Proofs.Machine.Faults

/-! A machine keeps its own rules: no program makes it close a scope or leave an activation that is
not there, return twice from one activation, or ask for no bytes at all. Only a block or a return
outside of all functions finds no activation. -/

namespace StepMachine

/-- A statement has a block or a return in it that is not inside of another block. -/
inductive Stmt.Exposes : Stmt → Stmt → Prop where
  | block (body : List Stmt) (location : Location) :
    Exposes (.block body location) (.block body location)
  | ret (value : Option Expr) (location : Location) :
    Exposes (.ret value location) (.ret value location)
  | yes {yes inner : Stmt} (condition : Expr) (no : Option Stmt) (location : Location) :
    Exposes yes inner → Exposes (.branch condition yes no location) inner
  | no {no inner : Stmt} (condition : Expr) (yes : Stmt) (location : Location) :
    Exposes no inner → Exposes (.branch condition yes (some no) location) inner
  | body {body inner : Stmt} (condition : Expr) (location : Location) :
    Exposes body inner → Exposes (.loop condition body location) inner

namespace Exec

open Effect (evaluation execution)

/-- From a state of this kind on, a computation breaks off in ordinary ways; or there is no
activation, and it breaks off for that at one of these statements. -/
def Breaks (kind : Context → Prop) (places : Stmt → Prop) (run : Exec α) : Prop :=
  ∀ context, kind context → ∀ reason last, run context = .error reason last →
    reason.ordinary = true ∨ context.stack.frames = [] ∧
      reason = .fault (.stack .noActiveFrame) ∧
      ∃ inner, places inner ∧ last.location = some inner.location

/-- The statement at a location is under way, in no function that has returned. -/
def At (location : Location) (context : Context) : Prop :=
  context.hasReturned = false ∧ context.location = some location

namespace Breaks

variable {kind : Context → Prop} {places : Stmt → Prop}

/-- What breaks off in ordinary ways only does so from every state. -/
theorem of_ordinary {run : Exec α} (ordinary : Ordinary run) : Breaks kind places run :=
  fun context _ reason last ran => .inl (ordinary context reason last ran)

/-- There may be more statements to break off at. -/
theorem mono {others : Stmt → Prop} {run : Exec α} (breaks : Breaks kind places run)
    (more : ∀ inner, places inner → others inner) : Breaks kind others run := by
  intro context holds reason last ran
  -- Whatever it broke off at before is still one of the statements.
  rcases breaks context holds reason last ran with ordinary | ⟨none, cause, inner, place, located⟩
  · exact .inl ordinary
  · exact .inr ⟨none, cause, inner, more inner place, located⟩

/-- The second part of a sequence starts with an activation just if the first one does. -/
theorem bind {later : Context → Prop} {run : Exec α} {next : α → Exec β}
    (first : Breaks kind places run) (obeys : Obeys execution run)
    (stays : ∀ context result last, kind context → run context = .ok result last → later last)
    (rest : ∀ result, Breaks later places (next result)) : Breaks kind places (run >>= next) := by
  intro context holds reason last ran
  -- The second part is reached only when the first succeeds, and then as many activations are there
  -- as before.
  rw [bind_run] at ran
  have obeys := obeys context
  cases began : run context with
  | error other middle =>
    rw [began] at ran
    cases ran
    exact first context holds reason last began
  | ok result middle =>
    rw [began] at ran obeys
    have length := obeys.1.frames.length
    rcases rest result middle (stays context result middle holds began) reason last ran with
      ordinary | ⟨none, further⟩
    · exact .inl ordinary
    · rw [none] at length
      exact .inr ⟨List.length_eq_zero_iff.mp length.symm, further⟩

/-- An expression stays at the statement that it belongs to. -/
theorem behind {location : Location} {run : Exec α} {next : α → Exec β}
    (ordinary : Ordinary run) (obeys : Obeys evaluation run)
    (rest : ∀ result, Breaks (At location) places (next result)) :
    Breaks (At location) places (run >>= next) := by
  -- While its expression is evaluated, a statement stays the one under way, and its function has
  -- not returned.
  refine bind (of_ordinary ordinary) (confined_of_undisturbed obeys) ?_ rest
  rintro context result last ⟨running, located⟩ ran
  have obeys := obeys context
  rw [ran] at obeys
  unfold At Context.hasReturned Context.location
  rw [obeys.1.stack, obeys.2]
  exact ⟨running, located⟩

/-- What a list of statements or a statement does may be done in any state. -/
theorem weaken {run : Exec α} (breaks : Breaks (fun _ => True) places run) :
    Breaks kind places run :=
  fun context _ => breaks context trivial

/-- What comes after a statement is done in any state as well. -/
theorem seq {run : Exec α} {next : α → Exec β} (first : Breaks (fun _ => True) places run)
    (obeys : Obeys execution run) (rest : ∀ result, Breaks (fun _ => True) places (next result)) :
    Breaks (fun _ => True) places (run >>= next) :=
  bind first obeys (fun _ _ _ _ _ => trivial) rest

/-- A statement runs its effect where it is under way itself. -/
theorem statement (location : Location) {effect : Exec Unit}
    (breaks : Breaks (At location) places effect) :
    Breaks (fun _ => True) places (statement location effect) := by
  intro context _ reason last ran
  rw [statement_run] at ran
  -- A statement of a function that has returned is skipped, so only the other case can break off.
  cases returned : context.hasReturned with
  | true => simp [returned] at ran
  | false =>
    simp only [returned, Bool.false_eq_true, if_false] at ran
    cases began : (enter location >>= fun _ => effect)
        { context with active := location :: context.active } with
    | ok _ middle =>
      simp only [began] at ran
      cases ran
    | error other middle =>
      simp only [began] at ran
      cases ran
      -- Dropping the temporary objects changes neither the reason nor the statement under way.
      show reason.ordinary = true ∨ context.stack.frames = [] ∧ _ ∧
        ∃ inner, places inner ∧ middle.location = some inner.location
      let begun : Context := { context with active := location :: context.active }
      have began : (enter location >>= fun _ => effect) begun = .error reason middle := began
      rw [bind_run] at began
      cases grants : begun.grants with
      | zero =>
        rw [enter_without grants] at began
        cases began
        exact .inl rfl
      | succ left =>
        rw [enter_with grants] at began
        exact breaks (begun.entered location left) ⟨returned, rfl⟩ reason middle began

/-- A block opens and closes where there is an activation, and is a place to break off where there
is none. -/
theorem inBlock {location : Location} {body : Exec Unit} {others : Stmt → Prop}
    (breaks : Breaks (fun _ => True) others body) (obeys : Obeys execution body)
    {inner : Stmt} (here : inner.location = location) (place : places inner) :
    Breaks (At location) places (inBlock body) := by
  rintro context ⟨-, located⟩ reason last ran
  rw [inBlock_run, pushScope_run] at ran
  -- Only without an activation can no scope be opened, and then the block itself is to blame.
  cases frames : context.stack.frames with
  | nil =>
    simp only [frames] at ran
    cases ran
    exact .inr ⟨rfl, rfl, inner, place, located.trans (congrArg some here.symm)⟩
  | cons frame callers =>
    let opened : Context := { context with
      stack := { context.stack with frames := frame.pushScope :: callers } }
    have obeys := obeys opened
    have ran : tryFinally body popScope opened = .error reason last := by
      rw [frames] at ran
      exact ran
    rw [tryFinally_run] at ran
    -- However the body ends, the block is there to be closed.
    cases began : body opened with
    | ok _ middle =>
      rw [began] at obeys ran
      obtain ⟨left, closed, -⟩ := popScope_closes frames obeys.1
      simp only [closed] at ran
      cases ran
    | error other middle =>
      rw [began] at obeys ran
      obtain ⟨left, closed, -⟩ := popScope_closes frames obeys.1
      simp only [closed] at ran
      cases ran
      rcases breaks opened trivial reason middle began with ordinary | ⟨none, -⟩
      · exact .inl ordinary
      · cases none

/-- The first return of an activation is recorded, and one without an activation is a place to break
off. -/
theorem markReturned {location : Location} (value : Value) {inner : Stmt}
    (here : inner.location = location) (place : places inner) :
    Breaks (At location) places (markReturned value) := by
  rintro context ⟨running, located⟩ reason last ran
  rw [markReturned_run] at ran
  -- Without an activation there is nothing to mark; with one, it is not marked yet.
  cases frames : context.stack.frames with
  | nil =>
    simp only [frames] at ran
    cases ran
    exact .inr ⟨rfl, rfl, inner, place, located.trans (congrArg some here.symm)⟩
  | cons frame callers =>
    have unreturned : frame.hasReturned = false := by
      simpa [Context.hasReturned, CallStack.current?, frames] using running
    simp only [frames, unreturned, Bool.false_eq_true, if_false] at ran
    cases ran

/-- Repetition adds no way to break off to those of its test and its body. -/
theorem loop {test : Exec Bool} {body : Exec Unit} (tests : Ordinary test)
    (undisturbed : Obeys evaluation test) (breaks : Breaks (fun _ => True) places body)
    (obeys : Obeys execution body) : Breaks (fun _ => True) places (loop test body) := by
  have confined := confined_of_undisturbed undisturbed
  have rounds (turns : Nat) : Breaks (fun _ => True) places (repeatWhile test body turns) := by
    -- Each turn is a test and, if it holds, the body in front of the turns that are left.
    induction turns with
    | zero => exact of_ordinary (.bind .get fun _ => .throw rfl)
    | succ turns ih =>
      refine seq (of_ordinary .get) Obeys.get fun context => ?_
      split
      · exact of_ordinary (.pure ())
      · refine seq (of_ordinary tests) confined fun proceed => ?_
        split
        · exact seq breaks obeys fun _ => ih
        · exact of_ordinary (.pure ())
  exact seq (of_ordinary .get) Obeys.get fun context => rounds _

end Breaks

section Statements

variable {invoke : Invoke}
  (ordinary : ∀ function arguments buffer, Ordinary (invoke function arguments buffer))
  (calls : ∀ function arguments buffer, Obeys evaluation (invoke function arguments buffer))

include ordinary calls

/-- Every statement breaks off in ordinary ways, or where no function is active at a block or a
return that it exposes; and so does every list of statements. -/
theorem breaks_statements :
    (∀ statement : Stmt, Breaks (fun _ => True) statement.Exposes (statement.exec invoke)) ∧
      ∀ list, Breaks (fun _ => True) (fun inner => ∃ statement ∈ list, statement.Exposes inner)
        (Stmt.execAll invoke list) := by
  obtain ⟨values, -, -⟩ := Ordinary.expressions ordinary
  obtain ⟨undisturbed, -, -⟩ := evaluates_undisturbed.expressions calls
  have tests (condition : Expr) : Obeys evaluation (test invoke condition) :=
    Obeys.bind (undisturbed condition) fun value => Obeys.lift value.isTruthy
  have conditions (condition : Expr) : Ordinary (test invoke condition) :=
    Ordinary.test ordinary condition
  obtain ⟨effects, lists⟩ := executes_confined.statements calls
  have confined (statement : Stmt) : Obeys execution (statement.exec invoke) := by
    obtain ⟨effect, same, obeys⟩ := effects statement
    rw [same]
    exact statement_confined statement.location obeys
  -- The induction follows execution, with one case for each kind of statement.
  apply Stmt.exec.mutual_induct
  -- A declaration evaluates its initial value, if there is one, and binds an object.
  case case1 =>
    intro name type init location
    cases init with
    | none =>
      rw [Stmt.exec]
      exact .statement location (.of_ordinary (.discard (Ordinary.declare name type none)))
    | some value =>
      rw [Stmt.exec]
      exact .statement location (.of_ordinary (.bind (values value) fun value =>
        .discard (Ordinary.declare name type (some value))))
  -- An expression statement breaks off only as its expression does.
  case case2 =>
    intro value location
    rw [Stmt.exec]
    exact .statement location (.of_ordinary (.discard (values value)))
  -- A block is itself such a place, whatever its body exposes.
  case case3 =>
    intro body location inside
    rw [Stmt.exec]
    exact .statement location (.inBlock inside (lists body) rfl (.block body location))
  -- What a branch exposes is exposed by one of its arms.
  case case4 =>
    intro condition yes no location left right
    have taken : Breaks (fun _ => True) (Stmt.Exposes (.branch condition yes no location))
        (yes.exec invoke) := left.mono fun inner => .yes condition no location
    cases no with
    | none =>
      rw [Stmt.exec]
      refine .statement location (.behind (conditions condition) (tests condition) fun truth => ?_)
      cases truth with
      | true => exact taken.weaken
      | false => exact .of_ordinary (.pure ())
    | some no =>
      rw [Stmt.exec]
      refine .statement location (.behind (conditions condition) (tests condition) fun truth => ?_)
      cases truth with
      | true => exact taken.weaken
      | false => exact (right.mono fun inner => .no condition yes location).weaken
  -- The test of a loop is an expression, and its body exposes what the loop does.
  case case5 =>
    intro condition body location inside
    rw [Stmt.exec]
    have loops := Breaks.loop (Ordinary.alone (conditions condition))
      (alone_undisturbed (tests condition)) inside (confined body)
    exact .statement location (loops.mono fun inner => .body condition location).weaken
  -- A return is such a place, but first its value is evaluated and handed over.
  case case6 =>
    intro value location
    cases value with
    | none =>
      rw [Stmt.exec]
      exact .statement location (.markReturned .void rfl (.ret none location))
    | some value =>
      rw [Stmt.exec]
      exact .statement location (.behind (values value) (undisturbed value) fun result =>
        .behind (Ordinary.handOver result) (handOver_undisturbed result) fun result =>
          .markReturned result rfl (.ret (some value) location))
  case case7 =>
    rw [Stmt.execAll]
    exact .of_ordinary (.pure ())
  -- A list exposes what its first statement does, and what the rest does.
  case case8 =>
    intro statement rest first all
    rw [Stmt.execAll]
    refine .seq (first.mono fun inner exposed => ⟨statement, List.mem_cons_self, exposed⟩)
      (confined statement) fun _ => all.mono ?_
    rintro inner ⟨other, member, exposed⟩
    exact ⟨other, List.mem_cons_of_mem statement member, exposed⟩

end Statements

/-- An activation around a body breaks off in ordinary ways, since the body is in it and leaves it
there to be left. -/
theorem activation_ordinary (function : String) (buffer : Option Block) {body : Exec Unit}
    {places : Stmt → Prop} (breaks : Breaks (fun _ => True) places body)
    (obeys : Obeys execution body) : Ordinary (activation function buffer body) := by
  intro context reason last ran
  rw [activation_run] at ran
  cases entered : pushFrame function buffer context with
  | error other middle =>
    rw [entered] at ran
    cases ran
    -- Entering fails for nothing but a lack of room.
    rw [pushFrame_run] at entered
    cases left : context.stack.room with
    | zero =>
      rw [left] at entered
      cases entered
      rfl
    | succ room =>
      rw [left] at entered
      cases entered
  | ok _ opened =>
    have obeys := obeys opened
    rw [entered] at ran
    obtain ⟨room, left, rfl⟩ := pushFrame_eq_ok entered
    -- However the body ends, the activation is there to be left.
    cases began : body _ with
    | ok _ middle =>
      rw [began] at obeys
      obtain ⟨changed, after, closed, -⟩ := popFrame_closes left obeys.1
      simp only [began, closed] at ran
      cases ran
    | error other middle =>
      rw [began] at obeys
      obtain ⟨changed, after, closed, -⟩ := popFrame_closes left obeys.1
      simp only [began, closed] at ran
      cases ran
      rcases breaks _ trivial reason middle began with ordinary | ⟨none, -⟩
      · exact ordinary
      · cases none

/-- Calls break off in ordinary ways, however many more of them fit on the stack. -/
theorem invoke_ordinary (room : Nat) (function : Function) (arguments : List Value)
    (buffer : Option Block) : Ordinary (Function.invoke room function arguments buffer) := by
  -- The body of a function calls others with one place less, so the induction is on the room.
  induction room generalizing function arguments buffer with
  | zero =>
    rw [Function.invoke]
    exact .bind (Ordinary.checkCount function arguments) fun _ => .bind .get fun _ =>
      Ordinary.fail rfl
  | succ room ih =>
    have calls := executes_confined.invoke room
    obtain ⟨-, bodies⟩ := breaks_statements ih calls
    have binds := executes_confined.bindAll function.parameters arguments
    have body := Breaks.seq (.of_ordinary (Ordinary.bindAll function.parameters arguments)) binds
      fun _ => bodies function.body
    have obeys := Obeys.bind binds fun _ => (executes_confined.statements calls).2 function.body
    rw [Function.invoke]
    refine .bind (Ordinary.checkCount function arguments) fun _ =>
      .bind (activation_ordinary function.name buffer body obeys) fun frame => ?_
    -- What the function returned is coerced to its declared type, unless there is nothing to
    -- coerce.
    cases frame.result with
    | void => exact .pure _
    | int _ | char _ | pointer _ | struct _ _ => exact Ordinary.lift (Value.coerce_ordinary ..)

/-- The depth that is left decides how calls are run, and they break off in ordinary ways from any
depth on. -/
theorem invoked_ordinary {next : Invoke → Exec α}
    (rest : ∀ room, Ordinary (next (Function.invoke room))) : Ordinary (invoker >>= next) :=
  fun context reason last ran => rest context.stack.room context reason last ran

/-- Calling a function by name breaks off in ordinary ways. -/
theorem call_ordinary (function : String) (arguments : List Value) :
    Ordinary (call function arguments) := by
  refine .bind (Ordinary.resolve function) fun callee => invoked_ordinary fun room => ?_
  -- Only a function of the program takes a place on the stack.
  cases callee with
  | function f => exact invoke_ordinary room f arguments none
  | builtin b => exact Ordinary.builtin b arguments

/-- What keeps the program. -/
def sameProgram : Effect :=
  .steady (fun before after => after.program = before.program) (fun _ => rfl)
    fun one two => two.trans one

/-- Laying out the literals keeps the program. -/
theorem loadStrings_program : Obeys sameProgram loadStrings := by
  -- Edits of the heap, and what the literals are entered in, leave the program alone.
  have edits {α : Type} (change : Edit RuntimeError α) : Obeys sameProgram.whole (edit change) :=
    Obeys.edit (fun _ _ => rfl) change
  have loads (literal : String) : Obeys sameProgram.whole (loadString literal) :=
    Obeys.bind (edits _) fun block => Obeys.bind
      (Obeys.tryCatch (Obeys.bind (edits _) fun _ => edits _) fun reason =>
        Obeys.bind (edits _) fun _ => Obeys.throw reason)
      fun _ => Obeys.modify fun _ => rfl
  have each (literals : List String) : Obeys sameProgram (literals.forM loadString) := by
    induction literals with
    | nil => exact Obeys.pure ()
    | cons literal literals ih => exact Obeys.bind (loads literal) fun _ => ih
  exact Obeys.bind Obeys.get fun context => each context.program.strings.toList

/-- A whole program breaks off in ordinary ways, or at a block or a return that a global statement
exposes. -/
theorem breaks_runProgram (entryPoint : String) (program : Program) :
    Breaks (fun context => context.program = program)
      (fun inner => ∃ statement ∈ program.globals, statement.Exposes inner)
      (runProgram entryPoint) := by
  have literals (list : List String) : Ordinary (list.forM loadString) := by
    induction list with
    | nil => exact .pure _
    | cons literal list ih => exact .bind (Ordinary.loadString literal) fun _ => ih
  have loads : Ordinary loadStrings := .bind .get fun context => literals _
  -- The program that starts is the one whose globals are meant.
  have stays (context : Context) (result : Unit) (last : Context)
      (same : context.program = program) (ran : loadStrings context = .ok result last) :
      last.program = program := by
    have kept := loadStrings_program context
    rw [ran] at kept
    exact kept.trans same
  refine .bind (.of_ordinary loads) executes_confined.loadStrings stays fun _ => ?_
  rintro context rfl reason last ran
  simp only [bind_run, get_run] at ran
  -- Without an entry point the program fails in an ordinary way, before its globals run.
  cases found : context.program.function? entryPoint with
  | none =>
    rw [found] at ran
    cases ran
    exact .inl rfl
  | some entry =>
    rw [found] at ran
    -- The global statements run before the entry point is called, at the same depth.
    have calls := executes_confined.invoke context.stack.room
    have ordinary := invoke_ordinary context.stack.room
    have whole := Breaks.seq ((breaks_statements ordinary calls).2 context.program.globals)
      ((executes_confined.statements calls).2 context.program.globals) fun _ =>
      Breaks.of_ordinary (.bind (ordinary entry [] none) fun value => .pure value.exitStatus)
    exact whole context trivial reason last ran

end Exec

/-- A rule of the machine itself would be broken. -/
def RuntimeError.internal : RuntimeError → Bool
  | .stack .underflow | .stack .alreadyReturned | .memory .zeroSizedAllocation
  | .memory (.invalidGeometry _ _) => true
  | _ => false

/-- What is ordinary breaks no rule of the machine and does not look for an activation in vain. -/
theorem RuntimeError.ordinary_iff (error : RuntimeError) :
    error.ordinary = true ↔ error.internal = false ∧ error ≠ .stack .noActiveFrame := by
  -- Only the errors of the heap and of the stack have cases on either side.
  cases error with
  | memory cause => cases cause <;> simp [ordinary, MemoryError.ordinary, internal]
  | stack cause => cases cause <;> simp [ordinary, StackError.ordinary, internal]
  | _ => simp [ordinary, internal]

/-- A fault that no rule of the machine was broken for; and if an activation was missing, it is laid
to a block or a return that a global statement exposes. -/
structure Fault.KeepsRules (program : Program) (fault : Fault) : Prop where
  kept : fault.error.internal = false
  outside : fault.error = .stack .noActiveFrame →
    ∃ statement ∈ program.globals, ∃ inner, statement.Exposes inner ∧
      fault.location = some inner.location

namespace Program

variable {program : Program} {heap : Heap} {config : Config}

/-- However far a program goes, its fault keeps the rules. -/
theorem restAt_keepsRules {grants : Nat} {journal : Journal} {fault : Fault}
    (failed : (program.restAt heap config grants journal).outcome? = some (.failed fault)) :
    fault.KeepsRules program := by
  unfold restAt at failed
  -- A run that has ended in a fault is one whose computation broke off.
  cases ran : program.course heap config grants journal with
  | ok status last =>
    rw [ran] at failed
    cases failed
  | error reason last =>
    rw [ran] at failed
    cases reason with
    | suspended view => cases failed
    | fault cause =>
      cases failed
      rcases Exec.breaks_runProgram config.entryPoint program _ rfl _ last ran with
        ordinary | ⟨-, same, inner, ⟨statement, member, exposed⟩, located⟩
      · -- In an ordinary way no activation was missing.
        obtain ⟨kept, other⟩ := cause.ordinary_iff.mp ordinary
        exact ⟨kept, fun same => absurd same other⟩
      · cases same
        exact ⟨rfl, fun _ => ⟨statement, member, inner, exposed, located⟩⟩

end Program

namespace Machine

/-- No program makes a machine break its own rules, with any settings that a machine can be made
with. Whether it is run at once or stepped, no run ends because a scope or an activation was closed
that was not there, because an activation was to return twice, or because memory was asked for no
bytes or laid out in no way that it can be. That no function is active is found only at a block or a
return that a global statement exposes, and the fault is laid to it. Inside of a function no
statement finds that, and no expression, place or call does anywhere. -/
theorem programs_break_no_rules {program : Program} {config : Config} {spawns : Nat → Bool}
    {machine : Machine}
    (created : create program config spawns = .ok machine) :
    (∀ patience blocked, runAll patience machine = .ok () blocked →
      ∀ fault, blocked.fault? = some fault → fault.KeepsRules program) ∧
    (∀ started count stopped, startStepping machine = .ok () started →
      stepTimes count started = .ok () stopped →
      ∀ fault, stopped.fault? = some fault → fault.KeepsRules program) ∧
    (∀ context : Context, context.stack.frames ≠ [] → ∀ statement cause last,
      Exec.runStatement statement context = .error (.fault cause) last →
      cause.internal = false ∧ cause ≠ .stack .noActiveFrame) ∧
    (∀ (context : Context) expression cause last,
      Exec.evaluate expression context = .error (.fault cause) last →
      cause.internal = false ∧ cause ≠ .stack .noActiveFrame) ∧
    (∀ (context : Context) expression cause last,
      Exec.placeOf expression context = .error (.fault cause) last →
      cause.internal = false ∧ cause ≠ .stack .noActiveFrame) ∧
    (∀ (context : Context) function arguments cause last,
      Exec.call function arguments context = .error (.fault cause) last →
      cause.internal = false ∧ cause ≠ .stack .noActiveFrame) := by
  obtain ⟨heap, -, rfl⟩ := create_eq created
  have rules {α : Type} {run : Exec α} (ordinary : Exec.Ordinary run) {context last : Context}
      {cause : RuntimeError} (ran : run context = .error (.fault cause) last) :
      cause.internal = false ∧ cause ≠ .stack .noActiveFrame :=
    cause.ordinary_iff.mp (ordinary context _ last ran)
  have expressions (room : Nat) := Exec.Ordinary.expressions (Exec.invoke_ordinary room)
  refine ⟨fun patience blocked ran fault failed => ?_,
    fun started count stopped began ran fault failed => ?_,
    fun context active statement cause last ran => ?_,
    fun context expression cause last ran => ?_, fun context expression cause last ran => ?_,
    fun context function arguments cause last ran => rules (Exec.call_ordinary _ _) ran⟩
  · -- A program that is run at once has the outcome of its free run.
    obtain ⟨-, -, thread⟩ := runAll_ok ran
    have outcome : blocked.thread.outcome? =
        (program.restAt heap config patience .off).outcome? := by
      rw [thread, ← Program.free_eq]
      rfl
    rw [fault?_eq_some_iff, outcome] at failed
    exact Program.restAt_keepsRules failed
  · -- One that is stepped has the outcome of the run with as many grants.
    have stepped := (startStepping_stepped began).of_times ran
    have outcome : stopped.thread.outcome? =
        (program.restAt heap config count (.brief [])).outcome? := by
      rw [stepped.outcome?, ← Program.paced_eq]
      rfl
    rw [fault?_eq_some_iff, outcome] at failed
    exact Program.restAt_keepsRules failed
  · -- Where a function is active, there is an activation to be found.
    have breaks := (Exec.breaks_statements (Exec.invoke_ordinary context.stack.room)
      (Exec.executes_confined.invoke context.stack.room)).1 statement
    rcases breaks context trivial _ last ran with ordinary | ⟨none, -⟩
    · exact cause.ordinary_iff.mp ordinary
    · exact absurd none active
  · exact rules (Exec.invoked_ordinary fun room => (expressions room).1 expression) ran
  · exact rules (Exec.invoked_ordinary fun room => (expressions room).2.2 expression) ran

/-- A program with a return outside of all functions, in a branch. -/
def returningOutside : Program where
  globals := [.branch (.int 1) (.ret none (.startOfLine 2)) none (.startOfLine 1)]
  functions := [{ name := "main", result := .int, parameters := [], body := [] }]

/-- That program finds no activation, and the fault is laid to the return that its global statement
exposes. -/
theorem programs_break_no_rules_returning_outside :
    ∃ machine blocked fault,
      create returningOutside { heapSize := 64 } (fun _ => true) = .ok machine ∧
      runAll 5 machine = .ok () blocked ∧ blocked.fault? = some fault ∧
      fault.error = .stack .noActiveFrame ∧ fault.KeepsRules returningOutside := by
  let heap : Heap := { Heap.empty with unit := 8, units := 8, unit_pos := by decide }
  have created : create returningOutside { heapSize := 64 } (fun _ => true) =
    .ok { thread := returningOutside.thread heap { heapSize := 64 } fun _ => true } := rfl
  have ran := @runAll_run returningOutside heap { heapSize := 64 } (fun _ => true) 5
  -- The machine fails at the return inside of the branch, which the theorem has to allow.
  rw [if_pos (by decide)] at ran
  obtain ⟨blocking, -⟩ := programs_break_no_rules created
  refine ⟨_, _, ⟨.stack .noActiveFrame, some (.startOfLine 2)⟩, created, ran, ?_, rfl,
    blocking 5 _ ran _ ?_⟩
  all_goals decide +kernel

end Machine

end StepMachine
